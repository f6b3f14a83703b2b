import CommandBot.Invocation
import CommandBot.Json.Basic
import CommandBot.Registry

/-!
# Variables

Variables come in families: a placeholder's path names the family, and its key or its word of the
message names the variable. The standard families tell about the invoker, a user named in the
message, the command and the message.
-/

namespace CommandBot

/-- Looks up a variable in a context; it may have no value. -/
abbrev Family := Text → Context → Option Json

namespace Family

/-- The invoker: `id`, `mention` and `level`. -/
def source : Family := fun key ctx =>
  if key = "id".toList then some (.string ctx.invocation.user.print)
  else if key = "mention".toList then some (.string ctx.invocation.user.mention)
  else if key = "level".toList then some (.number (.int ctx.invocation.level))
  else none

/-- The user named by the word of the message that the placeholder's number points to: `id` and
`mention`. -/
def user : Family := fun key ctx => do
  let target ← Snowflake.ofTarget? (← ctx.argument)
  if key = "id".toList then some (.string target.print)
  else if key = "mention".toList then some (.string target.mention)
  else none

/-- The command: its `trigger`. -/
def command : Family := fun key ctx =>
  if key = "trigger".toList then some (.string ctx.invocation.trigger) else none

/-- The text after the trigger: `text`, empty if there is none. -/
def message : Family := fun key ctx =>
  if key = "text".toList then some (.string (ctx.invocation.message.getD [])) else none

/-- The families by path. -/
def standard : Registry Family := .ofList
  [("source".toList, source), ("user".toList, user), ("command".toList, command),
   ("message".toList, message)]

end Family

end CommandBot
