import CommandBot.AccessLevel

/-!
# Invocations

An invocation is one use of a command: who invoked it, where, under which word and with which
remaining text.
-/

namespace CommandBot

/-- One use of a command. -/
structure Invocation where
  user : Snowflake
  channel : Snowflake
  /-- The text after the trigger; none if nothing followed it. -/
  message : Option Text
  /-- Whether the command came as a private message. -/
  whisper : Bool
  /-- The word that the command was invoked by. -/
  trigger : Text
  /-- The level of the user. -/
  level : Level
  deriving DecidableEq

/-- What a variable sees while a template is filled in: the invocation, and the word of the message
that the latest placeholder with both a key and a number named. -/
structure Context where
  invocation : Invocation
  argument : Option Text
  deriving DecidableEq

/-- The context at the start of an invocation. -/
def Context.ofInvocation (i : Invocation) : Context := ⟨i, none⟩

end CommandBot
