import CommandBot.Host
import CommandBot.Registry

/-!
# Callbacks

A callback is an action in code rather than in text. The standard ones answer a ping, tell the
user's level, and ban and unban the user that the message names first.
-/

namespace CommandBot

/-- What a callback does with an invocation. -/
abbrev Callback := Host → Invocation → Outcome

namespace Callback

/-- Replies where the invocation came from: privately, or in its channel. -/
def reply (host : Host) (i : Invocation) (t : Text) : Outcome :=
  (if i.whisper then Destination.privately i.user else .channel i.channel).send host t

/-- Answers a ping. -/
def ping : Callback := fun host i => reply host i "Pong!".toList

/-- Tells users their level. -/
def level : Callback := fun host i =>
  reply host i (i.user.mention ++ ", your level is ".toList ++ Numeral.printInt i.level)

/-- How to use a command that takes a user and a reason. -/
def usage (i : Invocation) : Text :=
  "Usage: \x60".toList ++ i.trigger ++ " <user> [reason]\x60".toList

/-- The user that the first word of the message names, and the reason after it. -/
def target? (i : Invocation) : Option (Snowflake × Option Text) := do
  let (word, reason) ← (i.message.getD []).firstWord?
  return (← Snowflake.ofTarget? word, reason)

/-- An outcome with an event before its own. -/
def before (event : Event) (o : Outcome) : Outcome := { o with events := event :: o.events }

/-- Bans the named user, unless users name themselves. -/
def ban : Callback := fun host i =>
  match target? i with
  | none => reply host i (usage i)
  | some (user, reason) =>
    if user = i.user then reply host i "You cannot ban yourself.".toList
    else before (.ban user reason)
      (reply host i ("Ban requested for ".toList ++ user.mention ++ ['.']))

/-- Lifts the ban of the named user. -/
def unban : Callback := fun host i =>
  match target? i with
  | none => reply host i (usage i)
  | some (user, reason) => before (.unban user reason)
      (reply host i ("Unban requested for ".toList ++ user.mention ++ ['.']))

/-- The callbacks by name. -/
def standard : Registry Callback := .ofList
  [("ping".toList, ping), ("level".toList, level), ("ban".toList, ban), ("unban".toList, unban)]

end Callback

end CommandBot
