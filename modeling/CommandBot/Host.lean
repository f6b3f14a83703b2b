import CommandBot.Fetch.Web
import CommandBot.Filter.Basic
import CommandBot.Invocation

/-!
# Hosts and outcomes

An action asks its host for effects: messages, bans, and messages that wait for fetches. Running
one yields the effects in order and whether it acted, or the error of its callback.
-/

namespace CommandBot

/-- Where a message goes. -/
inductive Destination where
  | channel (id : Snowflake)
  | privately (user : Snowflake)
  deriving Repr, DecidableEq

/-- A message that waits for its fetches. -/
structure PendingMessage where
  destination : Destination
  /-- The text, filled in up to its fetch placeholders. -/
  text : Text
  /-- The number of fetch placeholders that the text may have. -/
  ceiling : Nat
  deriving Repr, DecidableEq

/-- Something that an action has its host do. -/
inductive Event where
  | say (channel : Snowflake) (text : Text)
  | whisper (user : Snowflake) (text : Text)
  | schedule (message : PendingMessage)
  | ban (user : Snowflake) (reason : Option Text)
  | unban (user : Snowflake) (reason : Option Text)
  deriving Repr, DecidableEq

/-- What an action knows of its host: its filters, and which messages it accepts. -/
structure Host where
  filter : FilterCaller
  accepts : Destination → Text → Bool

/-- Why a callback fails. -/
structure CallbackError where
  message : String
  deriving Repr, DecidableEq

/-- The effects of a run, and whether it acted. -/
structure Outcome where
  events : List Event
  result : Except CallbackError Bool

/-- The outcome of a run that did nothing. -/
def Outcome.nothing : Outcome := ⟨[], .ok false⟩

/-- The event by which a text is sent. -/
def Destination.event : Destination → Text → Event
  | .channel id, t => .say id t
  | .privately user, t => .whisper user t

/-- Sends a text at once; the run acted if the host accepts it. -/
def Destination.send (d : Destination) (host : Host) (t : Text) : Outcome :=
  ⟨[d.event t], .ok (host.accepts d t)⟩

/-- Resolves the fetches of a waiting message and sends it: the fetches started, and the outcome. A
failure drops the message. -/
def PendingMessage.execute (m : PendingMessage) (web : Web) (host : Host) :
    List Attempt × Outcome :=
  let (attempts, resolved) := Fetch.resolve web m.text m.ceiling
  (attempts, match resolved with
    | .ok t => m.destination.send host t
    | .error _ => .nothing)

end CommandBot
