import CommandBot.Host
import CommandBot.Settings
import CommandBot.Text.Markdown

/-!
# The chat platform

The events of a run become requests to the chat platform and to the web. The platform takes messages
and reasons up to a length; a longer one is never requested. Private messages go to a channel that
has to be opened first, and are escaped so that they appear literally.
-/

namespace CommandBot

/-- A request to the chat platform or to the web. -/
inductive Request where
  | member (guild user : Snowflake)
  | message (channel : Snowflake) (content : Text)
  | openPrivate (user : Snowflake)
  | ban (guild user : Snowflake) (reason : Option Text)
  | unban (guild user : Snowflake) (reason : Option Text)
  | fetch (url : Text) (headers : Fetch.Headers)
  deriving Repr, DecidableEq

/-- What requests come to: those to the web, the roles of a guild's member, and the private channel
of a user. Where there is no answer the request failed. -/
structure World where
  web : Web
  member? : Snowflake → Option (List Snowflake)
  privateChannel? : Snowflake → Option Snowflake

namespace Platform

/-- The greatest length of a message. -/
def maxMessageLength : Nat := 2000

/-- The greatest length of the reason for a ban. -/
def maxReasonLength : Nat := 512

/-- The request to post a message, unless it is too long. -/
def post (channel : Snowflake) (content : Text) : List Request :=
  if content.length ≤ maxMessageLength then [.message channel content] else []

/-- The requests that send a text. -/
def send (world : World) : Destination → Text → List Request
  | .channel id, t => post id t
  | .privately user, t =>
    .openPrivate user :: match world.privateChannel? user with
      | some id => post id t.escapeMarkdown
      | none => []

/-- Whether a reason is short enough. -/
def isReason (reason : Option Text) : Bool :=
  reason.all fun t => t.length ≤ maxReasonLength

/-- The requests that the events of a run lead to at once. -/
def performNow (settings : Settings) (world : World) : Event → List Request
  | .say channel t => send world (.channel channel) t
  | .whisper user t => send world (.privately user) t
  | .ban user reason => if isReason reason then [.ban settings.guild user reason] else []
  | .unban user reason => if isReason reason then [.unban settings.guild user reason] else []
  | .schedule _ => []

/-- The host that the platform is for actions: it takes every message. -/
def host (filters : Registry Filter) : Host := ⟨filters.callFilter, fun _ _ => true⟩

/-- The requests that the fetches of a waiting message make. -/
def fetches (settings : Settings) (attempts : List Attempt) : List Request :=
  attempts.flatMap fun a => a.requests.map (.fetch · (.ofUserAgent settings.userAgent))

/-- The requests that an event leads to, those after its fetches included. -/
def perform (settings : Settings) (world : World) (filters : Registry Filter) :
    Event → List Request
  | .schedule message =>
    let (attempts, outcome) := message.execute world.web (host filters)
    fetches settings attempts ++ outcome.events.flatMap (performNow settings world)
  | event => performNow settings world event

end Platform

end CommandBot
