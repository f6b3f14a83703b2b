import CommandBot.Fetch.Pattern

/-!
# Fetching from the web

A fetch asks for a page with a fixed set of headers, and yields its text on one line and cut to
length. How the client writes URLs, connects, follows redirections, reads bytes and gives up is a
parameter. Resolving a text fetches its targets in order and puts each body in place of its
placeholder; a text with more fetch placeholders than allowed is refused before any request.
-/

namespace CommandBot

/-- The answer that a client arrives at, with the text of its body if that can be read. -/
structure WebResponse where
  status : Nat
  text? : Option Text

/-- What becomes of a request that goes out. -/
structure Visit where
  /-- The URLs that the client asks for after the first one, each where the last one sent it. -/
  redirections : List Text
  /-- The answer that no redirection follows; none if the client gives up. -/
  response? : Option WebResponse

/-- What becomes of a client's request for a URL; none if no request goes out. -/
abbrev Web := Text → Option Visit

/-- Why the fetches of a text fail. -/
inductive FetchError where
  | hijack (found ceiling : Nat)
  | request
  deriving Repr, DecidableEq

/-- The wording of a failure, if it has one. -/
def FetchError.message? : FetchError → Option String
  | .hijack found ceiling =>
    some s!"urlfetch hijack attempt: {found} fetches found, {ceiling} allowed"
  | .request => none

/-- A started fetch: its URL, and the URLs that are asked for in its course, in order. -/
structure Attempt where
  url : Text
  requests : List Text
  deriving Repr, DecidableEq

namespace Fetch

/-- The headers that every request of a client has. -/
structure Headers where
  accept : Text
  acceptLanguage : Text
  userAgent : Text
  deriving Repr, DecidableEq

/-- The headers of a client with a user agent. -/
def Headers.ofUserAgent (userAgent : Text) : Headers where
  accept := "text/plain".toList
  acceptLanguage := "en-US, en;q=0.9, *;q=0.5".toList
  userAgent := userAgent

/-- Whether a text can be the value of a header: it has no control characters other than tabs. -/
def isHeaderValue (t : Text) : Bool :=
  t.all fun c => (0x20 ≤ c.toNat && c.toNat != 0x7F) || c == '\t'

/-- Makes the headers of a client, unless the user agent cannot be sent. -/
def makeHeaders (userAgent : Text) : Except FetchError Headers :=
  if isHeaderValue userAgent then .ok (.ofUserAgent userAgent) else .error .request

/-- Whether a status is that of a failure, the client's or the server's. -/
def isFailure (status : Nat) : Bool := 400 ≤ status && status < 600

/-- The text of an answer that is no failure. -/
def read (response : WebResponse) : Except FetchError Text :=
  if isFailure response.status then .error .request
  else response.text?.elim (.error .request) .ok

/-- Fetches the body at a URL. -/
def fetch (web : Web) (url : Text) : Attempt × Except FetchError Text :=
  let visit? := web url
  (⟨url, visit?.elim [] fun visit => url :: visit.redirections⟩,
    ((visit?.bind Visit.response?).elim (.error .request) read).map cleanBody)

/-- Fetches targets in order up to the first failure, and puts each body in place of its needle. -/
def resolveTargets (web : Web) : List Target → Text → List Attempt × Except FetchError Text
  | [], t => ([], .ok t)
  | target :: targets, t =>
    match fetch web target.url with
    | (attempt, .error e) => ([attempt], .error e)
    | (attempt, .ok body) =>
      let (attempts, result) := resolveTargets web targets (t.replaceAll target.needle body)
      (attempt :: attempts, result)

/-- A text with its fetch placeholders resolved, and the fetches started for it. -/
def resolve (web : Web) (t : Text) (ceiling : Nat) : List Attempt × Except FetchError Text :=
  if ceiling < count t then ([], .error (.hijack (count t) ceiling))
  else resolveTargets web (targets t) t

end Fetch

end CommandBot
