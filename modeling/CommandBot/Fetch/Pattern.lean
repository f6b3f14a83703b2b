import CommandBot.Text.Blank
import CommandBot.Text.Scan

/-!
# Fetch placeholders

A fetch placeholder `$(urlfetch URL)` stands for the body found at the URL. Two readings of it
exist. Detection is generous: it takes whatever stands between the opening and the next closing
parenthesis, and only counts. Resolution is strict: it admits the characters of a URL alone, runs
as far as they go, and ends at the last closing parenthesis among them.
-/

namespace CommandBot.Fetch

/-- What a fetch placeholder starts with. -/
def opening : Text := "$(urlfetch ".toList

/-- Reads the body of a fetch placeholder as detection sees it: one character or more on one line,
up to the first closing parenthesis after the first of them. -/
def detect : Text.Matcher Text := fun t =>
  match t.after? opening with
  | none | some [] => none
  | some (first :: r) =>
    if first == '\n' then none
    else match r.dropWhile fun c => c != ')' && c != '\n' with
      | ')' :: rest => some (first :: r.takeWhile fun c => c != ')' && c != '\n', rest)
      | _ => none

/-- The number of fetch placeholders in a text, as detection sees them. -/
def count (t : Text) : Nat := (Text.occurrences detect t).length

/-- The characters of a URL. -/
def isUrlChar (c : Char) : Bool :=
  c.isAlphanum || "-._~:/?#[]@!$%&'()*+,;=".toList.contains c

/-- A run of URL characters up to the last closing parenthesis in it. -/
def upToLastParenthesis? (run : Text) : Option Text :=
  match run.reverse.dropWhile (· != ')') with
  | [] => none
  | _ :: r => Text.nonEmpty? r.reverse

/-- Reads the URL of a fetch placeholder as resolution sees it. -/
def resolvable : Text.Matcher Text := fun t =>
  match t.after? opening with
  | none => none
  | some r =>
    (upToLastParenthesis? (r.takeWhile isUrlChar)).map fun url => (url, r.drop (url.length + 1))

/-- A fetch placeholder to resolve. -/
structure Target where
  needle : Text
  url : Text
  deriving Repr, DecidableEq

/-- The fetch placeholders to resolve in a text, in order, each needle once. -/
def targets (t : Text) : List Target :=
  ((Text.occurrences resolvable t).map fun (needle, url) => ⟨needle, url⟩).eraseDups

/-- The number of characters kept of a fetched body. -/
def maxBodyLength : Nat := 400

/-- A fetched body on one line: trimmed, without line breaks, and cut to a fixed length. -/
def cleanBody (body : Text) : Text :=
  (body.trim.filter fun c => c != '\n' && c != '\r').take maxBodyLength

end CommandBot.Fetch
