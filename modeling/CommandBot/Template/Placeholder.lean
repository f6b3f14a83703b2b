import CommandBot.Numeral.Integer
import CommandBot.Text.Scan
import CommandBot.Text.Word

/-!
# Named placeholders

A named placeholder is written `$(path;N:key|filter(argument),'one','two')`: a path, then in this
order a number, a key, filters and up to two quoted branches, all of which may be missing. The key
is literal text or one nested placeholder. This file holds the parts of a placeholder, its written
form and its reader.
-/

namespace CommandBot.Template

/-- The characters of a path. -/
def isPathChar (c : Char) : Bool := ('a' ≤ c && c ≤ 'z') || c == '_'

/-- The characters of a literal key. -/
def isKeyChar (c : Char) : Bool :=
  Text.isWordChar c || c == '.' || c == '/' || c == ' ' || c == '-'

/-- The characters inside the parentheses of a nested key. -/
def isNestedChar (c : Char) : Bool := isKeyChar c || c == ':' || c == ';'

/-- The characters of a filter's argument. -/
def isFilterArgumentChar (c : Char) : Bool :=
  Text.isWordChar c || c == '%' || c == ':' || c == '/' || c == ' ' || c == '+' || c == '-'

/-- The characters of a branch between its quotes. -/
def isBranchChar (c : Char) : Bool :=
  Text.isWordChar c || c == ' ' || c == '|' || c == '$' || c == ';' || c == ':' || c == '(' ||
    c == ')' || c == '.' || c == '-'

/-- The characters that may open and close a branch; the two need not be the same. -/
def isQuote (c : Char) : Bool := c == '\'' || c == '"'

/-- The key of a placeholder: literal text, or the inside of one nested placeholder. -/
inductive Key where
  | literal (text : Text)
  | nested (body : Text)
  deriving Repr, DecidableEq

/-- A filter by name, with its argument. -/
structure FilterCall where
  name : Text
  argument : Option Text
  deriving Repr, DecidableEq

/-- A quoted branch. -/
structure Branch where
  opening : Char
  body : Text
  closing : Char
  deriving Repr, DecidableEq

/-- A named placeholder with every part as it is written. -/
structure Placeholder where
  path : Text
  digits : Option Text
  key : Option Key
  filters : List FilterCall
  branches : List Branch
  deriving Repr, DecidableEq

/-- The value of a number's digits if it fits in 64 bits. -/
def wordOfDigits? (digits : Text) : Option Nat :=
  let n := Numeral.ofDigits digits
  if n ≤ Numeral.maxWord then some n else none

/-- A key without its colon; a nested one keeps its dollar sign and parentheses. -/
def Key.text : Key → Text
  | .literal text => text
  | .nested body => ['$', '('] ++ body ++ [')']

/-- The written form of a filter. -/
def FilterCall.print (f : FilterCall) : Text :=
  '|' :: f.name ++ (f.argument.map fun a => ['('] ++ a ++ [')']).getD []

/-- The written form of a branch. -/
def Branch.print (b : Branch) : Text := ',' :: b.opening :: b.body ++ [b.closing]

namespace Placeholder

/-- The number of a placeholder; one that does not fit in 64 bits counts as missing. -/
def number? (p : Placeholder) : Option Nat := p.digits.bind wordOfDigits?

/-- The text of the key. -/
def keyText? (p : Placeholder) : Option Text := p.key.map Key.text

/-- The written form of a placeholder, which is the text to replace. -/
def print (p : Placeholder) : Text :=
  ['$', '('] ++ p.path ++ (p.digits.map (';' :: ·)).getD [] ++
    (p.key.map fun k => ':' :: k.text).getD [] ++ p.filters.flatMap FilterCall.print ++
    p.branches.flatMap Branch.print ++ [')']

end Placeholder

/-- The longest run of characters that satisfy `p`, at least one, and what follows it. -/
def readRun (p : Char → Bool) (t : Text) : Option (Text × Text) :=
  (Text.nonEmpty? (t.takeWhile p)).map fun run => (run, t.dropWhile p)

/-- A run between parentheses. -/
def readParenthesized (p : Char → Bool) : Text.Matcher Text
  | '(' :: r =>
    match readRun p r with
    | some (run, ')' :: rest) => some (run, rest)
    | _ => none
  | _ => none

/-- An optional part: nothing is read where `m` reads nothing. -/
def readOptional {α : Type} (m : Text.Matcher α) (t : Text) : Option α × Text :=
  match m t with
  | some (a, rest) => (some a, rest)
  | none => (none, t)

/-- A semicolon and a number. -/
def readNumber : Text.Matcher Text
  | ';' :: r => readRun Char.isDigit r
  | _ => none

/-- A colon and a key. -/
def readKey : Text.Matcher Key
  | ':' :: '$' :: r =>
    (readParenthesized isNestedChar r).map fun (body, rest) => (.nested body, rest)
  | ':' :: r => (readRun isKeyChar r).map fun (text, rest) => (.literal text, rest)
  | _ => none

/-- A bar, the name of a filter, and its argument if it has one. -/
def readFilter : Text.Matcher FilterCall
  | '|' :: r => (readRun Text.isWordChar r).map fun (name, rest) =>
    let (argument, rest) := readOptional (readParenthesized isFilterArgumentChar) rest
    (⟨name, argument⟩, rest)
  | _ => none

/-- As many as `limit` occurrences in a row. -/
def readMany {α : Type} (m : Text.Matcher α) : Nat → Text → List α × Text
  | 0, t => ([], t)
  | limit + 1, t =>
    match m t with
    | none => ([], t)
    | some (a, rest) =>
      let (more, rest) := readMany m limit rest
      (a :: more, rest)

/-- A comma and a quoted branch. -/
def readBranch : Text.Matcher Branch
  | ',' :: opening :: r =>
    if isQuote opening then
      match readRun isBranchChar r with
      | some (body, closing :: rest) =>
        if isQuote closing then some (⟨opening, body, closing⟩, rest) else none
      | _ => none
    else none
  | _ => none

/-- Reads a placeholder. No part can begin with a character that could continue the part before it,
so reading each part as far as it goes misses no other reading. -/
def Placeholder.read : Text.Matcher Placeholder
  | '$' :: '(' :: r =>
    match readRun isPathChar r with
    | none => none
    | some (path, t) =>
      let (digits, t) := readOptional readNumber t
      let (key, t) := readOptional readKey t
      let (filters, t) := readMany readFilter t.length t
      let (branches, t) := readMany readBranch 2 t
      match t with
      | ')' :: rest => some (⟨path, digits, key, filters, branches⟩, rest)
      | _ => none
  | _ => none

/-- The placeholders of a text, in order. -/
def placeholders (t : Text) : List Placeholder :=
  (Text.occurrences Placeholder.read t).map (·.2)

end CommandBot.Template
