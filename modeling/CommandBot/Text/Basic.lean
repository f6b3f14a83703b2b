/-!
# Text

A text is the list of its characters. This file holds the operations that know nothing about
particular characters: splitting, joining and replacing every occurrence of a needle.
-/

namespace CommandBot

/-- The characters of a text, in order. -/
abbrev Text := List Char

namespace Text

/-- The string with the characters of a text. -/
def asString (t : Text) : String := String.ofList t

/-- A text, if it has a character at all. -/
def nonEmpty? (t : Text) : Option Text := if t.isEmpty then none else some t

/-- The rest of a text that starts with `start`. -/
def after? (t start : Text) : Option Text := start.isPrefixOf? t

/-- The text before `finish`, of a text that ends with it. -/
def before? (t finish : Text) : Option Text :=
  (finish.reverse.isPrefixOf? t.reverse).map List.reverse

/-- The pieces between the characters that satisfy `p`; `n` such characters make `n + 1` pieces,
some perhaps empty. -/
def splitWhere (p : Char → Bool) : Text → List Text
  | [] => [[]]
  | c :: r =>
    match splitWhere p r with
    | [] => [[c]]
    | piece :: pieces => if p c then [] :: piece :: pieces else (c :: piece) :: pieces

/-- The texts on both sides of the first `c`. -/
def splitOnce? (t : Text) (c : Char) : Option (Text × Text) :=
  match t.dropWhile (· != c) with
  | [] => none
  | _ :: r => some (t.takeWhile (· != c), r)

/-- The texts in order with `separator` between neighbours. -/
def join (separator : Text) (ts : List Text) : Text := List.intercalate separator ts

/-- Replacement from the left; the first argument counts characters that still belong to the
occurrence just replaced. -/
def replaceFrom (needle value : Text) : Nat → Text → Text
  | _, [] => []
  | covered + 1, _ :: r => replaceFrom needle value covered r
  | 0, c :: r =>
    if needle.isPrefixOf (c :: r) then value ++ replaceFrom needle value (needle.length - 1) r
    else c :: replaceFrom needle value 0 r

/-- Every occurrence of a needle of one character or more, taken from the left without overlaps,
gives way to `value`. -/
def replaceAll (t needle value : Text) : Text := replaceFrom needle value 0 t

end Text

end CommandBot
