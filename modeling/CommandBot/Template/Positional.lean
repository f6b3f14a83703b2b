import CommandBot.Template.Placeholder
import CommandBot.Text.Blank

/-!
# Positional placeholders

A positional placeholder `$(N)` stands for the `N`-th word of the message, counted from one.
-/

namespace CommandBot.Template

/-- A positional placeholder: its digits as written, and their value. -/
structure Positional where
  digits : Text
  number : Nat
  deriving Repr, DecidableEq

namespace Positional

/-- The written form of a positional placeholder, which is the text to replace. -/
def print (p : Positional) : Text := ['$', '('] ++ p.digits ++ [')']

/-- Reads the digits of a positional placeholder. -/
def read : Text.Matcher Text
  | '$' :: r => readParenthesized Char.isDigit r
  | _ => none

end Positional

/-- The positional placeholders of a text, in order. Numbers that do not fit in 64 bits are left
out. -/
def positionals (t : Text) : List Positional :=
  (Text.occurrences Positional.read t).filterMap fun (_, digits) =>
    (wordOfDigits? digits).map fun number => ⟨digits, number⟩

/-- The `number`-th word of the message counted from one; empty for zero, past the last word, and
without a message. -/
def argumentValue (message : Option Text) : Nat → Text
  | 0 => []
  | index + 1 => (message.map fun m => m.wordAt index).getD []

end CommandBot.Template
