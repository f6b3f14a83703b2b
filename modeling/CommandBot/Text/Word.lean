import CommandBot.Text.Basic
import CommandBot.Text.WordTable

/-!
# Word characters

A word character is a letter, a mark, a decimal digit, a connector such as the underscore, or a
join control.
-/

namespace CommandBot.Text

/-- Whether a code point lies in one of the ranges. -/
def inRanges (ranges : List (Nat × Nat)) (n : Nat) : Bool :=
  ranges.any fun r => r.1 ≤ n && n ≤ r.2

/-- The word characters of ASCII are its letters, its digits and the underscore. -/
def isWordChar (c : Char) : Bool :=
  if c.toNat < 0x80 then c.isAlphanum || c == '_' else inRanges wordRanges c.toNat

end CommandBot.Text
