import CommandBot.Text.Basic

/-!
# Blanks and words

Which characters are blank, and the ways of cutting a text at them: trimming, the list of its
words, and the first word with what follows it.
-/

namespace CommandBot.Text

/-- The characters with the Unicode property White_Space. -/
def isBlank (c : Char) : Bool :=
  let n := c.toNat
  (9 ≤ n && n ≤ 13) || n == 0x20 || n == 0x85 || n == 0xA0 || n == 0x1680 ||
    (0x2000 ≤ n && n ≤ 0x200A) || n == 0x2028 || n == 0x2029 || n == 0x202F || n == 0x205F ||
    n == 0x3000

/-- A text without its leading blanks. -/
def trimStart (t : Text) : Text := t.dropWhile isBlank

/-- A text without its trailing blanks. -/
def trimEnd (t : Text) : Text :=
  t.foldr (fun c r => if isBlank c && r.isEmpty then [] else c :: r) []

/-- A text without leading and trailing blanks. -/
def trim (t : Text) : Text := trimEnd (trimStart t)

/-- The maximal blank-free pieces of a text, in order. -/
def words (t : Text) : List Text := (t.splitWhere isBlank).filter (!·.isEmpty)

/-- The word at a position counted from zero; past the last word, the empty text. -/
def wordAt (t : Text) (index : Nat) : Text := t.words[index]?.getD []

/-- The first word, and what follows it without surrounding blanks if any of it is left. A blank
text has no first word. -/
def firstWord? (t : Text) : Option (Text × Option Text) :=
  let t := t.trim
  (nonEmpty? (t.takeWhile (!isBlank ·))).map fun head =>
    (head, nonEmpty? (trim (t.dropWhile (!isBlank ·))))

end CommandBot.Text
