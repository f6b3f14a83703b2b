import CommandBot.Text.CaseTable
import CommandBot.Text.Word

/-!
# Upper and lower case

Full case mapping: an image may have several characters. Lowering a whole text sees the context of
a capital sigma, which lowers to its final form at the end of a word; lowering a single character
does not.
-/

namespace CommandBot.Text

/-- The image of a code point in a table of runs. -/
def CaseRun.image? (n : Nat) (run : CaseRun) : Option Char :=
  if run.first ≤ n && n ≤ run.last && (n - run.first) % run.step == 0 then
    some (Char.ofNat (Int.ofNat n + run.shift).toNat)
  else none

/-- The image of a character beyond ASCII: its expansion, else its image in a run, else itself. -/
def caseImage (expansions : List (Nat × List Nat)) (runs : List CaseRun) (c : Char) : Text :=
  match expansions.find? (·.1 == c.toNat) with
  | some (_, codes) => codes.map Char.ofNat
  | none => [(runs.findSome? (CaseRun.image? c.toNat)).getD c]

/-- The lower-case image of one character. -/
def lowerChar (c : Char) : Text :=
  if c.toNat < 0x80 then [c.toLower] else caseImage lowerExpansions lowerRuns c

/-- The upper-case image of one character. -/
def upperChar (c : Char) : Text :=
  if c.toNat < 0x80 then [c.toUpper] else caseImage upperExpansions upperRuns c

/-- The characters with the Unicode property Uppercase. -/
def isUpper (c : Char) : Bool :=
  if c.toNat < 0x80 then c.isUpper
  else uppercaseRuns.any fun (first, last, step) =>
    first ≤ c.toNat && c.toNat ≤ last && (c.toNat - first) % step == 0

/-- The characters with the Unicode property Cased. -/
def isCased (c : Char) : Bool :=
  if c.toNat < 0x80 then c.isAlpha else inRanges casedRanges c.toNat

/-- The characters with the Unicode property Case_Ignorable. -/
def isCaseIgnorable (c : Char) : Bool := inRanges caseIgnorableRanges c.toNat

/-- Whether a cased character comes first once case-ignorable ones are skipped. -/
def startsCased : Text → Bool
  | [] => false
  | c :: r => if isCaseIgnorable c then startsCased r else isCased c

/-- The lower-case image of a text. The first argument says whether a cased character precedes it,
case-ignorable ones skipped; a capital sigma is final if one does and none follows. -/
def lowerFrom : Bool → Text → Text
  | _, [] => []
  | afterCased, c :: r =>
    let image :=
      if c != 'Σ' then lowerChar c
      else if afterCased && !startsCased r then ['ς']
      else ['σ']
    image ++ lowerFrom (if isCaseIgnorable c then afterCased else isCased c) r

/-- A text in lower case. -/
def lower (t : Text) : Text := lowerFrom false t

/-- A text in upper case. -/
def upper (t : Text) : Text := t.flatMap upperChar

/-- The first character in upper case and the others in lower case, each by itself. -/
def capitalize : Text → Text
  | [] => []
  | c :: r => upperChar c ++ r.flatMap lowerChar

/-- Every piece between spaces capitalized. -/
def title (t : Text) : Text := join [' '] ((t.splitWhere (· == ' ')).map capitalize)

/-- Upper-case characters in lower case and all others in upper case, each by itself. -/
def swapCase (t : Text) : Text := t.flatMap fun c => if isUpper c then lowerChar c else upperChar c

end CommandBot.Text
