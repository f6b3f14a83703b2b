import CommandBot.Text.Basic

/-!
# Scanning for occurrences

A matcher reads one occurrence of something at the head of a text. Scanning takes the leftmost
occurrences without overlaps; the pieces of a scan, put together, are the text.
-/

namespace CommandBot.Text

/-- Reads an occurrence at the head of a text: what it stands for, and the text after it. -/
abbrev Matcher (α : Type) := Text → Option (α × Text)

/-- A part of a scanned text: a character outside all occurrences, or an occurrence with its own
text. -/
inductive Piece (α : Type) where
  | plain (c : Char)
  | found (needle : Text) (value : α)
  deriving Repr, DecidableEq

/-- The part of the scanned text that a piece stands for. -/
def Piece.text {α : Type} : Piece α → Text
  | .plain c => [c]
  | .found needle _ => needle

/-- The occurrence in a piece, if it is one. -/
def Piece.occurrence? {α : Type} : Piece α → Option (Text × α)
  | .plain _ => none
  | .found needle value => some (needle, value)

/-- The pieces of a text; the first argument counts characters that still belong to the occurrence
just found. -/
def piecesFrom {α : Type} (m : Matcher α) : Nat → Text → List (Piece α)
  | _, [] => []
  | covered + 1, _ :: r => piecesFrom m covered r
  | 0, c :: r =>
    match m (c :: r) with
    | none => .plain c :: piecesFrom m 0 r
    | some (value, rest) =>
      .found (c :: r.take (r.length - rest.length)) value :: piecesFrom m (r.length - rest.length) r

/-- The pieces of a text, in order. -/
def pieces {α : Type} (m : Matcher α) (t : Text) : List (Piece α) := piecesFrom m 0 t

/-- The occurrences in a text with their own texts, in order. -/
def occurrences {α : Type} (m : Matcher α) (t : Text) : List (Text × α) :=
  (pieces m t).filterMap Piece.occurrence?

/-! ## The pieces make up the text -/

/-- A matcher that consumes what it reads: at least one character, and it hands on the rest. -/
def Matcher.Consumes {α : Type} (m : Matcher α) : Prop :=
  ∀ t a rest, m t = some (a, rest) → ∃ read, read ≠ [] ∧ t = read ++ rest

theorem text_piecesFrom {α : Type} {m : Matcher α} (hm : m.Consumes) (covered : Nat) (t : Text) :
    (piecesFrom m covered t).flatMap Piece.text = t.drop covered := by
  induction t generalizing covered with
  | nil => cases covered <;> rfl
  | cons c r ih =>
    cases covered with
    | succ covered => simpa [piecesFrom] using ih covered
    | zero =>
      rw [piecesFrom]
      split
      · simpa [Piece.text] using ih 0
      · rename_i value rest h
        obtain ⟨read, hne, he⟩ := hm _ _ _ h
        obtain ⟨d, read, rfl⟩ := List.exists_cons_of_ne_nil hne
        simp only [List.cons_append, List.cons.injEq] at he
        have hl : r.length - rest.length = read.length := by
          rw [he.2, List.length_append]; omega
        simp [Piece.text, hl, ih]

/-- The pieces of a scan, put together, are the text. -/
theorem text_pieces {α : Type} {m : Matcher α} (hm : m.Consumes) (t : Text) :
    (pieces m t).flatMap Piece.text = t := by
  rw [pieces, text_piecesFrom hm, List.drop_zero]

end CommandBot.Text
