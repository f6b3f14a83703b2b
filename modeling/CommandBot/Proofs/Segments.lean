import CommandBot.Proofs.Filling
import CommandBot.Proofs.PlaceholderReading
import CommandBot.Proofs.ReplacingInTurn

/-!
# Templates in segments

A template is written from segments: literal text, positional placeholders, and named placeholders.
As long as no dollar sign stands but at the head of a placeholder, scanning finds exactly the
placeholders that were written, and the written form of one meets another whole or not at all.
-/

namespace CommandBot.Template

/-- A part of a template: literal text, a positional placeholder by its digits, or a named one. -/
inductive Segment where
  | literal (text : Text)
  | positional (digits : Text)
  | named (placeholder : Placeholder)
  deriving Repr, DecidableEq

def Positional.ofDigits (digits : Text) : Positional := ⟨digits, Numeral.ofDigits digits⟩

/-- A key that is no placeholder itself. -/
def Key.IsLiteral : Key → Prop
  | .literal _ => True
  | .nested _ => False

instance : (k : Key) → Decidable k.IsLiteral
  | .literal _ => inferInstanceAs (Decidable True)
  | .nested _ => inferInstanceAs (Decidable False)

/-- A placeholder with a literal key or none, and without branches. -/
def Placeholder.IsSimple (p : Placeholder) : Prop :=
  p.WellFormed ∧ (∀ k ∈ p.key, k.IsLiteral) ∧ p.branches = []

instance (p : Placeholder) : Decidable p.IsSimple := inferInstanceAs (Decidable (_ ∧ _))

namespace Segment

/-- The written form of a segment. -/
def print : Segment → Text
  | .literal t => t
  | .positional digits => (Positional.ofDigits digits).print
  | .named p => p.print

/-- Literal text has no dollar sign, the number of a positional placeholder fits in 64 bits, and a
named placeholder is simple. -/
def WellFormed : Segment → Prop
  | .literal t => '$' ∉ t
  | .positional digits => IsRun Char.isDigit digits ∧ Numeral.ofDigits digits ≤ Numeral.maxWord
  | .named p => p.IsSimple

instance : (s : Segment) → Decidable s.WellFormed
  | .literal t => inferInstanceAs (Decidable ('$' ∉ t))
  | .positional _ => inferInstanceAs (Decidable (_ ∧ _))
  | .named p => inferInstanceAs (Decidable p.IsSimple)

def IsLiteral : Segment → Prop
  | .literal _ => True
  | _ => False

/-- The digits of a positional placeholder. -/
def digits? : Segment → Option Text
  | .positional digits => some digits
  | _ => none

/-- The named placeholder in a segment, if it is one. -/
def placeholder? : Segment → Option Placeholder
  | .named p => some p
  | _ => none

/-- Reads a placeholder of either kind. -/
def read : Text.Matcher Segment := fun t =>
  match Placeholder.read t with
  | some (p, rest) => some (.named p, rest)
  | none => (Positional.read t).map fun (digits, rest) => (.positional digits, rest)

end Segment

/-- The text of a template in segments. -/
def printAll (segments : List Segment) : Text := (segments.map Segment.print).flatten

/-- Every number is written with the same digits wherever it occurs. -/
def OneSpelling (digits : List Text) : Prop :=
  ∀ d ∈ digits, ∀ e ∈ digits, Numeral.ofDigits d = Numeral.ofDigits e → d = e

instance (digits : List Text) : Decidable (OneSpelling digits) :=
  inferInstanceAs (Decidable (∀ d ∈ digits, ∀ e ∈ digits, _ → _))

lemma Placeholder.read_of_ne {c : Char} (hc : c ≠ '$') (r : Text) :
    Placeholder.read (c :: r) = none := by
  unfold Placeholder.read
  split
  · rename_i heq
    exact absurd (List.cons.inj heq).1 hc
  · rfl

lemma Positional.read_of_ne {c : Char} (hc : c ≠ '$') (r : Text) :
    Positional.read (c :: r) = none := by
  unfold Positional.read
  split
  · rename_i heq
    exact absurd (List.cons.inj heq).1 hc
  · rfl

lemma isDigit_eq_false_of_isPathChar {c : Char} (h : isPathChar c = true) : c.isDigit = false := by
  simp only [isPathChar, Bool.or_eq_true, Bool.and_eq_true, decide_eq_true_eq, beq_iff_eq] at h
  rcases h with ⟨hle, -⟩ | rfl
  · have hle : 97 ≤ c.val.toNat := hle
    rw [Char.isDigit, Bool.and_eq_false_iff, decide_eq_false_iff_not, decide_eq_false_iff_not]
    refine .inr fun h => ?_
    have hlt : c.val.toNat ≤ 57 := h
    omega
  · rfl

variable {digits rest : Text}

lemma Positional.read_print (h : IsRun Char.isDigit digits) (rest : Text) :
    Positional.read ((Positional.ofDigits digits).print ++ rest) = some (digits, rest) := by
  have hread := h.readParenthesized_append (by decide) rest
  simpa [Positional.print, Positional.ofDigits, Positional.read] using hread

lemma Placeholder.read_positional (h : IsRun Char.isDigit digits) (rest : Text) :
    Placeholder.read ((Positional.ofDigits digits).print ++ rest) = none := by
  obtain ⟨c, r, rfl⟩ := List.exists_cons_of_ne_nil h.1
  have hc : c.isDigit = true := h.2 c List.mem_cons_self
  have hpath : isPathChar c = false := by
    by_contra hpath
    simp [isDigit_eq_false_of_isPathChar (by simpa using hpath)] at hc
  simp only [Positional.print, Positional.ofDigits, List.cons_append, List.nil_append,
    Placeholder.read, readRun_eq_none hpath]

lemma Positional.read_named {p : Placeholder} (h : p.WellFormed) (rest : Text) :
    Positional.read (p.print ++ rest) = none := by
  obtain ⟨⟨hne, hall⟩, -⟩ := h
  obtain ⟨c, r, hpath⟩ := List.exists_cons_of_ne_nil hne
  have hc : c.isDigit = false :=
    isDigit_eq_false_of_isPathChar (hall c (hpath ▸ List.mem_cons_self))
  simp only [Placeholder.print, hpath, List.cons_append, List.nil_append, List.append_assoc,
    Positional.read, readParenthesized, readRun_eq_none hc]

/-- A placeholder of either kind is read back from its written form, whatever follows. -/
theorem Segment.read_print {s : Segment} (h : s.WellFormed) (hs : ¬s.IsLiteral) (rest : Text) :
    Segment.read (s.print ++ rest) = some (s, rest) := by
  cases s with
  | literal t => exact absurd trivial hs
  | positional digits =>
    simp only [Segment.read, Segment.print, Placeholder.read_positional h.1,
      Positional.read_print h.1, Option.map_some]
  | named p => simp only [Segment.read, Segment.print, Placeholder.read_print h.1]

lemma not_mem_flatMap {α : Type} {print : α → Text} {xs : List α} {c : Char}
    (h : ∀ x ∈ xs, c ∉ print x) : c ∉ xs.flatMap print := fun hmem => by
  obtain ⟨x, hx, hc⟩ := List.mem_flatMap.mp hmem
  exact h x hx hc

lemma FilterCall.dollar_not_mem_print {f : FilterCall} (h : f.WellFormed) : '$' ∉ f.print := by
  obtain ⟨name, argument⟩ := f
  have hname : '$' ∉ name := h.1.not_mem (by decide)
  cases argument with
  | none => simp [FilterCall.print, hname]
  | some a =>
    have ha : '$' ∉ a := (h.2 a rfl).not_mem (by decide)
    simp [FilterCall.print, hname, ha]

/-- A simple placeholder has no dollar sign but its first character. -/
lemma Placeholder.IsSimple.exists_print_eq {p : Placeholder} (h : p.IsSimple) :
    ∃ v, p.print = '$' :: v ∧ '$' ∉ v := by
  obtain ⟨path, digits, key, filters, branches⟩ := p
  obtain ⟨⟨hpath, hdigits, hkey, hfilters, -⟩, hliteral, hbranches⟩ := h
  simp only at hpath hdigits hkey hfilters hliteral hbranches
  subst hbranches
  have hpath : '$' ∉ path := hpath.not_mem (by decide)
  have hnumber : '$' ∉ (digits.map (';' :: ·)).getD [] := by
    cases digits with
    | none => simp
    | some d => simp [(hdigits d rfl).not_mem (c := '$') (by decide)]
  have hkey : '$' ∉ (key.map fun k => ':' :: k.text).getD [] := by
    cases key with
    | none => simp
    | some k =>
      cases k with
      | nested body => exact absurd (hliteral _ rfl) (by simp [Key.IsLiteral])
      | literal text =>
        have htext : IsRun isKeyChar text := hkey _ rfl
        simp [Key.text, htext.not_mem (c := '$') (by decide)]
  have hfilters : '$' ∉ filters.flatMap FilterCall.print :=
    not_mem_flatMap fun f hf => FilterCall.dollar_not_mem_print (hfilters f hf)
  refine ⟨_, by rw [Placeholder.print]; rfl, ?_⟩
  simp [hpath, hnumber, hkey, hfilters]

lemma Segment.exists_print_eq {s : Segment} (h : s.WellFormed) (hs : ¬s.IsLiteral) :
    ∃ v, s.print = '$' :: v ∧ '$' ∉ v := by
  cases s with
  | literal t => exact absurd trivial hs
  | positional digits =>
    have hdigits : '$' ∉ digits := h.1.not_mem (by decide)
    exact ⟨'(' :: (digits ++ [')']), rfl, by simp [hdigits]⟩
  | named p => exact Placeholder.IsSimple.exists_print_eq h

lemma Segment.dollar_not_mem_of_isLiteral {s : Segment} (h : s.WellFormed) (hs : s.IsLiteral) :
    '$' ∉ s.print := by
  cases s with
  | literal t => exact h
  | positional digits => exact hs.elim
  | named p => exact hs.elim

/-- No other segment is written as a placeholder is. -/
lemma Segment.eq_of_print_eq {s t : Segment} (hs : s.WellFormed) (hplace : ¬s.IsLiteral)
    (ht : t.WellFormed) (h : t.print = s.print) : t = s := by
  by_cases hliteral : t.IsLiteral
  · obtain ⟨v, hv, -⟩ := exists_print_eq hs hplace
    have hfree := dollar_not_mem_of_isLiteral ht hliteral
    rw [h, hv] at hfree
    exact absurd List.mem_cons_self hfree
  · have hread := read_print ht hliteral []
    rw [h, read_print hs hplace] at hread
    exact (Prod.mk.inj (Option.some.inj hread)).1.symm

/-- The written form of a placeholder meets another segment whole or not at all. -/
theorem Segment.print_eq_or_avoids {s t : Segment} (hs : s.WellFormed) (hplace : ¬s.IsLiteral)
    (ht : t.WellFormed) : t.print = s.print ∨ Text.Avoids s.print t.print := by
  obtain ⟨v, hv, hfree⟩ := exists_print_eq hs hplace
  by_cases hliteral : t.IsLiteral
  · exact .inr (hv ▸ .of_not_mem (dollar_not_mem_of_isLiteral ht hliteral))
  · obtain ⟨w, hw, hfree'⟩ := exists_print_eq ht hliteral
    refine or_iff_not_imp_left.mpr fun hne => ?_
    rw [hv, hw]
    refine .cons hfree' fun rest hstart => hne ?_
    -- Both are read at the head of the same text, so they are the same.
    obtain ⟨more, he⟩ := hstart
    rw [← hv, ← hw] at he
    have hread := read_print ht hliteral rest
    rw [← he, read_print hs hplace] at hread
    rw [(Prod.mk.inj (Option.some.inj hread)).1]

lemma occurrences_append_of_not_mem {α : Type} {m : Text.Matcher α}
    (hm : ∀ c r, c ≠ '$' → m (c :: r) = none) {t : Text} (ht : '$' ∉ t) (rest : Text) :
    Text.occurrences m (t ++ rest) = Text.occurrences m rest := by
  induction t with
  | nil => rfl
  | cons c t ih =>
    obtain ⟨hc, ht⟩ := not_or.mp (mt List.mem_cons.mpr ht)
    rw [List.cons_append, Text.occurrences_cons_of_none (hm c _ (Ne.symm hc)), ih ht]

lemma occurrences_append_of_none {α : Type} {m : Text.Matcher α}
    (hm : ∀ c r, c ≠ '$' → m (c :: r) = none) {t v : Text} (ht : t = '$' :: v) (hv : '$' ∉ v)
    {rest : Text} (h : m (t ++ rest) = none) :
    Text.occurrences m (t ++ rest) = Text.occurrences m rest := by
  subst ht
  rw [List.cons_append] at h ⊢
  rw [Text.occurrences_cons_of_none h, occurrences_append_of_not_mem hm hv]

lemma printAll_cons (s : Segment) (segments : List Segment) :
    printAll (s :: segments) = s.print ++ printAll segments := rfl

/-- Scanning for named placeholders finds the ones written, and goes on behind them. -/
theorem placeholders_append {segments : List Segment} (h : ∀ s ∈ segments, s.WellFormed)
    (rest : Text) : placeholders (printAll segments ++ rest) =
      segments.filterMap Segment.placeholder? ++ placeholders rest := by
  induction segments with
  | nil => rfl
  | cons s segments ih =>
    obtain ⟨hs, hsegments⟩ := List.forall_mem_cons.mp h
    have hm : ∀ c r, c ≠ '$' → Placeholder.read (c :: r) = none :=
      fun c r hc => Placeholder.read_of_ne hc r
    rw [printAll_cons, List.append_assoc, placeholders]
    cases s with
    | literal t =>
      rw [Segment.print, occurrences_append_of_not_mem hm hs]
      exact ih hsegments
    | positional digits =>
      obtain ⟨v, hv, hfree⟩ := Segment.exists_print_eq hs not_false
      rw [occurrences_append_of_none hm hv hfree (Placeholder.read_positional hs.1 _)]
      exact ih hsegments
    | named p =>
      have hread := Placeholder.read_print hs.1 (printAll segments ++ rest)
      rw [Segment.print, Text.occurrences_of_some hread rfl p.enclosed_print.ne_nil, List.map_cons]
      exact congrArg (p :: ·) (ih hsegments)

/-- Scanning for positional placeholders finds the ones written, and goes on behind them. -/
theorem positionals_append {segments : List Segment} (h : ∀ s ∈ segments, s.WellFormed)
    (rest : Text) : positionals (printAll segments ++ rest) =
      (segments.filterMap Segment.digits?).map Positional.ofDigits ++ positionals rest := by
  induction segments with
  | nil => rfl
  | cons s segments ih =>
    obtain ⟨hs, hsegments⟩ := List.forall_mem_cons.mp h
    have hm : ∀ c r, c ≠ '$' → Positional.read (c :: r) = none :=
      fun c r hc => Positional.read_of_ne hc r
    rw [printAll_cons, List.append_assoc, positionals]
    cases s with
    | literal t =>
      rw [Segment.print, occurrences_append_of_not_mem hm hs]
      exact ih hsegments
    | positional digits =>
      have hread := Positional.read_print hs.1 (printAll segments ++ rest)
      rw [Segment.print, Text.occurrences_of_some hread rfl (Positional.enclosed_print _).ne_nil,
        List.filterMap_cons]
      simp only [wordOfDigits?, if_pos hs.2, Option.map_some]
      exact congrArg (Positional.ofDigits digits :: ·) (ih hsegments)
    | named p =>
      obtain ⟨v, hv, hfree⟩ := Segment.exists_print_eq hs not_false
      rw [occurrences_append_of_none hm hv hfree (Positional.read_named hs.1 _)]
      exact ih hsegments

end CommandBot.Template
