import CommandBot.Proofs.Segments

/-!
# Scanning what is written

Whatever stands inside well-formed placeholders, scanning a text of placeholders and literals finds
the placeholders that were written, each with its written form. The filters and the branches of a
placeholder are found again in their own text, apart from the rest of the placeholder.
-/

namespace CommandBot.Template

/-- A part of a text: literal text, or a placeholder of any form. -/
inductive Part where
  | literal (text : Text)
  | placeholder (p : Placeholder)
  deriving Repr, DecidableEq

namespace Part

def print : Part → Text
  | .literal t => t
  | .placeholder p => p.print

/-- Literal text has no dollar sign. -/
def WellFormed : Part → Prop
  | .literal t => '$' ∉ t
  | .placeholder p => p.WellFormed

instance : (s : Part) → Decidable s.WellFormed
  | .literal t => inferInstanceAs (Decidable ('$' ∉ t))
  | .placeholder p => inferInstanceAs (Decidable p.WellFormed)

def placeholder? : Part → Option Placeholder
  | .literal _ => none
  | .placeholder p => some p

end Part

/-- The placeholders that are written in a text of parts. -/
def written (parts : List Part) : List Placeholder := parts.filterMap Part.placeholder?

lemma wellFormed_of_mem_written {parts : List Part} (h : ∀ s ∈ parts, s.WellFormed)
    {p : Placeholder} (hp : p ∈ written parts) : p.WellFormed := by
  obtain ⟨s, hs, he⟩ := List.mem_filterMap.mp hp
  cases s with
  | literal t => simp [Part.placeholder?] at he
  | placeholder q =>
    obtain rfl : q = p := Option.some.inj he
    exact h _ hs

theorem occurrences_flatMap_print {parts : List Part} (h : ∀ s ∈ parts, s.WellFormed) :
    Text.occurrences Placeholder.read (parts.flatMap Part.print) =
      (written parts).map fun p => (p.print, p) := by
  induction parts with
  | nil => rfl
  | cons s parts ih =>
    obtain ⟨hs, hparts⟩ := List.forall_mem_cons.mp h
    rw [List.flatMap_cons]
    cases s with
    | literal t =>
      have hskip : ∀ c r, c ≠ '$' → Placeholder.read (c :: r) = none :=
        fun c r hc => Placeholder.read_of_ne hc r
      rw [Part.print, occurrences_append_of_not_mem hskip hs]
      exact ih hparts
    | placeholder p =>
      have hread := Placeholder.read_print hs (parts.flatMap Part.print)
      rw [Part.print, Text.occurrences_of_some hread rfl p.enclosed_print.ne_nil, ih hparts]
      rfl

/-- Parts in a row are found again, if each of them is read back from in front of another one and
from the end of the text. -/
lemma occurrences_row {α : Type} {m : Text.Matcher α} {print : α → Text} {xs : List α}
    (hne : ∀ x, print x ≠ [])
    (hread : ∀ x ∈ xs, ∀ r, (r = [] ∨ ∃ y s, r = print y ++ s) → m (print x ++ r) = some (x, r)) :
    Text.occurrences m (xs.flatMap print) = xs.map fun x => (print x, x) := by
  induction xs with
  | nil => rfl
  | cons x xs ih =>
    have hrest : xs.flatMap print = [] ∨ ∃ y s, xs.flatMap print = print y ++ s := by
      cases xs with
      | nil => exact .inl rfl
      | cons y ys => exact .inr ⟨y, ys.flatMap print, rfl⟩
    rw [List.flatMap_cons, Text.occurrences_of_some (hread x List.mem_cons_self _ hrest) rfl (hne x),
      ih fun y hy => hread y (List.mem_cons_of_mem x hy)]
    rfl

lemma IsRun.readRun_self {p : Char → Bool} {run : Text} (h : IsRun p run) :
    readRun p run = some (run, []) := by
  have htake : run.takeWhile p = run := List.takeWhile_eq_self_iff.mpr h.2
  have hdrop : run.dropWhile p = [] := List.dropWhile_eq_nil_iff.mpr h.2
  simp [readRun, htake, hdrop, Text.nonEmpty?, h.1]

lemma readFilter_print {f : FilterCall} (h : f.WellFormed) : readFilter f.print = some (f, []) := by
  obtain ⟨name, argument⟩ := f
  obtain ⟨hname, hargument⟩ := h
  cases argument with
  | none =>
    simp [FilterCall.print, readFilter, hname.readRun_self, readOptional, readParenthesized]
  | some a =>
    have hopen : BeginsIn ['('] ('(' :: (a ++ [')'])) := .cons List.mem_cons_self _
    have hread := hname.read_append hopen (by decide)
    have harg := (hargument a rfl).readParenthesized_append (by decide) []
    simp [FilterCall.print, readFilter, hread, readOptional_of_some harg]

lemma occurrences_filters {fs : List FilterCall} (h : ∀ f ∈ fs, f.WellFormed) :
    Text.occurrences readFilter (fs.flatMap FilterCall.print) = fs.map fun f => (f.print, f) := by
  refine occurrences_row (fun f => List.cons_ne_nil _ _) ?_
  rintro f hf r (rfl | ⟨g, s, rfl⟩)
  · rw [List.append_nil]
    exact readFilter_print (h f hf)
  · exact readFilter_append (h f hf) (.cons (by decide) _)

lemma occurrences_branches {bs : List Branch} (h : ∀ b ∈ bs, b.WellFormed) :
    Text.occurrences readBranch (bs.flatMap Branch.print) = bs.map fun b => (b.print, b) :=
  occurrences_row (fun _ => List.cons_ne_nil _ _) fun b hb r _ => readBranch_append (h b hb) r

lemma Placeholder.number?_eq_some_iff {p : Placeholder} {n : Nat} :
    p.number? = some n ↔ ∃ d, p.digits = some d ∧ Numeral.ofDigits d = n ∧ n < UInt64.size := by
  have hword : ∀ d, wordOfDigits? d = some n ↔ Numeral.ofDigits d = n ∧ n < UInt64.size := by
    intro d
    have hmax : Numeral.maxWord + 1 = UInt64.size := by decide
    by_cases hfits : Numeral.ofDigits d ≤ Numeral.maxWord
    · simp only [wordOfDigits?, hfits, if_true, Option.some.injEq]
      omega
    · simp only [wordOfDigits?, hfits, if_false, reduceCtorEq, false_iff]
      omega
  simp only [Placeholder.number?, Option.bind_eq_some_iff, hword]

/-- Scanning undoes writing: it finds the placeholders of a text in order, each with its written form.
A number counts if it is below 2^64, and the filters and branches of a placeholder are what scanning
finds in their text alone. -/
theorem scan_written {parts : List Part} (h : ∀ s ∈ parts, s.WellFormed) :
    Text.occurrences Placeholder.read (parts.flatMap Part.print) =
        (written parts).map (fun p => (p.print, p)) ∧
      placeholders (parts.flatMap Part.print) = written parts ∧
      ∀ p ∈ written parts,
        (∀ n, p.number? = some n ↔ ∃ d, p.digits = some d ∧ Numeral.ofDigits d = n ∧ n < UInt64.size) ∧
        Text.occurrences readFilter (p.filters.flatMap FilterCall.print) =
          p.filters.map (fun f => (f.print, f)) ∧
        Text.occurrences readBranch (p.branches.flatMap Branch.print) =
          p.branches.map fun b => (b.print, b) := by
  have hscan := occurrences_flatMap_print h
  refine ⟨hscan, ?_, fun p hp => ?_⟩
  · rw [placeholders, hscan, List.map_map]
    exact List.map_id _
  · obtain ⟨-, -, -, hfilters, -, hbranches⟩ := wellFormed_of_mem_written h hp
    exact ⟨fun n => Placeholder.number?_eq_some_iff, occurrences_filters hfilters,
      occurrences_branches hbranches⟩

/-- A conditional with a number that is too large, and characters of the grammar in its key, its
filter's argument and its branches. -/
def conditional : Placeholder where
  path := "if".toList
  digits := some "18446744073709551616".toList
  key := some (.nested "user;1:name".toList)
  filters := [⟨"add".toList, some "5 +/%:".toList⟩, ⟨"lower".toList, none⟩]
  branches := [⟨'"', "a|b: $(1); (c).".toList, '"'⟩, ⟨'"', "no".toList, '\''⟩]

def spelled : Placeholder := ⟨"a_b".toList, some "007".toList, some (.literal "x/y.z -".toList), [], []⟩

def mixture : List Part :=
  [.literal "Hi (x:y) ".toList, .placeholder conditional, .placeholder spelled,
    .literal "),|(a)".toList]

/-- Two placeholders next to each other are told apart, whatever stands in them. -/
theorem mixture_scanned :
    (∀ s ∈ mixture, s.WellFormed) ∧
      mixture.flatMap Part.print = ("Hi (x:y) $(if;18446744073709551616:$(user;1:name)" ++
        "|add(5 +/%:)|lower,\"a|b: $(1); (c).\",\"no')$(a_b;007:x/y.z -)),|(a)").toList ∧
      placeholders (mixture.flatMap Part.print) = [conditional, spelled] ∧
      conditional.number? = none ∧ spelled.number? = some 7 := by
  have hformed : ∀ s ∈ mixture, s.WellFormed := by decide +kernel
  obtain ⟨-, hfound, hparts⟩ := scan_written hformed
  have hseven := (hparts spelled (by decide +kernel)).1 7
  exact ⟨hformed, by decide +kernel, hfound, by decide +kernel,
    hseven.mpr ⟨"007".toList, rfl, by decide +kernel, by decide⟩⟩

end CommandBot.Template
