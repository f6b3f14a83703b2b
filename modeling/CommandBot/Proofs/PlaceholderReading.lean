import CommandBot.Proofs.Spans
import CommandBot.Template.Positional

/-!
# Reading back what is written

A well-formed placeholder is read back from its written form, whatever text follows. Each part
begins with a character that cannot continue the part before it, so every run ends where it was
written to end.
-/

namespace CommandBot.Template

/-- A text of one character or more that all satisfy `p`. -/
def IsRun (p : Char → Bool) (t : Text) : Prop := t ≠ [] ∧ ∀ c ∈ t, p c = true

instance (p : Char → Bool) (t : Text) : Decidable (IsRun p t) :=
  decidable_of_iff (t ≠ [] ∧ t.all p = true) (by rw [IsRun, List.all_eq_true])

/-- A text that begins with one of some characters. -/
def BeginsIn (cs : List Char) (t : Text) : Prop := ∃ c ∈ cs, ∃ r, t = c :: r

lemma BeginsIn.cons {cs : List Char} {c : Char} (hc : c ∈ cs) (r : Text) : BeginsIn cs (c :: r) :=
  ⟨c, hc, r, rfl⟩

lemma BeginsIn.mono {cs ds : List Char} {t : Text} (h : BeginsIn cs t) (hsub : cs ⊆ ds) :
    BeginsIn ds t := by
  obtain ⟨c, hc, r, rfl⟩ := h
  exact .cons (hsub hc) r

namespace IsRun

variable {p : Char → Bool} {run rest : Text}

lemma not_mem (h : IsRun p run) {c : Char} (hc : p c = false) : c ∉ run := fun hmem => by
  simp [h.2 c hmem] at hc

lemma read_append (h : IsRun p run) {cs : List Char} (hrest : BeginsIn cs rest)
    (hcs : cs.any p = false) : readRun p (run ++ rest) = some (run, rest) := by
  obtain ⟨c, hc, r, rfl⟩ := hrest
  have hstop : p c = false := by simpa using List.any_eq_false.mp hcs c hc
  rw [readRun, Text.takeWhile_append_cons h.2 hstop, Text.dropWhile_append_cons h.2 hstop]
  simp [Text.nonEmpty?, h.1]

lemma readParenthesized_append (h : IsRun p run) (hclose : p ')' = false) (rest : Text) :
    readParenthesized p ('(' :: (run ++ ')' :: rest)) = some (run, rest) := by
  have hends : BeginsIn [')'] (')' :: rest) := .cons List.mem_cons_self rest
  simp only [readParenthesized, h.read_append hends (by simpa using hclose)]

end IsRun

lemma readRun_eq_none {p : Char → Bool} {c : Char} (hc : p c = false) (r : Text) :
    readRun p (c :: r) = none := by
  simp [readRun, Text.nonEmpty?, hc]

/-- A key that can be written. -/
def Key.WellFormed : Key → Prop
  | .literal text => IsRun isKeyChar text
  | .nested body => IsRun isNestedChar body

instance : (k : Key) → Decidable k.WellFormed
  | .literal text => inferInstanceAs (Decidable (IsRun isKeyChar text))
  | .nested body => inferInstanceAs (Decidable (IsRun isNestedChar body))

/-- A filter that can be written. -/
def FilterCall.WellFormed (f : FilterCall) : Prop :=
  IsRun Text.isWordChar f.name ∧ ∀ a ∈ f.argument, IsRun isFilterArgumentChar a

instance (f : FilterCall) : Decidable f.WellFormed := inferInstanceAs (Decidable (_ ∧ _))

/-- A branch that can be written. -/
def Branch.WellFormed (b : Branch) : Prop :=
  isQuote b.opening = true ∧ IsRun isBranchChar b.body ∧ isQuote b.closing = true

instance (b : Branch) : Decidable b.WellFormed := inferInstanceAs (Decidable (_ ∧ _))

/-- A placeholder that can be written. -/
def Placeholder.WellFormed (p : Placeholder) : Prop :=
  IsRun isPathChar p.path ∧ (∀ d ∈ p.digits, IsRun Char.isDigit d) ∧ (∀ k ∈ p.key, k.WellFormed) ∧
    (∀ f ∈ p.filters, f.WellFormed) ∧ p.branches.length ≤ 2 ∧ ∀ b ∈ p.branches, b.WellFormed

instance (p : Placeholder) : Decidable p.WellFormed := inferInstanceAs (Decidable (_ ∧ _))

/-- What can stand after a part: the characters that begin the parts after it. -/
def afterPath : List Char := [';', ':', '|', ',', ')']

def afterNumber : List Char := [':', '|', ',', ')']

def afterKey : List Char := ['|', ',', ')']

def afterFilters : List Char := [',', ')']

lemma readOptional_of_some {α : Type} {m : Text.Matcher α} {t rest : Text} {a : α}
    (h : m t = some (a, rest)) : readOptional m t = (some a, rest) := by
  rw [readOptional, h]

lemma readOptional_of_none {α : Type} {m : Text.Matcher α} {t : Text} (h : m t = none) :
    readOptional m t = (none, t) := by
  rw [readOptional, h]

/-- As many parts as are written in a row are read back, if each of them is. -/
lemma readMany_append {α : Type} {m : Text.Matcher α} {print : α → Text} {cs : List Char}
    {xs : List α} {rest : Text} {limit : Nat} (hbegins : ∀ x r, BeginsIn cs (print x ++ r))
    (hread : ∀ x ∈ xs, ∀ r, BeginsIn cs r → m (print x ++ r) = some (x, r))
    (hrest : BeginsIn cs rest) (hstop : m rest = none) (hlimit : xs.length ≤ limit) :
    readMany m limit (xs.flatMap print ++ rest) = (xs, rest) ∧
      BeginsIn cs (xs.flatMap print ++ rest) := by
  induction xs generalizing limit with
  | nil => cases limit <;> exact ⟨by simp [readMany, hstop], hrest⟩
  | cons x xs ih =>
    cases limit with
    | zero => simp at hlimit
    | succ limit =>
      obtain ⟨hmore, hnext⟩ := ih (fun y hy => hread y (List.mem_cons_of_mem x hy))
        (Nat.le_of_succ_le_succ hlimit)
      rw [List.flatMap_cons, List.append_assoc]
      refine ⟨?_, hbegins x _⟩
      simp only [readMany, hread x List.mem_cons_self _ hnext, hmore]

lemma readNumber_append {digits : Option Text} (h : ∀ d ∈ digits, IsRun Char.isDigit d) {rest : Text}
    (hrest : BeginsIn afterNumber rest) :
    readOptional readNumber ((digits.map (';' :: ·)).getD [] ++ rest) = (digits, rest) := by
  cases digits with
  | none =>
    obtain ⟨c, hc, r, rfl⟩ := hrest
    have hnone : ∀ c ∈ afterNumber, readNumber (c :: r) = none := by simp [afterNumber, readNumber]
    exact readOptional_of_none (hnone c hc)
  | some d => exact readOptional_of_some ((h d rfl).read_append hrest (by decide))

lemma readKey_append {key : Option Key} (h : ∀ k ∈ key, k.WellFormed) {rest : Text}
    (hrest : BeginsIn afterKey rest) :
    readOptional readKey ((key.map fun k => ':' :: k.text).getD [] ++ rest) = (key, rest) := by
  cases key with
  | none =>
    obtain ⟨c, hc, r, rfl⟩ := hrest
    have hnone : ∀ c ∈ afterKey, readKey (c :: r) = none := by simp [afterKey, readKey]
    exact readOptional_of_none (hnone c hc)
  | some k =>
    refine readOptional_of_some ?_
    cases k with
    | nested body =>
      have hbody : IsRun isNestedChar body := h _ rfl
      have hread := hbody.readParenthesized_append (by decide) rest
      simp [Key.text, readKey, hread]
    | literal text =>
      have htext : IsRun isKeyChar text := h _ rfl
      obtain ⟨c, r, rfl⟩ := List.exists_cons_of_ne_nil htext.1
      have hdollar : c ≠ '$' := fun he =>
        htext.not_mem (c := '$') (by decide) (he ▸ List.mem_cons_self)
      have hread := htext.read_append hrest (by decide)
      simp only [Option.map_some, Option.getD_some, Key.text, List.cons_append] at hread ⊢
      unfold readKey
      split
      · rename_i heq
        exact absurd (List.cons.inj (List.cons.inj heq).2).1 hdollar
      · rename_i heq
        obtain ⟨-, rfl⟩ := List.cons.inj heq
        rw [hread]
        rfl
      · rename_i hno
        exact absurd rfl (hno _)

lemma readFilter_append {f : FilterCall} (h : f.WellFormed) {rest : Text}
    (hrest : BeginsIn afterKey rest) : readFilter (f.print ++ rest) = some (f, rest) := by
  obtain ⟨name, argument⟩ := f
  obtain ⟨hname, hargument⟩ := h
  cases argument with
  | none =>
    have hread := hname.read_append hrest (by decide)
    have hnone : readParenthesized isFilterArgumentChar rest = none := by
      obtain ⟨c, hc, r, rfl⟩ := hrest
      have hnone : ∀ c ∈ afterKey, readParenthesized isFilterArgumentChar (c :: r) = none := by
        simp [afterKey, readParenthesized]
      exact hnone c hc
    simp only [FilterCall.print, Option.map_none, Option.getD_none, List.append_nil,
      List.cons_append, readFilter, hread, Option.map_some, readOptional_of_none hnone]
  | some a =>
    have hopen : BeginsIn ['('] ('(' :: (a ++ ')' :: rest)) := .cons List.mem_cons_self _
    have hread := hname.read_append hopen (by decide)
    have harg := (hargument a rfl).readParenthesized_append (by decide) rest
    simp only [FilterCall.print, Option.map_some, Option.getD_some, List.cons_append,
      List.append_assoc, List.nil_append, readFilter, hread, readOptional_of_some harg]

lemma readBranch_append {b : Branch} (h : b.WellFormed) (rest : Text) :
    readBranch (b.print ++ rest) = some (b, rest) := by
  obtain ⟨opening, body, closing⟩ := b
  obtain ⟨hopening, hbody, hclosing⟩ := h
  have hquote : isBranchChar closing = false := by
    simp only [isQuote, Bool.or_eq_true, beq_iff_eq] at hclosing
    rcases hclosing with rfl | rfl <;> decide
  have hends : BeginsIn [closing] (closing :: rest) := .cons List.mem_cons_self rest
  have hread := hbody.read_append hends (by simpa using hquote)
  simp only [Branch.print, List.cons_append, List.append_assoc, List.nil_append, readBranch] at hread ⊢
  rw [if_pos hopening, hread]
  simp [hclosing]

lemma readFilter_eq_none {t : Text} (h : BeginsIn afterFilters t) : readFilter t = none := by
  obtain ⟨c, hc, r, rfl⟩ := h
  have hnone : ∀ c ∈ afterFilters, readFilter (c :: r) = none := by simp [afterFilters, readFilter]
  exact hnone c hc

lemma length_le_length_flatMap {α : Type} {print : α → Text} (hprint : ∀ x, print x ≠ [])
    (xs : List α) : xs.length ≤ (xs.flatMap print).length := by
  induction xs with
  | nil => exact Nat.zero_le _
  | cons x xs ih =>
    have hpos := List.length_pos_iff.mpr (hprint x)
    rw [List.flatMap_cons, List.length_append, List.length_cons]
    omega

lemma BeginsIn.optional {cs : List Char} {rest : Text} (h : BeginsIn cs rest) {α : Type} (c : Char)
    (part : Option α) (text : α → Text) :
    BeginsIn (c :: cs) ((part.map fun a => c :: text a).getD [] ++ rest) := by
  cases part with
  | none => exact h.mono (List.subset_cons_self c cs)
  | some a => exact .cons List.mem_cons_self _

/-- A well-formed placeholder is read back from its written form, whatever follows. -/
theorem Placeholder.read_print {p : Placeholder} (h : p.WellFormed) (rest : Text) :
    Placeholder.read (p.print ++ rest) = some (p, rest) := by
  obtain ⟨path, digits, key, filters, branches⟩ := p
  obtain ⟨hpath, hdigits, hkey, hfilters, hlength, hbranches⟩ := h
  -- What follows a part decides where it ends, so the text is put together from its end.
  have hend : BeginsIn afterFilters (')' :: rest) := .cons (by decide) rest
  obtain ⟨hreadBranches, hfromBranches⟩ :=
    readMany_append (fun b r => .cons (by decide) _)
      (fun b hb r _ => readBranch_append (hbranches b hb) r) hend rfl hlength
  have hlimit : filters.length ≤
      (filters.flatMap FilterCall.print ++ (branches.flatMap Branch.print ++ ')' :: rest)).length := by
    rw [List.length_append]
    exact (length_le_length_flatMap (fun f => List.cons_ne_nil _ _) filters).trans
      (Nat.le_add_right _ _)
  obtain ⟨hreadFilters, hfromFilters⟩ :=
    readMany_append (fun f r => .cons (by decide) _)
      (fun f hf r hr => readFilter_append (hfilters f hf) hr) (hfromBranches.mono (by decide))
      (readFilter_eq_none hfromBranches) hlimit
  have hfromKey : BeginsIn afterNumber _ := hfromFilters.optional ':' key Key.text
  have hfromNumber : BeginsIn afterPath _ := hfromKey.optional ';' digits id
  have hreadPath := hpath.read_append hfromNumber (by decide)
  have hreadNumber := readNumber_append hdigits hfromKey
  have hreadKey := readKey_append hkey hfromFilters
  simp only [id] at hreadPath
  simp only [Placeholder.print, List.append_assoc, List.cons_append, List.nil_append,
    Placeholder.read, hreadPath, hreadNumber, hreadKey, hreadFilters, hreadBranches]

end CommandBot.Template
