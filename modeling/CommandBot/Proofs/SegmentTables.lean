import CommandBot.Proofs.Segments

/-!
# The tables of templates in segments

Making a table goes through the placeholders of a text and drops those whose written form, or whose
number, is in it already. Nothing is lost that way where the written form of a placeholder tells
which one it is and every number has one spelling.
-/

namespace CommandBot.Template

section Once

variable {α β κ : Type} [DecidableEq α] [BEq κ] [LawfulBEq κ] (key : β → κ) (keyOf : α → κ)
  (build : α → Option β)

/-- Adding entries unless their key is there already makes the entry of each thing once, if a key tells
what it was made of. -/
lemma foldl_once {xs : List α} (hkey : ∀ x ∈ xs, ∀ b, build x = some b → key b = keyOf x)
    (hinj : ∀ x ∈ xs, ∀ y ∈ xs, keyOf x = keyOf y → x = y) :
    xs.foldl (fun table x =>
        if table.any (key · == keyOf x) then table else table ++ (build x).toList) [] =
      xs.eraseDups.filterMap build := by
  induction xs using List.reverseRecOn with
  | nil => rfl
  | append_singleton xs x ih =>
    have hsub : ∀ y ∈ xs, y ∈ xs ++ [x] := fun y hy => List.mem_append_left [x] hy
    have hx : x ∈ xs ++ [x] := List.mem_append_right xs List.mem_cons_self
    have ih := ih (fun y hy => hkey y (hsub y hy)) fun y hy z hz => hinj y (hsub y hy) z (hsub z hz)
    have hany : (xs.eraseDups.filterMap build).any (key · == keyOf x) = true ↔
        x ∈ xs ∧ (build x).isSome = true := by
      simp only [List.any_eq_true, List.mem_filterMap, List.mem_eraseDups, beq_iff_eq,
        Option.isSome_iff_exists]
      constructor
      · rintro ⟨b, ⟨y, hy, hbuild⟩, he⟩
        -- The key is taken by an entry that was made of the same thing.
        obtain rfl : y = x := hinj y (hsub y hy) x hx ((hkey y (hsub y hy) b hbuild).symm.trans he)
        exact ⟨hy, b, hbuild⟩
      · rintro ⟨hmem, b, hbuild⟩
        exact ⟨b, ⟨x, hmem, hbuild⟩, hkey x hx b hbuild⟩
    rw [List.foldl_append, List.foldl_cons, List.foldl_nil, ih, if_congr hany rfl rfl,
      List.eraseDups_append, List.filterMap_append]
    by_cases hmem : x ∈ xs
    · have hnone : ([x].removeAll xs).eraseDups = [] := by simp [List.removeAll, hmem]
      cases hbuild : build x <;> simp [hmem, hnone]
    · have hnew : ([x].removeAll xs).eraseDups = [x] := by
        simp [List.removeAll, hmem, List.eraseDups_cons]
      cases hbuild : build x <;> simp [hmem, hnew, hbuild]

lemma mem_foldl_once {xs : List α} (hkey : ∀ x ∈ xs, ∀ b, build x = some b → key b = keyOf x)
    (hinj : ∀ x ∈ xs, ∀ y ∈ xs, keyOf x = keyOf y → x = y) (b : β) :
    b ∈ xs.foldl (fun table x =>
        if table.any (key · == keyOf x) then table else table ++ (build x).toList) [] ↔
      ∃ x ∈ xs, build x = some b := by
  simp only [foldl_once key keyOf build hkey hinj, List.mem_filterMap, List.mem_eraseDups]

end Once

lemma foldl_addEntry_of_none {build : Placeholder → Option Substitution} {ps : List Placeholder}
    (h : ∀ p ∈ ps, build p = none) (table : List Substitution) :
    ps.foldl (addEntry build) table = table := by
  induction ps generalizing table with
  | nil => rfl
  | cons p ps ih =>
    obtain ⟨hp, hps⟩ := List.forall_mem_cons.mp h
    have hstep : addEntry build table p = table := by simp [addEntry, hp]
    rw [List.foldl_cons, hstep, ih hps]

/-- The family that fills a placeholder in. Conditionals have none. -/
def Placeholder.family? (families : Registry Family) (p : Placeholder) : Option Family :=
  if p.path = conditionalPath then none else families.get? p.path

/-- The substitution that a segment stands for, if it is a placeholder with a family. -/
def Segment.substitution? (families : Registry Family) (s : Segment) : Option Substitution :=
  s.placeholder?.bind fun p => (p.family? families).map (.variable (.ofPlaceholder p))

lemma conditionalOf?_of_branches_eq_nil {tableOf : Text → List Substitution} {p : Placeholder}
    (h : p.branches = []) : conditionalOf? tableOf p = none := by
  simp only [conditionalOf?, h, List.head?_nil]
  cases p.keyText? <;> rfl

lemma conditionalOf?_of_isSimple {tableOf : Text → List Substitution} {p : Placeholder}
    (h : p.IsSimple) : conditionalOf? tableOf p = none :=
  conditionalOf?_of_branches_eq_nil h.2.2

lemma Placeholder.print_injective {p q : Placeholder} (hp : p.WellFormed) (hq : q.WellFormed)
    (h : p.print = q.print) : p = q := by
  have hread := read_print hp []
  rw [h, read_print hq] at hread
  exact (Prod.mk.inj (Option.some.inj hread)).1.symm

variable {families : Registry Family} {segments : List Segment}

lemma placeholders_printAll (h : ∀ s ∈ segments, s.WellFormed) :
    placeholders (printAll segments) = segments.filterMap Segment.placeholder? := by
  have hscan := placeholders_append h []
  rwa [List.append_nil, show placeholders [] = [] from rfl, List.append_nil] at hscan

lemma Segment.placeholder?_eq_some_iff {s : Segment} {p : Placeholder} :
    s.placeholder? = some p ↔ s = .named p := by
  cases s <;> simp [placeholder?]

lemma mem_filterMap_placeholder? {p : Placeholder} :
    p ∈ segments.filterMap Segment.placeholder? ↔ .named p ∈ segments := by
  simp [List.mem_filterMap, Segment.placeholder?_eq_some_iff]

lemma Segment.substitution?_eq_some_iff {s : Segment} {entry : Substitution} :
    s.substitution? families = some entry ↔
      ∃ p, s = .named p ∧ p.path ≠ conditionalPath ∧ variableOf? families p = some entry := by
  simp only [substitution?, Option.bind_eq_some_iff, placeholder?_eq_some_iff]
  refine exists_congr fun p => and_congr_right fun _ => ?_
  by_cases hpath : p.path = conditionalPath
  · simp [Placeholder.family?, hpath]
  · simp [Placeholder.family?, variableOf?, hpath]

/-- A template in segments has no conditionals, so its table does not depend on the depth. -/
lemma substitutionsFrom_printAll (families : Registry Family) (h : ∀ s ∈ segments, s.WellFormed)
    (depth : Nat) :
    substitutionsFrom families (depth + 1) (printAll segments) =
      ((segments.filterMap Segment.placeholder?).filter (·.path != conditionalPath)).foldl
        (addEntry (variableOf? families)) [] := by
  have hconditionals : ∀ p ∈ (segments.filterMap Segment.placeholder?).filter
      (·.path == conditionalPath), conditionalOf? (substitutionsFrom families depth) p = none :=
    fun p hp => conditionalOf?_of_isSimple
      (h _ (mem_filterMap_placeholder?.mp (List.mem_of_mem_filter hp)))
  rw [substitutionsFrom, placeholders_printAll h]
  simp only [foldl_addEntry_of_none hconditionals]

/-- The table of a template in segments has the substitutions that its segments stand for. -/
theorem mem_substitutionsFrom_printAll (families : Registry Family)
    (h : ∀ s ∈ segments, s.WellFormed) (depth : Nat) (s : Substitution) :
    s ∈ substitutionsFrom families (depth + 1) (printAll segments) ↔
      ∃ segment ∈ segments, segment.substitution? families = some s := by
  have hsimple : ∀ p ∈ segments.filterMap Segment.placeholder?, p.IsSimple :=
    fun p hp => h _ (mem_filterMap_placeholder?.mp hp)
  have hinj : ∀ p ∈ (segments.filterMap Segment.placeholder?).filter (·.path != conditionalPath),
      ∀ q ∈ (segments.filterMap Segment.placeholder?).filter (·.path != conditionalPath),
        p.print = q.print → p = q :=
    fun p hp q hq => Placeholder.print_injective (hsimple p (List.mem_of_mem_filter hp)).1
      (hsimple q (List.mem_of_mem_filter hq)).1
  have honce := mem_foldl_once (fun s : Substitution => s.slot.needle) Placeholder.print
    (variableOf? families) (fun p _ s hs => by rw [variableOf?_slot hs, Slot.ofPlaceholder]) hinj s
  rw [substitutionsFrom_printAll families h]
  refine honce.trans ?_
  simp only [List.mem_filter, mem_filterMap_placeholder?, bne_iff_ne,
    Segment.substitution?_eq_some_iff]
  constructor
  · rintro ⟨p, ⟨hmem, hpath⟩, hs⟩
    exact ⟨_, hmem, p, rfl, hpath, hs⟩
  · rintro ⟨_, hmem, p, rfl, hpath, hs⟩
    exact ⟨p, ⟨hmem, hpath⟩, hs⟩

lemma positionals_printAll (h : ∀ s ∈ segments, s.WellFormed) :
    positionals (printAll segments) =
      (segments.filterMap Segment.digits?).map Positional.ofDigits := by
  have hscan := positionals_append h []
  rwa [List.append_nil, show positionals [] = [] from rfl, List.append_nil] at hscan

lemma Segment.digits?_eq_some_iff {s : Segment} {d : Text} :
    s.digits? = some d ↔ s = .positional d := by
  cases s <;> simp [digits?]

lemma mem_filterMap_digits? {d : Text} :
    d ∈ segments.filterMap Segment.digits? ↔ .positional d ∈ segments := by
  simp [List.mem_filterMap, Segment.digits?_eq_some_iff]

/-- The positional table of a text has all its positional placeholders, if every number has one
spelling. -/
theorem mem_positionalTable_iff {t : Text} {digits : List Text}
    (hscan : positionals t = digits.map Positional.ofDigits) (hspelling : OneSpelling digits)
    (p : Positional) : p ∈ positionalTable t ↔ ∃ d ∈ digits, Positional.ofDigits d = p := by
  have hinj : ∀ p ∈ positionals t, ∀ q ∈ positionals t, p.number = q.number → p = q := by
    rw [hscan]
    intro p hp q hq hnumber
    obtain ⟨d, hd, rfl⟩ := List.mem_map.mp hp
    obtain ⟨e, he, rfl⟩ := List.mem_map.mp hq
    rw [hspelling d hd e he hnumber]
  have honce := mem_foldl_once Positional.number Positional.number some
    (fun p _ q hq => by rw [Option.some.inj hq]) hinj p
  rw [← List.mem_map, ← hscan]
  refine honce.trans ?_
  simp

end CommandBot.Template
