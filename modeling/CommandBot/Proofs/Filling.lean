import CommandBot.Proofs.Scanning
import CommandBot.Proofs.Spans
import CommandBot.Template.Render
import Mathlib.Tactic.Lemma

/-!
# What filling in leaves alone

Filling in a template replaces needles, one after the other: the written forms of its named
placeholders, and then those of its positional ones. So whatever the replacement of each of these
needles preserves holds of the response, whatever the values are. All needles stand between `$(` and
`)`.
-/

namespace CommandBot.Template

/-- A text between `$(` and `)`. -/
def Enclosed (t : Text) : Prop := ∃ inside, t = ['$', '('] ++ inside ++ [')']

lemma Enclosed.ne_nil {t : Text} (h : Enclosed t) : t ≠ [] := by
  obtain ⟨inside, rfl⟩ := h
  simp

lemma Placeholder.enclosed_print (p : Placeholder) : Enclosed p.print := by
  refine ⟨p.path ++ (p.digits.map (';' :: ·)).getD [] ++ (p.key.map fun k => ':' :: k.text).getD [] ++
    p.filters.flatMap FilterCall.print ++ p.branches.flatMap Branch.print, ?_⟩
  simp only [Placeholder.print, List.append_assoc]

lemma Positional.enclosed_print (p : Positional) : Enclosed p.print := ⟨p.digits, rfl⟩

lemma conditionalOf?_slot {tableOf : Text → List Substitution} {p : Placeholder} {s : Substitution}
    (h : conditionalOf? tableOf p = some s) : s.slot = .ofPlaceholder p := by
  simp only [conditionalOf?, Option.bind_eq_bind, Option.bind_eq_some_iff] at h
  obtain ⟨_, -, _, -, _, -, hs⟩ := h
  obtain rfl := Option.some.inj hs
  rfl

lemma variableOf?_slot {families : Registry Family} {p : Placeholder} {s : Substitution}
    (h : variableOf? families p = some s) : s.slot = .ofPlaceholder p := by
  obtain ⟨family, -, rfl⟩ := Option.map_eq_some_iff.mp h
  rfl

lemma forall_mem_foldl_addEntry {build : Placeholder → Option Substitution}
    {P : Substitution → Prop} (hbuild : ∀ p s, build p = some s → P s) (ps : List Placeholder)
    {table : List Substitution} (htable : ∀ s ∈ table, P s) :
    ∀ s ∈ ps.foldl (addEntry build) table, P s := by
  refine List.foldlRecOn (motive := fun table => ∀ s ∈ table, P s) ps _ htable ?_
  intro table htable p _ s hs
  rw [addEntry] at hs
  split at hs
  · exact htable s hs
  · rcases List.mem_append.mp hs with hs | hs
    · exact htable s hs
    · exact hbuild p s (Option.mem_toList.mp hs)

/-- Every entry of a table has the slot of a placeholder. -/
theorem exists_slot_of_mem_substitutions {families : Registry Family} {t : Text} {s : Substitution}
    (h : s ∈ substitutions families t) : ∃ p : Placeholder, s.slot = .ofPlaceholder p := by
  rw [substitutions, substitutionsFrom] at h
  refine forall_mem_foldl_addEntry (P := fun s => ∃ p : Placeholder, s.slot = .ofPlaceholder p)
    (fun p s hs => ⟨p, variableOf?_slot hs⟩) _ ?_ s h
  exact forall_mem_foldl_addEntry (fun p s hs => ⟨p, conditionalOf?_slot hs⟩) _ (by simp)

lemma enclosed_of_mem_substitutions {families : Registry Family} {t : Text} {s : Substitution}
    (h : s ∈ substitutions families t) : Enclosed s.slot.needle := by
  obtain ⟨p, hslot⟩ := exists_slot_of_mem_substitutions h
  rw [hslot]
  exact p.enclosed_print

lemma readRun_eq_some {p : Char → Bool} {t run rest : Text} (h : readRun p t = some (run, rest)) :
    run ≠ [] ∧ (∀ c ∈ run, p c = true) ∧ t = run ++ rest := by
  rw [readRun, Text.nonEmpty?] at h
  split at h
  · simp at h
  · rename_i hne
    obtain ⟨rfl, rfl⟩ := Prod.mk.inj (Option.some.inj h)
    exact ⟨by simpa using hne, fun c hc => Text.of_mem_takeWhile hc,
      List.takeWhile_append_dropWhile.symm⟩

lemma Positional.of_read_eq_some {t digits rest : Text} (h : read t = some (digits, rest)) :
    (∀ c ∈ digits, c.isDigit = true) ∧ t = ['$', '('] ++ digits ++ [')'] ++ rest := by
  unfold read at h
  split at h
  · rename_i r
    unfold readParenthesized at h
    split at h
    · rename_i r
      split at h
      · rename_i run rest' hrun
        obtain ⟨rfl, rfl⟩ := Prod.mk.inj (Option.some.inj h)
        obtain ⟨-, hdigits, rfl⟩ := readRun_eq_some hrun
        exact ⟨hdigits, by simp⟩
      · simp at h
    · simp at h
  · simp at h

lemma Positional.read_consumes : Text.Matcher.Consumes Positional.read := by
  intro t digits rest h
  obtain ⟨-, he⟩ := Positional.of_read_eq_some h
  exact ⟨_, by simp, he⟩

lemma isDigit_of_mem_positionals {t : Text} {p : Positional} (h : p ∈ positionals t) :
    ∀ c ∈ p.digits, c.isDigit = true := by
  obtain ⟨⟨needle, digits⟩, hmem, hp⟩ := List.mem_filterMap.mp h
  obtain ⟨number, -, rfl⟩ := Option.map_eq_some_iff.mp hp
  obtain ⟨rest, -, hread⟩ :=
    Text.exists_suffix_of_mem_occurrences Positional.read_consumes hmem
  exact (Positional.of_read_eq_some hread).1

lemma mem_positionals_of_mem_positionalTable {t : Text} {p : Positional}
    (h : p ∈ positionalTable t) : p ∈ positionals t := by
  refine List.foldlRecOn (motive := fun table => ∀ q ∈ table, q ∈ positionals t) (positionals t) _
    (by simp) ?_ p h
  intro table htable q hq q' hq'
  split at hq'
  · exact htable q' hq'
  · rcases List.mem_append.mp hq' with hq' | hq'
    · exact htable q' hq'
    · obtain rfl := List.mem_singleton.mp hq'
      exact hq

/-- What each replacement of a table preserves holds after all of them. -/
theorem fillTable_preserves {apply : FilterCaller} {P : Text → Prop} {table : List Substitution}
    (hstep : ∀ s ∈ table, ∀ t value, P t → P (t.replaceAll s.slot.needle value)) {t t' : Text}
    {ctx ctx' : Context} (ht : P t) (h : fillTable apply table t ctx = (some t', ctx')) : P t' := by
  induction table generalizing t ctx with
  | nil =>
    rw [fillTable] at h
    obtain rfl := Option.some.inj (Prod.mk.inj h).1
    exact ht
  | cons s table ih =>
    rw [fillTable] at h
    split at h
    · simp at h
    · split at h
      · simp at h
      · split at h
        · simp at h
        · exact ih (fun s' hs' => hstep s' (List.mem_cons_of_mem s hs'))
            (hstep s List.mem_cons_self _ _ ht) h

theorem fillPositionals_preserves {message : Option Text} {P : Text → Prop}
    {table : List Positional} (hstep : ∀ p ∈ table, ∀ t value, P t → P (t.replaceAll p.print value))
    {t : Text} (ht : P t) : P (fillPositionals message table t) := by
  exact List.foldlRecOn (motive := P) table _ ht fun u hu p hp => hstep p hp u _ hu

/-- What the replacement of every needle of a template preserves, and holds of its text, holds of
its response. -/
theorem render_preserves {apply : FilterCaller} {P : Text → Prop} {t : Template}
    (hnamed : ∀ s ∈ substitutions t.families t.text, ∀ u value, P u →
      P (u.replaceAll s.slot.needle value))
    (hpositional : ∀ p ∈ positionals t.text, ∀ u value, P u → P (u.replaceAll p.print value))
    (ht : P t.text) {ctx ctx' : Context} {response : Text}
    (h : t.render apply ctx = (some response, ctx')) : P response := by
  rw [render] at h
  cases hfill : fillTable apply (substitutions t.families t.text) t.text ctx with
  | mk filled ctx'' =>
    rw [hfill] at h
    obtain ⟨hresponse, -⟩ := Prod.mk.inj h
    obtain ⟨u, rfl, rfl⟩ := Option.map_eq_some_iff.mp hresponse
    exact fillPositionals_preserves
      (fun p hp => hpositional p (mem_positionals_of_mem_positionalTable hp))
      (fillTable_preserves hnamed ht hfill)

end CommandBot.Template
