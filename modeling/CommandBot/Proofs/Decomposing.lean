import CommandBot.Proofs.PlaceholderForms
import CommandBot.Proofs.SegmentTables

/-!
# Taking a text apart

What a matcher reads may depend on nothing but the characters that it takes. Then a scan takes a text
apart into needles and the gaps between them: nothing is found in a gap by itself, and a needle by
itself is found as it is in the text. Placeholders are read that way, and their written form tells
which one it is, so the table of a text loses no entry by having each written form once.
-/

namespace CommandBot

/-- Whatever follows the characters that a matcher takes, it takes them and reads the same. -/
def Text.Matcher.ContextFree {α : Type} (m : Text.Matcher α) : Prop :=
  ∀ {read rest : Text} {a : α}, m (read ++ rest) = some (a, rest) →
    ∀ more, m (read ++ more) = some (a, more)

namespace Template

/-- A text with needles in it: what stands before the first, and each needle with what follows it. -/
def woven (first : Text) : List (Text × Text) → Text
  | [] => first
  | (needle, gap) :: rest => first ++ needle ++ woven gap rest

/-- A text keeps some needles if it has all of them, in order and apart from each other. -/
def Keeps (needles : List Text) (t : Text) : Prop :=
  ∃ first rest, rest.map Prod.fst = needles ∧ t = woven first rest

lemma woven_eq_append (first : Text) (rest : List (Text × Text)) :
    woven first rest = first ++ woven [] rest := by
  cases rest <;> simp [woven]

lemma Keeps.isInfix {t : Text} {needles : List Text} (h : Keeps needles t) {needle : Text}
    (hmem : needle ∈ needles) : needle <:+: t := by
  obtain ⟨first, rest, rfl, rfl⟩ := h
  induction rest generalizing first with
  | nil => cases hmem
  | cons r rest ih =>
    obtain ⟨other, gap⟩ := r
    rw [woven]
    rcases List.mem_cons.mp hmem with rfl | hmem
    · exact List.infix_append first needle _
    · exact (ih gap hmem).trans (List.suffix_append _ _).isInfix

section Scan

variable {α : Type} {m : Text.Matcher α}

/-- A scan takes a text apart into the needles it finds and gaps in which it finds nothing. -/
theorem exists_woven_occurrences (hm : m.Consumes) (hfree : m.ContextFree) (t : Text) :
    ∃ first rest, t = woven first rest ∧
      rest.map Prod.fst = (Text.occurrences m t).map Prod.fst ∧
      ∀ gap ∈ first :: rest.map Prod.snd, Text.occurrences m gap = [] := by
  induction t using hm.scan_induction with
  | nil => exact ⟨[], [], rfl, rfl, by simp⟩
  | skip c r hnone ih =>
    obtain ⟨first, rest, rfl, hneedles, hgaps⟩ := ih
    obtain ⟨hfirst, hrest⟩ := List.forall_mem_cons.mp hgaps
    -- What is read at the head of the gap by itself is read there in the text as well.
    have hhead : m (c :: first) = none := by
      rw [Option.eq_none_iff_forall_ne_some]
      rintro ⟨a, later⟩ hread
      obtain ⟨read, -, he⟩ := hm _ _ _ hread
      rw [he] at hread
      have htext := hfree hread (later ++ woven [] rest)
      rw [← List.append_assoc, ← he, List.cons_append, ← woven_eq_append, hnone] at htext
      cases htext
    refine ⟨c :: first, rest, ?_, ?_, List.forall_mem_cons.mpr ⟨?_, hrest⟩⟩
    · rw [woven_eq_append, woven_eq_append (c :: first), List.cons_append]
    · rw [hneedles, Text.occurrences_cons_of_none hnone]
    · rw [Text.occurrences_cons_of_none hhead, hfirst]
  | hit read a later hne hsome ih =>
    obtain ⟨first, rest, rfl, hneedles, hgaps⟩ := ih
    refine ⟨[], (read, first) :: rest, rfl, ?_, List.forall_mem_cons.mpr ⟨rfl, hgaps⟩⟩
    rw [Text.occurrences_of_some hsome rfl hne, List.map_cons, List.map_cons, hneedles]

/-- A needle by itself is found as it is in the text. -/
theorem occurrences_of_mem_occurrences (hm : m.Consumes) (hfree : m.ContextFree) {t needle : Text}
    {a : α} (h : (needle, a) ∈ Text.occurrences m t) :
    Text.occurrences m needle = [(needle, a)] := by
  obtain ⟨rest, -, hread⟩ := Text.exists_suffix_of_mem_occurrences hm h
  obtain ⟨read, hne, he⟩ := hm _ _ _ hread
  obtain rfl : needle = read := List.append_cancel_right he
  have halone : m needle = some (a, []) := by simpa using hfree hread []
  rw [Text.occurrences_of_some halone (List.append_nil needle).symm hne, Text.occurrences_nil]

end Scan

lemma Placeholder.read_contextFree : Text.Matcher.ContextFree Placeholder.read := by
  intro read rest p h more
  obtain ⟨hformed, he⟩ := read_eq_some_iff.mp h
  obtain rfl : read = p.print := List.append_cancel_right he
  exact read_print hformed more

/-- What a scan finds is the written form of the placeholder that it reads there. -/
lemma occurrences_read (t : Text) :
    Text.occurrences Placeholder.read t = (placeholders t).map fun p => (p.print, p) := by
  rw [placeholders, List.map_map]
  refine (List.map_id _).symm.trans (List.map_congr_left fun found hfound => ?_)
  obtain ⟨needle, p⟩ := found
  obtain ⟨-, rfl⟩ := Placeholder.reads_read.of_found_mem Placeholder.print_ne_nil
    (Text.found_mem_pieces_iff.mpr hfound)
  rfl

/-- A text is made of its placeholders and of gaps in which there are none. -/
lemma exists_woven_placeholders (t : Text) : ∃ first rest, t = woven first rest ∧
    rest.map Prod.fst = (placeholders t).map Placeholder.print ∧
    ∀ gap ∈ first :: rest.map Prod.snd, placeholders gap = [] := by
  obtain ⟨first, rest, ht, hneedles, hgaps⟩ :=
    exists_woven_occurrences Placeholder.read_consumes Placeholder.read_contextFree t
  refine ⟨first, rest, ht, ?_, fun gap hgap => ?_⟩
  · rw [hneedles, occurrences_read, List.map_map]
    rfl
  · rw [placeholders, hgaps gap hgap, List.map_nil]

theorem keeps_placeholders (t : Text) : Keeps ((placeholders t).map Placeholder.print) t := by
  obtain ⟨first, rest, ht, hneedles, -⟩ := exists_woven_placeholders t
  exact ⟨first, rest, hneedles, ht⟩

/-- The entry that a placeholder by itself has in a table. -/
def Placeholder.substitution? (families : Registry Family) (p : Placeholder) : Option Substitution :=
  if p.path = conditionalPath then conditionalOf? (substitutions families) p
  else variableOf? families p

/-- Placeholders in the order of a table. -/
def conditionalsFirst (ps : List Placeholder) : List Placeholder :=
  ps.filter (·.path == conditionalPath) ++ ps.filter (·.path != conditionalPath)

lemma mem_conditionalsFirst {ps : List Placeholder} {p : Placeholder} :
    p ∈ conditionalsFirst ps ↔ p ∈ ps := by
  simp [conditionalsFirst, ← and_or_left, em]

lemma Placeholder.substitution?_slot {families : Registry Family} {p : Placeholder} {s : Substitution}
    (h : p.substitution? families = some s) : s.slot = .ofPlaceholder p := by
  rw [substitution?] at h
  split at h
  · exact conditionalOf?_slot h
  · exact variableOf?_slot h

/-- The table of a text has the entry of each of its placeholders, once. -/
theorem substitutions_eq (families : Registry Family) (t : Text) :
    substitutions families t =
      (conditionalsFirst (placeholders t)).eraseDups.filterMap (·.substitution? families) := by
  have hconditionals : ∀ table, ∀ p ∈ (placeholders t).filter (·.path == conditionalPath),
      addEntry (conditionalOf? (substitutionsFrom families t.length)) table p =
        addEntry (·.substitution? families) table p := by
    intro table p hp
    obtain ⟨hmem, hpath⟩ := List.mem_filter.mp hp
    obtain ⟨hformed, hinfix⟩ := of_mem_placeholders hmem
    have hle := hinfix.length_le
    have hentry : conditionalOf? (substitutionsFrom families t.length) p =
        p.substitution? families := by
      rw [Placeholder.substitution?, if_pos (eq_of_beq hpath)]
      refine conditionalOf?_congr fun u hu => substitutionsFrom_eq families ?_
      exact (hu.length_lt hformed).trans_le hle
    rw [addEntry, addEntry, hentry]
  have hvariables : ∀ table, ∀ p ∈ (placeholders t).filter (·.path != conditionalPath),
      addEntry (variableOf? families) table p = addEntry (·.substitution? families) table p := by
    intro table p hp
    have hentry : p.substitution? families = variableOf? families p :=
      if_neg (by simpa using (List.mem_filter.mp hp).2)
    rw [addEntry, addEntry, hentry]
  have hinj : ∀ p ∈ conditionalsFirst (placeholders t), ∀ q ∈ conditionalsFirst (placeholders t),
      p.print = q.print → p = q := fun p hp q hq => Placeholder.print_injective
    (of_mem_placeholders (mem_conditionalsFirst.mp hp)).1
    (of_mem_placeholders (mem_conditionalsFirst.mp hq)).1
  have honce := foldl_once (fun s : Substitution => s.slot.needle) Placeholder.print
    (Placeholder.substitution? families)
    (fun p _ s hs => by rw [Placeholder.substitution?_slot hs, Slot.ofPlaceholder]) hinj
  rw [← honce, conditionalsFirst, List.foldl_append, substitutions, substitutionsFrom,
    List.foldl_ext _ _ _ hconditionals, List.foldl_ext _ _ _ hvariables]
  rfl

lemma mem_substitutions_iff {families : Registry Family} {t : Text} {s : Substitution} :
    s ∈ substitutions families t ↔ ∃ p ∈ placeholders t, p.substitution? families = some s := by
  simp only [substitutions_eq, List.mem_filterMap, List.mem_eraseDups, mem_conditionalsFirst]

/-- A scan takes a text apart into the written forms of its placeholders and gaps between them. No gap
has a placeholder by itself, and each written form by itself is scanned as the one placeholder that it
is in the text. So placeholders with the same written form agree in every part, and the table of the
text, which takes each written form once, misses no entry. -/
theorem scan_decomposes (t : Text) :
    Text.occurrences Placeholder.read t = (placeholders t).map (fun p => (p.print, p)) ∧
    (∃ first rest, t = woven first rest ∧
      rest.map Prod.fst = (placeholders t).map Placeholder.print ∧
      ∀ gap ∈ first :: rest.map Prod.snd, placeholders gap = []) ∧
    (∀ p ∈ placeholders t, placeholders p.print = [p]) ∧
    (∀ p ∈ placeholders t, ∀ u, ∀ q ∈ placeholders u, p.print = q.print → p = q) ∧
    ∀ families, substitutions families t =
        (conditionalsFirst (placeholders t)).eraseDups.filterMap (·.substitution? families) ∧
      ∀ s, s ∈ substitutions families t ↔
        ∃ p ∈ placeholders t, p.substitution? families = some s := by
  refine ⟨occurrences_read t, exists_woven_placeholders t, fun p hp => ?_, fun p hp u q hq => ?_,
    fun families => ?_⟩
  · have hmem : (p.print, p) ∈ Text.occurrences Placeholder.read t := by
      rw [occurrences_read]
      exact List.mem_map_of_mem hp
    rw [placeholders, occurrences_of_mem_occurrences Placeholder.read_consumes
      Placeholder.read_contextFree hmem, List.map_singleton]
  · exact Placeholder.print_injective (of_mem_placeholders hp).1 (of_mem_placeholders hq).1
  · exact ⟨substitutions_eq families t, fun s => mem_substitutions_iff⟩

example : placeholders "$($(user)$(user".toList = [⟨"user".toList, none, none, [], []⟩] := by
  decide +kernel

end Template

end CommandBot
