import CommandBot.Proofs.Replacing
import CommandBot.Proofs.Spans
import CommandBot.Registry

/-!
# Replacing needles in turn

A table of needles with their values is worked off from its head, each needle being replaced in the
text that the ones before it left. In a text of pieces that is the same as replacing all needles at
once, as long as every needle meets a piece whole or not at all and no value brings a later needle
in.
-/

namespace CommandBot.Text

/-- A needle cannot begin anywhere in a text, whatever follows the text: no end of it starts the
needle or starts with it. -/
def Avoids (needle t : Text) : Prop := ∀ u ∈ t.tails, u ≠ [] → ¬u <+: needle ∧ ¬needle <+: u

instance (needle t : Text) : Decidable (Avoids needle t) :=
  inferInstanceAs (Decidable (∀ u ∈ t.tails, u ≠ [] → ¬u <+: needle ∧ ¬needle <+: u))

variable {needle value t u : Text}

namespace Avoids

lemma not_isPrefix (h : Avoids needle t) (hu : u <:+ t) (hne : u ≠ []) (rest : Text) :
    ¬needle <+: u ++ rest := by
  intro hstart
  obtain ⟨hbegun, hwhole⟩ := h u ((List.mem_tails u t).mpr hu) hne
  rcases List.prefix_or_prefix_of_prefix hstart (List.prefix_append u rest) with hin | hover
  · exact hwhole hin
  · exact hbegun hover

lemma apart (h : Avoids needle t) (rest : Text) : Apart needle t rest :=
  fun _ hu hne hstart => absurd hstart (h.not_isPrefix hu hne rest)

lemma not_isInfix (h : Avoids needle t) (hneedle : needle ≠ []) : ¬needle <:+: t := by
  rintro ⟨before, after, rfl⟩
  have hsuffix : needle ++ after <:+ before ++ needle ++ after :=
    ⟨before, (List.append_assoc _ _ _).symm⟩
  refine h.not_isPrefix hsuffix (by simp [hneedle]) [] ?_
  rw [List.append_nil]
  exact List.prefix_append needle after

lemma ne_needle (h : Avoids needle t) (hneedle : needle ≠ []) : t ≠ needle := by
  rintro rfl
  exact h.not_isInfix hneedle List.infix_rfl

/-- A text without the first character of a needle avoids it. -/
lemma of_not_mem {c : Char} {r : Text} (hc : c ∉ t) : Avoids (c :: r) t := by
  intro u hu hne
  have hsub : u ⊆ t := ((List.mem_tails u t).mp hu).subset
  obtain ⟨d, v, rfl⟩ := List.exists_cons_of_ne_nil hne
  have hdc : d ≠ c := fun he => hc (he ▸ hsub List.mem_cons_self)
  exact ⟨fun hp => hdc (List.cons_prefix_cons.mp hp).1,
    fun hp => hdc (List.cons_prefix_cons.mp hp).1.symm⟩

/-- What begins with the first character of the needle and has no other avoids the needle, unless it
starts the needle or starts with it. -/
lemma cons {c : Char} {r v : Text} (hc : c ∉ v)
    (hstart : ∀ rest, ¬(c :: r) <+: c :: v ++ rest) : Avoids (c :: r) (c :: v) := by
  intro u hu hne
  rw [List.mem_tails, List.suffix_cons_iff] at hu
  rcases hu with rfl | hu
  · refine ⟨fun hp => ?_, fun hp => hstart [] (by rwa [List.append_nil])⟩
    obtain ⟨rest, he⟩ := hp
    exact hstart rest (he ▸ List.prefix_refl _)
  · exact of_not_mem hc u ((List.mem_tails u v).mpr hu) hne

end Avoids

/-- Replacing a needle in a text of pieces replaces it piece by piece. -/
theorem replaceAll_flatten (hneedle : needle ≠ []) (value : Text) {pieces : List Text}
    (hpieces : ∀ x ∈ pieces, x = needle ∨ Avoids needle x) :
    replaceAll pieces.flatten needle value =
      (pieces.map fun x => if x = needle then value else x).flatten := by
  induction pieces with
  | nil => rfl
  | cons x pieces ih =>
    obtain ⟨hx, hrest⟩ := List.forall_mem_cons.mp hpieces
    rw [List.flatten_cons, List.map_cons, List.flatten_cons]
    rcases hx with rfl | hx
    · rw [replaceAll_needle_append hneedle, if_pos rfl, ih hrest]
    · rw [replaceAll_append_of_apart hneedle value (hx.apart _),
        replaceAll_of_not_infix hneedle value (hx.not_isInfix hneedle),
        if_neg (hx.ne_needle hneedle), ih hrest]

/-- A text with the needles of a table replaced by their values, in order. -/
def replaceInTurn (table : List (Text × Text)) (t : Text) : Text :=
  table.foldl (fun t r => t.replaceAll r.1 r.2) t

/-- What a piece is replaced by if it is one of the needles. -/
def replacement (table : List (Text × Text)) (piece : Text) : Text :=
  (Registry.lookUp piece table).getD piece

lemma replacement_cons (needle value : Text) (table : List (Text × Text)) (piece : Text) :
    replacement ((needle, value) :: table) piece =
      if needle = piece then value else replacement table piece := by
  rw [replacement, Registry.lookUp]
  split <;> rfl

lemma replacement_of_avoids {table : List (Text × Text)} {piece : Text}
    (h : ∀ r ∈ table, r.1 ≠ [] ∧ Avoids r.1 piece) : replacement table piece = piece := by
  induction table with
  | nil => rfl
  | cons r table ih =>
    obtain ⟨⟨hne, havoids⟩, htable⟩ := List.forall_mem_cons.mp h
    rw [replacement_cons, if_neg (havoids.ne_needle hne).symm, ih htable]

lemma replacement_of_mem {table : List (Text × Text)} (hmem : (needle, value) ∈ table)
    (hsame : ∀ r ∈ table, r.1 = needle → r.2 = value) : replacement table needle = value := by
  induction table with
  | nil => cases hmem
  | cons r table ih =>
    obtain ⟨hr, htable⟩ := List.forall_mem_cons.mp hsame
    rw [replacement_cons]
    split
    · exact hr ‹_›
    · rename_i hne
      rcases List.mem_cons.mp hmem with he | hmem
      · exact absurd (congrArg Prod.fst he).symm hne
      · exact ih hmem htable

/-- Working a table off in turn replaces all its needles at once: every needle meets a piece whole
or not at all, and the values of needles among the pieces avoid the needles after them. -/
theorem replaceInTurn_flatten {table : List (Text × Text)} {pieces : List Text}
    (hne : ∀ r ∈ table, r.1 ≠ []) (hpieces : ∀ r ∈ table, ∀ x ∈ pieces, x = r.1 ∨ Avoids r.1 x)
    (hvalues : table.Pairwise fun r s => r.1 ∈ pieces → Avoids s.1 r.2) :
    replaceInTurn table pieces.flatten = (pieces.map (replacement table)).flatten := by
  induction table generalizing pieces with
  | nil => exact congrArg List.flatten (List.map_id pieces).symm
  | cons r table ih =>
    obtain ⟨needle, value⟩ := r
    obtain ⟨hneedle, hne⟩ := List.forall_mem_cons.mp hne
    obtain ⟨hhead, hpieces⟩ := List.forall_mem_cons.mp hpieces
    obtain ⟨hvalue, hvalues⟩ := List.pairwise_cons.mp hvalues
    have hrun : replaceInTurn ((needle, value) :: table) pieces.flatten =
        replaceInTurn table (pieces.map fun x => if x = needle then value else x).flatten := by
      rw [← replaceAll_flatten hneedle value hhead]
      rfl
    -- The pieces left by the first needle are old ones, or its value, which the others avoid.
    have hstep : ∀ s ∈ table, ∀ x ∈ pieces,
        (if x = needle then value else x) = s.1 ∨ Avoids s.1 (if x = needle then value else x) := by
      intro s hs x hx
      split
      · rename_i he
        exact .inr (hvalue s hs (he ▸ hx))
      · exact hpieces s hs x hx
    have hold : ∀ s ∈ table, s.1 ∈ pieces.map (fun x => if x = needle then value else x) →
        s.1 ∈ pieces := by
      intro s hs hmem
      obtain ⟨x, hx, he⟩ := List.mem_map.mp hmem
      split at he
      · rename_i hxn
        exact absurd he ((hvalue s hs (hxn ▸ hx)).ne_needle (hne s hs))
      · exact he ▸ hx
    have hlater : table.Pairwise fun r s =>
        r.1 ∈ pieces.map (fun x => if x = needle then value else x) → Avoids s.1 r.2 :=
      hvalues.imp_of_mem fun hr _ hrs hmem => hrs (hold _ hr hmem)
    rw [hrun, ih hne (fun s hs => List.forall_mem_map.mpr (hstep s hs)) hlater, List.map_map]
    congr 1
    refine List.map_congr_left fun x hx => ?_
    rw [Function.comp_apply, replacement_cons]
    by_cases hxn : x = needle
    · rw [if_pos hxn, if_pos hxn.symm]
      exact replacement_of_avoids fun s hs => ⟨hne s hs, hvalue s hs (hxn ▸ hx)⟩
    · rw [if_neg hxn, if_neg (Ne.symm hxn)]

lemma replaceInTurn_nil (table : List (Text × Text)) : replaceInTurn table [] = [] := by
  induction table with
  | nil => rfl
  | cons r table ih => exact ih

/-- Working off a table leaves nothing of a text exactly if at some turn there is nothing but the
needle whose turn it is, once or several times in a row, and its value is empty. -/
theorem replaceInTurn_eq_nil_iff {table : List (Text × Text)} (hne : ∀ r ∈ table, r.1 ≠ [])
    (ht : t ≠ []) :
    replaceInTurn table t = [] ↔ ∃ before needle later, table = before ++ (needle, []) :: later ∧
      ∃ n, replaceInTurn before t = (List.replicate (n + 1) needle).flatten := by
  induction table generalizing t with
  | nil => simp [replaceInTurn, ht]
  | cons r table ih =>
    obtain ⟨needle, value⟩ := r
    obtain ⟨hneedle, htable⟩ := List.forall_mem_cons.mp hne
    have hturn : ∀ rest, replaceInTurn ((needle, value) :: rest) t =
        replaceInTurn rest (t.replaceAll needle value) := fun _ => rfl
    have hnil : t.replaceAll needle value = [] ↔
        t = [] ∨ value = [] ∧ ∃ n, t = (List.replicate (n + 1) needle).flatten :=
      replaceAll_eq_nil_iff hneedle
    -- Either this turn leaves nothing, or the text goes on to the turns after it.
    by_cases hgone : t.replaceAll needle value = []
    · rw [hturn, hgone]
      obtain ⟨rfl, n, hn⟩ := (hnil.mp hgone).resolve_left ht
      exact iff_of_true (replaceInTurn_nil table) ⟨[], needle, table, rfl, n, hn⟩
    · rw [hturn, ih htable hgone]
      constructor
      · rintro ⟨before, other, later, rfl, n, hn⟩
        exact ⟨(needle, value) :: before, other, later, rfl, n, hn⟩
      · rintro ⟨before, other, later, hsplit, n, hn⟩
        cases before with
        | nil =>
          obtain ⟨he, rfl⟩ := List.cons.inj hsplit
          obtain ⟨rfl, rfl⟩ := Prod.mk.inj he
          exact absurd (hnil.mpr (.inr ⟨rfl, n, hn⟩)) hgone
        | cons r before =>
          obtain ⟨rfl, rfl⟩ := List.cons.inj hsplit
          exact ⟨before, other, later, rfl, n, hn⟩

end CommandBot.Text
