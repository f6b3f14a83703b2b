import CommandBot.Proofs.ReplacingInTurn
import CommandBot.Proofs.Scanning

/-!
# Replacing what a scan finds, stage by stage

What a scan of a text finds is often replaced one thing after the other, everywhere in the text that
the replacements before it left. Every such text is a stage: the pieces of the scan, with the values
of some things in place already. Replacing one more of them leads to the next stage as long as its
written form starts in the text nowhere but in its own pieces.
-/

namespace CommandBot.Text

variable {α : Type} [DecidableEq α] {write value : α → Text} {done : List α} {a : α}
  {ps : List (Piece α)}

/-- What stands for a piece once the values of some things are in place. -/
def stage (value : α → Text) (done : List α) : Piece α → Text
  | .plain c => [c]
  | .found needle a => if a ∈ done then value a else needle

lemma stage_found_of_mem (h : a ∈ done) (value : α → Text) (needle : Text) :
    stage value done (.found needle a) = value a :=
  if_pos h

lemma stage_found_of_not_mem (h : a ∉ done) (value : α → Text) (needle : Text) :
    stage value done (.found needle a) = needle :=
  if_neg h

lemma stage_nil (value : α → Text) (p : Piece α) : stage value [] p = p.text := by
  cases p <;> rfl

lemma stage_congr {done' : List α} (h : ∀ a, a ∈ done ↔ a ∈ done') (value : α → Text) :
    stage value done = stage value done' := by
  funext p
  cases p with
  | plain c => rfl
  | found needle a => simp only [stage, h]

lemma flatMap_stage_nil {m : Matcher α} (hm : m.Consumes) (value : α → Text) (t : Text) :
    (pieces m t).flatMap (stage value []) = t := by
  rw [funext (stage_nil value)]
  exact text_pieces hm t

/-- Where the written form of a thing starts at a stage, there is a piece of its own. -/
def StartsAtOwn (write value : α → Text) (done : List α) (a : α) (ps : List (Piece α)) : Prop :=
  ∀ before p after, ps = before ++ p :: after → ∀ u, u <:+ stage value done p → u ≠ [] →
    write a <+: u ++ after.flatMap (stage value done) → p = .found (write a) a

lemma StartsAtOwn.tail {p : Piece α} (h : StartsAtOwn write value done a (p :: ps)) :
    StartsAtOwn write value done a ps := by
  intro before q after hps
  exact h (p :: before) q after (by rw [hps, List.cons_append])

/-- Replacing one more thing leads from one stage to the next. -/
theorem replaceAll_stage (hne : write a ≠ []) (hnew : a ∉ done)
    (hneedle : ∀ needle b, .found needle b ∈ ps → needle = write b)
    (hown : StartsAtOwn write value done a ps) :
    replaceAll (ps.flatMap (stage value done)) (write a) (value a) =
      ps.flatMap (stage value (done ++ [a])) := by
  induction ps with
  | nil => rfl
  | cons p ps ih =>
    have hrest := ih (fun needle b hmem => hneedle needle b (List.mem_cons_of_mem p hmem)) hown.tail
    rw [List.flatMap_cons, List.flatMap_cons, ← hrest]
    by_cases hp : p = .found (write a) a
    · subst hp
      rw [stage_found_of_not_mem hnew, stage_found_of_mem (List.mem_append_right done (by simp))]
      exact replaceAll_needle_append hne _ _
    · -- No occurrence starts in this piece, which stays as it is.
      have hnone : ∀ u, u <:+ stage value done p → u ≠ [] →
          ¬write a <+: u ++ ps.flatMap (stage value done) :=
        fun u hu hu' hstart => hp (hown [] p ps rfl u hu hu' hstart)
      have hapart : Apart (write a) (stage value done p) (ps.flatMap (stage value done)) :=
        fun u hu hu' hstart => absurd hstart (hnone u hu hu')
      have hinside : ¬write a <:+: stage value done p := by
        rw [List.infix_iff_prefix_suffix]
        rintro ⟨u, hstart, hu⟩
        have hu' : u ≠ [] := fun he => hne (List.prefix_nil.mp (he ▸ hstart))
        exact hnone u hu hu' (hstart.trans (List.prefix_append u _))
      have hsame : stage value (done ++ [a]) p = stage value done p := by
        cases p with
        | plain c => rfl
        | found needle b =>
          have hb : b ≠ a := by
            rintro rfl
            exact hp (by rw [hneedle needle b List.mem_cons_self])
          by_cases hdone : b ∈ done
          · rw [stage_found_of_mem hdone, stage_found_of_mem (List.mem_append_left [a] hdone)]
          · have hlater : b ∉ done ++ [a] := by simp [hdone, hb]
            rw [stage_found_of_not_mem hdone, stage_found_of_not_mem hlater]
      rw [replaceAll_append_of_apart hne _ hapart, replaceAll_of_not_infix hne _ hinside, hsame]

/-- Working off a table goes from stage to stage. -/
theorem replaceInTurn_stage {as : List α} (hne : ∀ a ∈ as, write a ≠ [])
    (hneedle : ∀ needle b, .found needle b ∈ ps → needle = write b) (hnew : (done ++ as).Nodup)
    (hown : ∀ more a, more ++ [a] <+: as → StartsAtOwn write value (done ++ more) a ps) :
    replaceInTurn (as.map fun a => (write a, value a)) (ps.flatMap (stage value done)) =
      ps.flatMap (stage value (done ++ as)) := by
  -- Along the things that are left: the text is always the stage of those that were done.
  induction as generalizing done with
  | nil => simp [replaceInTurn]
  | cons a as ih =>
    obtain ⟨ha, has⟩ := List.forall_mem_cons.mp hne
    have hfirst : a ∉ done := by
      intro hmem
      exact (List.nodup_append.mp hnew).2.2 _ hmem _ List.mem_cons_self rfl
    have hownFirst : StartsAtOwn write value done a ps := by
      simpa using hown [] a (by simp)
    have hassoc : done ++ a :: as = done ++ [a] ++ as := List.append_cons done a as
    have hstep : replaceInTurn (as.map fun a => (write a, value a))
        (ps.flatMap (stage value (done ++ [a]))) = ps.flatMap (stage value (done ++ [a] ++ as)) := by
      refine ih has (hassoc ▸ hnew) fun more b hmore => ?_
      rw [List.append_assoc]
      exact hown (a :: more) b (by simpa using hmore)
    rw [hassoc, ← hstep, ← replaceAll_stage ha hfirst hneedle hownFirst]
    rfl

/-- Working off a table of things that a scan of a text finds puts their values in place all at once, as
long as each starts in its own pieces alone when its turn comes. -/
theorem replaceInTurn_pieces {m : Matcher α} (hm : m.Consumes) {t : Text} {as : List α}
    (hne : ∀ a ∈ as, write a ≠ []) (hneedle : ∀ needle b, .found needle b ∈ pieces m t → needle = write b)
    (hnew : as.Nodup)
    (hown : ∀ more a, more ++ [a] <+: as → StartsAtOwn write value more a (pieces m t)) :
    replaceInTurn (as.map fun a => (write a, value a)) t = (pieces m t).flatMap (stage value as) := by
  have hrun : replaceInTurn (as.map fun a => (write a, value a))
      ((pieces m t).flatMap (stage value [])) = (pieces m t).flatMap (stage value ([] ++ as)) :=
    replaceInTurn_stage hne hneedle hnew hown
  rwa [flatMap_stage_nil hm, List.nil_append] at hrun

/-- Things in place do not bring back the written form of one of them, if none of their values has the
first character of that form. -/
lemma not_infix_flatMap_stage {c : Char} {r : Text} (ha : a ∈ done) (hwrite : write a = c :: r)
    (hvalue : c ∉ value a) (hown : StartsAtOwn write value done a ps) :
    ¬write a <:+: ps.flatMap (stage value done) := by
  induction ps with
  | nil => simp [hwrite]
  | cons p ps ih =>
    rw [List.flatMap_cons, List.infix_iff_prefix_suffix]
    rintro ⟨u, hstart, hu⟩
    rcases suffix_append_cases hu with hu | ⟨v, hv, hvp, rfl⟩
    · exact ih hown.tail (hstart.isInfix.trans hu.isInfix)
    · obtain rfl := hown [] p ps rfl v hvp hv hstart
      rw [stage_found_of_mem ha] at hvp
      obtain ⟨d, v, rfl⟩ := List.exists_cons_of_ne_nil hv
      rw [hwrite] at hstart
      obtain ⟨rfl, -⟩ := List.cons_prefix_cons.mp hstart
      exact hvalue (hvp.subset List.mem_cons_self)

end CommandBot.Text
