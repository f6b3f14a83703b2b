import CommandBot.Proofs.PlaceholderForms
import CommandBot.Proofs.Rendering
import CommandBot.Proofs.Staging
import CommandBot.Proofs.Words
import Mathlib.Data.List.Nodup

/-!
# Numbers with several spellings

The table of a text has each number of its positional placeholders once, as it is spelled first, and
filling in goes by that spelling. So words of letters are put in all at once, but only for the
placeholders that are spelled as the first one of their number.
-/

namespace CommandBot.Template

variable {message : Option Text} {t : Text} {value : Text → Text} {done : List Text} {d : Text}

/-- A table with the first placeholder of every number, and no number twice. -/
structure Firsts (ps table : List Positional) : Prop where
  mem_iff : ∀ p, p ∈ table ↔ ps.find? (·.number == p.number) = some p
  nodup : (table.map Positional.number).Nodup

lemma Firsts.concat {ps table : List Positional} (h : Firsts ps table) (x : Positional) :
    Firsts (ps ++ [x]) (if table.any (·.number == x.number) then table else table ++ [x]) := by
  split
  · rename_i hany
    obtain ⟨q, hq, he⟩ := List.any_eq_true.mp hany
    refine ⟨fun p => ?_, h.nodup⟩
    rw [h.mem_iff, List.find?_append]
    cases hp : ps.find? (·.number == p.number) with
    | some first => rfl
    | none =>
      have hx : x.number ≠ p.number := by
        intro hx
        rw [← hx, ← eq_of_beq he, (h.mem_iff q).mp hq] at hp
        cases hp
      simp [hx]
  · rename_i hany
    have hnew : ∀ q ∈ table, q.number ≠ x.number := by simpa using hany
    have hnone : ps.find? (·.number == x.number) = none := by
      refine Option.eq_none_iff_forall_ne_some.mpr fun q hq => ?_
      have hnumber : q.number = x.number := by simpa using List.find?_some hq
      exact hnew q ((h.mem_iff q).mpr (hnumber ▸ hq)) hnumber
    refine ⟨fun p => ?_, ?_⟩
    · rw [List.mem_append, List.mem_singleton, List.find?_append, h.mem_iff]
      by_cases hx : x.number = p.number
      · simp [← hx, hnone, eq_comm]
      · have hne : p ≠ x := fun he => hx (he ▸ rfl)
        simp [hx, hne]
    · rw [List.map_append, List.map_singleton, List.nodup_append]
      exact ⟨h.nodup, List.pairwise_singleton _ _, by simpa using hnew⟩

theorem firsts_positionalTable (t : Text) : Firsts (positionals t) (positionalTable t) := by
  rw [positionalTable]
  induction positionals t using List.reverseRecOn with
  | nil => exact ⟨by simp, List.nodup_nil⟩
  | append_singleton ps x ih =>
    rw [List.foldl_append, List.foldl_cons, List.foldl_nil]
    exact ih.concat x

/-- The spellings of the numbers in the table of a text. -/
def spellings (t : Text) : List Text := (positionalTable t).map Positional.digits

/-- The digits of the positional placeholders in a text. -/
def listedDigits (t : Text) : List Text := (positionals t).map Positional.digits

lemma number_of_mem_positionals {p : Positional} (h : p ∈ positionals t) :
    p.number = Numeral.ofDigits p.digits := by
  obtain ⟨⟨needle, digits⟩, -, hp⟩ := List.mem_filterMap.mp h
  obtain ⟨number, hnumber, rfl⟩ := Option.map_eq_some_iff.mp hp
  simp only [wordOfDigits?, Option.ite_none_right_eq_some, Option.some.injEq] at hnumber
  exact hnumber.2.symm

lemma ofDigits_digits_of_mem_positionals {p : Positional} (h : p ∈ positionals t) :
    Positional.ofDigits p.digits = p := by
  rw [Positional.ofDigits, ← number_of_mem_positionals h]

/-- The written form of the positional placeholder with some digits. -/
def Positional.form (digits : Text) : Text := (ofDigits digits).print

/-- The word of the message that digits stand for. -/
def wordFor (message : Option Text) (digits : Text) : Text :=
  argumentValue message (Numeral.ofDigits digits)

/-- A text with the positional placeholders of some digits replaced by their words, all at once. -/
def filledWith (message : Option Text) (digits : List Text) (t : Text) : Text :=
  (Text.pieces Positional.read t).flatMap (Text.stage (wordFor message) digits)

lemma reads_form : Reads Positional.read (IsRun Char.isDigit) Positional.form := Positional.reads_read

lemma Positional.form_ne_nil (digits : Text) : form digits ≠ [] := by simp [form, print]

lemma form_eq_of_found_mem {needle : Text} (h : .found needle d ∈ Text.pieces Positional.read t) :
    IsRun Char.isDigit d ∧ needle = Positional.form d :=
  reads_form.of_found_mem Positional.form_ne_nil h

lemma isAlpha_eq_false_of_isDigit {c : Char} (h : c.isDigit = true) : c.isAlpha = false := by
  rw [Char.isDigit, Bool.and_eq_true, decide_eq_true_eq, decide_eq_true_eq] at h
  have hle : c.toNat ≤ 57 := h.2
  have hupper : ¬('A'.val ≤ c.val ∧ c.val ≤ 'Z'.val) := fun hin => by
    have hge : 65 ≤ c.toNat := hin.1
    omega
  have hlower : ¬ 'a'.val ≤ c.val := fun hin => by
    have hge : 97 ≤ c.toNat := hin
    omega
  change (decide ('A'.val ≤ c.val ∧ c.val ≤ 'Z'.val) ||
    (decide ('a'.val ≤ c.val) && decide (c.val ≤ 'z'.val))) = false
  rw [decide_eq_false hupper, decide_eq_false hlower]
  rfl

/-- A text without dollar signs that begins a stage begins the text itself, unless it has letters. -/
lemma isPrefix_of_isPrefix_stage {v : Text} {ps : List (Text.Piece Text)}
    (hneedle : ∀ needle e, .found needle e ∈ ps → needle = Positional.form e)
    (hdone : ∀ e ∈ done, IsRun Char.isAlpha (value e))
    (hv : ∀ c ∈ v, c ≠ '$' ∧ c.isAlpha = false) (h : v <+: ps.flatMap (Text.stage value done)) :
    v <+: ps.flatMap Text.Piece.text := by
  induction ps generalizing v with
  | nil => exact h
  | cons p ps ih =>
    cases v with
    | nil => exact List.nil_prefix
    | cons c v =>
      obtain ⟨⟨hdollar, halpha⟩, hv⟩ := List.forall_mem_cons.mp hv
      have hrest := ih (fun needle e hmem => hneedle needle e (List.mem_cons_of_mem p hmem)) hv
      rw [List.flatMap_cons] at h ⊢
      cases p with
      | plain d =>
        obtain ⟨rfl, htail⟩ := List.cons_prefix_cons.mp h
        exact List.cons_prefix_cons.mpr ⟨rfl, hrest htail⟩
      | found needle e =>
        by_cases he : e ∈ done
        · -- A word begins here, and so with a letter.
          rw [Text.stage_found_of_mem he] at h
          obtain ⟨d, w, hw⟩ := List.exists_cons_of_ne_nil (hdone e he).1
          rw [hw] at h
          obtain ⟨rfl, -⟩ := List.cons_prefix_cons.mp h
          simp [(hdone e he).2 c (hw ▸ List.mem_cons_self)] at halpha
        · rw [Text.stage_found_of_not_mem he, hneedle needle e List.mem_cons_self] at h
          exact absurd (List.cons_prefix_cons.mp h).1 hdollar

/-- Words of letters bring no positional placeholder in. -/
theorem startsAtOwn_of_letters (hd : IsRun Char.isDigit d)
    (hdone : ∀ e ∈ done, IsRun Char.isAlpha (value e)) (t : Text) :
    Text.StartsAtOwn Positional.form value done d (Text.pieces Positional.read t) := by
  intro before p after hps u hu hne hstart
  have hform : ∀ needle e, .found needle e ∈ p :: after →
      IsRun Char.isDigit e ∧ needle = Positional.form e := by
    intro needle e hmem
    exact form_eq_of_found_mem (t := t) (hps ▸ List.mem_append_right before hmem)
  have hdollar : '$' ∈ u := by
    obtain ⟨c, u, rfl⟩ := List.exists_cons_of_ne_nil hne
    exact (List.cons_prefix_cons.mp hstart).1 ▸ List.mem_cons_self
  cases p with
  | plain c =>
    obtain rfl : u = [c] := hu.eq_of_length_le (List.length_pos_iff.mpr hne)
    obtain ⟨rfl, hinside⟩ := List.cons_prefix_cons.mp hstart
    have hdigit : ∀ c ∈ '(' :: (d ++ [')']), c ≠ '$' ∧ c.isAlpha = false := by
      intro c hc
      simp only [List.mem_cons, List.mem_append, List.not_mem_nil, or_false] at hc
      rcases hc with rfl | hc | rfl
      · decide
      · exact ⟨fun he => hd.not_mem (c := '$') (by decide) (he ▸ hc),
          isAlpha_eq_false_of_isDigit (hd.2 c hc)⟩
      · decide
    obtain ⟨rest, he⟩ := isPrefix_of_isPrefix_stage
      (fun needle e hmem => (hform needle e (List.mem_cons_of_mem _ hmem)).2) hdone hdigit hinside
    -- A scan would have read a placeholder here.
    have hpieces := Text.pieces_of_pieces_eq_append Positional.read_consumes hps
    have hread := Positional.read_print hd rest
    rw [List.flatMap_cons, ← he] at hpieces
    have hscan := Text.pieces_of_some hread rfl (Positional.form_ne_nil d)
    exact absurd (hpieces.symm.trans hscan) (by simp)
  | found needle e =>
    obtain ⟨hdigits, rfl⟩ := hform needle e List.mem_cons_self
    by_cases he : e ∈ done
    · rw [Text.stage_found_of_mem he] at hu
      exact absurd (hu.subset hdollar) ((hdone e he).not_mem (by decide))
    · rw [Text.stage_found_of_not_mem he] at hu
      obtain rfl : u = Positional.form e := by
        refine (List.suffix_cons_iff.mp hu).resolve_right fun hinside => ?_
        have hfree : '$' ∉ e := hdigits.not_mem (by decide)
        simpa [Positional.ofDigits, hfree] using hinside.subset hdollar
      -- Both placeholders are read at the head of the same text.
      obtain ⟨rest, hsame⟩ := hstart
      have hread := Positional.read_print hdigits (after.flatMap (Text.stage value done))
      have hread' := Positional.read_print hd rest
      rw [Positional.form] at hsame
      rw [hsame] at hread'
      rw [(Prod.mk.inj (Option.some.inj (hread.symm.trans hread'))).1]

lemma wordReplacements_positionalTable (message : Option Text) (t : Text) :
    wordReplacements message (positionalTable t) =
      (spellings t).map fun d => (Positional.form d, wordFor message d) := by
  rw [wordReplacements, spellings, List.map_map]
  refine List.map_congr_left fun p hp => ?_
  have hword := number_of_mem_positionals (mem_positionals_of_mem_positionalTable hp)
  rw [hword]
  rfl

lemma spellings_subset (t : Text) : spellings t ⊆ listedDigits t :=
  List.map_subset _ fun _ hp => mem_positionals_of_mem_positionalTable hp

lemma nodup_map_spellings (t : Text) : ((spellings t).map Numeral.ofDigits).Nodup := by
  have hnumbers : (spellings t).map Numeral.ofDigits = (positionalTable t).map Positional.number := by
    rw [spellings, List.map_map]
    exact List.map_congr_left fun p hp =>
      (number_of_mem_positionals (mem_positionals_of_mem_positionalTable hp)).symm
  exact hnumbers ▸ (firsts_positionalTable t).nodup

lemma mem_listedDigits_iff :
    d ∈ listedDigits t ↔ .found (Positional.form d) d ∈ Text.pieces Positional.read t ∧
      Numeral.ofDigits d ≤ Numeral.maxWord := by
  rw [listedDigits, positionals, List.map_filterMap, List.mem_filterMap]
  constructor
  · rintro ⟨⟨needle, e⟩, hmem, he⟩
    have hmem := Text.found_mem_pieces_iff.mpr hmem
    obtain ⟨-, rfl⟩ := form_eq_of_found_mem hmem
    by_cases hfits : Numeral.ofDigits e ≤ Numeral.maxWord
    · obtain rfl : e = d := by simpa [wordOfDigits?, hfits] using he
      exact ⟨hmem, hfits⟩
    · simp [wordOfDigits?, hfits] at he
  · rintro ⟨hmem, hfits⟩
    exact ⟨_, Text.found_mem_pieces_iff.mp hmem, by simp [wordOfDigits?, hfits]⟩

lemma isRun_of_mem_listedDigits (h : d ∈ listedDigits t) : IsRun Char.isDigit d :=
  (form_eq_of_found_mem (mem_listedDigits_iff.mp h).1).1

/-- A number is in the table as it is spelled first. -/
lemma mem_spellings_iff : d ∈ spellings t ↔
    ((positionals t).find? (·.number == Numeral.ofDigits d)).map Positional.digits = some d := by
  rw [spellings, List.mem_map, Option.map_eq_some_iff]
  refine exists_congr fun p => and_congr_left fun he => ?_
  subst he
  constructor
  · intro hp
    rw [← number_of_mem_positionals (mem_positionals_of_mem_positionalTable hp)]
    exact ((firsts_positionalTable t).mem_iff p).mp hp
  · intro hfind
    rw [← number_of_mem_positionals (List.mem_of_find?_eq_some hfind)] at hfind
    exact ((firsts_positionalTable t).mem_iff p).mpr hfind

/-- Every number is spelled in one way exactly if the table has all spellings. -/
lemma oneSpelling_iff (t : Text) : OneSpelling (listedDigits t) ↔ listedDigits t ⊆ spellings t := by
  have hscan : positionals t = (listedDigits t).map Positional.ofDigits := by
    rw [listedDigits, List.map_map]
    exact ((List.map_congr_left fun p hp => ofDigits_digits_of_mem_positionals hp).trans
      (List.map_id _)).symm
  constructor
  · intro h d hd
    have hmem := (mem_positionalTable_iff hscan h (.ofDigits d)).mpr ⟨d, hd, rfl⟩
    exact List.mem_map_of_mem (f := Positional.digits) hmem
  · intro h d hd e he hnumber
    exact List.inj_on_of_nodup_map (nodup_map_spellings t) (h hd) (h he) hnumber

/-- The words of a text are put in at once for the spellings of its table, if they have letters. -/
theorem fillPositionals_eq_filledWith
    (hwords : ∀ d ∈ listedDigits t, IsRun Char.isAlpha (wordFor message d)) :
    fillPositionals message (positionalTable t) t = filledWith message (spellings t) t := by
  rw [fillPositionals_eq, wordReplacements_positionalTable]
  refine Text.replaceInTurn_pieces Positional.read_consumes
    (fun d _ => Positional.form_ne_nil d) (fun needle e hmem => (form_eq_of_found_mem hmem).2)
    (.of_map _ (nodup_map_spellings t)) fun more d hmore => ?_
  have hsub : more ++ [d] ⊆ listedDigits t := fun e he => spellings_subset t (hmore.subset he)
  exact startsAtOwn_of_letters (isRun_of_mem_listedDigits (hsub (by simp)))
    (fun e he => hwords e (hsub (List.mem_append_left [d] he))) t

/-- A placeholder that gives way to letters does not occur in the filled text. -/
lemma not_infix_filledWith {digits : List Text} (hsub : digits ⊆ listedDigits t)
    (hwords : ∀ e ∈ listedDigits t, IsRun Char.isAlpha (wordFor message e)) (hd : d ∈ digits) :
    ¬Positional.form d <:+: filledWith message digits t := by
  have hfree : '$' ∉ wordFor message d := (hwords d (hsub hd)).not_mem (by decide)
  exact Text.not_infix_flatMap_stage hd rfl hfree
    (startsAtOwn_of_letters (isRun_of_mem_listedDigits (hsub hd)) (fun e he => hwords e (hsub he)) t)

lemma infix_filledWith {digits : List Text} (hlisted : d ∈ listedDigits t) (hd : d ∉ digits)
    (message : Option Text) : Positional.form d <:+: filledWith message digits t := by
  rw [filledWith, List.flatMap_def]
  exact List.infix_of_mem_flatten (List.mem_map.mpr
    ⟨_, (mem_listedDigits_iff.mp hlisted).1, Text.stage_found_of_not_mem hd _ _⟩)

lemma isRun_wordFor (hletters : ∀ w ∈ messageWords message, w.all Char.isAlpha = true)
    (hnumbers : ∀ p ∈ positionals t, 1 ≤ p.number ∧ p.number ≤ (messageWords message).length) :
    ∀ d ∈ listedDigits t, IsRun Char.isAlpha (wordFor message d) := by
  intro d hd
  obtain ⟨p, hp, rfl⟩ := List.mem_map.mp hd
  obtain ⟨hpos, hlast⟩ := hnumbers p hp
  obtain ⟨index, hindex⟩ := Nat.exists_eq_add_of_le' hpos
  have hlt : index < (messageWords message).length := by omega
  have hword : wordFor message p.digits = (messageWords message)[index] := by
    rw [wordFor, ← number_of_mem_positionals hp, hindex, argumentValue_succ,
      List.getElem?_eq_getElem hlt, Option.getD_some]
  have hmem : wordFor message p.digits ∈ messageWords message := hword ▸ List.getElem_mem hlt
  exact ⟨ne_nil_of_mem_messageWords hmem, List.all_eq_true.mp (hletters _ hmem)⟩

/-- In a text whose positional placeholders all have words of letters, those that are spelled as the
first one of their number give way to their words at once, and the others stay. So all of them give
way exactly if every number is spelled in one way. -/
theorem fillPositionals_words
    (hletters : ∀ w ∈ messageWords message, w.all Char.isAlpha = true)
    (hnumbers : ∀ p ∈ positionals t, 1 ≤ p.number ∧ p.number ≤ (messageWords message).length) :
    fillPositionals message (positionalTable t) t = filledWith message (spellings t) t ∧
      (∀ d, d ∈ spellings t ↔
        ((positionals t).find? (·.number == Numeral.ofDigits d)).map Positional.digits = some d) ∧
      (fillPositionals message (positionalTable t) t = filledWith message (listedDigits t) t ↔
        OneSpelling (listedDigits t)) := by
  have hwords := isRun_wordFor hletters hnumbers
  have hfill := fillPositionals_eq_filledWith hwords
  refine ⟨hfill, fun d => mem_spellings_iff, ?_⟩
  rw [hfill, oneSpelling_iff]
  constructor
  · intro hall d hd
    by_contra hother
    have hstays := infix_filledWith hd hother message
    rw [hall] at hstays
    exact not_infix_filledWith (List.Subset.refl _) hwords hd hstays
  · intro hsub
    have hsame : ∀ d, d ∈ spellings t ↔ d ∈ listedDigits t := fun d =>
      ⟨fun hd => spellings_subset t hd, fun hd => hsub hd⟩
    rw [filledWith, Text.stage_congr hsame, filledWith]

def padded : Text := "$(2)$($(01)$(2)$(1".toList

/-- Leading zeros do no harm as long as they are always there. -/
theorem padded_filled :
    (∀ w ∈ messageWords (some "one two".toList), w.all Char.isAlpha = true) ∧
      (∀ p ∈ positionals padded,
        1 ≤ p.number ∧ p.number ≤ (messageWords (some "one two".toList)).length) ∧
      OneSpelling (listedDigits padded) ∧
      fillPositionals (some "one two".toList) (positionalTable padded) padded =
        "two$(onetwo$(1".toList := by
  have hletters : ∀ w ∈ messageWords (some "one two".toList), w.all Char.isAlpha = true := by
    decide +kernel
  have hnumbers : ∀ p ∈ positionals padded,
      1 ≤ p.number ∧ p.number ≤ (messageWords (some "one two".toList)).length := by decide +kernel
  have hspelling : OneSpelling (listedDigits padded) := by decide +kernel
  have hfilled := (fillPositionals_words hletters hnumbers).2.2.mpr hspelling
  exact ⟨hletters, hnumbers, hspelling, hfilled.trans (by decide +kernel)⟩

/-- The second spelling of a number stays. -/
theorem secondSpelling_stays :
    (∀ w ∈ messageWords (some "a".toList), w.all Char.isAlpha = true) ∧
      (∀ p ∈ positionals "$(1) $(01)".toList,
        1 ≤ p.number ∧ p.number ≤ (messageWords (some "a".toList)).length) ∧
      filledWith (some "a".toList) (listedDigits "$(1) $(01)".toList) "$(1) $(01)".toList =
        "a a".toList ∧
      fillPositionals (some "a".toList) (positionalTable "$(1) $(01)".toList)
        "$(1) $(01)".toList = "a $(01)".toList := by
  decide +kernel

end CommandBot.Template
