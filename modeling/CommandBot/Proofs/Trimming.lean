import CommandBot.Proofs.Spans
import CommandBot.Text.Blank
import Mathlib.Data.List.DropRight

/-!
# Trimmed texts

Trimming takes away the blanks at both ends of a text and nothing else. The first word of a text is
read back from its written form: blanks, the word, a gap, the rest, and blanks again.
-/

namespace CommandBot.Text

lemma nonEmpty?_eq_some_iff {t u : Text} : nonEmpty? t = some u ↔ u ≠ [] ∧ t = u := by
  cases t with
  | nil =>
    simp only [nonEmpty?, List.isEmpty_nil, if_true, reduceCtorEq, false_iff, not_and]
    intro hne h
    exact hne h.symm
  | cons c r =>
    simp only [nonEmpty?, List.isEmpty_cons, Bool.false_eq_true, if_false, Option.some.injEq]
    constructor
    · rintro rfl
      exact ⟨List.cons_ne_nil c r, rfl⟩
    · exact And.right

/-- A text of blanks only. -/
def Blanks (t : Text) : Prop := ∀ c ∈ t, isBlank c = true

/-- Neither end of the text is blank. -/
structure Trimmed (t : Text) : Prop where
  start : ∀ c ∈ t.head?, isBlank c = false
  finish : ∀ c ∈ t.getLast?, isBlank c = false

lemma blanks_nil : Blanks [] := by simp [Blanks]

lemma Blanks.append {t u : Text} (ht : t.Blanks) (hu : u.Blanks) : (t ++ u).Blanks :=
  List.forall_mem_append.mpr ⟨ht, hu⟩

lemma Trimmed.of_not_blank {t : Text} (h : ∀ c ∈ t, isBlank c = false) : t.Trimmed :=
  ⟨fun c hc => h c (List.mem_of_mem_head? hc), fun c hc => h c (List.mem_of_mem_getLast? hc)⟩

/-- Texts are trimmed together if the first one is not blank at its start, nor the last one at its
end. -/
lemma Trimmed.append_append {t u : Text} (ht : t.Trimmed) (hu : u.Trimmed) (hne : t ≠ [])
    (hne' : u ≠ []) (between : Text) : (t ++ between ++ u).Trimmed := by
  constructor
  · intro c hc
    rw [List.append_assoc, List.head?_append_of_ne_nil _ hne] at hc
    exact ht.start c hc
  · intro c hc
    rw [List.getLast?_append_of_ne_nil _ hne'] at hc
    exact hu.finish c hc

lemma trimEnd_append_singleton {c : Char} (hc : isBlank c = false) (t : Text) :
    trimEnd (t ++ [c]) = t ++ [c] := by
  induction t with
  | nil => simp [trimEnd, hc]
  | cons d t ih =>
    rw [trimEnd] at ih
    rw [trimEnd, List.cons_append, List.foldr_cons, ih]
    simp

lemma trimEnd_eq_rdropWhile (t : Text) : t.trimEnd = t.rdropWhile isBlank := by
  induction t using List.reverseRecOn with
  | nil => rfl
  | append_singleton t c ih =>
    rw [List.rdropWhile_concat]
    split
    · rename_i hc
      rw [← ih, trimEnd, trimEnd, List.foldr_append]
      simp [hc]
    · rename_i hc
      exact trimEnd_append_singleton (by simpa using hc) t

lemma trim_eq (t : Text) : t.trim = (t.dropWhile isBlank).rdropWhile isBlank := by
  rw [trim, trimEnd_eq_rdropWhile, trimStart]

lemma trimmed_trim (t : Text) : t.trim.Trimmed := by
  rw [trim_eq]
  have hprefix : (t.dropWhile isBlank).rdropWhile isBlank <+: t.dropWhile isBlank :=
    List.rdropWhile_prefix isBlank _
  constructor
  · intro c hc
    obtain ⟨r, hr⟩ := List.head?_eq_some_iff.mp hc
    obtain ⟨rest, hrest⟩ := hprefix
    rw [hr, List.cons_append] at hrest
    exact not_of_dropWhile_eq_cons hrest.symm
  · intro c hc
    obtain ⟨hne, rfl⟩ := List.mem_getLast?_eq_getLast hc
    simpa using List.rdropWhile_last_not isBlank (t.dropWhile isBlank) hne

lemma exists_trim (t : Text) :
    ∃ before after, Blanks before ∧ Blanks after ∧ t = before ++ t.trim ++ after := by
  refine ⟨t.takeWhile isBlank, (t.dropWhile isBlank).rtakeWhile isBlank,
    fun c hc => of_mem_takeWhile hc, fun c hc => List.mem_rtakeWhile_imp hc, ?_⟩
  rw [trim_eq, List.append_assoc, List.rdropWhile_append_rtakeWhile, List.takeWhile_append_dropWhile]

/-- Trimming finds the one trimmed text that stands between blanks. -/
lemma Trimmed.trim_between {t before after : Text} (h : t.Trimmed) (hbefore : before.Blanks)
    (hafter : after.Blanks) : (before ++ t ++ after).trim = t := by
  have hstart : (t ++ after).dropWhile isBlank = t ++ after ∨ t = [] := by
    cases t with
    | nil => exact .inr rfl
    | cons c r => exact .inl (List.dropWhile_cons_of_neg (by simp [h.start c rfl]))
  rw [trim_eq, List.append_assoc, List.dropWhile_append_of_pos hbefore]
  rcases hstart with hstart | rfl
  · rw [hstart, List.rdropWhile, List.reverse_append,
      List.dropWhile_append_of_pos (fun c hc => hafter c (List.mem_reverse.mp hc)), ← List.rdropWhile,
      List.rdropWhile_eq_self_iff]
    intro hne
    simp [h.finish _ (List.getLast?_eq_getLast_of_ne_nil hne)]
  · rw [List.nil_append, List.dropWhile_eq_nil_iff.mpr hafter]
    rfl

lemma trim_eq_self_iff {t : Text} : t.trim = t ↔ t.Trimmed := by
  constructor
  · intro h
    rw [← h]
    exact t.trimmed_trim
  · intro h
    simpa using h.trim_between blanks_nil blanks_nil

/-- A text that begins with a word, with `rest` after a gap, and blanks at the end. -/
def Opens (word rest t : Text) : Prop :=
  ∃ gap after, Blanks gap ∧ Blanks after ∧ (rest ≠ [] → gap ≠ []) ∧ t = word ++ gap ++ rest ++ after

/-- A text with a character, none of which is blank. -/
def IsWord (t : Text) : Prop := t ≠ [] ∧ ∀ c ∈ t, isBlank c = false

lemma IsWord.trimmed {t : Text} (h : t.IsWord) : t.Trimmed := .of_not_blank h.2

lemma firstWord?_of_trim {t word tail : Text} (hword : word.IsWord) (ht : t.trim = word ++ tail)
    (htail : ∀ c ∈ tail.head?, isBlank c = true) :
    t.firstWord? = some (word, nonEmpty? tail.trim) := by
  have hpos : ∀ c ∈ word, (!isBlank c) = true := by simpa using hword.2
  have htake : (word ++ tail).takeWhile (!isBlank ·) = word := by
    cases tail with
    | nil => simpa using hword.2
    | cons c r => exact takeWhile_append_cons hpos (by simp [htail c rfl])
  have hdrop : (word ++ tail).dropWhile (!isBlank ·) = tail := by
    cases tail with
    | nil => simpa using hword.2
    | cons c r => exact dropWhile_append_cons hpos (by simp [htail c rfl])
  have hne : nonEmpty? word = some word := nonEmpty?_eq_some_iff.mpr ⟨hword.1, rfl⟩
  simp only [firstWord?, ht, htake, hdrop, hne, Option.map_some]

/-- The first word and the rest are read from the written form of a text, and from no other. -/
theorem firstWord?_eq_some_iff {t word : Text} {message : Option Text} :
    t.firstWord? = some (word, message) ↔
      word.IsWord ∧ ∃ before tail rest, Blanks before ∧ t = before ++ tail ∧ Opens word rest tail ∧
        rest.Trimmed ∧ message = nonEmpty? rest := by
  constructor
  · intro h
    obtain ⟨head, hhead, hpair⟩ := Option.map_eq_some_iff.mp h
    obtain ⟨hsame, rfl⟩ := Prod.mk.inj hpair
    rw [hsame] at hhead
    obtain ⟨hne, hword⟩ := nonEmpty?_eq_some_iff.mp hhead
    have hisWord : word.IsWord := by
      refine ⟨hne, fun c hc => ?_⟩
      rw [← hword] at hc
      simpa using of_mem_takeWhile hc
    have hsplit : t.trim = word ++ t.trim.dropWhile (!isBlank ·) := by
      rw [← hword, List.takeWhile_append_dropWhile]
    have hend : ∀ c r, t.trim.dropWhile (!isBlank ·) = c :: r → isBlank c = true := by
      intro c r hcons
      simpa using not_of_dropWhile_eq_cons hcons
    generalize t.trim.dropWhile (!isBlank ·) = left at hsplit hend ⊢
    obtain ⟨before, after, hbefore, hafter, ht⟩ := exists_trim t
    obtain ⟨gap, after', hgap, hafter', hleft⟩ := exists_trim left
    refine ⟨hisWord, before, word ++ gap ++ trim left ++ (after' ++ after), trim left, hbefore, ?_,
      ⟨gap, after' ++ after, hgap, hafter'.append hafter, ?_, rfl⟩, trimmed_trim left, rfl⟩
    · calc t = before ++ (word ++ (gap ++ trim left ++ after')) ++ after := by
            rw [← hleft, ← hsplit, ← ht]
        _ = before ++ (word ++ gap ++ trim left ++ (after' ++ after)) := by
            simp only [List.append_assoc]
    -- Without a gap what is left would begin with its trimmed part, and not with a blank.
    · rintro hne' rfl
      obtain ⟨c, r, hcons⟩ := List.exists_cons_of_ne_nil hne'
      rw [hcons] at hleft
      have hblank : isBlank c = true := hend c _ hleft
      have hstart : isBlank c = false := (trimmed_trim left).start c (by simp [hcons])
      simp [hblank] at hstart
  · rintro ⟨hword, before, tail, rest, hbefore, rfl, ⟨gap, after, hgap, hafter, hseparated, rfl⟩, hrest,
      rfl⟩
    by_cases hnone : rest = []
    · subst hnone
      have htrim : (before ++ (word ++ gap ++ [] ++ after)).trim = word ++ [] := by
        rw [List.append_nil, List.append_nil, List.append_assoc word, ← List.append_assoc]
        exact hword.trimmed.trim_between hbefore (hgap.append hafter)
      exact firstWord?_of_trim hword htrim (by simp)
    · have htrim : (before ++ (word ++ gap ++ rest ++ after)).trim = word ++ (gap ++ rest) := by
        rw [← List.append_assoc, ← List.append_assoc word]
        exact (hword.trimmed.append_append hrest hword.1 hnone gap).trim_between hbefore hafter
      have hblank : ∀ c ∈ (gap ++ rest).head?, isBlank c = true := by
        intro c hc
        rw [List.head?_append_of_ne_nil _ (hseparated hnone)] at hc
        exact hgap c (List.mem_of_mem_head? hc)
      have htail : (gap ++ rest).trim = rest := by
        simpa using hrest.trim_between hgap blanks_nil
      rw [firstWord?_of_trim hword htrim hblank, htail]

end CommandBot.Text
