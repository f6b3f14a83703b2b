import CommandBot.Proofs.Trimming
import CommandBot.Template.Positional

/-!
# The words of a text

Cutting a text at separators and leaving the empty pieces out gives the chunks that stand between its
gaps. Words are the chunks between blanks. They are found in two ways: all of them at once, by cutting
the text, and one at a time from the front of the trimmed text. A text splits at a blank, and from that
it follows that both ways find the same words.
-/

namespace CommandBot

namespace Text

lemma splitWhere_ne_nil (p : Char → Bool) (t : Text) : t.splitWhere p ≠ [] := by
  cases t with
  | nil => exact List.cons_ne_nil _ _
  | cons c r =>
    rw [splitWhere]
    split
    · exact List.cons_ne_nil _ _
    · split <;> exact List.cons_ne_nil _ _

lemma splitWhere_append_cons {p : Char → Bool} {c : Char} (hc : p c = true) (t u : Text) :
    (t ++ c :: u).splitWhere p = t.splitWhere p ++ u.splitWhere p := by
  induction t with
  | nil =>
    obtain ⟨piece, pieces, hu⟩ := List.exists_cons_of_ne_nil (splitWhere_ne_nil p u)
    simp [splitWhere, hu, hc]
  | cons d t ih =>
    obtain ⟨piece, pieces, ht⟩ := List.exists_cons_of_ne_nil (splitWhere_ne_nil p t)
    rw [ht, List.cons_append] at ih
    simp only [List.cons_append, splitWhere, ih, ht]
    split <;> rfl

lemma splitWhere_of_forall_not {p : Char → Bool} {t : Text} (h : ∀ c ∈ t, p c = false) :
    t.splitWhere p = [t] := by
  induction t with
  | nil => rfl
  | cons c t ih =>
    obtain ⟨hc, ht⟩ := List.forall_mem_cons.mp h
    simp [splitWhere, ih ht, hc]

/-- The maximal pieces of a text without characters that satisfy `p`, in order. -/
def chunks (p : Char → Bool) (t : Text) : List Text := (t.splitWhere p).filter (!·.isEmpty)

/-- A text in which some pieces stand between gaps. The pieces have no character that satisfies `p`,
the gaps no other ones, and there is a gap between any two pieces. -/
inductive Separated (p : Char → Bool) : List Text → Text → Prop
  | gap {gap : Text} : (∀ c ∈ gap, p c = true) → Separated p [] gap
  | chunk {gap piece rest : Text} {pieces : List Text} : (∀ c ∈ gap, p c = true) → piece ≠ [] →
      (∀ c ∈ piece, p c = false) → (∀ c ∈ rest.head?, p c = true) → Separated p pieces rest →
      Separated p (piece :: pieces) (gap ++ piece ++ rest)

section Chunks

variable {p : Char → Bool} {t : Text} {pieces : List Text}

@[simp] lemma chunks_nil : chunks p [] = [] := rfl

lemma chunks_append_cons {c : Char} (hc : p c = true) (t u : Text) :
    (t ++ c :: u).chunks p = t.chunks p ++ u.chunks p := by
  rw [chunks, splitWhere_append_cons hc, List.filter_append]
  rfl

lemma chunks_of_forall_not (hne : t ≠ []) (h : ∀ c ∈ t, p c = false) : t.chunks p = [t] := by
  rw [chunks, splitWhere_of_forall_not h]
  simp [hne]

lemma chunks_append_of_forall (h : ∀ c ∈ t, p c = true) (u : Text) :
    (t ++ u).chunks p = u.chunks p := by
  induction t with
  | nil => rfl
  | cons c t ih =>
    obtain ⟨hc, ht⟩ := List.forall_mem_cons.mp h
    exact (chunks_append_cons hc [] (t ++ u)).trans (ih ht)

lemma Separated.chunks_eq (h : Separated p pieces t) : t.chunks p = pieces := by
  induction h with
  | gap hgap => simpa using chunks_append_of_forall hgap []
  | @chunk gap piece rest pieces hgap hne hpiece hrest _ ih =>
    rw [List.append_assoc, chunks_append_of_forall hgap]
    cases rest with
    | nil =>
      rw [List.append_nil, chunks_of_forall_not hne hpiece, ← ih]
      rfl
    | cons c rest =>
      have hc : p c = true := hrest c rfl
      have htail : chunks p (c :: rest) = chunks p rest := chunks_append_cons hc [] rest
      rw [chunks_append_cons hc, chunks_of_forall_not hne hpiece, ← htail, ih]
      rfl

lemma Separated.cons_of_pos {c : Char} (hc : p c = true) (h : Separated p pieces t) :
    Separated p pieces (c :: t) := by
  cases h with
  | gap hgap => exact .gap (List.forall_mem_cons.mpr ⟨hc, hgap⟩)
  | @chunk gap piece rest pieces hgap hne hpiece hrest h =>
    have hlonger : ∀ d ∈ c :: gap, p d = true := List.forall_mem_cons.mpr ⟨hc, hgap⟩
    exact .chunk hlonger hne hpiece hrest h

lemma Separated.append_chunk {piece rest : Text} (hne : piece ≠ []) (hpiece : ∀ c ∈ piece, p c = false)
    (hrest : ∀ c ∈ rest.head?, p c = true) (h : Separated p pieces rest) :
    Separated p (piece :: pieces) (piece ++ rest) := by
  have hnone : ∀ c ∈ ([] : Text), p c = true := by simp
  exact .chunk hnone hne hpiece hrest h

/-- A character that is no separator goes to the first piece, or makes one by itself before a gap. -/
lemma Separated.exists_cons_of_neg {c : Char} (hc : p c = false) (h : Separated p pieces t) :
    ∃ pieces, Separated p pieces (c :: t) := by
  have halone : (∀ d ∈ t.head?, p d = true) → ∃ pieces, Separated p pieces (c :: t) := by
    intro ht
    have hsingle : ∀ d ∈ [c], p d = false := by simpa using hc
    exact ⟨[c] :: pieces, .append_chunk (List.cons_ne_nil _ _) hsingle ht h⟩
  cases h with
  | gap hgap => exact halone fun d hd => hgap d (List.mem_of_mem_head? hd)
  | @chunk gap piece rest pieces hgap hne hpiece hrest h =>
    cases gap with
    | nil =>
      have hlonger : ∀ d ∈ c :: piece, p d = false := List.forall_mem_cons.mpr ⟨hc, hpiece⟩
      exact ⟨(c :: piece) :: pieces, .append_chunk (List.cons_ne_nil _ _) hlonger hrest h⟩
    | cons d gap => exact halone fun e he => hgap e (by simp_all)

lemma exists_separated (p : Char → Bool) (t : Text) : ∃ pieces, Separated p pieces t := by
  induction t with
  | nil => exact ⟨[], .gap (by simp)⟩
  | cons c t ih =>
    obtain ⟨pieces, h⟩ := ih
    cases hc : p c with
    | true => exact ⟨pieces, h.cons_of_pos hc⟩
    | false => exact h.exists_cons_of_neg hc

/-- A text is made of its chunks and of gaps around them, and in one way only. -/
theorem chunks_eq_iff : t.chunks p = pieces ↔ Separated p pieces t := by
  refine ⟨fun h => ?_, Separated.chunks_eq⟩
  obtain ⟨found, hfound⟩ := exists_separated p t
  rwa [← h, hfound.chunks_eq]

lemma of_mem_chunks {piece : Text} (h : piece ∈ t.chunks p) :
    piece ≠ [] ∧ ∀ c ∈ piece, p c = false := by
  have hseparated : Separated p (t.chunks p) t := chunks_eq_iff.mp rfl
  generalize t.chunks p = pieces at h hseparated
  induction hseparated with
  | gap => cases h
  | chunk _ hne hpiece _ _ ih =>
    rcases List.mem_cons.mp h with rfl | h
    · exact ⟨hne, hpiece⟩
    · exact ih h

end Chunks

lemma words_append_blank {c : Char} (hc : isBlank c = true) (t u : Text) :
    (t ++ c :: u).words = t.words ++ u.words :=
  chunks_append_cons hc t u

@[simp] lemma words_nil : words [] = [] := rfl

lemma IsWord.words {t : Text} (h : t.IsWord) : t.words = [t] := chunks_of_forall_not h.1 h.2

lemma Blanks.words_append {t : Text} (h : t.Blanks) (u : Text) : (t ++ u).words = u.words :=
  chunks_append_of_forall h u

lemma Blanks.words_eq_nil {t : Text} (h : t.Blanks) : t.words = [] := by
  simpa using h.words_append []

lemma Blanks.append_words {t : Text} (h : t.Blanks) (u : Text) : (u ++ t).words = u.words := by
  cases t with
  | nil => rw [List.append_nil]
  | cons c t =>
    obtain ⟨hc, ht⟩ := List.forall_mem_cons.mp h
    rw [words_append_blank hc, Blanks.words_eq_nil ht, List.append_nil]

/-- The first word is the first of all words, and the rest has the others. -/
theorem words_of_firstWord? {t word : Text} {rest : Option Text}
    (h : t.firstWord? = some (word, rest)) :
    t.words = word :: (rest.map words).getD [] := by
  obtain ⟨hword, before, tail, left, hbefore, rfl, ⟨gap, after, hgap, hafter, hseparated, rfl⟩, -, rfl⟩ :=
    firstWord?_eq_some_iff.mp h
  rw [hbefore.words_append, hafter.append_words]
  by_cases hnone : left = []
  · subst hnone
    rw [List.append_nil, hgap.append_words, hword.words]
    rfl
  · obtain ⟨c, gap, rfl⟩ := List.exists_cons_of_ne_nil (hseparated hnone)
    obtain ⟨hc, hgap⟩ := List.forall_mem_cons.mp hgap
    have hleft : nonEmpty? left = some left := nonEmpty?_eq_some_iff.mpr ⟨hnone, rfl⟩
    rw [List.append_assoc, List.cons_append, words_append_blank hc, Blanks.words_append hgap,
      hword.words, hleft]
    rfl

lemma firstWord?_eq_none_iff {t : Text} : t.firstWord? = none ↔ t.Blanks := by
  obtain ⟨before, after, hbefore, hafter, ht⟩ := exists_trim t
  have htrim := trimmed_trim t
  cases hcase : t.trim with
  | nil =>
    rw [hcase, List.append_nil] at ht
    have hblanks : t.Blanks := ht ▸ hbefore.append hafter
    exact iff_of_true (by simp [firstWord?, hcase, nonEmpty?]) hblanks
  | cons c r =>
    rw [hcase] at ht htrim
    have hc : isBlank c = false := htrim.start c rfl
    have hmem : c ∈ t := by rw [ht]; simp
    refine iff_of_false (by simp [firstWord?, hcase, nonEmpty?, hc]) fun hblanks => ?_
    simp [hblanks c hmem] at hc

end Text

namespace Template

/-- The words of a message; none without a message. -/
def messageWords (message : Option Text) : List Text := (message.map Text.words).getD []

lemma ne_nil_of_mem_messageWords {message : Option Text} {word : Text}
    (h : word ∈ messageWords message) : word ≠ [] := by
  cases message with
  | none => cases h
  | some m => simpa using (List.mem_filter.mp h).2

lemma argumentValue_succ (message : Option Text) (index : Nat) :
    argumentValue message (index + 1) = (messageWords message)[index]?.getD [] := by
  cases message <;> rfl

/-- Without the first words of a message the positions of the others are shifted. -/
lemma argumentValue_of_drop {message left : Option Text} {k : Nat}
    (h : messageWords left = (messageWords message).drop k) {n : Nat} (hn : 1 ≤ n) :
    argumentValue left n = argumentValue message (n + k) := by
  obtain ⟨index, rfl⟩ := Nat.exists_eq_add_of_le' hn
  rw [Nat.add_right_comm, argumentValue_succ, argumentValue_succ, h, List.getElem?_drop,
    Nat.add_comm]

end Template

end CommandBot
