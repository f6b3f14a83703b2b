import CommandBot.Proofs.Trimming
import CommandBot.Text.Case

/-!
# Lower case

A text in lower case stays as it is when it is lowered once more. Lowering gives every character an
image, makes no blank of another character, and leaves blanks blank. The case table is checked run by
run: the images of a run are blank nowhere, and lie in no run that would lower them further.
-/

namespace CommandBot.Text

def blankRanges : List (Nat × Nat) :=
  [(9, 13), (0x20, 0x20), (0x85, 0x85), (0xA0, 0xA0), (0x1680, 0x1680), (0x2000, 0x200A),
   (0x2028, 0x2029), (0x202F, 0x202F), (0x205F, 0x205F), (0x3000, 0x3000)]

lemma isBlank_eq_inRanges (c : Char) : isBlank c = inRanges blankRanges c.toNat := by
  rw [Bool.eq_iff_iff]
  simp only [isBlank, inRanges, blankRanges, Bool.or_eq_true, Bool.and_eq_true, decide_eq_true_eq,
    beq_iff_eq, List.any_cons, List.any_nil, Bool.false_eq_true, or_false]
  omega

namespace CaseRun

/-- The code point that a run gives for another one. -/
def target (run : CaseRun) (n : Nat) : Nat := (Int.ofNat n + run.shift).toNat

/-- The code points that a run gives images for. -/
def Covers (run : CaseRun) (n : Nat) : Prop :=
  run.first ≤ n ∧ n ≤ run.last ∧ (n - run.first) % run.step = 0

/-- The images of a run lie beside the code points of another one, or in turn with them. -/
def avoids (run other : CaseRun) : Bool :=
  Nat.blt (run.target run.last) other.first || Nat.blt other.last (run.target run.first) ||
    Nat.beq other.step 2 && (Nat.beq run.step 2 || Nat.beq run.first run.last) &&
      Nat.beq ((run.target run.first + other.first) % 2) 1

/-- The run has no blanks, and its images are characters without blanks among them that lowering
leaves alone: no capitals of ASCII, nothing with an expansion, and nothing that a run covers. -/
def IsFinal (run : CaseRun) : Prop :=
  0x80 ≤ run.first ∧ 0 ≤ Int.ofNat run.first + run.shift ∧
    (run.target run.last < 0xD800 ∨ 0xDFFF < run.target run.first ∧ run.target run.last < 0x110000) ∧
    (run.target run.last < 0x41 ∨ 0x5A < run.target run.first) ∧
    (∀ e ∈ lowerExpansions, run.target run.last < e.1 ∨ e.1 < run.target run.first) ∧
    (∀ r ∈ blankRanges, (run.last < r.1 ∨ r.2 < run.first) ∧
      (run.target run.last < r.1 ∨ r.2 < run.target run.first)) ∧
    lowerRuns.all run.avoids = true

instance (run : CaseRun) : Decidable run.IsFinal :=
  inferInstanceAs (Decidable (_ ≤ _ ∧ _ ≤ _ ∧ (_ ∨ _ ∧ _) ∧ (_ ∨ _) ∧ (∀ e ∈ lowerExpansions, _) ∧
    (∀ r ∈ blankRanges, _) ∧ _ = _))

lemma isFinal_of_mem : ∀ run ∈ lowerRuns, run.IsFinal := by decide +kernel

variable {run : CaseRun} {n : Nat}

lemma image?_eq_some_iff {d : Char} :
    image? n run = some d ↔ run.Covers n ∧ d = Char.ofNat (run.target n) := by
  simp only [image?, Option.ite_none_right_eq_some, Option.some.injEq, Bool.and_eq_true,
    decide_eq_true_eq, beq_iff_eq, Covers, target, and_assoc, @eq_comm _ d]

/-- The images of a run come in the order of the characters. -/
lemma IsFinal.target_bounds (h : run.IsFinal) (hn : run.Covers n) :
    run.target run.first ≤ run.target n ∧ run.target n ≤ run.target run.last := by
  obtain ⟨-, hnonneg, -⟩ := h
  obtain ⟨hfirst, hlast, -⟩ := hn
  simp only [target, Int.ofNat_eq_natCast] at *
  omega

lemma IsFinal.not_covers (h : run.IsFinal) (hn : run.Covers n) {other : CaseRun}
    (hother : other ∈ lowerRuns) : ¬other.Covers (run.target n) := by
  obtain ⟨hlow, hhigh⟩ := h.target_bounds hn
  obtain ⟨-, hnonneg, -, -, -, -, havoids⟩ := h
  obtain ⟨hfirst, hlast, hstep⟩ := hn
  rintro ⟨hfirst', hlast', hstep'⟩
  have hapart := List.all_eq_true.mp havoids other hother
  simp only [avoids, Bool.or_eq_true, Bool.and_eq_true, Nat.blt_eq, Nat.beq_eq] at hapart
  rcases hapart with (hafter | hbefore) | ⟨⟨htwo, heven⟩, hodd⟩
  · omega
  · omega
  · -- The distance of the image to the first code point of the other run is odd.
    have hparity : run.target n % 2 = run.target run.first % 2 := by
      simp only [target, Int.ofNat_eq_natCast] at *
      rcases heven with hrun | hsingle
      · rw [hrun] at hstep
        omega
      · have hsame : n = run.first := by omega
        rw [hsame]
    rw [htwo] at hstep'
    omega

lemma IsFinal.toNat_image (h : run.IsFinal) (hn : run.Covers n) :
    (Char.ofNat (run.target n)).toNat = run.target n := by
  obtain ⟨hlow, hhigh⟩ := h.target_bounds hn
  obtain ⟨-, -, hvalid, -⟩ := h
  have hchar : (run.target n).isValidChar := by
    unfold Nat.isValidChar
    omega
  rw [Char.ofNat, dif_pos hchar]
  rfl

end CaseRun

def IsLowered (c : Char) : Prop := lowerChar c = [c]

/-- What lowering makes of the characters of ASCII, one by one. -/
lemma lower_ascii : ∀ n < 0x80,
    IsLowered (Char.ofNat n).toLower ∧ isBlank (Char.ofNat n).toLower = isBlank (Char.ofNat n) ∧
      (n < 0x41 ∨ 0x5A < n → (Char.ofNat n).toLower = Char.ofNat n) := by
  unfold IsLowered
  decide +kernel

lemma isLowered_of_not_covers {c : Char} (hcapital : c.toNat < 0x41 ∨ 0x5A < c.toNat)
    (hexpansion : ∀ e ∈ lowerExpansions, c.toNat ≠ e.1)
    (hrun : ∀ run ∈ lowerRuns, ¬run.Covers c.toNat) : IsLowered c := by
  rw [IsLowered, lowerChar]
  split
  · rename_i hascii
    obtain ⟨-, -, hsame⟩ := lower_ascii c.toNat hascii
    rw [Char.ofNat_toNat] at hsame
    rw [hsame hcapital]
  · have hnone : lowerExpansions.find? (·.1 == c.toNat) = none := by
      rw [List.find?_eq_none]
      intro e he
      simpa using (hexpansion e he).symm
    have hnoImage : lowerRuns.findSome? (CaseRun.image? c.toNat) = none := by
      rw [List.findSome?_eq_none_iff]
      intro run hmem
      rw [Option.eq_none_iff_forall_ne_some]
      intro d hd
      exact hrun run hmem (CaseRun.image?_eq_some_iff.mp hd).1
    simp only [caseImage, hnone, hnoImage, Option.getD_none]

/-- A text that may stand for a character in lower case. -/
structure Lowers (c : Char) (image : Text) : Prop where
  nonempty : image ≠ []
  lowered : ∀ d ∈ image, IsLowered d
  blank : ∀ d ∈ image, isBlank d = isBlank c

-- Decided along the image, since the instances for all characters would try each of them.
instance (c : Char) (image : Text) : Decidable (Lowers c image) :=
  decidable_of_iff (image ≠ [] ∧ (image.all fun d => lowerChar d == [d]) = true ∧
      (image.all fun d => isBlank d == isBlank c) = true) <| by
    simp only [List.all_eq_true, beq_iff_eq]
    exact ⟨fun h => ⟨h.1, h.2.1, h.2.2⟩, fun h => ⟨h.nonempty, h.lowered, h.blank⟩⟩

lemma lowers_image {c : Char} {run : CaseRun} (hmem : run ∈ lowerRuns) (hc : run.Covers c.toNat) :
    Lowers c [Char.ofNat (run.target c.toNat)] := by
  have hfinal := CaseRun.isFinal_of_mem run hmem
  have hcode := hfinal.toNat_image hc
  obtain ⟨hlow, hhigh⟩ := hfinal.target_bounds hc
  have huncovered : ∀ other ∈ lowerRuns, ¬other.Covers (run.target c.toNat) :=
    fun _ hother => hfinal.not_covers hc hother
  obtain ⟨-, -, -, hcapital, hexpansion, hblank, -⟩ := hfinal
  refine ⟨List.cons_ne_nil _ _, fun d hd => ?_, fun d hd => ?_⟩
  · obtain rfl := List.mem_singleton.mp hd
    refine isLowered_of_not_covers (by omega) (fun e he => ?_) (by rwa [hcode])
    have hbeside := hexpansion e he
    omega
  · obtain rfl := List.mem_singleton.mp hd
    obtain ⟨hfirst, hlast, -⟩ := hc
    have hnone : ∀ e : Char, (∀ r ∈ blankRanges, e.toNat < r.1 ∨ r.2 < e.toNat) → isBlank e = false := by
      intro e he
      rw [isBlank_eq_inRanges, inRanges, List.any_eq_false]
      intro r hr
      have := he r hr
      simp only [Bool.and_eq_true, decide_eq_true_eq]
      omega
    rw [hnone c, hnone]
    · intro r hr
      have := (hblank r hr).2
      omega
    · intro r hr
      have := (hblank r hr).1
      omega

/-- Every character has an image in lower case, which is as blank as it is. -/
theorem lowers_lowerChar (c : Char) : Lowers c (lowerChar c) := by
  by_cases hascii : c.toNat < 0x80
  · obtain ⟨hlowered, hblank, -⟩ := lower_ascii c.toNat hascii
    rw [Char.ofNat_toNat] at hlowered hblank
    rw [lowerChar, if_pos hascii]
    exact ⟨List.cons_ne_nil _ _, by simpa using hlowered, by simpa using hblank⟩
  · rw [lowerChar, if_neg hascii, caseImage]
    cases hexpansion : lowerExpansions.find? (·.1 == c.toNat) with
    | some e =>
      have hmem := List.mem_of_find?_eq_some hexpansion
      have hcode := List.find?_some hexpansion
      obtain rfl := List.mem_singleton.mp hmem
      obtain rfl : c = Char.ofNat 0x130 := by
        rw [← Char.ofNat_toNat c, ← eq_of_beq hcode]
      decide +kernel
    | none =>
      cases hrun : lowerRuns.findSome? (CaseRun.image? c.toNat) with
      | some d =>
        obtain ⟨run, hmem, himage⟩ := List.exists_of_findSome?_eq_some hrun
        obtain ⟨hc, rfl⟩ := CaseRun.image?_eq_some_iff.mp himage
        exact lowers_image hmem hc
      | none =>
        have hlowered : IsLowered c := by
          simp only [IsLowered, lowerChar, if_neg hascii, caseImage, hexpansion, hrun, Option.getD_none]
        exact ⟨List.cons_ne_nil _ _, by simpa using hlowered, by simp⟩

lemma not_isLowered_sigma : ¬IsLowered 'Σ' := by
  unfold IsLowered
  decide +kernel

/-! ### Texts -/

/-- One step of lowering: an image, and then the rest in a context. -/
lemma exists_lowerFrom_cons (afterCased : Bool) (c : Char) (r : Text) :
    ∃ image afterCased', Lowers c image ∧
      lowerFrom afterCased (c :: r) = image ++ lowerFrom afterCased' r := by
  refine ⟨_, _, ?_, rfl⟩
  have hsigma : Lowers 'Σ' ['ς'] ∧ Lowers 'Σ' ['σ'] := by decide +kernel
  split
  · exact lowers_lowerChar c
  · rename_i hc
    obtain rfl : c = 'Σ' := by simpa using hc
    split
    · exact hsigma.1
    · exact hsigma.2

lemma exists_lowerFrom_append (afterCased : Bool) (t u : Text) :
    ∃ image afterCased', lowerFrom afterCased (t ++ u) = image ++ lowerFrom afterCased' u := by
  induction t generalizing afterCased with
  | nil => exact ⟨[], afterCased, rfl⟩
  | cons c t ih =>
    obtain ⟨image, next, -, hstep⟩ := exists_lowerFrom_cons afterCased c (t ++ u)
    obtain ⟨more, last, hrest⟩ := ih next
    exact ⟨image ++ more, last, by rw [List.cons_append, hstep, hrest, List.append_assoc]⟩

lemma isLowered_of_mem_lowerFrom {afterCased : Bool} {t : Text} {d : Char}
    (hd : d ∈ lowerFrom afterCased t) : IsLowered d := by
  induction t generalizing afterCased with
  | nil => cases hd
  | cons c r ih =>
    obtain ⟨image, next, himage, hstep⟩ := exists_lowerFrom_cons afterCased c r
    rw [hstep, List.mem_append] at hd
    exact hd.elim (himage.lowered d) ih

lemma lowerFrom_of_isLowered {afterCased : Bool} {t : Text} (h : ∀ c ∈ t, IsLowered c) :
    lowerFrom afterCased t = t := by
  induction t generalizing afterCased with
  | nil => rfl
  | cons c r ih =>
    obtain ⟨hc, hr⟩ := List.forall_mem_cons.mp h
    have hne : (c != 'Σ') = true := by
      rw [bne_iff_ne]
      rintro rfl
      exact not_isLowered_sigma hc
    have himage : lowerChar c = [c] := hc
    simp only [lowerFrom, hne, if_true, himage, ih hr, List.singleton_append]

@[simp] theorem lower_lower (t : Text) : t.lower.lower = t.lower :=
  lowerFrom_of_isLowered fun _ hd => isLowered_of_mem_lowerFrom hd

lemma lower_eq_nil_iff {t : Text} : t.lower = [] ↔ t = [] := by
  constructor
  · intro h
    cases t with
    | nil => rfl
    | cons c r =>
      obtain ⟨image, next, himage, hstep⟩ := exists_lowerFrom_cons false c r
      rw [lower, hstep, List.append_eq_nil_iff] at h
      exact absurd h.1 himage.nonempty
  · rintro rfl
    rfl

lemma not_blank_lowerFrom_iff {afterCased : Bool} {t : Text} :
    (∀ d ∈ lowerFrom afterCased t, isBlank d = false) ↔ ∀ c ∈ t, isBlank c = false := by
  induction t generalizing afterCased with
  | nil => simp [lowerFrom]
  | cons c r ih =>
    obtain ⟨image, next, himage, hstep⟩ := exists_lowerFrom_cons afterCased c r
    have hc : (∀ d ∈ image, isBlank d = false) ↔ isBlank c = false := by
      constructor
      · intro h
        obtain ⟨d, rest, hcons⟩ := List.exists_cons_of_ne_nil himage.nonempty
        have hd : d ∈ image := by simp [hcons]
        rw [← himage.blank d hd, h d hd]
      · intro h d hd
        rw [himage.blank d hd, h]
    rw [hstep, List.forall_mem_append, List.forall_mem_cons, hc, ih]

/-- Words stay words, and nothing else becomes one. -/
lemma isWord_lower_iff {t : Text} : t.lower.IsWord ↔ t.IsWord := by
  rw [IsWord, IsWord, Ne, Ne, lower_eq_nil_iff, lower, not_blank_lowerFrom_iff]

lemma Trimmed.lower {t : Text} (h : t.Trimmed) : t.lower.Trimmed := by
  constructor
  · intro d hd
    cases t with
    | nil => cases hd
    | cons c r =>
      obtain ⟨image, next, himage, hstep⟩ := exists_lowerFrom_cons false c r
      rw [Text.lower, hstep, List.head?_append_of_ne_nil _ himage.nonempty] at hd
      rw [himage.blank d (List.mem_of_mem_head? hd)]
      exact h.start c rfl
  · intro d hd
    rcases List.eq_nil_or_concat t with rfl | ⟨r, c, rfl⟩
    · cases hd
    · rw [List.concat_eq_append] at h hd
      obtain ⟨front, context, hfront⟩ := exists_lowerFrom_append false r [c]
      obtain ⟨image, next, himage, hstep⟩ := exists_lowerFrom_cons context c []
      rw [Text.lower, hfront, hstep, lowerFrom, List.append_nil,
        List.getLast?_append_of_ne_nil _ himage.nonempty] at hd
      rw [himage.blank d (List.mem_of_mem_getLast? hd)]
      exact h.finish c (by simp)

end CommandBot.Text
