import CommandBot.Proofs.PlaceholderReading
import CommandBot.Proofs.Results
import CommandBot.Snowflake

/-!
# Numerals

A number is read from exactly those texts that spell it and fit the limit. Reading stops at the first
digit that goes beyond the limit, and no further digit brings a number back below it. The printed form
of a number is one of its spellings.
-/

namespace CommandBot

namespace Numeral

open Template (IsRun)

/-- A text that spells a natural number: a digit or more, perhaps after a plus sign. -/
def Spells (n : Nat) (t : Text) : Prop :=
  ∃ digits, IsRun Char.isDigit digits ∧ Nat.ofDigitChars 10 digits 0 = n ∧
    (t = digits ∨ t = '+' :: digits)

/-- A text that spells an integer: the spelling of a natural number, or a digit or more after a
hyphen. -/
def SpellsInt (z : Int) (t : Text) : Prop :=
  (∃ n : Nat, z = n ∧ Spells n t) ∨
    ∃ digits, IsRun Char.isDigit digits ∧ z = -(Nat.ofDigitChars 10 digits 0 : Int) ∧ t = '-' :: digits

lemma isRun_printNat (n : Nat) : IsRun Char.isDigit (printNat n) :=
  ⟨Nat.toDigits_ne_nil, fun _ hc => Nat.isDigit_of_mem_toDigits (by decide) (by decide) hc⟩

lemma spells_printNat (n : Nat) : Spells n (printNat n) :=
  ⟨printNat n, isRun_printNat n, Nat.ofDigitChars_ten_toDigits, .inl rfl⟩

lemma spellsInt_printInt (z : Int) : SpellsInt z (printInt z) := by
  rw [printInt]
  split
  · rename_i hneg
    refine .inr ⟨printNat z.natAbs, isRun_printNat _, ?_, rfl⟩
    rw [printNat, Nat.ofDigitChars_ten_toDigits]
    omega
  · rename_i hnonneg
    exact .inl ⟨z.natAbs, by omega, spells_printNat _⟩

/-- A character that is neither a sign nor a digit is in no spelling. -/
lemma Spells.not_mem {n : Nat} {t : Text} (h : Spells n t) {c : Char} (hdigit : c.isDigit = false)
    (hplus : c ≠ '+') : c ∉ t := by
  obtain ⟨digits, hdigits, -, rfl | rfl⟩ := h
  · exact hdigits.not_mem hdigit
  · simpa [hplus] using hdigits.not_mem hdigit

lemma Spells.ne_nil {n : Nat} {t : Text} (h : Spells n t) : t ≠ [] := by
  obtain ⟨digits, hdigits, -, rfl | rfl⟩ := h
  · exact hdigits.1
  · exact List.cons_ne_nil _ _

variable {limit n m : Nat} {overflow : IntegerFault} {t : Text}

/-- Further digits never make a number smaller. -/
lemma le_ofDigitChars (n : Nat) (t : Text) : n ≤ Nat.ofDigitChars 10 t n := by
  rw [Nat.ofDigitChars_eq_ofDigitChars_zero]
  have hpos : 0 < 10 ^ t.length := Nat.pow_pos (by decide)
  exact Nat.le_add_right_of_le (Nat.le_mul_of_pos_left n hpos)

lemma readDigits_eq_ok_iff (hn : n ≤ limit) :
    readDigits limit overflow n t = .ok m ↔
      (∀ c ∈ t, c.isDigit = true) ∧ Nat.ofDigitChars 10 t n = m ∧ m ≤ limit := by
  induction t generalizing n with
  | nil =>
    rw [readDigits, Nat.ofDigitChars_nil, Except.ok.injEq]
    constructor
    · rintro rfl
      exact ⟨by simp, rfl, hn⟩
    · exact fun h => h.2.1
  | cons c r ih =>
    rw [readDigits, Nat.ofDigitChars_cons, List.forall_mem_cons]
    by_cases hc : c.isDigit = true
    · have hvalue : digit? c = some (c.toNat - '0'.toNat) := by rw [digit?, if_pos hc]; rfl
      simp only [hvalue, hc, true_and]
      by_cases hover : limit < 10 * n + (c.toNat - '0'.toNat)
      · -- The number is too large already, and stays so.
        have hle := le_ofDigitChars (10 * n + (c.toNat - '0'.toNat)) r
        rw [if_pos hover]
        refine iff_of_false (by simp) ?_
        rintro ⟨-, rfl, hm⟩
        omega
      · rw [if_neg hover]
        exact ih (Nat.le_of_not_lt hover)
    · have hnone : digit? c = none := by rw [digit?, if_neg hc]
      simp [hnone, hc]

lemma readDigits_zero_eq_ok_iff (ht : t ≠ []) :
    readDigits limit overflow 0 t = .ok m ↔
      IsRun Char.isDigit t ∧ Nat.ofDigitChars 10 t 0 = m ∧ m ≤ limit := by
  rw [readDigits_eq_ok_iff (Nat.zero_le limit), IsRun, and_iff_right ht]

/-- A natural number is read from its spellings, as long as it is within the limit. -/
theorem readNat_eq_ok_iff : readNat limit t = .ok m ↔ Spells m t ∧ m ≤ limit := by
  unfold readNat
  split
  · exact iff_of_false (by simp) fun h => h.1.ne_nil rfl
  · refine iff_of_false (by simp) ?_
    rintro ⟨⟨digits, hdigits, -, rfl | h⟩, -⟩
    · exact absurd hdigits (by decide)
    · exact hdigits.1 (List.cons.inj h).2.symm
  · rename_i r hne
    rw [readDigits_zero_eq_ok_iff fun he => hne (he ▸ rfl)]
    constructor
    · rintro ⟨hrun, hvalue, hle⟩
      exact ⟨⟨r, hrun, hvalue, .inr rfl⟩, hle⟩
    · rintro ⟨⟨digits, hrun, hvalue, rfl | h⟩, hle⟩
      · exact absurd (hrun.2 '+' List.mem_cons_self) (by decide)
      · obtain ⟨-, rfl⟩ := List.cons.inj h
        exact ⟨hrun, hvalue, hle⟩
  · rename_i hnil hplus hsigned
    rw [readDigits_zero_eq_ok_iff hnil]
    constructor
    · rintro ⟨hrun, hvalue, hle⟩
      exact ⟨⟨t, hrun, hvalue, .inl rfl⟩, hle⟩
    · rintro ⟨⟨digits, hrun, hvalue, rfl | rfl⟩, hle⟩
      · exact ⟨hrun, hvalue, hle⟩
      · exact absurd rfl (hsigned digits)

/-- An integer is read from its spellings, as long as it is within the limit on its side. -/
theorem readInt_eq_ok_iff {z : Int} :
    readInt limit t = .ok z ↔ SpellsInt z t ∧ -(limit + 1 : Int) ≤ z ∧ z ≤ limit := by
  have hhyphen : ∀ (n : Nat) (r : Text), ¬Spells n ('-' :: r) := fun n r h =>
    h.not_mem (c := '-') (by decide) (by decide) List.mem_cons_self
  unfold readInt
  split
  · refine iff_of_false (by simp) ?_
    rintro ⟨⟨n, -, hn⟩ | ⟨digits, hdigits, -, h⟩, -⟩
    · exact hhyphen n [] hn
    · exact hdigits.1 (List.cons.inj h).2.symm
  · rename_i r hne
    simp only [map_eq_ok_iff, readDigits_zero_eq_ok_iff fun he => hne (he ▸ rfl)]
    constructor
    · rintro ⟨m, ⟨hrun, rfl, hle⟩, rfl⟩
      refine ⟨.inr ⟨r, hrun, rfl, rfl⟩, ?_, ?_⟩ <;> simp only [Int.ofNat_eq_natCast] <;> omega
    · rintro ⟨⟨n, -, hn⟩ | ⟨digits, hrun, rfl, h⟩, hlow, -⟩
      · exact absurd hn (hhyphen n r)
      · obtain ⟨-, rfl⟩ := List.cons.inj h
        exact ⟨_, ⟨hrun, rfl, by omega⟩, rfl⟩
  · rename_i hsign hsigned
    simp only [map_eq_ok_iff, readNat_eq_ok_iff]
    constructor
    · rintro ⟨m, ⟨hm, hle⟩, rfl⟩
      refine ⟨.inl ⟨m, rfl, hm⟩, ?_, ?_⟩ <;> simp only [Int.ofNat_eq_natCast] <;> omega
    · rintro ⟨⟨n, rfl, hn⟩ | ⟨digits, -, -, rfl⟩, -, hhigh⟩
      · exact ⟨n, ⟨hn, by omega⟩, rfl⟩
      · exact absurd rfl (hsigned digits)

end Numeral

namespace Snowflake

lemma ofNat?_eq_some_iff {n : Nat} {user : Snowflake} : ofNat? n = some user ↔ user.val = n := by
  have hrange := And.intro user.pos user.le_max
  rw [ofNat?]
  split
  · rw [Option.some.injEq]
    constructor
    · rintro rfl
      rfl
    · rintro rfl
      rfl
  · rename_i hout
    exact iff_of_false (by simp) (fun h => hout (h ▸ hrange))

lemma exists_readNat_iff {t : Text} {s : Snowflake} :
    (∃ n, Numeral.readNat Numeral.maxWord t = .ok n ∧ ofNat? n = some s) ↔
      Numeral.Spells s.val t := by
  simp only [Numeral.readNat_eq_ok_iff, ofNat?_eq_some_iff]
  constructor
  · rintro ⟨n, ⟨hspells, -⟩, rfl⟩
    exact hspells
  · intro hspells
    exact ⟨s.val, ⟨hspells, s.le_max⟩, rfl⟩

end Snowflake

end CommandBot
