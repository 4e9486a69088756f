import Mathlib.Data.List.Lex
import Mathlib.Data.Nat.Log
import Mathlib.Data.String.Basic

/-!
# Decimal numerals in lexicographic order

Numerals of one length compare as numbers.  A longer numeral is compared by
its leading digits, so that lexicographic order and numeric order part as soon
as the lengths differ.
-/

universe u

namespace Numeral

section

variable {Symbol : Type u} [LinearOrder Symbol]

/-- Beyond parts of one length the rest decides only if these parts agree. -/
theorem append_lt_append_iff {front front' back back' : List Symbol}
    (length : front.length = front'.length) :
    front ++ back < front' ++ back' ↔
      front < front' ∨ front = front' ∧ back < back' := by
  induction front generalizing front' with
  | nil =>
      cases front' with
      | nil => simp
      | cons symbol rest => cases length
  | cons symbol rest induction =>
      cases front' with
      | nil => cases length
      | cons symbol' rest' =>
          rw [List.length_cons, List.length_cons, Nat.succ_inj] at length
          rw [List.cons_append, List.cons_append, List.cons_lt_cons_iff,
            List.cons_lt_cons_iff, induction length, List.cons.injEq]
          tauto

end

/-! ## Numerals of one length -/

theorem digitChar_lt_iff {digit digit' : Nat} (small : digit < 10)
    (small' : digit' < 10) :
    digit.digitChar < digit'.digitChar ↔ digit < digit' := by
  rw [Char.lt_def, UInt32.lt_iff_toNat_lt]
  change digit.digitChar.toNat < digit'.digitChar.toNat ↔ _
  rw [Nat.toNat_digitChar_of_lt_ten small, Nat.toNat_digitChar_of_lt_ten small']
  omega

theorem toDigits_injective : Function.Injective (Nat.toDigits 10) :=
  Function.LeftInverse.injective (g := fun digits => Nat.ofDigitChars 10 digits 0)
    fun _ => Nat.ofDigitChars_toDigits (by decide) (by decide)

theorem length_toDigits (number : Nat) :
    (Nat.toDigits 10 number).length = Nat.log 10 number + 1 := by
  apply Nat.le_antisymm
  · rw [Nat.length_toDigits_le_iff (by decide) (Nat.succ_pos _)]
    exact Nat.lt_pow_succ_log_self (by decide) number
  · by_contra short
    have positive : 0 < Nat.log 10 number := by
      have nonempty : 0 < (Nat.toDigits 10 number).length := Nat.length_toDigits_pos
      omega
    have above := (Nat.length_toDigits_le_iff (by decide) positive).mp
      (show (Nat.toDigits 10 number).length ≤ Nat.log 10 number by omega)
    have nonzero : number ≠ 0 := by
      rintro rfl
      simp at positive
    exact absurd above (Nat.pow_log_le_self 10 nonzero).not_gt

theorem toDigits_of_lt {number : Nat} (small : number < 10) :
    Nat.toDigits 10 number = [number.digitChar] :=
  Nat.toDigits_of_lt_base small

theorem toDigits_of_le {number : Nat} (large : 10 ≤ number) :
    Nat.toDigits 10 number =
      Nat.toDigits 10 (number / 10) ++ [(number % 10).digitChar] :=
  Nat.toDigits_of_base_le (by decide) large

theorem lt_ten_iff_length {number : Nat} :
    number < 10 ↔ (Nat.toDigits 10 number).length = 1 := by
  have nonempty : 0 < (Nat.toDigits 10 number).length := Nat.length_toDigits_pos
  have short := Nat.length_toDigits_le_iff (n := number) (b := 10) (by decide) Nat.one_pos
  rw [Nat.pow_one] at short
  omega

/-- Numerals of one length compare as numbers: the last digits decide if the
numbers before them agree. -/
theorem toDigits_lt_iff {number number' : Nat}
    (length : (Nat.toDigits 10 number).length = (Nat.toDigits 10 number').length) :
    Nat.toDigits 10 number < Nat.toDigits 10 number' ↔ number < number' := by
  induction number using Nat.strong_induction_on generalizing number' with
  | _ number induction =>
      by_cases small : number < 10
      · have small' : number' < 10 :=
          lt_ten_iff_length.mpr (length ▸ lt_ten_iff_length.mp small)
        rw [toDigits_of_lt small, toDigits_of_lt small', List.cons_lt_cons_iff,
          digitChar_lt_iff small small']
        simp
      · have large : 10 ≤ number := Nat.le_of_not_lt small
        have large' : 10 ≤ number' := by
          by_contra small'
          have single := lt_ten_iff_length.mp (Nat.lt_of_not_le small')
          exact small (lt_ten_iff_length.mpr (length.trans single))
        rw [toDigits_of_le large, toDigits_of_le large', List.length_append,
          List.length_append, List.length_singleton, List.length_singleton,
          Nat.succ_inj] at length
        have digit := Nat.mod_lt number (show 10 > 0 by decide)
        have digit' := Nat.mod_lt number' (show 10 > 0 by decide)
        rw [toDigits_of_le large, toDigits_of_le large', append_lt_append_iff length,
          induction (number / 10) (by omega) length, toDigits_injective.eq_iff,
          List.cons_lt_cons_iff, digitChar_lt_iff digit digit']
        simp only [lt_irrefl, and_false, or_false]
        omega

/-! ## Numerals of different lengths -/

/-- The number that the first digits of `number` form, as many as `other` has. -/
def leading (number other : Nat) : Nat :=
  number / 10 ^ (Nat.log 10 number - Nat.log 10 other)

/-- The digits of a number after its first ones. -/
theorem toDigits_eq_append (count number : Nat) (long : 10 ^ count ≤ number) :
    ∃ rest, rest.length = count ∧ (∀ digit ∈ rest, digit.isDigit) ∧
      Nat.toDigits 10 number = Nat.toDigits 10 (number / 10 ^ count) ++ rest := by
  induction count generalizing number with
  | zero => exact ⟨[], rfl, by simp, by simp⟩
  | succ count induction =>
      have shorter : 10 ^ count ≤ number / 10 := by
        rw [Nat.le_div_iff_mul_le (by decide), ← Nat.pow_succ]
        exact long
      have large : 10 ≤ number := by
        have positive : 0 < 10 ^ count := Nat.pow_pos (by decide)
        omega
      obtain ⟨rest, length, digits, split⟩ := induction (number / 10) shorter
      refine ⟨rest ++ [(number % 10).digitChar], by simp [length], ?_, ?_⟩
      · intro digit member
        rcases List.mem_append.mp member with earlier | last
        · exact digits digit earlier
        · rw [List.mem_singleton.mp last, Nat.isDigit_digitChar]
          exact decide_eq_true (Nat.mod_lt number (by decide))
      · rw [toDigits_of_le large, split, Nat.div_div_eq_div_mul, ← Nat.pow_succ',
          List.append_assoc]

theorem lt_of_isDigit {symbol digit : Char} (below : symbol < '0')
    (isDigit : digit.isDigit) : symbol < digit := by
  simp only [Char.isDigit, Bool.and_eq_true, decide_eq_true_eq] at isDigit
  exact lt_of_lt_of_le below isDigit.1

/-- Behind a separator below the digits, the numeral of the greater number
comes first exactly if its leading digits form the smaller number. -/
theorem toDigits_append_lt_iff {number other : Nat} {separator : Char}
    (back : List Char) (below : separator < '0') (less : other < number) :
    Nat.toDigits 10 number ++ separator :: back <
        Nat.toDigits 10 other ++ separator :: back ↔
      leading number other < other := by
  have logs : Nat.log 10 other ≤ Nat.log 10 number := Nat.log_mono_right less.le
  have long : 10 ^ (Nat.log 10 number - Nat.log 10 other) ≤ number :=
    (Nat.pow_le_pow_right (by decide) (Nat.sub_le _ _)).trans
      (Nat.pow_log_le_self 10 (by omega))
  obtain ⟨rest, restLength, digits, split⟩ := toDigits_eq_append _ number long
  have length : (Nat.toDigits 10 (leading number other)).length =
      (Nat.toDigits 10 other).length := by
    rw [length_toDigits, length_toDigits, leading, Nat.log_div_base_pow]
    omega
  rw [split, List.append_assoc]
  change Nat.toDigits 10 (leading number other) ++ _ < _ ↔ _
  rw [append_lt_append_iff length, toDigits_lt_iff length, or_iff_left]
  rintro ⟨same, before⟩
  have agree : leading number other = other := toDigits_injective same
  cases rest with
  | nil =>
      rw [leading, ← restLength, List.length_nil, Nat.pow_zero, Nat.div_one] at agree
      exact less.ne' agree
  | cons digit rest =>
      have above := lt_of_isDigit below (digits digit List.mem_cons_self)
      rw [List.cons_append, List.cons_lt_cons_iff] at before
      rcases before with smaller | ⟨equal, -⟩
      · exact lt_asymm above smaller
      · exact above.ne' equal

end Numeral
