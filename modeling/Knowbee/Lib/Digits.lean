import Mathlib.Data.Nat.Digits.Defs

/-!
# Decimal digits
-/

namespace Knowbee

lemma toDigits_injective {m n : Nat} (same : Nat.toDigits 10 m = Nat.toDigits 10 n) : m = n := by
  rw [← @Nat.ofDigitChars_ten_toDigits m, same, Nat.ofDigitChars_ten_toDigits]

lemma toString_nat_injective {m n : Nat} (same : toString m = toString n) : m = n := by
  have chars := congrArg String.toList same
  simp only [Nat.toString_eq_repr, Nat.toList_repr] at chars
  exact toDigits_injective chars

end Knowbee
