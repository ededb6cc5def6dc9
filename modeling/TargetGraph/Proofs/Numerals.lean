import TargetGraph.Number

/-!
# Decimal numerals

A run of digits is read as the number that it counts, however many zeros it starts with and however long
it is. Anything else, a sign included, is no run of digits. A number that is written in decimal is such a
run, and is read back.
-/

namespace TargetGraph.Digits

set_option autoImplicit false

theorem decimal_digit {c : Char} (decimal : c.isDigit) :
    digit? 10 c = some (c.toNat - '0'.toNat) := by
  have known : isDecimal c = true := decimal
  have range : 48 ≤ c.toNat ∧ c.toNat ≤ 57 := Char.isDigit_iff_toNat.mp decimal
  have below : c.toNat - 48 < 10 := by omega
  simp [digit?, hexadecimal?, known, below]

theorem no_decimal_digit {c : Char} (other : c.isDigit = false) : digit? 10 c = none := by
  have unknown : isDecimal c = false := other
  rw [digit?, Option.filter_eq_none_iff]
  intro value known
  rw [hexadecimal?, unknown, if_neg Bool.false_ne_true] at known
  split at known
  case isTrue range =>
    have small : 97 ≤ c.toNat := range.1
    rw [← Option.some.inj known, decide_eq_true_iff]
    omega
  split at known
  case isTrue range =>
    have capital : 65 ≤ c.toNat := range.1
    rw [← Option.some.inj known, decide_eq_true_iff]
    omega
  case isFalse => cases known

/-- The digits that follow some are read as what all of them count. -/
theorem fold_digits_iff (text : List Char) (start value : Nat) :
    text.foldlM (fun value c => (digit? 10 c).map fun digit => value * 10 + digit) start = some value ↔
      (∀ c ∈ text, c.isDigit) ∧ Nat.ofDigitChars 10 text start = value := by
  induction text generalizing start with
  | nil => simp [Nat.ofDigitChars_nil]
  | cons c text induction =>
      rw [List.foldlM_cons, List.forall_mem_cons, Nat.ofDigitChars_cons]
      cases decimal : c.isDigit with
      | true =>
          rw [decimal_digit decimal, Option.map_some, Nat.mul_comm]
          simpa using induction _
      | false => simp [no_decimal_digit decimal]

theorem read_decimal_iff (text : List Char) (value : Nat) :
    read? 10 text = some value ↔
      text ≠ [] ∧ (∀ c ∈ text, c.isDigit) ∧ Nat.ofDigitChars 10 text 0 = value := by
  rw [read?]
  cases text with
  | nil => simp
  | cons c text =>
      rw [List.isEmpty_cons, if_neg Bool.false_ne_true, fold_digits_iff]
      simp

theorem written_digits (value : Nat) : ∀ c ∈ write value, c.isDigit := fun _ member =>
  Nat.isDigit_of_mem_toDigits (by decide) (by decide) member

theorem written_some (value : Nat) : write value ≠ [] := Nat.toDigits_ne_nil

theorem written_count (value : Nat) : Nat.ofDigitChars 10 (write value) 0 = value :=
  Nat.ofDigitChars_ten_toDigits

end TargetGraph.Digits
