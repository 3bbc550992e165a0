import Scenarist.Text.Basic

/-! # Decimal texts

The text of a number holds digits only, does not begin with a zero unless it is
the text of zero, and determines the number. -/

namespace Scenarist.Text

theorem isDigit_of_mem_ofNat {value : Nat} {digit : Char} (member : digit ∈ ofNat value) :
    digit.isDigit = true :=
  Nat.isDigit_of_mem_toDigits (by decide) (by decide) member

theorem ofNat_ne_nil (value : Nat) : ofNat value ≠ [] :=
  Nat.toDigits_ne_nil

theorem ne_of_mem_ofNat {value : Nat} {digit other : Char} (member : digit ∈ ofNat value)
    (notDigit : other.isDigit = false) : digit ≠ other := by
  rintro rfl
  rw [isDigit_of_mem_ofNat member] at notDigit
  cases notDigit

theorem head?_ofNat {value : Nat} (positive : 0 < value) :
    (ofNat value).head? ≠ some '0' := by
  induction value using Nat.strongRecOn with
  | ind value induction =>
      by_cases small : value < 10
      · have notZero : ∀ digit < 10, 0 < digit → Nat.digitChar digit ≠ '0' := by decide
        rw [ofNat, Nat.toDigits_of_lt_base small]
        simpa using notZero value small positive
      · have shorter := induction (value / 10) (by omega) (by omega)
        have ⟨first, rest, digits⟩ := List.exists_cons_of_ne_nil (ofNat_ne_nil (value / 10))
        rw [ofNat] at digits
        rw [ofNat, Nat.toDigits_of_base_le (by decide) (Nat.le_of_not_lt small), digits]
        rwa [ofNat, digits] at shorter

theorem ofNat_injective {first second : Nat} (same : ofNat first = ofNat second) :
    first = second := by
  have read := congrArg (fun digits => Nat.ofDigitChars 10 digits 0) same
  simpa [ofNat] using read

end Scenarist.Text
