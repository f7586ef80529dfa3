import Mathlib.Data.List.Forall2
import Mathlib.Data.Nat.Digits.Defs
import RegisterFamilies.Text.Numeral

namespace RegisterFamilies.Text

variable {c : Char} {d m n : Nat} {l : List Char}

/-- The character is the digit of value `d`, in either case. -/
def IsHexDigit (c : Char) (d : Nat) : Prop :=
  d < 16 ∧ (c = d.digitChar ∨ c = d.digitChar.toUpper)

/-- The text consists of one or more digits, and `n` is their value. -/
def IsHexNumeral (l : List Char) (n : Nat) : Prop :=
  l ≠ [] ∧ ∃ ds : List Nat, List.Forall₂ IsHexDigit l ds ∧ n = Nat.ofDigits 16 ds.reverse

end RegisterFamilies.Text
