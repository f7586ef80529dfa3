namespace RegisterFamilies.Text

def hexDigit? (c : Char) : Option Nat :=
  if '0' ≤ c ∧ c ≤ '9' then some (c.toNat - '0'.toNat)
  else if 'a' ≤ c ∧ c ≤ 'f' then some (c.toNat - 'a'.toNat + 10)
  else if 'A' ≤ c ∧ c ≤ 'F' then some (c.toNat - 'A'.toNat + 10)
  else none

/-- The value of a run of hexadecimal digits that continues a numeral of value `n`. -/
def hexValueFrom? (n : Nat) : List Char → Option Nat
  | [] => some n
  | c :: l =>
    match hexDigit? c with
    | some d => hexValueFrom? (16 * n + d) l
    | none => none

def hexNumeral? : List Char → Option Nat
  | [] => none
  | c :: l => hexValueFrom? 0 (c :: l)

inductive Base where
  | binary
  | octal
  | hexadecimal
  deriving DecidableEq

namespace Base

def radix : Base → Nat
  | binary => 2
  | octal => 8
  | hexadecimal => 16

def mark : Base → List Char
  | binary => ['0', 'b']
  | octal => ['0', 'o']
  | hexadecimal => ['0', 'x']

def digits (base : Base) (n : Nat) : List Char := Nat.toDigits base.radix n

end Base

end RegisterFamilies.Text
