namespace RegisterFamilies.Decimal

/-- The magnitude `m * 2 ^ q` of a finite number. -/
structure Magnitude where
  m : Nat
  q : Int

namespace Magnitude

def leastNormal : Nat := 1 <<< 52

def ofFloat (x : Float) : Magnitude :=
  let bits := x.toBits.toNat
  let exponent : Nat := (bits >>> 52) % 2048
  let fraction := bits % leastNormal
  if exponent = 0 then ⟨fraction, -1074⟩ else ⟨fraction + leastNormal, exponent - 1075⟩

/-- The point of the grid `10 ^ k` that reads back as the number and is nearest to it; of two that
are equally near, the even one. -/
def gridPoint? (x : Magnitude) (k : Int) : Option Nat :=
  let scale := Nat.pow 10 (-k).toNat <<< (x.q - 2).toNat
  let step := Nat.pow 10 k.toNat <<< (2 - x.q).toNat
  let value := 4 * x.m * scale
  -- Below a power of two the neighbour is only half as far away.
  let lower := value - (if x.m = leastNormal ∧ -1074 < x.q then 1 else 2) * scale
  let upper := value + 2 * scale
  let readsBack (n : Nat) : Bool :=
    if x.m % 2 = 0 then lower ≤ n * step ∧ n * step ≤ upper
    else lower < n * step ∧ n * step < upper
  let n := value / step
  match readsBack n, readsBack (n + 1) with
  | true, true =>
    match Ord.compare (2 * (value % step)) step with
    | .lt => some n
    | .eq => some (if n % 2 = 0 then n else n + 1)
    | .gt => some (n + 1)
  | true, false => some n
  | false, true => some (n + 1)
  | false, false => none

/-- The digits, and the power of ten by which they are multiplied. -/
def shortest (x : Magnitude) : Nat × Int :=
  if x.m = 0 then (0, 0)
  else
    let grids := (List.range 640).map fun (i : Nat) => (309 : Int) - i
    (grids.findSome? fun k => (x.gridPoint? k).map fun n => (n, k)).getD (0, 0)

end Magnitude

/-- Where a number is written in full: from `lowest` to `highest` are the powers of ten that its
first digit may stand for. -/
structure Range where
  lowest : Int
  highest : Int

def fullRange : Range := ⟨-5, 15⟩

/-- The digits of `n * 10 ^ k` with a point among them, and at least one digit on each side. -/
def positional (n : Nat) (k : Int) : List Char :=
  if 0 ≤ k then
    Nat.toDigits 10 (n * Nat.pow 10 k.toNat) ++ ['.', '0']
  else
    let places := (-k).toNat
    let digits := (Nat.toDigits 10 n).leftpad (places + 1) '0'
    digits.take (digits.length - places) ++ '.' :: digits.drop (digits.length - places)

/-- The digits with a point after the first, if more follow, and the power of ten that the first
one stands for, with its sign. -/
def scientific (digits : List Char) (exponent : Int) : List Char :=
  let rest := digits.tail
  digits.take 1 ++ (if rest.isEmpty then [] else '.' :: rest) ++
    ['e', if exponent < 0 then '-' else '+'] ++ Nat.toDigits 10 exponent.natAbs

def Range.text (range : Range) (n : Nat) (k : Int) : List Char :=
  let digits := Nat.toDigits 10 n
  let exponent : Int := digits.length - 1 + k
  if range.lowest ≤ exponent ∧ exponent ≤ range.highest then positional n k
  else scientific digits exponent

def text (x : Float) : String :=
  let (n, k) := (Magnitude.ofFloat x).shortest
  .ofList ((if x.toBits.toNat >>> 63 = 1 then ['-'] else []) ++ fullRange.text n k)

end RegisterFamilies.Decimal
