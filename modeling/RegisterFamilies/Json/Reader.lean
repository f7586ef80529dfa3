import RegisterFamilies.Json.Basic
import RegisterFamilies.Text.Numeral

namespace RegisterFamilies.Json

def isSpace (c : Char) : Bool := c = ' ' ∨ c = '\t' ∨ c = '\n' ∨ c = '\r'

def skipSpace (l : List Char) : List Char := l.dropWhile isSpace

def escaped? : Char → Option Char
  | '"' => some '"'
  | '\\' => some '\\'
  | '/' => some '/'
  | 'b' => some '\x08'
  | 'f' => some '\x0c'
  | 'n' => some '\n'
  | 'r' => some '\r'
  | 't' => some '\t'
  | _ => none

/-- Joins the two halves of a code point above U+FFFF. -/
def joinHalves (high low : Nat) : Char :=
  .ofNat (0x10000 + (high - 0xD800) * 0x400 + (low - 0xDC00))

/-- Reads the rest of a string, whose last characters come first in `done`. A code point above
U+FFFF is escaped in two halves, and `half` is the first of them while the second is due. -/
def readString (done : List Char) (half : Option Nat) : List Char → Option (String × List Char)
  | '\\' :: 'u' :: a :: b :: c :: d :: l =>
    match Text.hexNumeral? [a, b, c, d], half with
    | none, _ => none
    | some n, some high =>
      if 0xDC00 ≤ n ∧ n ≤ 0xDFFF then readString (joinHalves high n :: done) none l else none
    | some n, none =>
      if 0xD800 ≤ n ∧ n ≤ 0xDBFF then readString done (some n) l
      else if 0xDC00 ≤ n ∧ n ≤ 0xDFFF then none
      else readString (.ofNat n :: done) none l
  | '\\' :: c :: l =>
    match escaped? c, half with
    | some e, none => readString (e :: done) none l
    | _, _ => none
  | c :: l =>
    if half.isSome ∨ c = '\\' ∨ c.toNat < 0x20 then none
    else if c = '"' then some (.ofList done.reverse, l)
    else readString (c :: done) none l
  | [] => none

/-- The number made of as many leading digits as fit into 64 bits, after those in `n`, and how many
digits are left over. -/
def leadingDigits (n : Nat) : List Char → Nat × Nat
  | [] => (n, 0)
  | c :: l =>
    let m := 10 * n + (c.toNat - '0'.toNat)
    if m < 0x10000000000000000 then leadingDigits m l else (n, l.length + 1)

/-- A significand times a power of ten, in steps that the range of exponents allows. -/
def scaled? (x : Float) (exponent : Int) : Nat → Option Float
  | 0 => some x
  | steps + 1 =>
    if exponent.natAbs ≤ 308 then
      let power := Float.ofScientific 1 false exponent.natAbs
      let y := if 0 ≤ exponent then x * power else x / power
      if y.isInf then none else some y
    else if x == 0 then some x
    else if 0 ≤ exponent then none
    else scaled? (x / Float.ofScientific 1 false 308) (exponent + 308) steps

def readExponent (l : List Char) : Option (Option Int × List Char) :=
  match l with
  | c :: rest =>
    if c = 'e' ∨ c = 'E' then
      let (negative, rest) : Bool × List Char :=
        match rest with
        | '-' :: r => (true, r)
        | '+' :: r => (false, r)
        | r => (false, r)
      let digits := rest.takeWhile Char.isDigit
      if digits.isEmpty then none
      else
        let n : Int := Nat.ofDigitChars 10 digits 0
        some (some (if negative then -n else n), rest.dropWhile Char.isDigit)
    else some (none, l)
  | [] => some (none, [])

def readFraction (l : List Char) : Option (Option (List Char) × List Char) :=
  match l with
  | '.' :: rest =>
    let digits := rest.takeWhile Char.isDigit
    if digits.isEmpty then none else some (some digits, rest.dropWhile Char.isDigit)
  | _ => some (none, l)

/-- The value of a number whose sign, digits and exponent are known. A whole number is kept as such
if it fits into 64 bits, and is not minus zero. -/
def number? (negative : Bool) (whole : List Char) (fraction : Option (List Char))
    (exponent : Option Int) : Option Json :=
  let (n, dropped) := leadingDigits 0 whole
  let signed (x : Float) : Json := .float (if negative then -x else x)
  match fraction, exponent with
  | none, none =>
    if 0 < dropped then (scaled? n.toUInt64.toFloat dropped 4).map signed
    else if negative then
      some (if n = 0 ∨ 0x8000000000000000 < n then signed n.toUInt64.toFloat else .int (-n))
    else some (.int n)
  | _, _ =>
    let digits := fraction.getD []
    let (n, unread) := leadingDigits n digits
    let places : Int := digits.length - unread
    (scaled? n.toUInt64.toFloat (dropped - places + exponent.getD 0) 4).map signed

def readNumber (l : List Char) : Option (Json × List Char) :=
  let (negative, l) : Bool × List Char :=
    match l with
    | '-' :: r => (true, r)
    | r => (false, r)
  let whole := l.takeWhile Char.isDigit
  if whole.isEmpty ∨ (whole.head? = some '0' ∧ 1 < whole.length) then none
  else do
    let (fraction, l) ← readFraction (l.dropWhile Char.isDigit)
    let (exponent, l) ← readExponent l
    let v ← number? negative whole fraction exponent
    return (v, l)

def readScalar : List Char → Option (Json × List Char)
  | 'n' :: 'u' :: 'l' :: 'l' :: l => some (null, l)
  | 't' :: 'r' :: 'u' :: 'e' :: l => some (bool true, l)
  | 'f' :: 'a' :: 'l' :: 's' :: 'e' :: l => some (bool false, l)
  | '"' :: l => (readString [] none l).map fun (s, l) => (string s, l)
  | l => readNumber l

/-- Reads at most `n` items with commas between them, and the closing mark. -/
def readItems {α : Type} (item : List Char → Option (α × List Char)) (close : Char) :
    Nat → List Char → Option (List α × List Char)
  | 0, _ => none
  | n + 1, l => do
    let (a, l) ← item (skipSpace l)
    match skipSpace l with
    | c :: l =>
      if c = ',' then
        let (as, l) ← readItems item close n l
        return (a :: as, l)
      else if c = close then
        return ([a], l)
      else
        none
    | [] => none

def readUntil {α : Type} (item : List Char → Option (α × List Char)) (close : Char)
    (l : List Char) : Option (List α × List Char) :=
  if (skipSpace l).head? = some close then some ([], (skipSpace l).tail)
  else readItems item close (l.length + 1) l

def readEntry (value : List Char → Option (Json × List Char)) :
    List Char → Option ((String × Json) × List Char)
  | '"' :: l => do
    let (key, l) ← readString [] none l
    match skipSpace l with
    | ':' :: l =>
      let (v, l) ← value (skipSpace l)
      return ((key, v), l)
    | _ => none
  | _ => none

/-- Of entries with the same key the last one counts. -/
def lastOfEachKey (entries : List (String × Json)) : List (String × Json) :=
  entries.foldr (fun entry l => if (l.lookup entry.1).isSome then l else entry :: l) []

def readValue : Nat → List Char → Option (Json × List Char)
  | 0, l => readScalar l
  | depth + 1, l =>
    match l with
    | '[' :: l => (readUntil (readValue depth) ']' l).map fun (items, l) => (array items, l)
    | '\x7b' :: l =>
      (readUntil (readEntry (readValue depth)) '\x7d' l).map fun (entries, l) =>
        (object (lastOfEachKey entries), l)
    | l => readScalar l

def read? (s : String) : Option Json := do
  let (v, l) ← readValue 127 (skipSpace s.toList)
  if (skipSpace l).isEmpty then some v else none

end RegisterFamilies.Json
