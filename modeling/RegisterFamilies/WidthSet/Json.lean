import RegisterFamilies.Enumeration.Json
import RegisterFamilies.Text.Layout
import RegisterFamilies.WidthSet.Basic

namespace RegisterFamilies

open Text

def Width.flagName : Width → List Char
  | byte => ['B', 'Y', 'T', 'E']
  | word => ['W', 'O', 'R', 'D']
  | long => ['L', 'O', 'N', 'G']
  | quad => ['Q', 'U', 'A', 'D']

namespace WidthSet

inductive TextError where
  | emptyPart
  | invalidNumeral
  | unknownName
  deriving DecidableEq

def TextError.message : TextError → String
  | emptyPart => "encountered empty flag"
  | invalidNumeral => "invalid hex flag"
  | unknownName => "unrecognized named flag"

def ofName? (l : List Char) : Option WidthSet :=
  (Width.all.find? fun w => w.flagName = l).map ofWidth

def ofNumeral? (l : List Char) : Option WidthSet :=
  let digits := if l.head? = some '+' then l.tail else l
  match hexNumeral? digits with
  | some n => if n < 256 then some (ofNat n) else none
  | none => none

/-- Reads one part of a written set, already trimmed. -/
def readPart : List Char → Except TextError WidthSet
  | [] => .error .emptyPart
  | '0' :: 'x' :: digits =>
    match ofNumeral? digits with
    | some s => .ok s
    | none => .error .invalidNumeral
  | l =>
    match ofName? l with
    | some s => .ok s
    | none => .error .unknownName

/-- Reads the parts from left to right, up to the first that is wrong. -/
def readParts : List (List Char) → Except TextError WidthSet
  | [] => .ok ∅
  | part :: parts => do
    let s ← readPart (trim part)
    let t ← readParts parts
    return s ∪ t

/-- Reads a written set; a blank text stands for the empty one. -/
def read (l : List Char) : Except TextError WidthSet :=
  if trim l = [] then .ok ∅ else readParts (l.splitOn '|')

def writtenParts (s : WidthSet) : List (List Char) :=
  s.widths.map Width.flagName ++
    if s.unnamed = ∅ then []
    else [Base.hexadecimal.mark ++ Base.hexadecimal.digits s.unnamed.toNat]

def write (s : WidthSet) : List Char := [' ', '|', ' '].intercalate s.writtenParts

instance : ToString WidthSet := ⟨fun s => .ofList s.write⟩

def outline (s : WidthSet) : Outline :=
  .plain "WidthSet" [if s = ∅ then "0x0" else toString s]

/-- The bits as a number in a field; the digits take letters in upper case if asked to. -/
def number (s : WidthSet) (layout : Layout) (base : Base) (upper : Bool) : List Char :=
  let digits := base.digits s.toNat
  layout.number base (if upper then digits.map Char.toUpper else digits)

def toJson (s : WidthSet) : Json := .string (toString s)

def ofJson : Json → Except Json.Mismatch WidthSet
  | .string s => (read s.toList).mapError fun e => .unreadable e.message
  | v => .error (.kind v ("a string value of " ++ ticked "|" ++ " separated flags"))

end WidthSet

end RegisterFamilies
