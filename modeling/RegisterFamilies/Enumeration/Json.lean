import RegisterFamilies.Enumeration.Basic
import RegisterFamilies.Json.Basic

namespace RegisterFamilies.Json

open Text

/-- How a JSON value can fail to stand for a value of a given type. -/
inductive Mismatch where
  | kind (found : Json) (expected : String)
  | entryCount
  | label (found : String) (expected : List String)
  | unreadable (reason : String)

def Mismatch.message : Mismatch → String
  | kind found expected => "invalid type: " ++ found.describe ++ ", expected " ++ expected
  | entryCount => "invalid value: map, expected map with a single key"
  | label found expected =>
    "unknown variant " ++ ticked found ++ ", expected one of " ++
      ", ".intercalate (expected.map ticked)
  | unreadable reason => reason

end RegisterFamilies.Json

namespace RegisterFamilies.Enumeration

variable {α : Type} [Enumeration α]

def toJson (a : α) : Json := .string (label a)

def ofLabel (s : String) : Except Json.Mismatch α :=
  match ofLabel? s with
  | some a => .ok a
  | none => .error (.label s ((all : List α).map label))

/-- Reads a value. In an object the key is looked at before its value. -/
def ofJson : Json → Except Json.Mismatch α
  | .string s => ofLabel s
  | .object [(key, payload)] =>
    match ofLabel key, payload with
    | .error e, _ => .error e
    | .ok a, .null => .ok a
    | .ok _, v => .error (.kind v "unit")
  | .object _ => .error .entryCount
  | v => .error (.kind v "string or map")

end RegisterFamilies.Enumeration
