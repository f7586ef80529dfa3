import RegisterFamilies.Decimal
import RegisterFamilies.Text.Outline

namespace RegisterFamilies

/-- A JSON value. Whole numbers that fit into 64 bits are kept apart from all other numbers. -/
inductive Json where
  | null
  | bool (b : Bool)
  | int (n : Int)
  | float (x : Float)
  | string (s : String)
  | array (items : List Json)
  | object (entries : List (String × Json))

namespace Json

def get? (v : Json) (key : String) : Option Json :=
  match v with
  | object entries => entries.lookup key
  | _ => none

def describe : Json → String
  | null => "null"
  | bool b => "boolean " ++ Text.ticked (toString b)
  | int n => "integer " ++ Text.ticked (toString n)
  | float x => "floating point " ++ Text.ticked (Decimal.text x)
  | string s => "string " ++ Text.quoted s
  | array _ => "sequence"
  | object _ => "map"

end Json

end RegisterFamilies
