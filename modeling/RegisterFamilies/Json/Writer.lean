import RegisterFamilies.Json.Basic

namespace RegisterFamilies.Json

/-- Code points below U+0020 are escaped by four hexadecimal digits. -/
def writeChar (c : Char) : List Char :=
  if c = '"' ∨ c = '\\' then ['\\', c]
  else if c.toNat < 0x20 then ['\\', 'u'] ++ (Nat.toDigits 16 c.toNat).leftpad 4 '0'
  else [c]

def writeString (s : String) : String := "\"" ++ .ofList (s.toList.flatMap writeChar) ++ "\""

mutual

def write : Json → String
  | null => "null"
  | bool b => toString b
  | int n => toString n
  | float x => Decimal.text x
  | string s => writeString s
  | array items => "[" ++ ",".intercalate (writeItems items) ++ "]"
  | object entries => "\x7b" ++ ",".intercalate (writeEntries entries) ++ "\x7d"

def writeItems : List Json → List String
  | [] => []
  | v :: l => write v :: writeItems l

def writeEntries : List (String × Json) → List String
  | [] => []
  | (key, v) :: l => (writeString key ++ ":" ++ write v) :: writeEntries l

end

end RegisterFamilies.Json
