import RegisterFamilies.Text.Printable

namespace RegisterFamilies.Text

def codePointEscape (c : Char) : List Char :=
  ['\\', 'u', '\x7b'] ++ Nat.toDigits 16 c.toNat ++ ['\x7d']

def escape (mark c : Char) : List Char :=
  if c = '\x00' then ['\\', '0']
  else if c = '\t' then ['\\', 't']
  else if c = '\r' then ['\\', 'r']
  else if c = '\n' then ['\\', 'n']
  else if c = '\\' ∨ c = mark then ['\\', c]
  else if isPrintable c then [c]
  else codePointEscape c

def quoteWith (mark : Char) (l : List Char) : String :=
  .ofList (mark :: l.flatMap (escape mark) ++ [mark])

def quoted (s : String) : String := quoteWith '"' s.toList

def quotedChar (c : Char) : String := quoteWith '\'' [c]

def ticked (s : String) : String := "`" ++ s ++ "`"

/-- A constructor with its fields, each already a text. -/
inductive Outline where
  | plain (constructor : String) (fields : List String)
  | labelled (constructor : String) (fields : List (String × String))

namespace Outline

private def labelledField (field : String × String) : String := field.1 ++ ": " ++ field.2

private def fieldLine (field : String) : String := "    " ++ field ++ ",\n"

def line : Outline → String
  | plain constructor fields => constructor ++ "(" ++ ", ".intercalate fields ++ ")"
  | labelled constructor fields =>
    constructor ++ " \x7b " ++ ", ".intercalate (fields.map labelledField) ++ " \x7d"

def block : Outline → String
  | plain constructor fields => constructor ++ "(\n" ++ String.join (fields.map fieldLine) ++ ")"
  | labelled constructor fields =>
    constructor ++ " \x7b\n" ++ String.join (fields.map fun f => fieldLine (labelledField f)) ++
      "\x7d"

def text (spread : Bool) (o : Outline) : String := if spread then o.block else o.line

end Outline

end RegisterFamilies.Text
