import RegisterFamilies.X86.Basic

namespace RegisterFamilies.X86.Register

open Text

def dropSigil : List Char → List Char
  | '%' :: l => l
  | l => l

def ofName? (s : String) : Option Register :=
  let name := (dropSigil (trim s.toList)).map Char.toLower
  all.find? fun r => r.name.toList = name

/-- Reads a register. A text that spells none is recorded as it was given. -/
def parse (s : String) : Traced RegisterError Register :=
  match ofName? s with
  | some r => pure r
  | none => do
    Traced.emit (.unknownRegister s)
    Traced.fail (.unknownRegister s)

/-- The text `s` spells `r`: between blanks stands the name, in letters of either case, with or
without a percent sign before it. -/
def Spells (s : String) (r : Register) : Prop :=
  ∃ before sigil name after,
    s.toList = before ++ sigil ++ name ++ after ∧ Blank before ∧ Blank after ∧
      (sigil = [] ∨ sigil = ['%']) ∧ name.map Char.toLower = r.name.toList

end RegisterFamilies.X86.Register
