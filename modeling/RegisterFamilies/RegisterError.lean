import RegisterFamilies.Text.Outline
import RegisterFamilies.Width

namespace RegisterFamilies

open Text

/-- Why a request that names a register or a suffix has no answer. -/
inductive RegisterError where
  | unknownRegister (name : String)
  | unknownSuffix (suffix : Char)
  | noFamily (register : String)
  | noSibling (register : String) (width : Width)
  deriving DecidableEq

namespace RegisterError

def message : RegisterError → String
  | unknownRegister name => "Unknown register " ++ ticked name
  | unknownSuffix suffix => "Unknown width suffix " ++ ticked suffix.toString
  | noFamily register => "Register " ++ ticked register ++ " does not belong to any family"
  | noSibling register width =>
    "Register " ++ ticked register ++ " has no " ++ toString width ++ " sibling"

def kind : RegisterError → String
  | unknownRegister _ => "UnknownRegister"
  | unknownSuffix _ => "UnknownSuffix"
  | noFamily _ => "NoFamily"
  | noSibling _ _ => "NoSibling"

def outline (e : RegisterError) : Outline :=
  match e with
  | unknownRegister name => .plain e.kind [quoted name]
  | unknownSuffix suffix => .plain e.kind [quotedChar suffix]
  | noFamily register => .plain e.kind [quoted register]
  | noSibling register width =>
    .labelled e.kind
      [("register", quoted register), ("width", Enumeration.constructorName width)]

end RegisterError

def Width.ofSuffix (c : Char) : Except RegisterError Width :=
  match ofSuffix? c with
  | some w => .ok w
  | none => .error (.unknownSuffix c)

theorem Width.ofSuffix_eq_ok_iff {c : Char} {w : Width} : ofSuffix c = .ok w ↔ c = w.suffix := by
  rw [← ofSuffix?_eq_some_iff, ofSuffix]
  cases ofSuffix? c with
  | none => simp only [reduceCtorEq]
  | some v => rw [Except.ok.injEq, Option.some.injEq]

end RegisterFamilies
