import RegisterFamilies.WidthSet.Json

namespace RegisterFamilies

inductive Event where
  | unknownRegister (name : String)
  | noSibling (register family : String) (width : Width)
  | malformedCatalog (register : String)
  | familyValidated (family : String) (members : Nat) (widths : WidthSet)
  deriving DecidableEq

namespace Event

inductive Level where
  | trace
  | debug
  | error
  deriving DecidableEq

inductive FieldValue where
  | text (s : String)
  | count (n : Nat)
  deriving DecidableEq

def level : Event → Level
  | unknownRegister _ => .trace
  | noSibling _ _ _ => .trace
  | malformedCatalog _ => .error
  | familyValidated _ _ _ => .debug

def message : Event → String
  | unknownRegister _ => "unknown register"
  | noSibling _ _ _ => "no sibling at width"
  | malformedCatalog _ => "register catalog is malformed"
  | familyValidated _ _ _ => "family validated"

def fields : Event → List (String × FieldValue)
  | unknownRegister name => [("name", .text name)]
  | noSibling register family width =>
    [("register", .text register), ("family", .text family), ("width", .text (toString width))]
  | malformedCatalog register => [("register", .text register)]
  | familyValidated family members widths =>
    [("family", .text family), ("members", .count members), ("widths", .text widths.outline.line)]

end Event

end RegisterFamilies
