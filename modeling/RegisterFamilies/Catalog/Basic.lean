import RegisterFamilies.WidthSet.Basic

namespace RegisterFamilies

/-- Tables over registers of type `ρ` and families of type `φ`. Members are meant to be listed in
increasing width, and a low byte before the high byte of the same word. -/
structure Catalog (ρ φ : Type) where
  name : ρ → String
  /-- What a text shows for a register, which need not be its name. -/
  display : ρ → String
  width : ρ → Width
  /-- Marks the upper half of a word, which shares no bit with the lower half. -/
  isHighByte : ρ → Bool := fun _ => false
  familyName : φ → String
  registers : List ρ
  families : List φ
  members : φ → List ρ

namespace Catalog

variable {ρ φ : Type}

def slots (c : Catalog ρ φ) : List ρ := c.families.flatMap c.members

def widths (c : Catalog ρ φ) (f : φ) : WidthSet := .ofList ((c.members f).map c.width)

def membersOfWidth (c : Catalog ρ φ) (f : φ) (w : Width) : List ρ :=
  (c.members f).filter fun r => c.width r = w

def hasHighByte (c : Catalog ρ φ) (f : φ) : Bool := (c.members f).any c.isHighByte

end Catalog

end RegisterFamilies
