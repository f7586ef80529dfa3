import RegisterFamilies.Catalog.Basic
import RegisterFamilies.Catalog.Error
import RegisterFamilies.Traced

namespace RegisterFamilies

/-- The first text that occurs in `seen` or before itself in the list. -/
def firstRepeated? (seen : List String) : List String → Option String
  | [] => none
  | s :: l => if s ∈ seen then some s else firstRepeated? (s :: seen) l

def hasDescent : List Width → Bool
  | v :: w :: l => w < v || hasDescent (w :: l)
  | _ => false

namespace Catalog

variable {ρ φ : Type} [DecidableEq ρ]

/-- A register must stand in exactly one place among the members of all families. -/
def ownershipDefect? (c : Catalog ρ φ) (r : ρ) : Option CatalogError :=
  match c.slots.count r with
  | 0 => some (.orphan (c.name r))
  | 1 => none
  | _ => some (.multipleFamilies (c.name r))

/-- The numbers of low and of high bytes that one family may have at a width. -/
def fits (w : Width) (low high : Nat) : Bool :=
  (low = 0 ∧ high = 0) ∨ (low = 1 ∧ high = 0) ∨ (w = .byte ∧ low = 1 ∧ high = 1)

def widthFits (c : Catalog ρ φ) (f : φ) (w : Width) : Bool :=
  let l := c.membersOfWidth f w
  fits w (l.countP fun r => !c.isHighByte r) (l.countP c.isHighByte)

def familyDefect? (c : Catalog ρ φ) (f : φ) : Option CatalogError :=
  if (c.members f).isEmpty then
    some (.emptyFamily (c.familyName f))
  else
    match (c.members f).find? fun r => r ∉ c.registers with
    | some r => some (.uncatalogued (c.name r))
    | none =>
      if hasDescent ((c.members f).map c.width) then
        some (.unordered (c.familyName f))
      else
        (Width.all.find? fun w => !c.widthFits f w).map (.widthCollision (c.familyName f))

def validated (c : Catalog ρ φ) (f : φ) : Event :=
  .familyValidated (c.familyName f) (c.members f).length (c.widths f)

/-- Checks families in turn, up to the first with a defect. -/
def validateFamilies (c : Catalog ρ φ) : List φ → Traced CatalogError Unit
  | [] => pure ()
  | f :: l =>
    match c.familyDefect? f with
    | some e => Traced.fail e
    | none => do
      Traced.emit (c.validated f)
      c.validateFamilies l

def validate (c : Catalog ρ φ) : Traced CatalogError Unit :=
  match firstRepeated? [] (c.registers.map c.name) with
  | some s => Traced.fail (.duplicateName s)
  | none =>
    match c.registers.findSome? c.ownershipDefect? with
    | some e => Traced.fail e
    | none => c.validateFamilies c.families

end Catalog

end RegisterFamilies
