import RegisterFamilies.Catalog.Basic
import RegisterFamilies.RegisterError
import RegisterFamilies.Traced

namespace RegisterFamilies

/-- The end of a query that met a defect of the catalog. -/
structure Defect where
  cause : RegisterError
  deriving DecidableEq

def Defect.message (d : Defect) : String := d.cause.message

namespace Catalog

variable {ρ φ : Type} [DecidableEq ρ] [DecidableEq φ]

def findFamily (c : Catalog ρ φ) (r : ρ) : Except RegisterError φ :=
  match c.families.find? fun f => r ∈ c.members f with
  | some f => .ok f
  | none => .error (.noFamily (c.name r))

def familyOf (c : Catalog ρ φ) (r : ρ) : Traced Defect φ :=
  match c.findFamily r with
  | .ok f => pure f
  | .error e => do
    Traced.emit (.malformedCatalog (c.display r))
    Traced.fail ⟨e⟩

/-- The member of the given width that stands for the family: the first low byte if there is one. -/
def memberOfWidth? (c : Catalog ρ φ) (f : φ) (w : Width) : Option ρ :=
  (c.membersOfWidth f w).minOn? c.isHighByte

/-- The register of the given width in the family of `r`, which is `r` itself if the width is its
own. -/
def sibling? (c : Catalog ρ φ) (r : ρ) (w : Width) : Traced Defect (Option ρ) := do
  let f ← c.familyOf r
  if c.width r = w then
    return some r
  match c.memberOfWidth? f w with
  | some s => return some s
  | none =>
    Traced.emit (.noSibling (c.display r) (c.familyName f) w)
    return none

def sibling (c : Catalog ρ φ) (r : ρ) (w : Width) :
    Traced Defect (Except RegisterError ρ) := do
  match ← c.sibling? r w with
  | some s => return .ok s
  | none => return .error (.noSibling (c.name r) w)

/-- Whether two registers share storage. Two different bytes never do: those of one family are the
halves of a word. -/
def aliases (c : Catalog ρ φ) (a b : ρ) : Traced Defect Bool := do
  let f ← c.familyOf a
  let g ← c.familyOf b
  if a = b then
    return true
  if c.width a = .byte ∧ c.width b = .byte then
    return false
  return f = g

def step (c : Catalog ρ φ) (r : ρ) (w : Width) : Traced Defect ρ := do
  return (← c.sibling? r w).getD r

def walk (c : Catalog ρ φ) (r : ρ) : List Width → Traced Defect ρ
  | [] => pure r
  | w :: l => do c.walk (← c.step r w) l

/-- The widths of the walk at which the family can be accessed. At the others the walk stays put. -/
def effective (c : Catalog ρ φ) (f : φ) (l : List Width) : List Width :=
  l.filter fun w => w ∈ c.widths f

end Catalog

end RegisterFamilies
