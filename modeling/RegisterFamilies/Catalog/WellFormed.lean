import RegisterFamilies.Catalog.Query
import RegisterFamilies.Catalog.Validate

namespace RegisterFamilies.Catalog

variable {ρ φ : Type}

def lowMembers (c : Catalog ρ φ) (f : φ) (w : Width) : List ρ :=
  (c.members f).filter fun r => c.width r = w ∧ c.isHighByte r = false

def highMembers (c : Catalog ρ φ) (f : φ) (w : Width) : List ρ :=
  (c.members f).filter fun r => c.width r = w ∧ c.isHighByte r = true

/-- A family is well formed if its members rise in width, no two above a byte are of one width, and
only a byte that comes with its low half is a high one. -/
structure FamilyWellFormed (c : Catalog ρ φ) (f : φ) : Prop where
  nonempty : c.members f ≠ []
  sorted : ((c.members f).map c.width).Pairwise (· ≤ ·)
  wide (w : Width) : .byte < w →
    (c.lowMembers f w).length ≤ 1 ∧ c.highMembers f w = []
  bytes : (∀ r ∈ c.members f, c.width r ≠ .byte) ∨
    (c.lowMembers f .byte).length = 1 ∧ (c.highMembers f .byte).length ≤ 1

/-- A catalog is well formed if names tell its registers apart, its families divide them up, and
each family is well formed. -/
structure WellFormed (c : Catalog ρ φ) : Prop where
  names : (c.registers.map c.name).Nodup
  partition : (c.families.flatMap c.members).Perm c.registers
  families : ∀ f ∈ c.families, c.FamilyWellFormed f

def Ownerless (c : Catalog ρ φ) (r : ρ) : Prop := ∀ f ∈ c.families, r ∉ c.members f

/-- The tables of `d` are those of `c` in another order. -/
structure Reorders (d c : Catalog ρ φ) : Prop where
  name : d.name = c.name
  display : d.display = c.display
  width : d.width = c.width
  isHighByte : d.isHighByte = c.isHighByte
  familyName : d.familyName = c.familyName
  registers : d.registers.Perm c.registers
  families : d.families.Perm c.families
  members (f : φ) : (d.members f).Perm (c.members f)

def Covers (c : Catalog ρ φ) (r : ρ) (i : Nat) : Prop :=
  if c.isHighByte r then 8 ≤ i ∧ i < 16 else i < (c.width r).bits

/-- Two registers have a bit in common, if they lie in the same storage. -/
def Overlap (c : Catalog ρ φ) (a b : ρ) : Prop := ∃ i, c.Covers a i ∧ c.Covers b i

end RegisterFamilies.Catalog
