import RegisterFamilies.Catalog.Basic

namespace RegisterFamilies

structure RegisterEntry where
  name : String
  width : Width
  isHighByte : Bool := false

structure FamilyEntry (n : Nat) where
  name : String
  members : List (Fin n)

namespace Catalog

variable {ρ φ : Type}

/-- The catalog that lists the given places of two tables. A register or a family is its place, so
that entries with equal names remain apart. -/
def ofTables {n m : Nat} (registers : Vector RegisterEntry n)
    (families : Vector (FamilyEntry n) m) (listed : List (Fin n)) (listedFamilies : List (Fin m)) :
    Catalog (Fin n) (Fin m) where
  name r := registers[r].name
  display r := registers[r].name
  width r := registers[r].width
  isHighByte r := registers[r].isHighByte
  familyName f := families[f].name
  registers := listed
  families := listedFamilies
  members f := families[f].members

/-- The catalog with the tables of `d` after its own. What a register or a family is stays as `c`
has it. -/
def append (c d : Catalog ρ φ) : Catalog ρ φ :=
  { c with registers := c.registers ++ d.registers, families := c.families ++ d.families }

instance : Append (Catalog ρ φ) := ⟨append⟩

def reversed (c : Catalog ρ φ) : Catalog ρ φ :=
  { c with
    registers := c.registers.reverse
    families := c.families.reverse
    members := fun f => (c.members f).reverse }

end Catalog

end RegisterFamilies
