import RegisterFamilies.Catalog.WellFormed

namespace RegisterFamilies.Catalog

variable {ρ φ : Type}

/-- How often the register stands among the members of the families. -/
def listings [DecidableEq ρ] (c : Catalog ρ φ) (r : ρ) : Nat :=
  (c.families.flatMap c.members).count r

/-- The low and the high members of the width are as many as share one storage: none, a single low
one, or the two halves of a word. -/
def Admits (c : Catalog ρ φ) (f : φ) (w : Width) : Prop :=
  let counts := ((c.lowMembers f w).length, (c.highMembers f w).length)
  counts = (0, 0) ∨ counts = (1, 0) ∨ w = .byte ∧ counts = (1, 1)

/-- What is first of all wrong with a family taken by itself. -/
inductive FamilyDefect (c : Catalog ρ φ) (f : φ) : CatalogError → Prop where
  | empty (hm : c.members f = []) : FamilyDefect c f (.emptyFamily (c.familyName f))
  | uncatalogued {before after : List ρ} {r : ρ} (hm : c.members f = before ++ r :: after)
      (hb : ∀ s ∈ before, s ∈ c.registers) (hr : r ∉ c.registers) :
      FamilyDefect c f (.uncatalogued (c.name r))
  | unordered {a b : ρ} (hc : ∀ r ∈ c.members f, r ∈ c.registers)
      (hm : [a, b].Sublist (c.members f)) (hw : c.width b < c.width a) :
      FamilyDefect c f (.unordered (c.familyName f))
  | widthCollision {w : Width} (hc : ∀ r ∈ c.members f, r ∈ c.registers)
      (hs : ((c.members f).map c.width).Pairwise (· ≤ ·)) (hv : ∀ v < w, c.Admits f v)
      (hw : ¬ c.Admits f w) : FamilyDefect c f (.widthCollision (c.familyName f) w)

/-- The result that a check comes to, and the families that it has passed by then. -/
inductive Verdict [DecidableEq ρ] (c : Catalog ρ φ) : List φ → Except CatalogError Unit → Prop where
  | duplicateName {before after : List ρ} {r : ρ} (hr : c.registers = before ++ r :: after)
      (hb : (before.map c.name).Nodup) (hn : c.name r ∈ before.map c.name) :
      Verdict c [] (.error (.duplicateName (c.name r)))
  | orphan {before after : List ρ} {r : ρ} (names : (c.registers.map c.name).Nodup)
      (hr : c.registers = before ++ r :: after) (hb : ∀ s ∈ before, c.listings s = 1)
      (hc : c.listings r = 0) : Verdict c [] (.error (.orphan (c.name r)))
  | multipleFamilies {before after : List ρ} {r : ρ} (names : (c.registers.map c.name).Nodup)
      (hr : c.registers = before ++ r :: after) (hb : ∀ s ∈ before, c.listings s = 1)
      (hc : 1 < c.listings r) : Verdict c [] (.error (.multipleFamilies (c.name r)))
  | defective {passed rest : List φ} {f : φ} {e : CatalogError}
      (names : (c.registers.map c.name).Nodup) (owners : ∀ r ∈ c.registers, c.listings r = 1)
      (hf : c.families = passed ++ f :: rest) (hp : ∀ g ∈ passed, ∀ e, ¬ c.FamilyDefect g e)
      (he : c.FamilyDefect f e) : Verdict c passed (.error e)
  | accepted (names : (c.registers.map c.name).Nodup)
      (owners : ∀ r ∈ c.registers, c.listings r = 1)
      (hp : ∀ g ∈ c.families, ∀ e, ¬ c.FamilyDefect g e) : Verdict c c.families (.ok ())

end RegisterFamilies.Catalog
