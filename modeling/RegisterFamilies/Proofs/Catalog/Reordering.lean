import Mathlib.Data.List.Perm.Basic
import RegisterFamilies.Catalog.Table
import RegisterFamilies.Proofs.Catalog.Siblings

namespace RegisterFamilies

namespace Catalog

variable {ρ φ : Type} {c d : Catalog ρ φ} {f : φ} {r : ρ} {w : Width}

theorem reversed_reorders (c : Catalog ρ φ) : c.reversed.Reorders c where
  name := rfl
  display := rfl
  width := rfl
  isHighByte := rfl
  familyName := rfl
  registers := List.reverse_perm c.registers
  families := List.reverse_perm c.families
  members f := List.reverse_perm (c.members f)

namespace Reorders

theorem mem_members_iff (h : d.Reorders c) : r ∈ d.members f ↔ r ∈ c.members f :=
  (h.members f).mem_iff

theorem slots_perm (h : d.Reorders c) : d.slots.Perm c.slots :=
  h.families.flatMap fun f _ => h.members f

theorem lowMembers_perm (h : d.Reorders c) : (d.lowMembers f w).Perm (c.lowMembers f w) := by
  rw [lowMembers, h.width, h.isHighByte]
  exact (h.members f).filter _

theorem highMembers_perm (h : d.Reorders c) : (d.highMembers f w).Perm (c.highMembers f w) := by
  rw [highMembers, h.width, h.isHighByte]
  exact (h.members f).filter _

theorem familyConsistent (h : d.Reorders c) (hc : c.FamilyConsistent f) :
    d.FamilyConsistent f := by
  refine ⟨fun he => ?_, fun w => ?_, fun w => ?_, fun w hw => ?_⟩
  · have hp := h.members f
    rw [he, List.nil_perm] at hp
    exact hc.nonempty hp
  · rw [h.lowMembers_perm.length_eq]
    exact hc.low w
  · rw [h.lowMembers_perm.length_eq, h.highMembers_perm.length_eq]
    exact hc.high w
  · have hp := h.highMembers_perm (f := f) (w := w)
    rw [hc.wide w hw, List.perm_nil] at hp
    exact hp

theorem consistent (h : d.Reorders c) (hc : c.Consistent) : d.Consistent := by
  refine ⟨?_, ?_, fun f hf => ?_⟩
  · rw [h.name]
    exact (h.registers.map c.name).nodup_iff.2 hc.names
  · exact (h.slots_perm.trans hc.partition).trans h.registers.symm
  · exact h.familyConsistent (hc.families f (h.families.mem_iff.1 hf))

theorem widths_eq (h : d.Reorders c) (f : φ) : d.widths f = c.widths f :=
  widths_eq_of_perm h.width (h.members f)

theorem ownerless_iff (h : d.Reorders c) : d.Ownerless r ↔ c.Ownerless r := by
  rw [ownerless_iff_not_mem_slots, ownerless_iff_not_mem_slots, h.slots_perm.mem_iff]

theorem memberOfWidth?_eq (h : d.Reorders c) (hc : c.FamilyConsistent f) (w : Width) :
    d.memberOfWidth? f w = c.memberOfWidth? f w := by
  have hp := h.lowMembers_perm (f := f) (w := w)
  rw [hc.memberOfWidth?_eq, (h.familyConsistent hc).memberOfWidth?_eq]
  cases hl : c.lowMembers f w with
  | nil =>
    rw [hl, List.perm_nil] at hp
    rw [hp]
  | cons s l =>
    have hs : s ∈ c.lowMembers f w := by
      rw [hl]
      exact List.mem_cons_self
    rw [hc.lowMembers_eq hs, List.perm_singleton] at hp
    rw [hp]
    rfl

variable [DecidableEq ρ]

theorem findFamily_eq (h : d.Reorders c) (hc : c.Consistent) (r : ρ) :
    d.findFamily r = c.findFamily r := by
  cases he : c.findFamily r with
  | ok f =>
    obtain ⟨hf, hr⟩ := mem_families_of_findFamily he
    apply (h.consistent hc).findFamily_eq_ok_iff.2
    exact ⟨h.families.mem_iff.2 hf, h.mem_members_iff.2 hr⟩
  | error e =>
    obtain ⟨ho, rfl⟩ := findFamily_eq_error_iff.1 he
    apply findFamily_eq_error_iff.2
    rw [h.name]
    exact ⟨h.ownerless_iff.2 ho, rfl⟩

theorem familyOf_eq (h : d.Reorders c) (hc : c.Consistent) (r : ρ) :
    d.familyOf r = c.familyOf r := by
  rw [familyOf, familyOf, h.findFamily_eq hc, h.display]

theorem sibling?_eq (h : d.Reorders c) (hc : c.Consistent) (r : ρ) (w : Width) :
    d.sibling? r w = c.sibling? r w := by
  cases he : c.findFamily r with
  | error e =>
    obtain ⟨ho, _⟩ := findFamily_eq_error_iff.1 he
    rw [ho.sibling?, (h.ownerless_iff.2 ho).sibling?, h.name, h.display]
  | ok f =>
    obtain ⟨hf, _⟩ := mem_families_of_findFamily he
    have hs : d.siblingIn? f r w = c.siblingIn? f r w := by
      rw [siblingIn?, siblingIn?, h.width, h.memberOfWidth?_eq (hc.families f hf)]
    have he' := (h.findFamily_eq hc r).trans he
    rw [Catalog.sibling?_eq he, Catalog.sibling?_eq he', hs, h.display, h.familyName]

theorem sibling_eq (h : d.Reorders c) (hc : c.Consistent) (r : ρ) (w : Width) :
    d.sibling r w = c.sibling r w := by
  rw [sibling, sibling, h.sibling?_eq hc, h.name]

theorem aliases_eq [DecidableEq φ] (h : d.Reorders c) (hc : c.Consistent) (a b : ρ) :
    d.aliases a b = c.aliases a b := by
  rw [aliases, aliases, h.familyOf_eq hc, h.familyOf_eq hc, h.width]

end Reorders

/-- Beside an accepted catalog, one with its tables in any other order gives the same answers, and
is accepted too unless a family is out of order. -/
theorem answers_eq_of_reorders [DecidableEq ρ] [DecidableEq φ] (hv : c.validate.result = .ok ())
    (hd : d.Reorders c) :
    (d.validate.result = .ok () ∨
      ∃ f ∈ d.families, d.validate.result = .error (.unordered (d.familyName f))) ∧
    (∀ r, d.findFamily r = c.findFamily r) ∧
    (∀ f, d.widths f = c.widths f) ∧
    (∀ r w, d.sibling? r w = c.sibling? r w) ∧
    (∀ r w, d.sibling r w = c.sibling r w) ∧
    ∀ a b, d.aliases a b = c.aliases a b := by
  obtain ⟨h, _⟩ := validate_result_eq_ok_iff_consistent.1 hv
  refine ⟨?_, hd.findFamily_eq h, hd.widths_eq, hd.sibling?_eq h, hd.sibling_eq h, hd.aliases_eq h⟩
  rcases (hd.consistent h).validate_result with hok | ⟨f, hf, _, he⟩
  · exact .inl hok
  · exact .inr ⟨f, hf, he⟩

theorem answers_eq_reversed_x86 :
    X86.catalog.validate.result = .ok () ∧ X86.catalog.reversed.Reorders X86.catalog ∧
      X86.catalog.reversed.validate.result = .error (.unordered "ip") ∧
      X86.catalog.reversed.sibling? .bx .byte = X86.catalog.sibling? .bx .byte ∧
      X86.catalog.reversed.aliases .ah .ax = X86.catalog.aliases .ah .ax := by
  have hd := X86.catalog.reversed_reorders
  obtain ⟨_, _, _, hs, _, ha⟩ := answers_eq_of_reorders X86.validate_catalog hd
  exact ⟨X86.validate_catalog, hd, rfl, hs .bx .byte, ha .ah .ax⟩

end Catalog

end RegisterFamilies
