import RegisterFamilies.Proofs.Catalog.Aliasing
import RegisterFamilies.Proofs.Catalog.Siblings

namespace RegisterFamilies

namespace Catalog

variable {ρ φ : Type} [DecidableEq ρ] {c : Catalog ρ φ} {f : φ} {a b r : ρ} {w : Width}

theorem exists_findFamily_iff : (∃ f, c.findFamily r = .ok f) ↔ ¬ c.Ownerless r := by
  refine ⟨fun ⟨f, he⟩ ho => ?_, fun h => ?_⟩
  · obtain ⟨hf, hr⟩ := mem_families_of_findFamily he
    exact ho f hf hr
  · cases he : c.findFamily r with
    | ok f => exact ⟨f, rfl⟩
    | error e => exact (h (findFamily_eq_error_iff.1 he).1).elim

theorem findFamily_eq_noFamily_iff :
    c.findFamily r = .error (.noFamily (c.name r)) ↔ c.Ownerless r := by
  rw [findFamily_eq_error_iff, and_iff_left rfl]

theorem familyOf_succeeds_iff : (c.familyOf r).Succeeds ↔ ¬ c.Ownerless r := by
  refine ⟨fun h ho => ?_, fun h => ?_⟩
  · rw [ho.familyOf] at h
    exact Traced.not_succeeds_of_result_eq_error rfl h
  · obtain ⟨f, hf⟩ := exists_findFamily_iff.2 h
    rw [familyOf_of_findFamily hf]
    exact Traced.succeeds_pure f

theorem sibling?_succeeds_iff : (c.sibling? r w).Succeeds ↔ ¬ c.Ownerless r := by
  refine ⟨fun h ho => ?_, fun h => ?_⟩
  · rw [ho.sibling?] at h
    exact Traced.not_succeeds_of_result_eq_error rfl h
  · obtain ⟨f, hf⟩ := exists_findFamily_iff.2 h
    exact ⟨_, sibling?_result hf⟩

theorem sibling_succeeds_iff : (c.sibling r w).Succeeds ↔ ¬ c.Ownerless r := by
  rw [sibling, Traced.bind_succeeds_iff, ← sibling?_succeeds_iff (w := w)]
  constructor
  · rintro ⟨s, hs, _⟩
    exact ⟨s, hs⟩
  · rintro ⟨s, hs⟩
    refine ⟨s, hs, ?_⟩
    cases s with
    | some s => exact Traced.succeeds_pure _
    | none => exact Traced.succeeds_pure _

theorem aliases_succeeds_iff [DecidableEq φ] :
    (c.aliases a b).Succeeds ↔ ¬ c.Ownerless a ∧ ¬ c.Ownerless b := by
  refine ⟨fun h => ?_, fun ⟨ha, hb⟩ => ?_⟩
  · rw [aliases, Traced.bind_succeeds_iff] at h
    obtain ⟨f, hf, h⟩ := h
    obtain ⟨g, hg, _⟩ := Traced.bind_succeeds_iff.1 h
    exact ⟨familyOf_succeeds_iff.1 ⟨f, hf⟩, familyOf_succeeds_iff.1 ⟨g, hg⟩⟩
  · obtain ⟨f, hf⟩ := exists_findFamily_iff.2 ha
    obtain ⟨g, hg⟩ := exists_findFamily_iff.2 hb
    rw [aliases_eq hf hg]
    exact Traced.succeeds_pure _

/-- In an accepted catalog a register is found in exactly the family that owns it, and no query
answers for a register that has none. -/
theorem findFamily_eq_ok_iff_owner [DecidableEq φ] (hv : c.validate.result = .ok ()) (r : ρ) :
    (∀ f, c.findFamily r = .ok f ↔ f ∈ c.families ∧ r ∈ c.members f) ∧
    (∀ f ∈ c.families, r ∈ c.members f → ∀ g ∈ c.families, r ∈ c.members g → f = g) ∧
    (c.findFamily r = .error (.noFamily (c.name r)) ↔ r ∉ c.registers) ∧
    ((c.familyOf r).Succeeds ↔ r ∈ c.registers) ∧
    (∀ w, (c.sibling? r w).Succeeds ↔ r ∈ c.registers) ∧
    (∀ w, (c.sibling r w).Succeeds ↔ r ∈ c.registers) ∧
    ∀ s, (c.aliases r s).Succeeds ↔ r ∈ c.registers ∧ s ∈ c.registers := by
  obtain ⟨h, _⟩ := validate_result_eq_ok_iff_consistent.1 hv
  refine ⟨fun f => h.findFamily_eq_ok_iff, ?_, ?_, ?_, fun w => ?_, fun w => ?_, fun s => ?_⟩
  · intro f hf hrf g hg hrg
    exact h.family_unique hf hg hrf hrg
  · rw [findFamily_eq_noFamily_iff, h.ownerless_iff]
  · rw [familyOf_succeeds_iff, h.not_ownerless_iff]
  · rw [sibling?_succeeds_iff, h.not_ownerless_iff]
  · rw [sibling_succeeds_iff, h.not_ownerless_iff]
  · rw [aliases_succeeds_iff, h.not_ownerless_iff, h.not_ownerless_iff]

end Catalog

namespace X86

def baseCatalog : Catalog Register Family :=
  { catalog with registers := [.bl, .bh, .bx, .ebx, .rbx], families := [.bx] }

theorem findFamily_baseCatalog :
    baseCatalog.validate.result = .ok () ∧
      baseCatalog.findFamily .bh = .ok .bx ∧
      baseCatalog.findFamily .ax = .error (.noFamily "ax") ∧
      (baseCatalog.sibling .bh .quad).Succeeds ∧ ¬ (baseCatalog.aliases .bh .ax).Succeeds := by
  have hv : baseCatalog.validate.result = .ok () := rfl
  have hbh : Register.bh ∈ baseCatalog.registers := by decide
  have hax : Register.ax ∉ baseCatalog.registers := by decide
  obtain ⟨hfind, _, _, _, _, hsibling, haliases⟩ := Catalog.findFamily_eq_ok_iff_owner hv .bh
  obtain ⟨_, _, hnone, _⟩ := Catalog.findFamily_eq_ok_iff_owner hv .ax
  refine ⟨hv, (hfind .bx).2 ⟨by decide, by decide⟩, hnone.2 hax, (hsibling .quad).2 hbh, ?_⟩
  intro hs
  obtain ⟨_, hmem⟩ := (haliases .ax).1 hs
  exact hax hmem

end X86

end RegisterFamilies
