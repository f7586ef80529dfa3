import RegisterFamilies.Proofs.Catalog.Validation

namespace RegisterFamilies

namespace Catalog

variable {ρ φ : Type} {c : Catalog ρ φ} {f : φ} {r s : ρ} {w : Width}

theorem memberOfWidth?_eq_or :
    c.memberOfWidth? f w = (c.lowMembers f w).head?.or (c.highMembers f w).head? := by
  rw [memberOfWidth?, minOn?_eq_or, ← filter_low_membersOfWidth, ← filter_high_membersOfWidth,
    List.head?_filter, List.head?_filter]

theorem FamilyConsistent.memberOfWidth?_eq (h : c.FamilyConsistent f) :
    c.memberOfWidth? f w = (c.lowMembers f w).head? := by
  rw [memberOfWidth?_eq_or]
  cases hl : c.lowMembers f w with
  | cons s l => rfl
  | nil =>
    have hh := h.high w
    rw [hl, List.length_nil, Nat.le_zero, List.length_eq_zero_iff] at hh
    rw [hh]
    rfl

/-- What the family `f` offers to its register `r` at a width. -/
def siblingIn? (c : Catalog ρ φ) (f : φ) (r : ρ) (w : Width) : Option ρ :=
  if c.width r = w then some r else c.memberOfWidth? f w

theorem siblingIn?_of_width_eq (hw : c.width r = w) : c.siblingIn? f r w = some r := if_pos hw

theorem siblingIn?_of_width_ne (hw : c.width r ≠ w) :
    c.siblingIn? f r w = c.memberOfWidth? f w :=
  if_neg hw

theorem siblingIn?_eq_none_iff (hr : r ∈ c.members f) :
    c.siblingIn? f r w = none ↔ w ∉ c.widths f := by
  by_cases hw : c.width r = w
  · rw [siblingIn?_of_width_eq hw, mem_widths]
    exact ⟨fun h => (by cases h), fun h => (h ⟨r, hr, hw⟩).elim⟩
  · rw [siblingIn?_of_width_ne hw, memberOfWidth?_eq_none_iff]

theorem mem_of_memberOfWidth? (h : c.memberOfWidth? f w = some s) :
    s ∈ c.members f ∧ c.width s = w := by
  rw [memberOfWidth?_eq_or, Option.or_eq_some_iff] at h
  rcases h with h | ⟨_, h⟩
  · obtain ⟨hs, hw, _⟩ := mem_lowMembers.1 (List.mem_of_mem_head? h)
    exact ⟨hs, hw⟩
  · obtain ⟨hs, hw, _⟩ := mem_highMembers.1 (List.mem_of_mem_head? h)
    exact ⟨hs, hw⟩

theorem mem_of_siblingIn? (hr : r ∈ c.members f) (h : c.siblingIn? f r w = some s) :
    s ∈ c.members f ∧ c.width s = w := by
  by_cases hw : c.width r = w
  · rw [siblingIn?_of_width_eq hw] at h
    cases h
    exact ⟨hr, hw⟩
  · rw [siblingIn?_of_width_ne hw] at h
    exact mem_of_memberOfWidth? h

variable [DecidableEq ρ]

/-- The answer of the family is the answer of the query, and only its lack is recorded. -/
theorem sibling?_eq (hf : c.findFamily r = .ok f) : c.sibling? r w =
    ⟨if (c.siblingIn? f r w).isSome then [] else [.noSibling (c.display r) (c.familyName f) w],
      .ok (c.siblingIn? f r w)⟩ := by
  by_cases hw : c.width r = w
  · rw [sibling?_of_width_eq hf hw, siblingIn?_of_width_eq hw]
    rfl
  · rw [sibling?_of_width_ne hf hw, siblingIn?_of_width_ne hw]
    cases c.memberOfWidth? f w with
    | none => rfl
    | some s => rfl

theorem sibling?_result (hf : c.findFamily r = .ok f) :
    (c.sibling? r w).result = .ok (c.siblingIn? f r w) :=
  congrArg Traced.result (sibling?_eq hf)

theorem sibling_result (hf : c.findFamily r = .ok f) : ∃ answer,
    (c.sibling r w).result = .ok answer ∧ answer.toOption = c.siblingIn? f r w := by
  rw [sibling, Traced.bind_result_of_result_eq_ok (sibling?_result hf)]
  cases c.siblingIn? f r w with
  | none => exact ⟨_, rfl, rfl⟩
  | some s => exact ⟨_, rfl, rfl⟩

theorem Ownerless.sibling? (h : c.Ownerless r) : c.sibling? r w =
    ⟨[.malformedCatalog (c.display r)], .error ⟨.noFamily (c.name r)⟩⟩ := by
  rw [Catalog.sibling?, h.familyOf]
  rfl

/-- In an accepted catalog every register has exactly one answer at every width: itself at its own,
and elsewhere the one low member that its family has there, if any. -/
theorem sibling?_eq_only_low_member (hv : c.validate.result = .ok ()) (hr : r ∈ c.registers)
    (w : Width) : ∃ f answer,
      c.familyOf r = pure f ∧ (c.sibling? r w).result = .ok answer ∧
      (c.width r = w → answer = some r) ∧
      (c.width r ≠ w → (∃ m ∈ c.members f, c.width m = w) →
        ∃ s, c.lowMembers f w = [s] ∧ answer = some s) ∧
      (c.width r ≠ w → (∀ m ∈ c.members f, c.width m ≠ w) → answer = none) ∧
      (∀ s, answer = some s →
        s ∈ c.registers ∧ c.width s = w ∧ c.familyOf s = pure f) ∧
      (answer = none ↔ w ∉ c.widths f) := by
  obtain ⟨h, _⟩ := validate_result_eq_ok_iff_consistent.1 hv
  obtain ⟨f, hf⟩ := h.exists_findFamily hr
  obtain ⟨hm, hrf⟩ := mem_families_of_findFamily hf
  refine ⟨f, c.siblingIn? f r w, familyOf_of_findFamily hf, sibling?_result hf,
    siblingIn?_of_width_eq, ?_, ?_, ?_, siblingIn?_eq_none_iff hrf⟩
  · rintro hw ⟨m, hmf, rfl⟩
    obtain ⟨s, hs⟩ := (h.families f hm).exists_low hmf
    refine ⟨s, hs, ?_⟩
    rw [siblingIn?_of_width_ne hw, (h.families f hm).memberOfWidth?_eq, hs]
    rfl
  · intro _ hno
    apply (siblingIn?_eq_none_iff hrf).2
    intro hw
    obtain ⟨m, hmf, hw⟩ := mem_widths.1 hw
    exact hno m hmf hw
  · intro s hs
    obtain ⟨hsf, hw⟩ := mem_of_siblingIn? hrf hs
    exact ⟨h.mem_registers hm hsf, hw, familyOf_of_findFamily (h.findFamily_of_mem hf hsf)⟩

theorem sibling?_bx_byte :
    X86.catalog.validate.result = .ok () ∧ X86.Register.bx ∈ X86.catalog.registers ∧
      ∃ s, X86.catalog.lowMembers .bx .byte = [s] ∧
        (X86.catalog.sibling? .bx .byte).result = .ok (some s) := by
  have hr : X86.Register.bx ∈ X86.catalog.registers := by decide
  refine ⟨X86.validate_catalog, hr, ?_⟩
  obtain ⟨f, answer, hf, ha, _, hlow, _⟩ :=
    sibling?_eq_only_low_member X86.validate_catalog hr .byte
  have hbx : X86.catalog.familyOf .bx = pure .bx := rfl
  cases Traced.pure_injective (hbx.symm.trans hf)
  obtain ⟨s, hs, he⟩ := hlow (by decide) ⟨.bl, by decide, rfl⟩
  subst answer
  exact ⟨s, hs, ha⟩

end Catalog

end RegisterFamilies
