import RegisterFamilies.Proofs.Catalog.Ownership

namespace RegisterFamilies

namespace Catalog

variable {ρ φ : Type} {c : Catalog ρ φ} {f : φ} {r s : ρ} {w : Width}

def LowOfWidth (c : Catalog ρ φ) (w : Width) (r : ρ) : Prop :=
  c.width r = w ∧ c.isHighByte r = false

instance : DecidablePred (c.LowOfWidth w) := fun r =>
  inferInstanceAs (Decidable (c.width r = w ∧ c.isHighByte r = false))

theorem head?_lowMembers_eq_some_iff :
    (c.lowMembers f w).head? = some s ↔ IsFirst (c.LowOfWidth w) (c.members f) s := by
  rw [lowMembers, List.head?_filter]
  exact find?_eq_some_iff_isFirst

theorem head?_membersOfWidth_eq_some_iff :
    (c.membersOfWidth f w).head? = some s ↔ IsFirst (fun m => c.width m = w) (c.members f) s := by
  rw [membersOfWidth, List.head?_filter, find?_eq_some_iff_isFirst]

theorem memberOfWidth?_of_low (h : IsFirst (c.LowOfWidth w) (c.members f) s) :
    c.memberOfWidth? f w = some s := by
  rw [memberOfWidth?_eq_or, head?_lowMembers_eq_some_iff.2 h, Option.some_or]

/-- With no low member of the width, the members of the width are the high ones. -/
theorem memberOfWidth?_of_not_low (hn : ∀ m ∈ c.members f, ¬ c.LowOfWidth w m)
    (h : IsFirst (fun m => c.width m = w) (c.members f) s) : c.memberOfWidth? f w = some s := by
  have hlow : c.lowMembers f w = [] := by
    apply List.eq_nil_iff_forall_not_mem.2
    intro m hm
    obtain ⟨hm, hlow⟩ := mem_lowMembers.1 hm
    exact hn m hm hlow
  have hhigh : c.highMembers f w = c.membersOfWidth f w := by
    rw [← filter_high_membersOfWidth]
    apply List.filter_eq_self.2
    intro m hm
    obtain ⟨hm, hw⟩ := mem_membersOfWidth.1 hm
    apply eq_true_of_ne_false
    intro hb
    exact hn m hm ⟨hw, hb⟩
  rw [memberOfWidth?_eq_or, hlow, hhigh, List.head?_nil, Option.none_or,
    head?_membersOfWidth_eq_some_iff.2 h]

theorem memberOfWidth?_of_not_width (hn : ∀ m ∈ c.members f, c.width m ≠ w) :
    c.memberOfWidth? f w = none := by
  apply memberOfWidth?_eq_none_iff.2
  intro hw
  obtain ⟨m, hm, hw⟩ := mem_widths.1 hw
  exact hn m hm hw

variable [DecidableEq ρ]

theorem isFirst_of_findFamily (h : c.findFamily r = .ok f) :
    IsFirst (fun g => r ∈ c.members g) c.families f := by
  rw [findFamily] at h
  split at h
  · next g hg =>
    cases h
    exact find?_eq_some_iff_isFirst.1 hg
  · cases h

/-- In any catalog the first family that lists a register answers for it. At another width this is
the first low member, for want of one the first member of that width. -/
theorem sibling?_eq_first_of_width (hr : ¬ c.Ownerless r) (w : Width) : ∃ f answer,
    IsFirst (fun g => r ∈ c.members g) c.families f ∧
    (c.sibling? r w).result = .ok answer ∧
    (c.width r = w → answer = some r) ∧
    (c.width r ≠ w → (∃ m ∈ c.members f, c.LowOfWidth w m) →
      ∃ s, IsFirst (c.LowOfWidth w) (c.members f) s ∧ answer = some s) ∧
    (c.width r ≠ w → (∀ m ∈ c.members f, ¬ c.LowOfWidth w m) → (∃ m ∈ c.members f, c.width m = w) →
      ∃ s, IsFirst (fun m => c.width m = w) (c.members f) s ∧ answer = some s) ∧
    (c.width r ≠ w → (∀ m ∈ c.members f, c.width m ≠ w) → answer = none) := by
  obtain ⟨f, hf⟩ := exists_findFamily_iff.2 hr
  refine ⟨f, c.siblingIn? f r w, isFirst_of_findFamily hf, sibling?_result hf,
    siblingIn?_of_width_eq, ?_, ?_, ?_⟩
  · intro hw hlow
    obtain ⟨s, hs⟩ := exists_isFirst hlow
    refine ⟨s, hs, ?_⟩
    rw [siblingIn?_of_width_ne hw, memberOfWidth?_of_low hs]
  · intro hw hn hex
    obtain ⟨s, hs⟩ := exists_isFirst hex
    refine ⟨s, hs, ?_⟩
    rw [siblingIn?_of_width_ne hw, memberOfWidth?_of_not_low hn hs]
  · intro hw hn
    rw [siblingIn?_of_width_ne hw, memberOfWidth?_of_not_width hn]

end Catalog

namespace X86

/-- The accumulator with its bytes out of order and one low byte too many, which the base register
lists as well. -/
def crowdedCatalog : Catalog Register Family :=
  { catalog with
    families := [.bx, .ax]
    members := fun f =>
      match f with
      | .ax => [.ah, .bl, .al, .ax]
      | .bx => [.bh, .bl, .bx]
      | f => f.members }

theorem sibling?_crowdedCatalog :
    crowdedCatalog.validate.result ≠ .ok () ∧ ¬ crowdedCatalog.Ownerless .ax ∧
      (crowdedCatalog.sibling? .ax .byte).result = .ok (some .bl) ∧
      ¬ crowdedCatalog.Ownerless .bl ∧
      (crowdedCatalog.sibling? .bl .word).result = .ok (some .bx) := by
  have hv : crowdedCatalog.validate.result = .error (.multipleFamilies "bl") := rfl
  have hax : ¬ crowdedCatalog.Ownerless .ax := fun h => h .ax (by decide) (by decide)
  have hbl : ¬ crowdedCatalog.Ownerless .bl := fun h => h .ax (by decide) (by decide)
  refine ⟨fun h => (by rw [hv] at h; cases h), hax, ?_, hbl, ?_⟩
  · obtain ⟨f, answer, hf, ha, _, hlow, _⟩ := Catalog.sibling?_eq_first_of_width hax .byte
    obtain rfl := hf.unique ⟨by decide, [.bx], [], rfl, by decide⟩
    obtain ⟨s, hs, rfl⟩ := hlow (by decide) ⟨.al, by decide, by decide⟩
    obtain rfl := hs.unique ⟨by decide, [.ah], [.al, .ax], rfl, by decide⟩
    exact ha
  · obtain ⟨f, answer, hf, ha, _, hlow, _⟩ := Catalog.sibling?_eq_first_of_width hbl .word
    obtain rfl := hf.unique ⟨by decide, [], [.ax], rfl, by decide⟩
    obtain ⟨s, hs, rfl⟩ := hlow (by decide) ⟨.bx, by decide, by decide⟩
    obtain rfl := hs.unique ⟨by decide, [.bh, .bl], [], rfl, by decide⟩
    exact ha

end X86

end RegisterFamilies
