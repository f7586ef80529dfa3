import RegisterFamilies.Proofs.Catalog.Consistent
import RegisterFamilies.X86.Basic

namespace RegisterFamilies

namespace Catalog

variable {ρ φ : Type} {c : Catalog ρ φ} {f : φ} {r : ρ} {w : Width}

theorem fits_iff {low high : Nat} : fits w low high = true ↔
    low ≤ 1 ∧ high ≤ low ∧ (.byte < w → high = 0) := by
  rw [fits, decide_eq_true_iff, Width.byte_lt_iff]
  by_cases hw : w = .byte
  · simp only [hw, true_and, ne_eq, not_true_eq_false, false_implies, and_true]
    omega
  · simp only [hw, false_and, or_false, ne_eq, not_false_eq_true, true_implies]
    omega

theorem widthFits_iff : c.widthFits f w = true ↔
    (c.lowMembers f w).length ≤ 1 ∧ (c.highMembers f w).length ≤ (c.lowMembers f w).length ∧
      (.byte < w → c.highMembers f w = []) := by
  rw [widthFits, fits_iff, List.countP_eq_length_filter, List.countP_eq_length_filter,
    filter_low_membersOfWidth, filter_high_membersOfWidth, List.length_eq_zero_iff]

theorem find?_misfit_eq_none_iff :
    (Width.all.find? fun w => !c.widthFits f w) = none ↔ ∀ w, c.widthFits f w = true := by
  simp only [List.find?_eq_none, Bool.not_eq_true', Bool.not_eq_false, Width.mem_all, true_implies]

variable [DecidableEq ρ]

def firstDefect? (c : Catalog ρ φ) : Option CatalogError :=
  ((firstRepeated? [] (c.registers.map c.name)).map .duplicateName).or
    ((c.registers.findSome? c.ownershipDefect?).or (c.families.findSome? c.familyDefect?))

theorem validateFamilies_eq (l : List φ) :
    c.validateFamilies l =
      ⟨(l.takeWhile fun f => (c.familyDefect? f).isNone).map c.validated,
        (l.findSome? c.familyDefect?).elim (.ok ()) .error⟩ := by
  induction l with
  | nil => rfl
  | cons f l ih =>
    rw [validateFamilies]
    cases h : c.familyDefect? f with
    | some e =>
      simp only [List.takeWhile_cons, List.findSome?_cons, h, Option.isNone_some,
        Bool.false_eq_true, ↓reduceIte, List.map_nil, Option.elim_some]
      rfl
    | none =>
      simp only [List.takeWhile_cons, List.findSome?_cons, h, Option.isNone_none, ↓reduceIte,
        List.map_cons, Traced.emit_bind, ih]

theorem validate_result : c.validate.result = c.firstDefect?.elim (.ok ()) .error := by
  rw [validate, firstDefect?]
  cases firstRepeated? [] (c.registers.map c.name) with
  | some s => rfl
  | none =>
    cases c.registers.findSome? c.ownershipDefect? with
    | some e => rfl
    | none => exact congrArg Traced.result (validateFamilies_eq c.families)

theorem validate_result_eq_ok_iff : c.validate.result = .ok () ↔ c.firstDefect? = none := by
  rw [validate_result]
  cases c.firstDefect? with
  | none => exact ⟨fun _ => rfl, fun _ => rfl⟩
  | some e => exact ⟨fun h => (by cases h), fun h => (by cases h)⟩

theorem firstDefect?_eq_none_iff : c.firstDefect? = none ↔
    (c.registers.map c.name).Nodup ∧ (∀ r ∈ c.registers, c.ownershipDefect? r = none) ∧
      ∀ f ∈ c.families, c.familyDefect? f = none := by
  rw [firstDefect?, Option.or_eq_none_iff, Option.or_eq_none_iff, Option.map_eq_none_iff,
    firstRepeated?_eq_none_iff, List.findSome?_eq_none_iff, List.findSome?_eq_none_iff]
  simp only [List.not_mem_nil, not_false_eq_true, implies_true, and_true]

theorem ownershipDefect?_eq_none_iff : c.ownershipDefect? r = none ↔ c.slots.count r = 1 := by
  rw [ownershipDefect?]
  split
  · next h => simp only [h, reduceCtorEq, Nat.zero_ne_one]
  · next h => simp only [h]
  · next h => exact ⟨fun he => (by cases he), fun he => (h he).elim⟩

theorem find?_uncatalogued_eq_none_iff :
    ((c.members f).find? fun r => r ∉ c.registers) = none ↔
      ∀ r ∈ c.members f, r ∈ c.registers := by
  simp only [List.find?_eq_none, decide_not, Bool.not_eq_true', Bool.not_eq_false,
    decide_eq_true_eq]

theorem familyDefect?_eq_none_iff : c.familyDefect? f = none ↔
    c.members f ≠ [] ∧ (∀ r ∈ c.members f, r ∈ c.registers) ∧ c.Ordered f ∧
      ∀ w, c.widthFits f w = true := by
  rw [familyDefect?, ← find?_uncatalogued_eq_none_iff, Ordered, ← hasDescent_eq_false_iff,
    ← find?_misfit_eq_none_iff, ← List.isEmpty_eq_false_iff]
  cases (c.members f).isEmpty with
  | true => simp only [↓reduceIte, reduceCtorEq, false_and]
  | false =>
    cases (c.members f).find? fun r => r ∉ c.registers with
    | some r => simp only [Bool.false_eq_true, ↓reduceIte, reduceCtorEq, false_and, and_false]
    | none =>
      cases hasDescent ((c.members f).map c.width) with
      | true => simp only [Bool.false_eq_true, ↓reduceIte, reduceCtorEq, false_and, and_false]
      | false => simp only [Bool.false_eq_true, ↓reduceIte, Option.map_eq_none_iff, true_and]

/-- The counts of the check and its search for strangers make up one statement on all slots. -/
theorem slots_perm_registers_iff (hn : c.registers.Nodup) : c.slots.Perm c.registers ↔
    (∀ r ∈ c.registers, c.slots.count r = 1) ∧ ∀ r ∈ c.slots, r ∈ c.registers := by
  refine ⟨fun h => ⟨fun r hr => ?_, fun r hr => h.mem_iff.1 hr⟩, fun ⟨hone, hmem⟩ => ?_⟩
  · rw [h.count_eq, List.count_eq_one_of_mem hn hr]
  · apply List.perm_iff_count.2
    intro r
    by_cases hr : r ∈ c.registers
    · rw [hone r hr, List.count_eq_one_of_mem hn hr]
    · rw [List.count_eq_zero_of_not_mem hr, List.count_eq_zero_of_not_mem fun h => hr (hmem r h)]

theorem familyDefect?_of_catalogued (hne : c.members f ≠ [])
    (hc : ∀ r ∈ c.members f, r ∈ c.registers) :
    c.familyDefect? f = if hasDescent ((c.members f).map c.width) then
      some (.unordered (c.familyName f))
      else (Width.all.find? fun w => !c.widthFits f w).map (.widthCollision (c.familyName f)) := by
  rw [familyDefect?, List.isEmpty_eq_false_iff.2 hne, find?_uncatalogued_eq_none_iff.2 hc]
  rfl

theorem Consistent.familyDefect?_eq (h : c.Consistent) (hf : f ∈ c.families) :
    c.familyDefect? f = if hasDescent ((c.members f).map c.width) then
      some (.unordered (c.familyName f)) else none := by
  have hc := h.families f hf
  have hw (w : Width) : c.widthFits f w = true :=
    widthFits_iff.2 ⟨hc.low w, hc.high w, hc.wide w⟩
  rw [familyDefect?_of_catalogued hc.nonempty fun r hr => h.mem_registers hf hr,
    find?_misfit_eq_none_iff.2 hw, Option.map_none]

theorem Consistent.firstDefect?_eq (h : c.Consistent) :
    c.firstDefect? = c.families.findSome? c.familyDefect? := by
  have hn : firstRepeated? [] (c.registers.map c.name) = none :=
    firstRepeated?_eq_none_iff.2 ⟨h.names, fun _ _ hs => (by cases hs)⟩
  have hr : c.registers.findSome? c.ownershipDefect? = none := by
    apply List.findSome?_eq_none_iff.2
    intro r hr
    apply ownershipDefect?_eq_none_iff.2
    exact ((slots_perm_registers_iff h.registers_nodup).1 h.partition).1 r hr
  rw [firstDefect?, hn, hr, Option.map_none, Option.none_or, Option.none_or]

theorem Consistent.validate_result (h : c.Consistent) : c.validate.result = .ok () ∨
    ∃ f ∈ c.families, ¬ c.Ordered f ∧ c.validate.result = .error (.unordered (c.familyName f)) := by
  rw [Catalog.validate_result, h.firstDefect?_eq]
  cases he : c.families.findSome? c.familyDefect? with
  | none => exact .inl rfl
  | some e =>
    obtain ⟨f, hf, hd⟩ := List.exists_of_findSome?_eq_some he
    rw [h.familyDefect?_eq hf, Option.ite_none_right_eq_some, Option.some.injEq] at hd
    obtain ⟨hd, rfl⟩ := hd
    refine .inr ⟨f, hf, fun hs => ?_, rfl⟩
    rw [hasDescent_eq_false_iff.2 hs] at hd
    cases hd

theorem consistent_of_firstDefect?_eq_none (h : c.firstDefect? = none) : c.Consistent := by
  obtain ⟨hn, hr, hf⟩ := firstDefect?_eq_none_iff.1 h
  refine ⟨hn, ?_, fun f hm => ?_⟩
  · apply (slots_perm_registers_iff hn.of_map).2
    refine ⟨fun r hm => ownershipDefect?_eq_none_iff.1 (hr r hm), fun r hm => ?_⟩
    obtain ⟨f, hm, hrf⟩ := mem_slots.1 hm
    obtain ⟨_, hcat, _⟩ := familyDefect?_eq_none_iff.1 (hf f hm)
    exact hcat r hrf
  · obtain ⟨hne, _, _, hw⟩ := familyDefect?_eq_none_iff.1 (hf f hm)
    have hw (w : Width) := widthFits_iff.1 (hw w)
    exact ⟨hne, fun w => (hw w).1, fun w => (hw w).2.1, fun w => (hw w).2.2⟩

theorem validate_result_eq_ok_iff_consistent :
    c.validate.result = .ok () ↔ c.Consistent ∧ ∀ f ∈ c.families, c.Ordered f := by
  rw [validate_result_eq_ok_iff]
  refine ⟨fun h => ?_, fun ⟨h, hs⟩ => ?_⟩
  · refine ⟨consistent_of_firstDefect?_eq_none h, fun f hm => ?_⟩
    obtain ⟨_, _, hf⟩ := firstDefect?_eq_none_iff.1 h
    obtain ⟨_, _, hs, _⟩ := familyDefect?_eq_none_iff.1 (hf f hm)
    exact hs
  · rw [h.firstDefect?_eq]
    apply List.findSome?_eq_none_iff.2
    intro f hf
    rw [h.familyDefect?_eq hf, hasDescent_eq_false_iff.2 (hs f hf)]
    rfl

/-- The check accepts exactly the well-formed catalogs. In these the slots and the registers match
one to one, and no family is listed twice. -/
theorem validate_eq_ok_iff_wellFormed :
    (c.validate.result = .ok () ↔ c.WellFormed) ∧
      (c.WellFormed → c.slots.Nodup ∧ c.families.Nodup ∧ ∀ r, r ∈ c.slots ↔ r ∈ c.registers) := by
  refine ⟨?_, fun h => ?_⟩
  · rw [validate_result_eq_ok_iff_consistent, wellFormed_iff]
  · obtain ⟨hc, _⟩ := wellFormed_iff.1 h
    exact ⟨hc.slots_nodup, hc.families_nodup, fun _ => hc.mem_slots_iff⟩

end Catalog

namespace X86

theorem validate_catalog : catalog.validate.result = .ok () := rfl

theorem catalog_wellFormed :
    catalog.WellFormed ∧ catalog.slots.Nodup ∧ catalog.families.Nodup := by
  obtain ⟨hiff, hone⟩ := Catalog.validate_eq_ok_iff_wellFormed (c := catalog)
  have hw := hiff.1 validate_catalog
  obtain ⟨hs, hf, _⟩ := hone hw
  exact ⟨hw, hs, hf⟩

end X86

end RegisterFamilies
