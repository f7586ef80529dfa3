import RegisterFamilies.Catalog.Verdict
import RegisterFamilies.Proofs.Catalog.Validation

namespace RegisterFamilies

theorem firstRepeated?_append {seen l l' : List String} :
    firstRepeated? seen (l ++ l') =
      (firstRepeated? seen l).or (firstRepeated? (l.reverse ++ seen) l') := by
  induction l generalizing seen with
  | nil => rfl
  | cons s l ih =>
    rw [List.cons_append, firstRepeated?, firstRepeated?]
    by_cases hs : s ∈ seen
    · rw [if_pos hs, if_pos hs, Option.some_or]
    · rw [if_neg hs, if_neg hs, ih, List.reverse_cons, List.append_assoc, List.singleton_append]

theorem exists_of_firstRepeated?_eq_some {seen l : List String} {s : String}
    (h : firstRepeated? seen l = some s) :
    ∃ before after, l = before ++ s :: after ∧ firstRepeated? seen before = none ∧
      s ∈ before ++ seen := by
  induction l generalizing seen with
  | nil => cases h
  | cons t l ih =>
    rw [firstRepeated?] at h
    by_cases ht : t ∈ seen
    · rw [if_pos ht] at h
      cases h
      exact ⟨[], l, rfl, rfl, ht⟩
    · rw [if_neg ht] at h
      obtain ⟨before, after, rfl, hnone, hs⟩ := ih h
      refine ⟨t :: before, after, rfl, ?_, List.perm_middle.mem_iff.1 hs⟩
      rw [firstRepeated?, if_neg ht, hnone]

theorem firstRepeated?_nil_eq_some_iff {l : List String} {s : String} :
    firstRepeated? [] l = some s ↔
      ∃ before after, l = before ++ s :: after ∧ before.Nodup ∧ s ∈ before := by
  refine ⟨fun h => ?_, ?_⟩
  · obtain ⟨before, after, hl, hnone, hs⟩ := exists_of_firstRepeated?_eq_some h
    rw [List.append_nil] at hs
    exact ⟨before, after, hl, (firstRepeated?_eq_none_iff.1 hnone).1, hs⟩
  · rintro ⟨before, after, rfl, hb, hs⟩
    have hnone : firstRepeated? [] before = none :=
      firstRepeated?_eq_none_iff.2 ⟨hb, fun _ _ => List.not_mem_nil⟩
    rw [firstRepeated?_append, hnone, Option.none_or, List.append_nil, firstRepeated?,
      if_pos (List.mem_reverse.2 hs)]

namespace Catalog

variable {ρ φ : Type} {c : Catalog ρ φ} {f : φ} {r : ρ} {w : Width} {e : CatalogError}

theorem widthFits_iff_admits : c.widthFits f w = true ↔ c.Admits f w := by
  rw [widthFits, fits, decide_eq_true_iff, List.countP_eq_length_filter,
    List.countP_eq_length_filter, filter_low_membersOfWidth, filter_high_membersOfWidth, Admits]
  simp only [Prod.mk.injEq]

theorem members_ne_nil_of_not_admits (h : ¬ c.Admits f w) : c.members f ≠ [] := by
  intro hm
  apply h
  rw [Admits, lowMembers, highMembers, hm]
  exact .inl rfl

theorem find?_misfit_eq_some_iff : (Width.all.find? fun w => !c.widthFits f w) = some w ↔
    ¬ c.Admits f w ∧ ∀ v < w, c.Admits f v := by
  simp only [Width.find?_all_eq_some_iff, Bool.not_eq_true', Bool.not_eq_false',
    ← widthFits_iff_admits, Bool.not_eq_true]

theorem hasDescent_eq_true_iff : hasDescent ((c.members f).map c.width) = true ↔
    ∃ a b, [a, b].Sublist (c.members f) ∧ c.width b < c.width a := by
  rw [← Bool.not_eq_false, hasDescent_eq_false_iff, List.pairwise_map,
    List.pairwise_iff_forall_sublist]
  simp only [← not_lt, Classical.not_forall, Classical.not_not, exists_prop]

theorem firstRepeated?_names_eq_some_iff {s : String} :
    firstRepeated? [] (c.registers.map c.name) = some s ↔
      ∃ before r after, c.registers = before ++ r :: after ∧ (before.map c.name).Nodup ∧
        c.name r ∈ before.map c.name ∧ c.name r = s := by
  rw [firstRepeated?_nil_eq_some_iff]
  refine ⟨?_, ?_⟩
  · rintro ⟨names, names', hl, hb, hs⟩
    obtain ⟨before, rest, hr, rfl, hrest⟩ := List.map_eq_append_iff.1 hl
    obtain ⟨r, after, rfl, rfl, _⟩ := List.map_eq_cons_iff.1 hrest
    exact ⟨before, r, after, hr, hb, hs, rfl⟩
  · rintro ⟨before, r, after, hr, hb, hs, rfl⟩
    refine ⟨before.map c.name, after.map c.name, ?_, hb, hs⟩
    rw [hr, List.map_append, List.map_cons]

theorem firstRepeated?_names_eq_none (names : (c.registers.map c.name).Nodup) :
    firstRepeated? [] (c.registers.map c.name) = none :=
  firstRepeated?_eq_none_iff.2 ⟨names, fun _ _ => List.not_mem_nil⟩

variable [DecidableEq ρ]

theorem count_slots : c.slots.count r = c.listings r := rfl

theorem ownershipDefect?_eq_some_iff : c.ownershipDefect? r = some e ↔
    c.listings r = 0 ∧ .orphan (c.name r) = e ∨
      1 < c.listings r ∧ .multipleFamilies (c.name r) = e := by
  rw [ownershipDefect?, count_slots]
  rcases c.listings r with _ | _ | n
  · simp only [Option.some.injEq, true_and, Nat.not_lt_zero, false_and, or_false]
  · simp only [reduceCtorEq, Nat.zero_add, Nat.one_ne_zero, Nat.lt_irrefl, false_and, or_false]
  · have hlt : 1 < n + 2 := by omega
    simp only [hlt, Option.some.injEq, Nat.add_eq_zero_iff, reduceCtorEq, and_false, false_and,
      true_and, false_or]

theorem find?_uncatalogued_eq_some_iff :
    ((c.members f).find? fun r => r ∉ c.registers) = some r ↔ r ∉ c.registers ∧
      ∃ before after, c.members f = before ++ r :: after ∧ ∀ s ∈ before, s ∈ c.registers := by
  simp only [List.find?_eq_some_iff_append, Bool.not_eq_true', decide_eq_false_iff_not,
    decide_eq_true_iff, Classical.not_not]

namespace FamilyDefect

theorem familyDefect?_eq (h : c.FamilyDefect f e) : c.familyDefect? f = some e := by
  cases h with
  | empty hm =>
    rw [familyDefect?, hm]
    rfl
  | @uncatalogued before after r hm hb hr =>
    have hne : c.members f ≠ [] := by
      rw [hm]
      exact List.append_ne_nil_of_right_ne_nil _ (List.cons_ne_nil _ _)
    have hfind := find?_uncatalogued_eq_some_iff.2 ⟨hr, before, after, hm, hb⟩
    rw [familyDefect?, List.isEmpty_eq_false_iff.2 hne, hfind]
    rfl
  | unordered hc hm hw =>
    have hne := List.ne_nil_of_mem (hm.subset List.mem_cons_self)
    rw [familyDefect?_of_catalogued hne hc, if_pos (hasDescent_eq_true_iff.2 ⟨_, _, hm, hw⟩)]
  | widthCollision hc hs hv hw =>
    have hd := hasDescent_eq_false_iff.2 hs
    rw [familyDefect?_of_catalogued (members_ne_nil_of_not_admits hw) hc, hd,
      find?_misfit_eq_some_iff.2 ⟨hw, hv⟩]
    rfl

theorem of_familyDefect?_eq {e' : CatalogError} (h : c.FamilyDefect f e')
    (he : c.familyDefect? f = some e) : c.FamilyDefect f e := by
  rw [h.familyDefect?_eq] at he
  cases he
  exact h

end FamilyDefect

theorem familyDefect?_eq_some_iff : c.familyDefect? f = some e ↔ c.FamilyDefect f e := by
  refine ⟨fun h => ?_, FamilyDefect.familyDefect?_eq⟩
  by_cases hm : c.members f = []
  · exact (FamilyDefect.empty hm).of_familyDefect?_eq h
  · cases hu : (c.members f).find? fun r => r ∉ c.registers with
    | some r =>
      obtain ⟨hr, before, after, hm, hb⟩ := find?_uncatalogued_eq_some_iff.1 hu
      exact (FamilyDefect.uncatalogued hm hb hr).of_familyDefect?_eq h
    | none =>
      have hc := find?_uncatalogued_eq_none_iff.1 hu
      cases hd : hasDescent ((c.members f).map c.width) with
      | true =>
        obtain ⟨a, b, hab, hw⟩ := hasDescent_eq_true_iff.1 hd
        exact (FamilyDefect.unordered hc hab hw).of_familyDefect?_eq h
      | false =>
        rw [familyDefect?_of_catalogued hm hc, hd, if_neg Bool.false_ne_true,
          Option.map_eq_some_iff] at h
        obtain ⟨w, hw, rfl⟩ := h
        obtain ⟨hw, hv⟩ := find?_misfit_eq_some_iff.1 hw
        exact .widthCollision hc (hasDescent_eq_false_iff.1 hd) hv hw

theorem familyDefect?_eq_none_iff_forall :
    c.familyDefect? f = none ↔ ∀ e, ¬ c.FamilyDefect f e := by
  simp only [Option.eq_none_iff_forall_ne_some, ne_eq, familyDefect?_eq_some_iff]

theorem validateFamilies_append {passed l : List φ}
    (hp : ∀ g ∈ passed, c.familyDefect? g = none) : c.validateFamilies (passed ++ l) =
      ⟨passed.map c.validated ++ (c.validateFamilies l).events, (c.validateFamilies l).result⟩ := by
  induction passed with
  | nil => rfl
  | cons g passed ih =>
    have hg := hp g List.mem_cons_self
    have hrest := ih fun g' hg' => hp g' (List.mem_cons_of_mem g hg')
    simp only [List.cons_append, validateFamilies, hg, hrest, Traced.emit_bind, List.map_cons]

theorem validateFamilies_cons_of_defect {l : List φ} (he : c.familyDefect? f = some e) :
    c.validateFamilies (f :: l) = Traced.fail e := by
  simp only [validateFamilies, he]

theorem validate_of_owners (names : (c.registers.map c.name).Nodup)
    (owners : ∀ r ∈ c.registers, c.listings r = 1) :
    c.validate = c.validateFamilies c.families := by
  have hnone : c.registers.findSome? c.ownershipDefect? = none :=
    List.findSome?_eq_none_iff.2 fun r hr => ownershipDefect?_eq_none_iff.2 (owners r hr)
  simp only [validate, firstRepeated?_names_eq_none names, hnone]

theorem validate_of_ownershipDefect? {before after : List ρ}
    (names : (c.registers.map c.name).Nodup) (hr : c.registers = before ++ r :: after)
    (hb : ∀ s ∈ before, c.listings s = 1) (he : c.ownershipDefect? r = some e) :
    c.validate = Traced.fail e := by
  have hsome : c.registers.findSome? c.ownershipDefect? = some e :=
    List.findSome?_eq_some_iff.2
      ⟨before, r, after, hr, he, fun s hs => ownershipDefect?_eq_none_iff.2 (hb s hs)⟩
  simp only [validate, firstRepeated?_names_eq_none names, hsome]

namespace Verdict

variable {passed : List φ} {x : Except CatalogError Unit}

/-- The check comes to the verdict, with one event for each family passed. -/
theorem validate_eq (h : c.Verdict passed x) : c.validate = ⟨passed.map c.validated, x⟩ := by
  cases h with
  | duplicateName hr hb hn =>
    rw [validate, firstRepeated?_names_eq_some_iff.2 ⟨_, _, _, hr, hb, hn, rfl⟩]
    rfl
  | orphan names hr hb hc =>
    exact validate_of_ownershipDefect? names hr hb (ownershipDefect?_eq_some_iff.2 (.inl ⟨hc, rfl⟩))
  | multipleFamilies names hr hb hc =>
    exact validate_of_ownershipDefect? names hr hb (ownershipDefect?_eq_some_iff.2 (.inr ⟨hc, rfl⟩))
  | defective names owners hf hp he =>
    have hp := fun g hg => familyDefect?_eq_none_iff_forall.2 (hp g hg)
    have he := familyDefect?_eq_some_iff.2 he
    rw [validate_of_owners names owners, hf, validateFamilies_append hp,
      validateFamilies_cons_of_defect he, Traced.events_fail, List.append_nil, Traced.result_fail]
  | accepted names owners hp =>
    have hp := fun g hg => familyDefect?_eq_none_iff_forall.2 (hp g hg)
    have happ := validateFamilies_append (l := []) hp
    rw [validateFamilies, Traced.events_pure, List.append_nil, List.append_nil] at happ
    exact (validate_of_owners names owners).trans happ

end Verdict

theorem exists_verdict (c : Catalog ρ φ) : ∃ passed x, c.Verdict passed x := by
  cases hn : firstRepeated? [] (c.registers.map c.name) with
  | some s =>
    obtain ⟨before, r, after, hr, hb, hs, _⟩ := firstRepeated?_names_eq_some_iff.1 hn
    exact ⟨_, _, .duplicateName hr hb hs⟩
  | none =>
    obtain ⟨names, _⟩ := firstRepeated?_eq_none_iff.1 hn
    cases ho : c.registers.findSome? c.ownershipDefect? with
    | some e =>
      obtain ⟨before, r, after, hr, he, hb⟩ := List.findSome?_eq_some_iff.1 ho
      have hb (s : ρ) (hs : s ∈ before) := ownershipDefect?_eq_none_iff.1 (hb s hs)
      rcases ownershipDefect?_eq_some_iff.1 he with ⟨hc, _⟩ | ⟨hc, _⟩
      · exact ⟨_, _, .orphan names hr hb hc⟩
      · exact ⟨_, _, .multipleFamilies names hr hb hc⟩
    | none =>
      have owners (r : ρ) (hr : r ∈ c.registers) :=
        ownershipDefect?_eq_none_iff.1 (List.findSome?_eq_none_iff.1 ho r hr)
      cases hf : c.families.findSome? c.familyDefect? with
      | some e =>
        obtain ⟨passed, f, rest, hf, he, hp⟩ := List.findSome?_eq_some_iff.1 hf
        exact ⟨_, _, .defective names owners hf
          (fun g hg => familyDefect?_eq_none_iff_forall.1 (hp g hg))
          (familyDefect?_eq_some_iff.1 he)⟩
      | none =>
        have hp := List.findSome?_eq_none_iff.1 hf
        exact ⟨_, _, .accepted names owners
          fun g hg => familyDefect?_eq_none_iff_forall.1 (hp g hg)⟩

/-- The check reports the first defect in the order of the search, and has recorded each family
before the one that decides. -/
theorem validate_eq_iff_verdict (c : Catalog ρ φ) :
    (∀ x, c.validate = x ↔
      ∃ passed, c.Verdict passed x.result ∧ x.events = passed.map c.validated) ∧
    ∀ f, (c.validated f).level = .debug ∧ (c.validated f).message = "family validated" ∧
      (c.validated f).fields = [("family", .text (c.familyName f)),
        ("members", .count (c.members f).length), ("widths", .text (c.widths f).outline.line)] := by
  refine ⟨fun x => ⟨?_, ?_⟩, fun f => ⟨rfl, rfl, rfl⟩⟩
  · rintro rfl
    obtain ⟨passed, x, h⟩ := exists_verdict c
    rw [h.validate_eq]
    exact ⟨passed, h, rfl⟩
  · rintro ⟨passed, h, he⟩
    rw [h.validate_eq, ← he]

end Catalog

end RegisterFamilies
