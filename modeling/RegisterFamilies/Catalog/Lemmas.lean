import RegisterFamilies.Catalog.WellFormed
import RegisterFamilies.Width.Order
import RegisterFamilies.WidthSet.Lemmas

namespace RegisterFamilies

theorem hasDescent_eq_false_iff {l : List Width} :
    hasDescent l = false ↔ l.Pairwise (· ≤ ·) := by
  induction l with
  | nil => simp only [hasDescent, List.Pairwise.nil]
  | cons v l ih =>
    cases l with
    | nil => simp only [hasDescent, List.pairwise_singleton]
    | cons w l =>
      rw [hasDescent, Bool.or_eq_false_iff, ih, decide_eq_false_iff_not, not_lt]
      constructor
      · rintro ⟨hvw, hl⟩
        refine List.pairwise_cons.2 ⟨?_, hl⟩
        intro u hu
        rcases List.mem_cons.1 hu with rfl | hu
        · exact hvw
        · exact le_trans hvw (List.rel_of_pairwise_cons hl hu)
      · intro h
        exact ⟨List.rel_of_pairwise_cons h List.mem_cons_self, (List.pairwise_cons.1 h).2⟩

theorem firstRepeated?_eq_none_iff {seen l : List String} :
    firstRepeated? seen l = none ↔ l.Nodup ∧ ∀ s ∈ l, s ∉ seen := by
  induction l generalizing seen with
  | nil =>
    simp only [firstRepeated?, List.nodup_nil, List.not_mem_nil, false_implies, implies_true,
      and_self]
  | cons s l ih =>
    by_cases hs : s ∈ seen
    · simp only [firstRepeated?, hs, if_true, reduceCtorEq, false_iff]
      rintro ⟨_, h⟩
      exact h s List.mem_cons_self hs
    · rw [firstRepeated?, if_neg hs, ih, List.nodup_cons]
      constructor
      · rintro ⟨hl, h⟩
        refine ⟨⟨fun hsl => h s hsl List.mem_cons_self, hl⟩, ?_⟩
        intro t ht
        rcases List.mem_cons.1 ht with rfl | ht
        · exact hs
        · exact fun hseen => h t ht (List.mem_cons_of_mem _ hseen)
      · rintro ⟨⟨hsl, hl⟩, h⟩
        refine ⟨hl, ?_⟩
        intro t ht hmem
        rcases List.mem_cons.1 hmem with rfl | hmem
        · exact hsl ht
        · exact h t (List.mem_cons_of_mem _ ht) hmem

namespace Catalog

variable {ρ φ : Type} {c : Catalog ρ φ} {f : φ} {r : ρ} {w : Width}

theorem mem_membersOfWidth : r ∈ c.membersOfWidth f w ↔ r ∈ c.members f ∧ c.width r = w := by
  rw [membersOfWidth, List.mem_filter, decide_eq_true_eq]

theorem mem_lowMembers :
    r ∈ c.lowMembers f w ↔ r ∈ c.members f ∧ c.width r = w ∧ c.isHighByte r = false := by
  rw [lowMembers, List.mem_filter, decide_eq_true_eq]

theorem mem_highMembers :
    r ∈ c.highMembers f w ↔ r ∈ c.members f ∧ c.width r = w ∧ c.isHighByte r = true := by
  rw [highMembers, List.mem_filter, decide_eq_true_eq]

theorem filter_low_membersOfWidth :
    (c.membersOfWidth f w).filter (fun r => !c.isHighByte r) = c.lowMembers f w := by
  rw [membersOfWidth, List.filter_filter, lowMembers]
  apply List.filter_congr
  intro r _
  apply Bool.eq_iff_iff.2
  rw [Bool.and_eq_true, Bool.not_eq_true', decide_eq_true_iff, decide_eq_true_iff, and_comm]

theorem filter_high_membersOfWidth :
    (c.membersOfWidth f w).filter c.isHighByte = c.highMembers f w := by
  rw [membersOfWidth, List.filter_filter, highMembers]
  apply List.filter_congr
  intro r _
  apply Bool.eq_iff_iff.2
  rw [Bool.and_eq_true, decide_eq_true_iff, decide_eq_true_iff, and_comm]

theorem mem_slots : r ∈ c.slots ↔ ∃ f ∈ c.families, r ∈ c.members f := List.mem_flatMap

theorem mem_widths : w ∈ c.widths f ↔ ∃ r ∈ c.members f, c.width r = w := by
  rw [widths, WidthSet.mem_ofList, List.mem_map]

theorem mem_widths_of_mem (hr : r ∈ c.members f) : c.width r ∈ c.widths f :=
  mem_widths.2 ⟨r, hr, rfl⟩

theorem widths_eq_of_perm {d : Catalog ρ φ} (hw : d.width = c.width)
    (hm : (d.members f).Perm (c.members f)) : d.widths f = c.widths f := by
  rw [widths, widths, hw]
  exact WidthSet.ofList_eq_iff.2 fun _ => (hm.map c.width).mem_iff

theorem ownerless_iff_not_mem_slots : c.Ownerless r ↔ r ∉ c.slots := by
  rw [mem_slots]
  constructor
  · rintro h ⟨f, hf, hr⟩
    exact h f hf hr
  · intro h f hf hr
    exact h ⟨f, hf, hr⟩

theorem memberOfWidth?_eq_none_iff : c.memberOfWidth? f w = none ↔ w ∉ c.widths f := by
  rw [memberOfWidth?, mem_widths]
  cases h : c.membersOfWidth f w with
  | nil =>
    simp only [List.minOn?_nil, true_iff]
    rintro ⟨r, hr, hw⟩
    have hmem := mem_membersOfWidth.2 ⟨hr, hw⟩
    rw [h] at hmem
    exact List.not_mem_nil hmem
  | cons r l =>
    simp only [List.minOn?_cons_eq_some_minOn, reduceCtorEq, false_iff, Classical.not_not]
    have hmem : r ∈ c.membersOfWidth f w := by
      rw [h]
      exact List.mem_cons_self
    exact ⟨r, mem_membersOfWidth.1 hmem⟩

variable [DecidableEq ρ]

theorem findFamily_eq_error_iff {e : RegisterError} :
    c.findFamily r = .error e ↔ c.Ownerless r ∧ e = .noFamily (c.name r) := by
  rw [findFamily]
  split
  · next f h =>
    simp only [reduceCtorEq, false_iff]
    rintro ⟨ho, _⟩
    have hr := List.find?_some h
    exact ho f (List.mem_of_find?_eq_some h) (of_decide_eq_true hr)
  · next h =>
    rw [List.find?_eq_none] at h
    constructor
    · intro he
      cases he
      exact ⟨fun f hf hr => h f hf (decide_eq_true hr), rfl⟩
    · rintro ⟨_, rfl⟩
      rfl

theorem mem_families_of_findFamily (h : c.findFamily r = .ok f) :
    f ∈ c.families ∧ r ∈ c.members f := by
  rw [findFamily] at h
  split at h
  · next g hg =>
    cases h
    have hr := List.find?_some hg
    exact ⟨List.mem_of_find?_eq_some hg, of_decide_eq_true hr⟩
  · contradiction

theorem familyOf_of_findFamily (h : c.findFamily r = .ok f) : c.familyOf r = pure f := by
  rw [familyOf, h]

theorem Ownerless.familyOf (h : c.Ownerless r) :
    c.familyOf r = ⟨[.malformedCatalog (c.display r)], .error ⟨.noFamily (c.name r)⟩⟩ := by
  rw [Catalog.familyOf, findFamily_eq_error_iff.2 ⟨h, rfl⟩]
  rfl

theorem sibling?_of_width_eq (h : c.findFamily r = .ok f) (hw : c.width r = w) :
    c.sibling? r w = pure (some r) := by
  rw [sibling?, familyOf_of_findFamily h, pure_bind, if_pos hw]

theorem sibling?_of_width_ne (h : c.findFamily r = .ok f) (hw : c.width r ≠ w) :
    c.sibling? r w = match c.memberOfWidth? f w with
      | some s => pure (some s)
      | none => ⟨[.noSibling (c.display r) (c.familyName f) w], .ok none⟩ := by
  rw [sibling?, familyOf_of_findFamily h, pure_bind, if_neg hw]
  cases c.memberOfWidth? f w with
  | none => rfl
  | some s => rfl

end Catalog

end RegisterFamilies
