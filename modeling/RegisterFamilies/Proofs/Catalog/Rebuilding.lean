import Mathlib.Data.List.Sort
import RegisterFamilies.Proofs.Catalog.TieBreak

namespace RegisterFamilies

namespace Catalog

variable {ρ φ : Type} {c : Catalog ρ φ} {f : φ} {m r s : ρ} {w : Width}

namespace FamilyConsistent

theorem siblingIn?_width_eq_some_iff (h : c.FamilyConsistent f) (hm : m ∈ c.members f)
    (hs : s ∈ c.members f) : c.siblingIn? f m (c.width s) = some s ↔
      (c.isHighByte s = true ↔ c.width m = c.width s ∧ c.isHighByte m = true) := by
  by_cases hw : c.width m = c.width s
  · rw [siblingIn?_of_width_eq hw, Option.some.injEq, and_iff_right hw]
    refine ⟨fun he => by rw [he], fun hb => ?_⟩
    exact h.eq_of_width_eq hm hs hw (Bool.eq_iff_iff.2 hb.symm)
  · obtain ⟨t, ht⟩ := h.exists_low hs
    rw [siblingIn?_of_width_ne hw, h.memberOfWidth?_eq, ht, List.head?_cons, Option.some.injEq]
    simp only [hw, false_and, iff_false, Bool.not_eq_true]
    constructor
    · rintro rfl
      obtain ⟨_, _, hb⟩ := mem_lowMembers.1 (ht ▸ List.mem_cons_self)
      exact hb
    · intro hb
      rw [h.lowMembers_eq (mem_lowMembers.2 ⟨hs, rfl, hb⟩)] at ht
      exact (List.head_eq_of_cons_eq ht).symm

theorem filter_isHighByte (h : c.FamilyConsistent f) :
    (c.members f).filter c.isHighByte = c.highMembers f .byte := by
  rw [highMembers]
  apply List.filter_congr
  intro r hr
  cases hb : c.isHighByte r with
  | false => simp only [Bool.false_eq_true, and_false, decide_false]
  | true => simp only [h.width_of_isHighByte hr hb, and_self, decide_true]

theorem length_filter_isHighByte (h : c.FamilyConsistent f) :
    ((c.members f).filter c.isHighByte).length = if c.hasHighByte f then 1 else 0 := by
  cases hb : c.hasHighByte f with
  | true =>
    obtain ⟨r, hr, hb⟩ := List.any_eq_true.1 hb
    have hmem := mem_highMembers.2 ⟨hr, h.width_of_isHighByte hr hb, hb⟩
    rw [h.filter_isHighByte, h.highMembers_eq hmem]
    rfl
  | false =>
    have hnone := List.any_eq_false.1 hb
    rw [List.filter_eq_nil_iff.2 hnone]
    rfl

end FamilyConsistent

theorem Consistent.members_nodup (h : c.Consistent) (hf : f ∈ c.families) :
    (c.members f).Nodup :=
  (List.nodup_flatMap.1 h.slots_nodup).1 f hf

variable [DecidableEq ρ]

/-- The members that answer at their own width when `m` is asked. -/
def answering (c : Catalog ρ φ) (f : φ) (m : ρ) : List ρ :=
  (c.members f).filter fun s => c.siblingIn? f m (c.width s) = some s

theorem mem_answering :
    s ∈ c.answering f m ↔ s ∈ c.members f ∧ c.siblingIn? f m (c.width s) = some s := by
  rw [answering, List.mem_filter, decide_eq_true_eq]

theorem mem_map_width_answering (hm : m ∈ c.members f) :
    w ∈ (c.answering f m).map c.width ↔ w ∈ c.widths f := by
  rw [List.mem_map]
  constructor
  · rintro ⟨s, hs, rfl⟩
    exact mem_widths_of_mem (mem_answering.1 hs).1
  · intro hw
    cases hs : c.siblingIn? f m w with
    | none => exact ((siblingIn?_eq_none_iff hm).1 hs hw).elim
    | some s =>
      obtain ⟨hmem, rfl⟩ := mem_of_siblingIn? hm hs
      exact ⟨s, mem_answering.2 ⟨hmem, hs⟩, rfl⟩

theorem pairwise_lt_map_width_answering (hn : (c.members f).Nodup) (hs : c.Ordered f) (m : ρ) :
    ((c.answering f m).map c.width).Pairwise (· < ·) := by
  have hle : ((c.answering f m).map c.width).Pairwise (· ≤ ·) :=
    hs.sublist (List.filter_sublist.map c.width)
  have hne : ((c.answering f m).map c.width).Nodup := by
    apply List.Nodup.map_on _ (hn.filter _)
    intro s hs t ht hw
    have hs := (mem_answering.1 hs).2
    rw [hw, (mem_answering.1 ht).2] at hs
    exact (Option.some.inj hs).symm
  exact hle.imp₂ (fun _ _ => lt_of_le_of_ne) hne

theorem map_width_answering (hn : (c.members f).Nodup) (hs : c.Ordered f)
    (hm : m ∈ c.members f) : (c.answering f m).map c.width = (c.widths f).widths := by
  apply (pairwise_lt_map_width_answering hn hs m).eq_of_mem_iff (c.widths f).pairwise_lt_widths
  intro w
  rw [mem_map_width_answering hm, WidthSet.mem_widths]

theorem FamilyConsistent.answering_of_low (h : c.FamilyConsistent f) (hm : m ∈ c.members f)
    (hb : c.isHighByte m = false) :
    c.answering f m = (c.members f).filter fun s => !c.isHighByte s := by
  apply List.filter_congr
  intro s hs
  simp only [h.siblingIn?_width_eq_some_iff hm hs, hb]
  cases c.isHighByte s with
  | false => simp only [Bool.false_eq_true, and_false, decide_true, Bool.not_false]
  | true => simp only [Bool.false_eq_true, and_false, iff_false, not_true_eq_false, decide_false,
      Bool.not_true]

theorem FamilyConsistent.answering_of_high (h : c.FamilyConsistent f) (hm : m ∈ c.members f)
    (hb : c.isHighByte m = true) :
    c.answering f m = (c.members f).filter fun s => ¬ c.LowOfWidth .byte s := by
  apply List.filter_congr
  intro s hs
  apply decide_eq_decide.2
  rw [h.siblingIn?_width_eq_some_iff hm hs, h.width_of_isHighByte hm hb, and_iff_left hb,
    LowOfWidth, eq_comm (a := Width.byte)]
  cases hsb : c.isHighByte s with
  | false => simp only [Bool.false_eq_true, false_iff, and_true]
  | true => simp only [h.width_of_isHighByte hs hsb, Bool.true_eq_false, and_false,
      not_false_eq_true]

theorem sibling?_eq_pure (hf : c.findFamily r = .ok f) (hw : w ∈ c.widths f) :
    c.sibling? r w = pure (c.siblingIn? f r w) := by
  obtain ⟨_, hr⟩ := mem_families_of_findFamily hf
  rw [sibling?_eq hf]
  cases hs : c.siblingIn? f r w with
  | some s => rfl
  | none => exact ((siblingIn?_eq_none_iff hr).1 hs hw).elim

namespace Consistent

theorem mapM_sibling?_widths (h : c.Consistent) (hs : c.Ordered f) (hf : c.findFamily m = .ok f) :
    (c.widths f).widths.mapM (c.sibling? m) = pure ((c.answering f m).map some) := by
  obtain ⟨hmem, hm⟩ := mem_families_of_findFamily hf
  have hpure : (c.widths f).widths.mapM (c.sibling? m) =
      pure ((c.widths f).widths.map (c.siblingIn? f m)) :=
    Traced.mapM_eq_pure fun w hw => sibling?_eq_pure hf (WidthSet.mem_widths.1 hw)
  rw [hpure, ← map_width_answering (h.members_nodup hmem) hs hm, List.map_map]
  apply congrArg pure
  apply List.map_congr_left
  intro s hs
  exact (mem_answering.1 hs).2

/-- The low members stand for the widths one to one, and only a high byte is left besides. -/
theorem length_members (h : c.Consistent) (hf : f ∈ c.families) (hs : c.Ordered f) :
    (c.members f).length = (c.widths f).widths.length + if c.hasHighByte f then 1 else 0 := by
  have hc := h.families f hf
  obtain ⟨r, hr⟩ := List.exists_mem_of_ne_nil _ hc.nonempty
  obtain ⟨s, hlow⟩ := hc.exists_low hr
  obtain ⟨hs', _, hb⟩ := mem_lowMembers.1 (hlow ▸ List.mem_cons_self)
  rw [← map_width_answering (h.members_nodup hf) hs hs', List.length_map,
    hc.answering_of_low hs' hb, ← hc.length_filter_isHighByte, Nat.add_comm]
  exact List.length_eq_length_filter_add c.isHighByte

end Consistent

/-- In an accepted catalog a member answers the widths of its family by the members in the order of
the table, without the other half of its word. -/
theorem mapM_sibling?_widths_eq_members (hv : c.validate.result = .ok ()) (hf : f ∈ c.families) :
    (∀ m ∈ c.members f, ∃ l, (c.widths f).widths.mapM (c.sibling? m) = pure (l.map some) ∧
      (c.isHighByte m = false → l = (c.members f).filter fun s => !c.isHighByte s) ∧
      (c.isHighByte m = true → l = (c.members f).filter fun s => ¬ c.LowOfWidth .byte s) ∧
      (l.map c.width).Pairwise (· < ·)) ∧
    (c.members f).length = (c.widths f).widths.length + (if c.hasHighByte f then 1 else 0) ∧
    (c.members f).length ≤ 5 ∧
    (c.hasHighByte f = true → .byte ∈ c.widths f) := by
  obtain ⟨h, hordered⟩ := validate_result_eq_ok_iff_consistent.1 hv
  have hc := h.families f hf
  have hs := hordered f hf
  have hlength := h.length_members hf hs
  refine ⟨fun m hm => ?_, hlength, ?_, fun hb => ?_⟩
  · have hm' := h.findFamily_eq_ok_iff.2 ⟨hf, hm⟩
    exact ⟨c.answering f m, h.mapM_sibling?_widths hs hm', hc.answering_of_low hm,
      hc.answering_of_high hm, pairwise_lt_map_width_answering (h.members_nodup hf) hs m⟩
  · have hfour := (c.widths f).length_widths_le
    split at hlength <;> omega
  · obtain ⟨r, hr, hb⟩ := List.any_eq_true.1 hb
    rw [← hc.width_of_isHighByte hr hb]
    exact mem_widths_of_mem hr

theorem mapM_sibling?_widths_ah :
    X86.catalog.validate.result = .ok () ∧ X86.Family.ax ∈ X86.catalog.families ∧
      X86.Register.ah ∈ X86.catalog.members .ax ∧
      Width.all.mapM (X86.catalog.sibling? .ah) =
        pure [some .ah, some .ax, some .eax, some .rax] ∧
      (X86.catalog.members .ax).length = 5 := by
  have hf : X86.Family.ax ∈ X86.catalog.families := by decide
  have hm : X86.Register.ah ∈ X86.catalog.members .ax := by decide
  obtain ⟨hmembers, hlength, _⟩ := mapM_sibling?_widths_eq_members X86.validate_catalog hf
  obtain ⟨l, hl, _, hhigh, _⟩ := hmembers _ hm
  have hwidths : (X86.catalog.widths .ax).widths = Width.all := by decide
  rw [hhigh rfl, hwidths] at hl
  rw [hwidths] at hlength
  exact ⟨X86.validate_catalog, hf, hm, hl, hlength⟩

end Catalog

end RegisterFamilies
