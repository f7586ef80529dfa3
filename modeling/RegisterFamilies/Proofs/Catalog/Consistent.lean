import Mathlib.Data.List.Nodup
import Mathlib.Data.List.Pairwise
import RegisterFamilies.Catalog.Lemmas
import RegisterFamilies.Proofs.List.First

namespace RegisterFamilies

namespace Catalog

variable {ρ φ : Type} {c : Catalog ρ φ} {f g : φ} {a b r s : ρ} {w : Width}

/-- At each width a family has at most one low member, and a high one only beside it at a byte. -/
structure FamilyConsistent (c : Catalog ρ φ) (f : φ) : Prop where
  nonempty : c.members f ≠ []
  low (w : Width) : (c.lowMembers f w).length ≤ 1
  high (w : Width) : (c.highMembers f w).length ≤ (c.lowMembers f w).length
  wide (w : Width) : .byte < w → c.highMembers f w = []

/-- Well formed but for the order in which the members of a family are listed. -/
structure Consistent (c : Catalog ρ φ) : Prop where
  names : (c.registers.map c.name).Nodup
  partition : c.slots.Perm c.registers
  families : ∀ f ∈ c.families, c.FamilyConsistent f

def Ordered (c : Catalog ρ φ) (f : φ) : Prop := ((c.members f).map c.width).Pairwise (· ≤ ·)

theorem forall_width_ne_iff : (∀ r ∈ c.members f, c.width r ≠ w) ↔
    c.lowMembers f w = [] ∧ c.highMembers f w = [] := by
  rw [List.eq_nil_iff_forall_not_mem, List.eq_nil_iff_forall_not_mem]
  refine ⟨fun h => ⟨fun r hr => ?_, fun r hr => ?_⟩, fun ⟨hl, hh⟩ r hr hw => ?_⟩
  · obtain ⟨hr, hw, _⟩ := mem_lowMembers.1 hr
    exact h r hr hw
  · obtain ⟨hr, hw, _⟩ := mem_highMembers.1 hr
    exact h r hr hw
  · cases hb : c.isHighByte r with
    | false => exact hl r (mem_lowMembers.2 ⟨hr, hw, hb⟩)
    | true => exact hh r (mem_highMembers.2 ⟨hr, hw, hb⟩)

theorem FamilyWellFormed.low_high (h : c.FamilyWellFormed f) (w : Width) :
    (c.lowMembers f w).length ≤ 1 ∧
      (c.highMembers f w).length ≤ (c.lowMembers f w).length := by
  by_cases hw : w = .byte
  · subst w
    rcases h.bytes with he | ⟨hl, hh⟩
    · obtain ⟨hl, hh⟩ := forall_width_ne_iff.1 he
      simp only [hl, hh, List.length_nil, Nat.zero_le, and_self]
    · omega
  · obtain ⟨hl, hh⟩ := h.wide w (Width.byte_lt_iff.2 hw)
    rw [hh]
    exact ⟨hl, Nat.zero_le _⟩

theorem FamilyWellFormed.consistent (h : c.FamilyWellFormed f) : c.FamilyConsistent f where
  nonempty := h.nonempty
  low w := (h.low_high w).1
  high w := (h.low_high w).2
  wide w hw := (h.wide w hw).2

theorem FamilyConsistent.bytes (h : c.FamilyConsistent f) :
    (∀ r ∈ c.members f, c.width r ≠ .byte) ∨
    (c.lowMembers f .byte).length = 1 ∧ (c.highMembers f .byte).length ≤ 1 := by
  have hl := h.low .byte
  have hh := h.high .byte
  by_cases he : c.lowMembers f .byte = []
  · rw [he, List.length_nil, Nat.le_zero, List.length_eq_zero_iff] at hh
    exact .inl (forall_width_ne_iff.2 ⟨he, hh⟩)
  · have hpos := List.length_pos_iff.2 he
    exact .inr ⟨by omega, by omega⟩

theorem FamilyConsistent.wellFormed (h : c.FamilyConsistent f) (hs : c.Ordered f) :
    c.FamilyWellFormed f where
  nonempty := h.nonempty
  sorted := hs
  wide w hw := ⟨h.low w, h.wide w hw⟩
  bytes := h.bytes

theorem wellFormed_iff : c.WellFormed ↔ c.Consistent ∧ ∀ f ∈ c.families, c.Ordered f := by
  refine ⟨fun h => ⟨⟨h.names, h.partition, ?_⟩, ?_⟩, fun ⟨h, hs⟩ => ⟨h.names, h.partition, ?_⟩⟩
  · intro f hf
    exact (h.families f hf).consistent
  · intro f hf
    exact (h.families f hf).sorted
  · intro f hf
    exact (h.families f hf).wellFormed (hs f hf)

namespace FamilyConsistent

theorem lowMembers_eq (h : c.FamilyConsistent f) (hr : r ∈ c.lowMembers f w) :
    c.lowMembers f w = [r] :=
  eq_singleton_of_mem hr (h.low w)

theorem highMembers_eq (h : c.FamilyConsistent f) (hr : r ∈ c.highMembers f w) :
    c.highMembers f w = [r] :=
  eq_singleton_of_mem hr (Nat.le_trans (h.high w) (h.low w))

theorem eq_of_width_eq (h : c.FamilyConsistent f) (ha : a ∈ c.members f) (hb : b ∈ c.members f)
    (hw : c.width a = c.width b) (hh : c.isHighByte a = c.isHighByte b) : a = b := by
  cases he : c.isHighByte b with
  | false =>
    have hb := h.lowMembers_eq (mem_lowMembers.2 ⟨hb, rfl, he⟩)
    have ha := mem_lowMembers.2 ⟨ha, hw, hh.trans he⟩
    rw [hb, List.mem_singleton] at ha
    exact ha
  | true =>
    have hb := h.highMembers_eq (mem_highMembers.2 ⟨hb, rfl, he⟩)
    have ha := mem_highMembers.2 ⟨ha, hw, hh.trans he⟩
    rw [hb, List.mem_singleton] at ha
    exact ha

/-- A high member never stands alone, so each width of a family has its low member. -/
theorem exists_low (h : c.FamilyConsistent f) (hr : r ∈ c.members f) :
    ∃ s, c.lowMembers f (c.width r) = [s] := by
  cases hb : c.isHighByte r with
  | false => exact ⟨r, h.lowMembers_eq (mem_lowMembers.2 ⟨hr, rfl, hb⟩)⟩
  | true =>
    have hpos := List.length_pos_of_mem (mem_highMembers.2 ⟨hr, rfl, hb⟩)
    have hle := h.high (c.width r)
    obtain ⟨s, hs⟩ := List.exists_mem_of_length_pos (Nat.lt_of_lt_of_le hpos hle)
    exact ⟨s, h.lowMembers_eq hs⟩

theorem width_of_isHighByte (h : c.FamilyConsistent f) (hr : r ∈ c.members f)
    (hb : c.isHighByte r = true) : c.width r = .byte := by
  apply Classical.byContradiction
  intro hw
  have he := h.wide (c.width r) (Width.byte_lt_iff.2 hw)
  exact List.eq_nil_iff_forall_not_mem.1 he r (mem_highMembers.2 ⟨hr, rfl, hb⟩)

end FamilyConsistent

namespace Consistent

theorem registers_nodup (h : c.Consistent) : c.registers.Nodup := h.names.of_map

theorem slots_nodup (h : c.Consistent) : c.slots.Nodup :=
  h.partition.nodup_iff.2 h.registers_nodup

theorem mem_slots_iff (h : c.Consistent) : r ∈ c.slots ↔ r ∈ c.registers := h.partition.mem_iff

theorem mem_registers (h : c.Consistent) (hf : f ∈ c.families) (hr : r ∈ c.members f) :
    r ∈ c.registers :=
  h.mem_slots_iff.1 (mem_slots.2 ⟨f, hf, hr⟩)

theorem exists_family (h : c.Consistent) (hr : r ∈ c.registers) :
    ∃ f ∈ c.families, r ∈ c.members f :=
  mem_slots.1 (h.mem_slots_iff.2 hr)

theorem ownerless_iff (h : c.Consistent) : c.Ownerless r ↔ r ∉ c.registers := by
  rw [ownerless_iff_not_mem_slots, h.mem_slots_iff]

theorem not_ownerless_iff (h : c.Consistent) : ¬ c.Ownerless r ↔ r ∈ c.registers := by
  rw [h.ownerless_iff, Classical.not_not]

theorem families_disjoint (h : c.Consistent) :
    c.families.Pairwise fun f g => List.Disjoint (c.members f) (c.members g) :=
  (List.nodup_flatMap.1 h.slots_nodup).2

theorem family_unique (h : c.Consistent) (hf : f ∈ c.families) (hg : g ∈ c.families)
    (hrf : r ∈ c.members f) (hrg : r ∈ c.members g) : f = g := by
  apply Classical.byContradiction
  intro hne
  have hsymm : Std.Symm fun f g => List.Disjoint (c.members f) (c.members g) :=
    ⟨fun _ _ hd _ hg hf => hd hf hg⟩
  exact h.families_disjoint.forall hf hg hne hrf hrg

/-- A family listed twice would own its members twice. -/
theorem families_nodup (h : c.Consistent) : c.families.Nodup := by
  refine h.families_disjoint.imp_of_mem ?_
  intro f g hf _ hd he
  subst g
  obtain ⟨r, hr⟩ := List.exists_mem_of_ne_nil _ (h.families f hf).nonempty
  exact hd hr hr

variable [DecidableEq ρ]

/-- The first family that lists a register is the only one. -/
theorem findFamily_eq_ok_iff (h : c.Consistent) :
    c.findFamily r = .ok f ↔ f ∈ c.families ∧ r ∈ c.members f := by
  refine ⟨mem_families_of_findFamily, fun ⟨hf, hr⟩ => ?_⟩
  cases he : c.findFamily r with
  | ok g =>
    obtain ⟨hg, hrg⟩ := mem_families_of_findFamily he
    rw [h.family_unique hf hg hr hrg]
  | error e =>
    obtain ⟨ho, _⟩ := findFamily_eq_error_iff.1 he
    exact (ho f hf hr).elim

theorem exists_findFamily (h : c.Consistent) (hr : r ∈ c.registers) :
    ∃ f, c.findFamily r = .ok f := by
  obtain ⟨f, hf, hr⟩ := h.exists_family hr
  exact ⟨f, h.findFamily_eq_ok_iff.2 ⟨hf, hr⟩⟩

theorem findFamily_of_mem (h : c.Consistent) (hr : c.findFamily r = .ok f)
    (hs : s ∈ c.members f) : c.findFamily s = .ok f := by
  obtain ⟨hf, _⟩ := mem_families_of_findFamily hr
  exact h.findFamily_eq_ok_iff.2 ⟨hf, hs⟩

end Consistent

end Catalog

end RegisterFamilies
