import RegisterFamilies.Proofs.Catalog.Resizing
import RegisterFamilies.Proofs.X86.Spelling
import RegisterFamilies.X86.Walk

namespace RegisterFamilies.X86

open Catalog

variable {f : Family} {g : Generation} {r s h : Register}

theorem catalog_consistent : catalog.Consistent :=
  (validate_result_eq_ok_iff_consistent.1 validate_catalog).1

theorem family_consistent (f : Family) : catalog.FamilyConsistent f :=
  catalog_consistent.families f (Enumeration.mem_all f)

theorem findFamily_eq_ok (hr : r ∈ f.members) : catalog.findFamily r = .ok f :=
  catalog_consistent.findFamily_eq_ok_iff.2 ⟨Enumeration.mem_all f, hr⟩

theorem exists_mem_members (r : Register) : ∃ f : Family, r ∈ f.members := by
  obtain ⟨f, _, hr⟩ := catalog_consistent.exists_family (Enumeration.mem_all r)
  exact ⟨f, hr⟩

theorem family_eq (hr : r ∈ f.members) : r.family = pure f :=
  familyOf_of_findFamily (findFamily_eq_ok hr)

namespace Move

/-- A move leads to a member of the same family, or nowhere. -/
theorem target_result (hr : r ∈ f.members) (m : Move) :
    ∃ answer, (m.target r).result = .ok answer ∧ ∀ s, answer = some s → s ∈ f.members := by
  have hf := findFamily_eq_ok hr
  have hsibling (w : Width) (s : Register) (hs : catalog.siblingIn? f r w = some s) :
      s ∈ f.members := (mem_of_siblingIn? hr hs).1
  cases m with
  | sibling? w => exact ⟨_, sibling?_result hf, hsibling w⟩
  | sibling w =>
    obtain ⟨answer, ha, hs⟩ := sibling_result (w := w) hf
    refine ⟨answer.toOption, Traced.bind_result_of_result_eq_ok ha _, ?_⟩
    rw [hs]
    exact hsibling w
  | head? g => exact ⟨_, sibling?_result hf, hsibling g.nativeWidth⟩
  | member index =>
    refine ⟨f.members[index]?, ?_, fun s => List.mem_of_getElem?⟩
    rw [target, Register.familyMembers, family_eq hr, map_pure, pure_bind, Traced.result_pure]

theorem step_result (hr : r ∈ f.members) (m : Move) :
    ∃ s, (m.step r).result = .ok s ∧ s ∈ f.members := by
  obtain ⟨answer, ha, hmem⟩ := target_result hr m
  refine ⟨answer.getD r, Traced.bind_result_of_result_eq_ok ha _, ?_⟩
  cases answer with
  | none => exact hr
  | some s => exact hmem s rfl

end Move

theorem Register.walk_result (hr : r ∈ f.members) (l : List Move) :
    ∃ s, (r.walk l).result = .ok s ∧ s ∈ f.members := by
  induction l generalizing r with
  | nil => exact ⟨r, rfl, hr⟩
  | cons m l ih =>
    obtain ⟨s, hs, hmem⟩ := m.step_result hr
    obtain ⟨t, ht, htf⟩ := ih hmem
    exact ⟨t, (Traced.bind_result_of_result_eq_ok hs _).trans ht, htf⟩

theorem exists_lowMembers_nativeWidth (f : Family) (g : Generation) :
    ∃ h, catalog.lowMembers f g.nativeWidth = [h] := by
  have hall : ∀ f ∈ Family.all, ∀ g ∈ Generation.all,
      ∃ m ∈ f.members, m.width = g.nativeWidth := by decide
  obtain ⟨m, hm, hw⟩ := hall f (Enumeration.mem_all f) g (Enumeration.mem_all g)
  rw [← hw]
  exact (family_consistent f).exists_low hm

theorem Generation.byte_lt_nativeWidth (g : Generation) : .byte < g.nativeWidth := by
  cases g <;> decide

theorem siblingIn?_nativeWidth (hr : r ∈ f.members)
    (hh : catalog.lowMembers f g.nativeWidth = [h]) :
    catalog.siblingIn? f r g.nativeWidth = some h := by
  rw [(family_consistent f).siblingIn?_of_byte_lt hr g.byte_lt_nativeWidth, hh]
  rfl

/-- The head of a family is the same for all its members. -/
theorem Register.head?_eq (hr : r ∈ f.members)
    (hh : catalog.lowMembers f g.nativeWidth = [h]) : r.head? g = pure (some h) := by
  rw [Register.head?, Register.sibling?, sibling?_eq (findFamily_eq_ok hr),
    siblingIn?_nativeWidth hr hh]
  rfl

theorem Register.aliases_head (hr : r ∈ f.members)
    (hh : catalog.lowMembers f g.nativeWidth = [h]) : r.aliases h = pure true := by
  have hs := siblingIn?_nativeWidth hr hh
  have hhf := (mem_of_siblingIn? hr hs).1
  apply catalog_consistent.aliases_of_overlap (findFamily_eq_ok hr) (findFamily_eq_ok hhf)
  exact (family_consistent f).overlap_siblingIn? hr (siblingIn?_of_width_eq rfl) hs

theorem Generation.mem_registers (hw : r.width = g.nativeWidth) : r ∈ g.registers := by
  apply List.mem_filter.2
  refine ⟨Enumeration.mem_all r, decide_eq_true ?_⟩
  exact le_of_eq hw

theorem Register.parse_text {sigil : List Char} (hs : sigil = [] ∨ sigil = ['%'])
    (r : Register) : parse (.ofList (sigil ++ r.text {})) = pure r := by
  rw [Register.text, Text.Layout.text_default]
  exact parse_sigil_name hs r

/-- From the register that a text spells, any moves stay in its family, and in each generation the
register reached has the head that the first one had. -/
theorem walk_keeps_head (t : String) (l : List Move) : ∀ r, (Register.parse t).result = .ok r →
    ∃ f s, r.family = pure f ∧ (r.walk l).result = .ok s ∧ s.family = pure f ∧
      ∀ g : Generation, ∃ h, s.head? g = pure (some h) ∧ r.head? g = pure (some h) ∧
        h.width = g.nativeWidth ∧ h ∈ g.registers ∧ s.aliases h = pure true ∧
        Width.ofSuffix h.width.suffix = .ok h.width ∧
        Register.parse (.ofList (h.text {})) = pure h ∧
        Register.parse (.ofList ('%' :: h.text {})) = pure h := by
  intro r _
  obtain ⟨f, hr⟩ := exists_mem_members r
  obtain ⟨s, hwalk, hs⟩ := Register.walk_result hr l
  refine ⟨f, s, family_eq hr, hwalk, family_eq hs, fun g => ?_⟩
  obtain ⟨h, hh⟩ := exists_lowMembers_nativeWidth f g
  obtain ⟨_, hw, _⟩ := mem_lowMembers.1 (hh ▸ List.mem_cons_self)
  exact ⟨h, Register.head?_eq hs hh, Register.head?_eq hr hh, hw, Generation.mem_registers hw,
    Register.aliases_head hs hh, Width.ofSuffix_eq_ok_iff.2 rfl, h.parse_text (.inl rfl),
    h.parse_text (.inr rfl)⟩

theorem walk_keeps_head_bh :
    let l : List Move := [.head? .x86_64, .member 0, .sibling .long, .member 7, .member 1]
    (Register.parse " %BH").result = .ok .bh ∧ (Register.bh.walk l).result = .ok .bh ∧
      Register.bh.head? .x86_32 = pure (some .ebx) ∧ Register.bh.aliases .ebx = pure true ∧
      Register.parse "%ebx" = pure .ebx := by
  intro l
  have hparse : (Register.parse " %BH").result = .ok .bh :=
    Register.parse_result_eq_ok_iff.2 (by decide)
  have hwalk : (Register.bh.walk l).result = .ok .bh := rfl
  obtain ⟨_, s, _, hs, _, hheads⟩ := walk_keeps_head " %BH" l .bh hparse
  rw [hwalk] at hs
  cases hs
  obtain ⟨h, hhead, _, _, _, haliases, _, _, hpercent⟩ := hheads .x86_32
  have hebx : Register.bh.head? .x86_32 = pure (some .ebx) := rfl
  cases Traced.pure_injective (hebx.symm.trans hhead)
  exact ⟨hparse, hwalk, hebx, haliases, hpercent⟩

end RegisterFamilies.X86
