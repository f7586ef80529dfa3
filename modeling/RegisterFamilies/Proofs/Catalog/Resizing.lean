import RegisterFamilies.Proofs.Catalog.Aliasing
import RegisterFamilies.Proofs.Catalog.Siblings

namespace RegisterFamilies

namespace Catalog

variable {ρ φ : Type} {c : Catalog ρ φ} {f g : φ} {a b r s t : ρ} {v w : Width} {i : Nat}

theorem overlap_of_covers (h : ∀ i, c.Covers s i → c.Covers t i) : c.Overlap s t := by
  obtain ⟨i, hi, _⟩ := overlap_of_isHighByte_eq (c := c) (a := s) rfl
  exact ⟨i, hi, h i hi⟩

theorem Overlap.mono (ho : c.Overlap a s) (h : ∀ i, c.Covers s i → c.Covers t i) :
    c.Overlap a t := by
  obtain ⟨i, ha, hs⟩ := ho
  exact ⟨i, ha, h i hs⟩

namespace FamilyConsistent

theorem isHighByte_of_byte_lt (h : c.FamilyConsistent f) (hr : r ∈ c.members f)
    (hw : .byte < c.width r) : c.isHighByte r = false := by
  apply eq_false_of_ne_true
  intro hb
  exact Width.byte_lt_iff.1 hw (h.width_of_isHighByte hr hb)

theorem siblingIn?_of_byte_lt (h : c.FamilyConsistent f) (hr : r ∈ c.members f)
    (hw : .byte < w) : c.siblingIn? f r w = (c.lowMembers f w).head? := by
  by_cases hrw : c.width r = w
  · subst w
    have hb := h.isHighByte_of_byte_lt hr hw
    rw [siblingIn?_of_width_eq rfl, h.lowMembers_eq (mem_lowMembers.2 ⟨hr, rfl, hb⟩)]
    rfl
  · rw [siblingIn?_of_width_ne hrw, h.memberOfWidth?_eq]

theorem covers_of_width_lt (h : c.FamilyConsistent f) (ht : t ∈ c.members f)
    (hw : c.width s < c.width t) (hi : c.Covers s i) : c.Covers t i := by
  -- what is wider than some register is no byte, so it is low and longer than a byte
  have hbyte : .byte < c.width t := lt_of_le_of_lt (Width.byte_le (c.width s)) hw
  apply (covers_of_low (h.isHighByte_of_byte_lt ht hbyte)).2
  cases hb : c.isHighByte s with
  | false =>
    have hi := (covers_of_low hb).1 hi
    exact Nat.lt_trans hi hw
  | true =>
    obtain ⟨_, hi⟩ := (covers_of_high hb).1 hi
    exact Nat.lt_of_lt_of_le hi (Width.word_le_iff.2 hbyte)

theorem covers_siblingIn?_of_le (h : c.FamilyConsistent f) (hr : r ∈ c.members f)
    (hs : c.siblingIn? f r v = some s) (ht : c.siblingIn? f r w = some t) (hvw : v ≤ w) (i : Nat)
    (hi : c.Covers s i) : c.Covers t i := by
  by_cases he : v = w
  · subst w
    rw [hs] at ht
    cases ht
    exact hi
  · obtain ⟨_, rfl⟩ := mem_of_siblingIn? hr hs
    obtain ⟨htf, rfl⟩ := mem_of_siblingIn? hr ht
    exact h.covers_of_width_lt htf (lt_of_le_of_ne hvw he) hi

theorem overlap_siblingIn? (h : c.FamilyConsistent f) (hr : r ∈ c.members f)
    (hs : c.siblingIn? f r v = some s) (ht : c.siblingIn? f r w = some t) : c.Overlap s t := by
  cases le_total v w with
  | inl hvw => exact overlap_of_covers (h.covers_siblingIn?_of_le hr hs ht hvw)
  | inr hwv => exact (overlap_of_covers (h.covers_siblingIn?_of_le hr ht hs hwv)).symm

end FamilyConsistent

variable [DecidableEq ρ] [DecidableEq φ]

theorem Consistent.aliases_of_overlap (h : c.Consistent) (ha : c.findFamily a = .ok f)
    (hb : c.findFamily b = .ok f) (ho : c.Overlap a b) : c.aliases a b = pure true := by
  rw [aliases_eq ha hb, decide_eq_true ((h.aliases_iff ha hb).2 ⟨rfl, ho⟩)]

theorem Consistent.overlap_of_aliases (h : c.Consistent) (ha : c.findFamily a = .ok f)
    (hb : c.findFamily b = .ok g) (hab : (c.aliases a b).result = .ok true) :
    f = g ∧ c.Overlap a b := by
  rw [aliases_eq ha hb, Traced.result_pure, Except.ok.injEq, decide_eq_true_iff] at hab
  exact (h.aliases_iff ha hb).1 hab

/-- In an accepted catalog the siblings of a register share storage with it and with each other, and
the wider of two is aliased by all that the narrower one is aliased by. -/
theorem aliases_sibling?_of_le (hv : c.validate.result = .ok ()) (hr : r ∈ c.registers)
    (hvw : v ≤ w) (hs : (c.sibling? r v).result = .ok (some s))
    (ht : (c.sibling? r w).result = .ok (some t)) :
    c.aliases r s = pure true ∧ c.aliases r t = pure true ∧ c.aliases s t = pure true ∧
      ∀ x ∈ c.registers, (c.aliases x s).result = .ok true → c.aliases x t = pure true := by
  obtain ⟨h, _⟩ := validate_result_eq_ok_iff_consistent.1 hv
  obtain ⟨f, hf⟩ := h.exists_findFamily hr
  obtain ⟨hm, hrf⟩ := mem_families_of_findFamily hf
  have hc := h.families f hm
  rw [sibling?_result hf, Except.ok.injEq] at hs ht
  have hself : c.siblingIn? f r (c.width r) = some r := siblingIn?_of_width_eq rfl
  have hsf := h.findFamily_of_mem hf (mem_of_siblingIn? hrf hs).1
  have htf := h.findFamily_of_mem hf (mem_of_siblingIn? hrf ht).1
  have hrs := h.aliases_of_overlap hf hsf (hc.overlap_siblingIn? hrf hself hs)
  have hrt := h.aliases_of_overlap hf htf (hc.overlap_siblingIn? hrf hself ht)
  have hst := h.aliases_of_overlap hsf htf (hc.overlap_siblingIn? hrf hs ht)
  refine ⟨hrs, hrt, hst, ?_⟩
  intro x hx hxs
  obtain ⟨g, hg⟩ := h.exists_findFamily hx
  obtain ⟨rfl, ho⟩ := h.overlap_of_aliases hg hsf hxs
  exact h.aliases_of_overlap hg htf (ho.mono (hc.covers_siblingIn?_of_le hrf hs ht hvw))

/-- From a high byte on, the byte among its siblings is the register itself. -/
theorem aliases_sibling?_ah_byte_long :
    X86.catalog.validate.result = .ok () ∧ X86.Register.ah ∈ X86.catalog.registers ∧
      Width.byte ≤ Width.long ∧ (X86.catalog.sibling? .ah .byte).result = .ok (some .ah) ∧
      (X86.catalog.sibling? .ah .long).result = .ok (some .eax) ∧
      X86.catalog.aliases .ah .eax = pure true ∧
      (X86.catalog.aliases .ax .ah).result = .ok true ∧
      X86.catalog.aliases .ax .eax = pure true := by
  have hr : X86.Register.ah ∈ X86.catalog.registers := by decide
  have hx : X86.Register.ax ∈ X86.catalog.registers := by decide
  have hvw : Width.byte ≤ Width.long := by decide
  have hs : (X86.catalog.sibling? .ah .byte).result = .ok (some .ah) := rfl
  have ht : (X86.catalog.sibling? .ah .long).result = .ok (some .eax) := rfl
  have hxs : (X86.catalog.aliases .ax .ah).result = .ok true := rfl
  obtain ⟨_, hrt, _, hmono⟩ := aliases_sibling?_of_le X86.validate_catalog hr hvw hs ht
  exact ⟨X86.validate_catalog, hr, hvw, hs, ht, hrt, hxs, hmono .ax hx hxs⟩

end Catalog

end RegisterFamilies
