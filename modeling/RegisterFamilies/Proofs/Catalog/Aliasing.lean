import RegisterFamilies.Proofs.Catalog.Validation

namespace RegisterFamilies

namespace Catalog

variable {ρ φ : Type} {c : Catalog ρ φ} {f g : φ} {a b r : ρ} {i : Nat}

theorem covers_of_low (h : c.isHighByte r = false) : c.Covers r i ↔ i < (c.width r).bits := by
  rw [Covers, h]
  exact Iff.rfl

theorem covers_of_high (h : c.isHighByte r = true) : c.Covers r i ↔ 8 ≤ i ∧ i < 16 := by
  rw [Covers, if_pos h]

theorem Overlap.symm (h : c.Overlap a b) : c.Overlap b a := by
  obtain ⟨i, ha, hb⟩ := h
  exact ⟨i, hb, ha⟩

theorem overlap_of_isHighByte_eq (h : c.isHighByte a = c.isHighByte b) : c.Overlap a b := by
  cases hb : c.isHighByte b with
  | false =>
    have ha := h.trans hb
    exact ⟨0, (covers_of_low ha).2 (Width.bits_pos _), (covers_of_low hb).2 (Width.bits_pos _)⟩
  | true =>
    have ha := h.trans hb
    exact ⟨8, (covers_of_high ha).2 (by decide), (covers_of_high hb).2 (by decide)⟩

theorem overlap_low_high_iff (ha : c.isHighByte a = false) (hb : c.isHighByte b = true) :
    c.Overlap a b ↔ .byte < c.width a := by
  refine ⟨fun ⟨i, hai, hbi⟩ => ?_, fun hw => ?_⟩
  · have hai := (covers_of_low ha).1 hai
    obtain ⟨hi, _⟩ := (covers_of_high hb).1 hbi
    exact Nat.lt_of_le_of_lt hi hai
  · exact ⟨8, (covers_of_low ha).2 hw, (covers_of_high hb).2 (by decide)⟩

theorem FamilyConsistent.overlap_halves_iff (h : c.FamilyConsistent f) (hb : b ∈ c.members f)
    (hla : c.isHighByte a = false) (hhb : c.isHighByte b = true) :
    c.Overlap a b ↔ ¬ (c.width a = .byte ∧ c.width b = .byte) := by
  rw [overlap_low_high_iff hla hhb, Width.byte_lt_iff,
    and_iff_left (h.width_of_isHighByte hb hhb)]

/-- Within a family only the two halves of a word keep clear of each other. -/
theorem FamilyConsistent.overlap_iff (h : c.FamilyConsistent f) (ha : a ∈ c.members f)
    (hb : b ∈ c.members f) :
    c.Overlap a b ↔ a = b ∨ ¬ (c.width a = .byte ∧ c.width b = .byte) := by
  by_cases hm : c.isHighByte a = c.isHighByte b
  · refine ⟨fun _ => ?_, fun _ => overlap_of_isHighByte_eq hm⟩
    by_cases hw : c.width a = .byte ∧ c.width b = .byte
    · obtain ⟨hwa, hwb⟩ := hw
      exact .inl (h.eq_of_width_eq ha hb (hwa.trans hwb.symm) hm)
    · exact .inr hw
  · have hne : a ≠ b := by
      intro he
      subst b
      exact hm rfl
    rw [or_iff_right hne]
    -- one of the two is the high one, and the statement is symmetric
    cases hla : c.isHighByte a with
    | false =>
      rw [hla] at hm
      exact h.overlap_halves_iff hb hla (eq_true_of_ne_false (Ne.symm hm))
    | true =>
      rw [hla] at hm
      have hlb := eq_false_of_ne_true (Ne.symm hm)
      have hs := h.overlap_halves_iff ha hlb hla
      rw [and_comm, ← hs]
      exact ⟨Overlap.symm, Overlap.symm⟩

variable [DecidableEq ρ] [DecidableEq φ]

theorem aliases_eq (ha : c.findFamily a = .ok f) (hb : c.findFamily b = .ok g) :
    c.aliases a b =
      pure (decide (a = b ∨ ¬ (c.width a = .byte ∧ c.width b = .byte) ∧ f = g)) := by
  rw [aliases, familyOf_of_findFamily ha, familyOf_of_findFamily hb, pure_bind, pure_bind]
  by_cases he : a = b
  · rw [if_pos he, decide_eq_true (.inl he)]
  · rw [if_neg he]
    by_cases hw : c.width a = .byte ∧ c.width b = .byte
    · rw [if_pos hw, decide_eq_false]
      rintro (h | ⟨h, _⟩)
      · exact he h
      · exact h hw
    · rw [if_neg hw]
      simp only [he, hw, not_false_eq_true, true_and, false_or]

theorem aliases_comm (ha : c.findFamily a = .ok f) (hb : c.findFamily b = .ok g) :
    c.aliases b a = c.aliases a b := by
  rw [aliases_eq ha hb, aliases_eq hb ha]
  apply congrArg pure
  apply decide_eq_decide.2
  rw [eq_comm, and_comm (a := c.width b = .byte), eq_comm (a := g)]

theorem Consistent.aliases_iff (h : c.Consistent) (ha : c.findFamily a = .ok f)
    (hb : c.findFamily b = .ok g) :
    (a = b ∨ ¬ (c.width a = .byte ∧ c.width b = .byte) ∧ f = g) ↔ f = g ∧ c.Overlap a b := by
  obtain ⟨hf, haf⟩ := mem_families_of_findFamily ha
  obtain ⟨_, hbg⟩ := mem_families_of_findFamily hb
  by_cases hfg : f = g
  · subst g
    rw [(h.families f hf).overlap_iff haf hbg]
    simp only [and_true, true_and]
  · have hne : a ≠ b := by
      intro he
      subst b
      rw [ha] at hb
      cases hb
      exact hfg rfl
    simp only [hne, hfg, and_false, or_false, false_and]

/-- In an accepted catalog two registers alias exactly if they have a bit in common: they are of one
family and their bits in its storage meet. -/
theorem aliases_iff_overlap (hv : c.validate.result = .ok ()) (ha : a ∈ c.registers)
    (hb : b ∈ c.registers) : ∃ f g answer,
      c.familyOf a = pure f ∧ c.familyOf b = pure g ∧ c.aliases a b = pure answer ∧
      (answer = true ↔ f = g ∧ c.Overlap a b) ∧
      (a = b → answer = true) ∧ c.aliases b a = pure answer ∧
      (a ≠ b → c.width a = .byte → c.width b = .byte → answer = false) := by
  obtain ⟨h, _⟩ := validate_result_eq_ok_iff_consistent.1 hv
  obtain ⟨f, hf⟩ := h.exists_findFamily ha
  obtain ⟨g, hg⟩ := h.exists_findFamily hb
  have hab := aliases_eq hf hg
  refine ⟨f, g, _, familyOf_of_findFamily hf, familyOf_of_findFamily hg, hab, ?_, ?_,
    (aliases_comm hf hg).trans hab, ?_⟩
  · rw [decide_eq_true_iff]
    exact h.aliases_iff hf hg
  · intro he
    exact decide_eq_true (.inl he)
  · intro hne hwa hwb
    apply decide_eq_false
    intro hor
    rcases hor with he | ⟨hw, _⟩
    · exact hne he
    · exact hw ⟨hwa, hwb⟩

theorem not_aliases_al_ah :
    X86.catalog.validate.result = .ok () ∧ X86.Register.al ∈ X86.catalog.registers ∧
      X86.Register.ah ∈ X86.catalog.registers ∧
      X86.catalog.aliases .al .ah = pure false ∧ ¬ X86.catalog.Overlap .al .ah := by
  have hal : X86.Register.al ∈ X86.catalog.registers := by decide
  have hah : X86.Register.ah ∈ X86.catalog.registers := by decide
  refine ⟨X86.validate_catalog, hal, hah, ?_⟩
  obtain ⟨f, g, answer, hf, hg, hab, hiff, _, _, hbytes⟩ :=
    aliases_iff_overlap X86.validate_catalog hal hah
  have hax : X86.catalog.familyOf .al = pure .ax := rfl
  have hax' : X86.catalog.familyOf .ah = pure .ax := rfl
  cases Traced.pure_injective (hax.symm.trans hf)
  cases Traced.pure_injective (hax'.symm.trans hg)
  have he := hbytes (by decide) rfl rfl
  subst answer
  exact ⟨hab, fun ho => Bool.false_ne_true (hiff.2 ⟨rfl, ho⟩)⟩

end Catalog

end RegisterFamilies
