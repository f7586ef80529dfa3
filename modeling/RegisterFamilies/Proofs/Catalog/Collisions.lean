import RegisterFamilies.Catalog.Table
import RegisterFamilies.Proofs.Catalog.FirstDefect

namespace RegisterFamilies.Catalog

variable {ρ φ : Type} {c : Catalog ρ φ} {f : φ} {w : Width} {name : String}

/-- Several members share the width, and they are not just the two halves of a word. -/
def Collides (c : Catalog ρ φ) (f : φ) (w : Width) : Prop :=
  2 ≤ ((c.members f).filter fun r => c.width r = w).length ∧
    ¬ (w = .byte ∧ (c.lowMembers f w).length = 1 ∧ (c.highMembers f w).length = 1)

/-- The only member of the width is marked as an upper half. -/
def LoneHigh (c : Catalog ρ φ) (f : φ) (w : Width) : Prop :=
  ∃ r, ((c.members f).filter fun r => c.width r = w) = [r] ∧ c.isHighByte r = true

theorem length_filter_width (c : Catalog ρ φ) (f : φ) (w : Width) :
    ((c.members f).filter fun r => c.width r = w).length =
      (c.lowMembers f w).length + (c.highMembers f w).length := by
  rw [← filter_low_membersOfWidth, ← filter_high_membersOfWidth, Nat.add_comm]
  exact List.length_eq_length_filter_add c.isHighByte

theorem LoneHigh.length_lowMembers (h : c.LoneHigh f w) : (c.lowMembers f w).length = 0 := by
  obtain ⟨r, hr, hh⟩ := h
  rw [← filter_low_membersOfWidth, membersOfWidth, hr]
  simp only [List.filter_singleton, hh, Bool.not_true, List.length_nil, cond_false]

theorem LoneHigh.length_highMembers (h : c.LoneHigh f w) : (c.highMembers f w).length = 1 := by
  have hlen := c.length_filter_width f w
  have hlow := h.length_lowMembers
  obtain ⟨r, hr, _⟩ := h
  rw [hr, List.length_singleton] at hlen
  omega

theorem loneHigh_of_length (hl : (c.lowMembers f w).length = 0)
    (hh : (c.highMembers f w).length = 1) : c.LoneHigh f w := by
  have hlen := c.length_filter_width f w
  rw [hl, hh] at hlen
  obtain ⟨r, hr⟩ := List.length_eq_one_iff.1 hlen
  obtain ⟨s, hs⟩ := List.length_eq_one_iff.1 hh
  obtain ⟨hsm, hsw, hsh⟩ := mem_highMembers.1 (hs ▸ List.mem_singleton_self s)
  have hsr : s ∈ c.membersOfWidth f w := mem_membersOfWidth.2 ⟨hsm, hsw⟩
  rw [membersOfWidth, hr, List.mem_singleton] at hsr
  exact ⟨r, hr, hsr ▸ hsh⟩

theorem loneHigh_iff :
    c.LoneHigh f w ↔ (c.lowMembers f w).length = 0 ∧ (c.highMembers f w).length = 1 :=
  ⟨fun h => ⟨h.length_lowMembers, h.length_highMembers⟩, fun h => loneHigh_of_length h.1 h.2⟩

theorem not_admits_iff : ¬ c.Admits f w ↔ c.Collides f w ∨ c.LoneHigh f w := by
  rw [Admits, Collides, loneHigh_iff, length_filter_width]
  by_cases hw : w = .byte
  · simp only [hw, Prod.mk.injEq, true_and]
    omega
  · simp only [hw, Prod.mk.injEq, false_and, or_false, not_false_eq_true, and_true]
    omega

theorem Collides.not_loneHigh (h : c.Collides f w) : ¬ c.LoneHigh f w := by
  rintro ⟨r, hr, _⟩
  have hlen := h.1
  rw [hr, List.length_singleton] at hlen
  omega

theorem collides_iff : c.Collides f w ↔ ¬ c.Admits f w ∧ ¬ c.LoneHigh f w := by
  rw [not_admits_iff]
  constructor
  · intro h
    exact ⟨.inl h, h.not_loneHigh⟩
  · rintro ⟨h, hl⟩
    exact h.resolve_right hl

theorem Admits.not_collides (h : c.Admits f w) : ¬ c.Collides f w := fun hc =>
  (collides_iff.1 hc).1 h

variable [DecidableEq ρ]

theorem admits_of_forall_not_familyDefect (h : ∀ e, ¬ c.FamilyDefect f e) (w : Width) :
    c.Admits f w := by
  obtain ⟨_, _, _, hw⟩ := familyDefect?_eq_none_iff.1 (familyDefect?_eq_none_iff_forall.2 h)
  exact widthFits_iff_admits.1 (hw w)

/-- A collision is told of the family after those on record, and of the smallest width at which that
family is at fault. -/
theorem exists_family_of_widthCollision
    (h : c.validate.result = .error (.widthCollision name w)) :
    ∃ passed f rest, c.families = passed ++ f :: rest ∧
      c.validate.events = passed.map c.validated ∧ c.familyName f = name ∧
      (∀ g ∈ passed, ∀ v, c.Admits g v) ∧ (∀ v < w, c.Admits f v) ∧ ¬ c.Admits f w := by
  obtain ⟨passed, x, hv⟩ := exists_verdict c
  rw [hv.validate_eq] at h ⊢
  cases h
  cases hv with
  | defective _ _ hf hp he =>
    cases he with
    | widthCollision _ _ hlt hw =>
      have hadmits (g : φ) (hg : g ∈ passed) := admits_of_forall_not_familyDefect (hp g hg)
      exact ⟨passed, _, _, hf, rfl, rfl, hadmits, hlt, hw⟩

/-- A reported collision is true of the family after those on record, unless that family has a high
byte alone. Then it is true of a later family of the same name, or of none. -/
theorem exists_collides_iff_of_widthCollision
    (h : c.validate.result = .error (.widthCollision name w)) :
    ∃ passed f rest, c.families = passed ++ f :: rest ∧
      c.validate.events = passed.map c.validated ∧ c.familyName f = name ∧
      (∀ v < w, c.Admits f v) ∧ ¬ c.Admits f w ∧ (c.Collides f w ↔ ¬ c.LoneHigh f w) ∧
      ((∃ g ∈ c.families, c.familyName g = name ∧ c.Collides g w) ↔
        (c.LoneHigh f w → ∃ g ∈ rest, c.familyName g = name ∧ c.Collides g w)) := by
  obtain ⟨passed, f, rest, hf, he, hname, hp, hlt, hw⟩ := exists_family_of_widthCollision h
  have hiff : c.Collides f w ↔ ¬ c.LoneHigh f w := by
    rw [collides_iff, and_iff_right hw]
  refine ⟨passed, f, rest, hf, he, hname, hlt, hw, hiff, ?_⟩
  rw [hf]
  constructor
  · rintro ⟨g, hg, hgn, hgc⟩ hl
    rcases List.mem_append.1 hg with hg | hg
    · exact ((hp g hg w).not_collides hgc).elim
    · rcases List.mem_cons.1 hg with rfl | hg
      · exact (hgc.not_loneHigh hl).elim
      · exact ⟨g, hg, hgn, hgc⟩
  · intro hrest
    by_cases hl : c.LoneHigh f w
    · obtain ⟨g, hg, hgc⟩ := hrest hl
      exact ⟨g, List.mem_append_right passed (List.mem_cons_of_mem f hg), hgc⟩
    · exact ⟨f, List.mem_append_right passed List.mem_cons_self, hname, hiff.2 hl⟩

def crowdedWord : Catalog (Fin 3) (Fin 1) :=
  .ofTables #v[{ name := "al", width := .byte }, { name := "ax", width := .word },
    { name := "ax2", width := .word }] #v[{ name := "ax", members := [0, 1, 2] }] [0, 1, 2] [0]

theorem collides_crowdedWord :
    crowdedWord.validate.result = .error (.widthCollision "ax" .word) ∧
      ¬ crowdedWord.LoneHigh 0 .word ∧ crowdedWord.Collides 0 .word := by
  have hv : crowdedWord.validate.result = .error (.widthCollision "ax" .word) := rfl
  have hl : ¬ crowdedWord.LoneHigh 0 .word := by
    intro h
    cases h.length_lowMembers
  obtain ⟨passed, f, rest, hf, _, _, _, _, hiff, _⟩ := exists_collides_iff_of_widthCollision hv
  have hmem : f ∈ crowdedWord.families := by
    rw [hf]
    exact List.mem_append_right passed List.mem_cons_self
  cases List.mem_singleton.1 hmem
  exact ⟨hv, hl, hiff.2 hl⟩

/-- An accumulator whose low byte is not listed, only the high one. -/
def headlessWord : Catalog (Fin 2) (Fin 1) :=
  .ofTables #v[{ name := "ah", width := .byte, isHighByte := true },
    { name := "ax", width := .word }] #v[{ name := "ax", members := [0, 1] }] [0, 1] [0]

/-- Names, owners and the order of members are right, and no two members share a width. -/
theorem not_collides_headlessWord :
    headlessWord.validate.result = .error (.widthCollision "ax" .byte) ∧
      (headlessWord.registers.map headlessWord.name).Nodup ∧
      headlessWord.slots = headlessWord.registers ∧ headlessWord.Ordered 0 ∧
      ((headlessWord.members 0).map headlessWord.width).Nodup ∧
      ¬ ∃ f ∈ headlessWord.families, headlessWord.familyName f = "ax" ∧
        headlessWord.Collides f .byte := by
  refine ⟨rfl, by decide, rfl, ?_, by decide, ?_⟩
  · rw [Ordered]
    decide
  · rintro ⟨f, hf, _, hc⟩
    cases List.mem_singleton.1 hf
    exact hc.not_loneHigh ⟨0, rfl, rfl⟩

end RegisterFamilies.Catalog
