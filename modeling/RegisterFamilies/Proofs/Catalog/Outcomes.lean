import RegisterFamilies.Proofs.Catalog.Ownership

namespace RegisterFamilies

namespace Catalog

variable {ρ φ : Type} {c : Catalog ρ φ} {f : φ} {a b r s : ρ} {w : Width}

/-- The end of a query that asks for the family of `r` where there is none. -/
def defectAt (c : Catalog ρ φ) (r : ρ) {α : Type} : Traced Defect α :=
  ⟨[.malformedCatalog (c.display r)], .error ⟨.noFamily (c.name r)⟩⟩

/-- How a request for a sibling ends for a register of the family `f`, as a question and as a
demand. Only absence is recorded. -/
inductive SiblingOutcome (c : Catalog ρ φ) (f : φ) (r : ρ) (w : Width) :
    Traced Defect (Option ρ) → Traced Defect (Except RegisterError ρ) → Prop where
  | found (s : ρ) : SiblingOutcome c f r w (pure (some s)) (pure (.ok s))
  | absent : SiblingOutcome c f r w
      ⟨[.noSibling (c.display r) (c.familyName f) w], .ok none⟩
      ⟨[.noSibling (c.display r) (c.familyName f) w], .ok (.error (.noSibling (c.name r) w))⟩

theorem not_succeeds_defectAt {α : Type} : ¬ (c.defectAt r : Traced Defect α).Succeeds :=
  Traced.not_succeeds_of_result_eq_error rfl

/-- A query that succeeds for all registers with a family, and halts at the others, halts at no
more than these. -/
theorem eq_defectAt_iff {α : Type} {x : Traced Defect α} (hs : x.Succeeds ↔ ¬ c.Ownerless r)
    (ho : c.Ownerless r → x = c.defectAt r) : x = c.defectAt r ↔ c.Ownerless r := by
  refine ⟨fun hx => ?_, ho⟩
  apply Classical.byContradiction
  intro hn
  have hx' := hs.2 hn
  rw [hx] at hx'
  exact not_succeeds_defectAt hx'

variable [DecidableEq ρ]

theorem sibling_of_sibling?_eq_some {events : List Event}
    (h : c.sibling? r w = ⟨events, .ok (some s)⟩) : c.sibling r w = ⟨events, .ok (.ok s)⟩ := by
  rw [sibling, h, Traced.bind_of_result_eq_ok rfl, Traced.events_pure, List.append_nil,
    Traced.result_pure]

theorem sibling_of_sibling?_eq_none {events : List Event}
    (h : c.sibling? r w = ⟨events, .ok none⟩) :
    c.sibling r w = ⟨events, .ok (.error (.noSibling (c.name r) w))⟩ := by
  rw [sibling, h, Traced.bind_of_result_eq_ok rfl, Traced.events_pure, List.append_nil,
    Traced.result_pure]

theorem siblingOutcome (hf : c.findFamily r = .ok f) (w : Width) :
    c.SiblingOutcome f r w (c.sibling? r w) (c.sibling r w) := by
  have h := sibling?_eq (w := w) hf
  cases ha : c.siblingIn? f r w with
  | some s =>
    rw [ha] at h
    rw [h, sibling_of_sibling?_eq_some h]
    exact .found s
  | none =>
    rw [ha] at h
    rw [h, sibling_of_sibling?_eq_none h]
    exact .absent

namespace Ownerless

theorem familyOf_eq_defectAt (h : c.Ownerless r) : c.familyOf r = c.defectAt r := h.familyOf

theorem sibling?_eq_defectAt (h : c.Ownerless r) : c.sibling? r w = c.defectAt r := h.sibling?

theorem sibling_eq_defectAt (h : c.Ownerless r) : c.sibling r w = c.defectAt r := by
  rw [sibling, h.sibling?_eq_defectAt]
  rfl

variable [DecidableEq φ]

theorem aliases_left (h : c.Ownerless a) : c.aliases a b = c.defectAt a := by
  rw [aliases, h.familyOf_eq_defectAt]
  rfl

theorem aliases_right (h : c.Ownerless b) (ha : c.findFamily a = .ok f) :
    c.aliases a b = c.defectAt b := by
  rw [aliases, familyOf_of_findFamily ha, pure_bind, h.familyOf_eq_defectAt]
  rfl

end Ownerless

/-- In any catalog, well formed or not, a query halts exactly if it is about a register without a
family, and the first such register is told. -/
theorem eq_defectAt_iff_ownerless [DecidableEq φ] (c : Catalog ρ φ) :
    (∀ r, (c.findFamily r = .error (.noFamily (c.name r)) ↔ c.Ownerless r) ∧
      (c.familyOf r = c.defectAt r ↔ c.Ownerless r) ∧
      (∀ w, c.sibling? r w = c.defectAt r ↔ c.Ownerless r) ∧
      ∀ w, c.sibling r w = c.defectAt r ↔ c.Ownerless r) ∧
    (∀ r, ¬ c.Ownerless r → ∃ f, c.findFamily r = .ok f ∧ c.familyOf r = pure f ∧
      ∀ w, c.SiblingOutcome f r w (c.sibling? r w) (c.sibling r w)) ∧
    (∀ a b, ((c.aliases a b).Succeeds ↔ ¬ c.Ownerless a ∧ ¬ c.Ownerless b) ∧
      (c.Ownerless a → c.aliases a b = c.defectAt a) ∧
      (¬ c.Ownerless a → c.Ownerless b → c.aliases a b = c.defectAt b) ∧
      (¬ c.Ownerless a → ¬ c.Ownerless b →
        ∃ answer, c.aliases a b = pure answer ∧ c.aliases b a = pure answer)) ∧
    (∀ name, (Event.malformedCatalog name).level = .error ∧
      (Event.malformedCatalog name).message = "register catalog is malformed" ∧
      (Event.malformedCatalog name).fields = [("register", .text name)] ∧
      (Defect.mk (.noFamily name)).message = (RegisterError.noFamily name).message) ∧
    ∀ name family w, (Event.noSibling name family w).level = .trace ∧
      (Event.noSibling name family w).message = "no sibling at width" ∧
      (Event.noSibling name family w).fields =
        [("register", .text name), ("family", .text family), ("width", .text (toString w))] := by
  refine ⟨fun r => ⟨findFamily_eq_noFamily_iff, ?_, fun w => ?_, fun w => ?_⟩, ?_, ?_,
    fun name => ⟨rfl, rfl, rfl, rfl⟩, fun name family w => ⟨rfl, rfl, rfl⟩⟩
  · exact eq_defectAt_iff familyOf_succeeds_iff Ownerless.familyOf_eq_defectAt
  · exact eq_defectAt_iff sibling?_succeeds_iff Ownerless.sibling?_eq_defectAt
  · exact eq_defectAt_iff sibling_succeeds_iff Ownerless.sibling_eq_defectAt
  · intro r hr
    obtain ⟨f, hf⟩ := exists_findFamily_iff.2 hr
    exact ⟨f, hf, familyOf_of_findFamily hf, siblingOutcome hf⟩
  · intro a b
    refine ⟨aliases_succeeds_iff, Ownerless.aliases_left, ?_, ?_⟩
    · intro ha hb
      obtain ⟨f, hf⟩ := exists_findFamily_iff.2 ha
      exact hb.aliases_right hf
    · intro ha hb
      obtain ⟨f, hf⟩ := exists_findFamily_iff.2 ha
      obtain ⟨g, hg⟩ := exists_findFamily_iff.2 hb
      have hab := aliases_eq hf hg
      exact ⟨_, hab, (aliases_comm hf hg).trans hab⟩

end Catalog

namespace X86

def orphanedCatalog : Catalog Register Family := { catalog with families := [.bx] }

theorem defectAt_orphanedCatalog :
    orphanedCatalog.validate.result = .error (.orphan "al") ∧
      orphanedCatalog.Ownerless .al ∧ orphanedCatalog.Ownerless .cl ∧
      ¬ orphanedCatalog.Ownerless .bh ∧
      orphanedCatalog.sibling? .al .byte = orphanedCatalog.defectAt .al ∧
      orphanedCatalog.aliases .cl .al = orphanedCatalog.defectAt .cl ∧
      orphanedCatalog.aliases .bh .al = orphanedCatalog.defectAt .al ∧
      ∃ f, orphanedCatalog.SiblingOutcome f .bh .quad (orphanedCatalog.sibling? .bh .quad)
        (orphanedCatalog.sibling .bh .quad) := by
  have hal : orphanedCatalog.Ownerless .al := by
    intro f hf
    rw [List.mem_singleton.1 hf]
    decide
  have hcl : orphanedCatalog.Ownerless .cl := by
    intro f hf
    rw [List.mem_singleton.1 hf]
    decide
  have hbh : ¬ orphanedCatalog.Ownerless .bh := by
    intro h
    exact h .bx (by decide) (by decide)
  obtain ⟨hone, howned, htwo, _⟩ := Catalog.eq_defectAt_iff_ownerless orphanedCatalog
  obtain ⟨_, _, hsibling, _⟩ := hone .al
  obtain ⟨_, hleft, _⟩ := htwo .cl .al
  obtain ⟨_, _, hright, _⟩ := htwo .bh .al
  obtain ⟨f, _, _, houtcome⟩ := howned .bh hbh
  exact ⟨rfl, hal, hcl, hbh, (hsibling .byte).2 hal, hleft hcl, hright hbh hal, f, houtcome .quad⟩

end X86

end RegisterFamilies
