import Mathlib.Data.List.Induction
import RegisterFamilies.Proofs.Catalog.Siblings

namespace RegisterFamilies.Catalog

variable {ρ φ : Type} {c : Catalog ρ φ} {f : φ} {r s : ρ} {v w : Width} {l l' : List Width}

/-- Where one step of a walk leads within the family. -/
def next (c : Catalog ρ φ) (f : φ) (r : ρ) (w : Width) : ρ := (c.siblingIn? f r w).getD r

theorem next_mem (hr : r ∈ c.members f) : c.next f r w ∈ c.members f := by
  rw [next]
  cases hs : c.siblingIn? f r w with
  | none => exact hr
  | some s => exact (mem_of_siblingIn? hr hs).1

theorem next_of_not_mem_widths (hr : r ∈ c.members f) (hw : w ∉ c.widths f) :
    c.next f r w = r := by
  rw [next, (siblingIn?_eq_none_iff hr).2 hw]
  rfl

theorem next_of_width_eq (hw : c.width r = w) : c.next f r w = r := by
  rw [next, siblingIn?_of_width_eq hw]
  rfl

namespace FamilyConsistent

theorem next_of_isHighByte (h : c.FamilyConsistent f) (hr : r ∈ c.members f)
    (hb : c.isHighByte r = true) : c.next f r .byte = r :=
  next_of_width_eq (h.width_of_isHighByte hr hb)

/-- A step with any effect ends in the low member of its width, unless it stays at a high byte. -/
theorem lowMembers_next (h : c.FamilyConsistent f) (hr : r ∈ c.members f) (hw : w ∈ c.widths f)
    (hn : c.isHighByte r = true → w ≠ .byte) : c.lowMembers f w = [c.next f r w] := by
  by_cases hrw : c.width r = w
  · have hb : c.isHighByte r = false := by
      apply eq_false_of_ne_true
      intro hb
      exact hn hb (hrw.symm.trans (h.width_of_isHighByte hr hb))
    rw [next_of_width_eq hrw]
    exact h.lowMembers_eq (mem_lowMembers.2 ⟨hr, hrw, hb⟩)
  · obtain ⟨m, hm, rfl⟩ := mem_widths.1 hw
    obtain ⟨s, hs⟩ := h.exists_low hm
    rw [next, siblingIn?_of_width_ne hrw, h.memberOfWidth?_eq, hs]
    rfl

end FamilyConsistent

theorem effective_append : c.effective f (l ++ l') = c.effective f l ++ c.effective f l' :=
  List.filter_append l l'

theorem effective_concat_of_mem (hw : w ∈ c.widths f) :
    c.effective f (l ++ [w]) = c.effective f l ++ [w] := by
  rw [effective_append]
  exact congrArg _ (List.filter_cons_of_pos (decide_eq_true hw))

theorem effective_concat_of_not_mem (hw : w ∉ c.widths f) :
    c.effective f (l ++ [w]) = c.effective f l := by
  have hn : c.effective f [w] = [] := List.filter_cons_of_neg (by simpa using hw)
  rw [effective_append, hn, List.append_nil]

/-- No width of the walk leads away from `r`: either none has any effect, or `r` is a high byte and
those that have ask for a byte. -/
def Rests (c : Catalog ρ φ) (f : φ) (r : ρ) (l : List Width) : Prop :=
  c.effective f l = [] ∨ c.isHighByte r = true ∧ ∀ w ∈ c.effective f l, w = .byte

theorem Rests.eq_byte (h : c.Rests f r l) (hw : w ∈ c.effective f l) : w = .byte := by
  rcases h with hnil | ⟨_, hall⟩
  · rw [hnil] at hw
    exact (List.not_mem_nil hw).elim
  · exact hall w hw

theorem rests_concat_iff (hw : w ∈ c.widths f) :
    c.Rests f r (l ++ [w]) ↔ c.Rests f r l ∧ c.isHighByte r = true ∧ w = .byte := by
  rw [Rests, effective_concat_of_mem hw]
  refine ⟨fun h => ?_, fun ⟨hl, hb, he⟩ => .inr ⟨hb, fun v hv => ?_⟩⟩
  · rcases h with hnil | ⟨hb, hall⟩
    · exact (List.append_ne_nil_of_right_ne_nil _ (List.cons_ne_nil _ _) hnil).elim
    · obtain ⟨hl, hlast⟩ := List.forall_mem_append.1 hall
      exact ⟨.inr ⟨hb, hl⟩, hb, hlast w List.mem_cons_self⟩
  · rcases List.mem_append.1 hv with hv | hv
    · exact hl.eq_byte hv
    · exact (List.mem_singleton.1 hv).trans he

/-- Where a walk from `r` over the widths ends: at `r`, if it rests there, and else at the low
member of the last width that had any effect. -/
inductive EndsAt (c : Catalog ρ φ) (f : φ) (r : ρ) (l : List Width) : ρ → Prop where
  | rest (h : c.Rests f r l) : EndsAt c f r l r
  | low {w : Width} {s : ρ} (h : ¬ c.Rests f r l) (hw : (c.effective f l).getLast? = some w)
      (hs : c.lowMembers f w = [s]) : EndsAt c f r l s

namespace EndsAt

theorem eq_of_rests (h : c.EndsAt f r l s) (hl : c.Rests f r l) : s = r := by
  cases h with
  | rest => rfl
  | low hn => exact (hn hl).elim

theorem lowMembers_of_not_rests (h : c.EndsAt f r l s) (hl : ¬ c.Rests f r l) :
    ∃ w, (c.effective f l).getLast? = some w ∧ c.lowMembers f w = [s] := by
  cases h with
  | rest hr => exact (hl hr).elim
  | low _ hw hs => exact ⟨_, hw, hs⟩

theorem rests_of_isHighByte (h : c.EndsAt f r l s) (hb : c.isHighByte s = true) :
    c.Rests f r l := by
  cases h with
  | rest hl => exact hl
  | @low w s _ _ hs =>
    have hmem : s ∈ c.lowMembers f w := by
      rw [hs]
      exact List.mem_cons_self
    obtain ⟨_, _, hlow⟩ := mem_lowMembers.1 hmem
    rw [hb] at hlow
    cases hlow

theorem concat_of_not_mem (h : c.EndsAt f r l s) (hw : w ∉ c.widths f) :
    c.EndsAt f r (l ++ [w]) s := by
  have he := effective_concat_of_not_mem (l := l) hw
  cases h with
  | rest hl =>
    rw [Rests, ← he] at hl
    exact .rest hl
  | low hn hv hs =>
    rw [Rests, ← he] at hn
    rw [← he] at hv
    exact .low hn hv hs

theorem concat_of_mem (h : c.EndsAt f r l s) (hc : c.FamilyConsistent f) (hs : s ∈ c.members f)
    (hw : w ∈ c.widths f) : c.EndsAt f r (l ++ [w]) (c.next f s w) := by
  by_cases hstay : c.isHighByte s = true ∧ w = .byte
  · -- a walk at a high byte has never left its start
    obtain ⟨hb, rfl⟩ := hstay
    have hl := h.rests_of_isHighByte hb
    obtain rfl := h.eq_of_rests hl
    rw [hc.next_of_isHighByte hs hb]
    exact .rest ((rests_concat_iff hw).2 ⟨hl, hb, rfl⟩)
  · have hlow := hc.lowMembers_next hs hw fun hb he => hstay ⟨hb, he⟩
    refine .low (fun hl => ?_) ?_ hlow
    · obtain ⟨hl, hb, he⟩ := (rests_concat_iff hw).1 hl
      rw [h.eq_of_rests hl] at hstay
      exact hstay ⟨hb, he⟩
    · rw [effective_concat_of_mem hw, List.getLast?_concat]

theorem concat (h : c.EndsAt f r l s) (hc : c.FamilyConsistent f) (hs : s ∈ c.members f)
    (w : Width) : c.EndsAt f r (l ++ [w]) (c.next f s w) := by
  by_cases hw : w ∈ c.widths f
  · exact h.concat_of_mem hc hs hw
  · rw [next_of_not_mem_widths hs hw]
    exact h.concat_of_not_mem hw

end EndsAt

variable [DecidableEq ρ]

theorem step_result (hf : c.findFamily r = .ok f) : (c.step r w).result = .ok (c.next f r w) :=
  Traced.bind_result_of_result_eq_ok (sibling?_result hf) _

theorem walk_append (r : ρ) (l l' : List Width) :
    c.walk r (l ++ l') = c.walk r l >>= fun s => c.walk s l' := by
  induction l generalizing r with
  | nil => rw [List.nil_append, walk, pure_bind]
  | cons w l ih =>
    rw [List.cons_append, walk, walk, bind_assoc]
    exact congrArg _ (funext ih)

theorem walk_append_result (h : (c.walk r l).result = .ok s) :
    (c.walk r (l ++ l')).result = (c.walk s l').result := by
  rw [walk_append]
  exact Traced.bind_result_of_result_eq_ok h _

theorem walk_singleton (r : ρ) (w : Width) : c.walk r [w] = c.step r w := bind_pure _

theorem Consistent.exists_endsAt (h : c.Consistent) (hf : c.findFamily r = .ok f)
    (l : List Width) :
    ∃ s, (c.walk r l).result = .ok s ∧ s ∈ c.members f ∧ c.EndsAt f r l s := by
  obtain ⟨hm, hr⟩ := mem_families_of_findFamily hf
  -- on the end of the list, since the start stays the same and the last width decides
  induction l using List.reverseRecOn with
  | nil => exact ⟨r, rfl, hr, .rest (.inl rfl)⟩
  | append_singleton l w ih =>
    obtain ⟨s, hwalk, hs, hend⟩ := ih
    refine ⟨c.next f s w, ?_, next_mem hs, hend.concat (h.families f hm) hs w⟩
    rw [walk_append_result hwalk, walk_singleton]
    exact step_result (h.findFamily_of_mem hf hs)

/-- In an accepted catalog a walk ends where it began if it rests there, and else at the one low
member of the last width that had any effect. -/
theorem walk_ends_at_last_effective (hv : c.validate.result = .ok ()) (hr : r ∈ c.registers)
    (l : List Width) : ∃ f, c.familyOf r = pure f ∧
      (∀ l₁ l₂, l = l₁ ++ l₂ → ∃ s, (c.walk r l₁).result = .ok s ∧
        (c.walk r l).result = (c.walk s l₂).result ∧
        s ∈ c.members f ∧ c.familyOf s = pure f ∧
        (c.isHighByte s = true → s = r ∧ ∀ w ∈ c.effective f l₁, w = .byte)) ∧
      ∃ s, (c.walk r l).result = .ok s ∧ (c.Rests f r l → s = r) ∧
        (¬ c.Rests f r l →
          ∃ w, (c.effective f l).getLast? = some w ∧ c.lowMembers f w = [s]) := by
  obtain ⟨h, _⟩ := validate_result_eq_ok_iff_consistent.1 hv
  obtain ⟨f, hf⟩ := h.exists_findFamily hr
  refine ⟨f, familyOf_of_findFamily hf, ?_, ?_⟩
  · rintro l₁ l₂ rfl
    obtain ⟨s, hwalk, hs, hend⟩ := h.exists_endsAt hf l₁
    refine ⟨s, hwalk, walk_append_result hwalk, hs,
      familyOf_of_findFamily (h.findFamily_of_mem hf hs), fun hb => ?_⟩
    have hl := hend.rests_of_isHighByte hb
    exact ⟨hend.eq_of_rests hl, fun w hw => hl.eq_byte hw⟩
  · obtain ⟨s, hwalk, _, hend⟩ := h.exists_endsAt hf l
    exact ⟨s, hwalk, hend.eq_of_rests, hend.lowMembers_of_not_rests⟩

theorem walk_ah_quad_byte :
    X86.catalog.validate.result = .ok () ∧ X86.Register.ah ∈ X86.catalog.registers ∧
      (X86.catalog.walk .ah [.byte, .byte]).result = .ok .ah ∧
      (X86.catalog.walk .ah [.byte, .quad, .byte]).result = .ok .al := by
  have hr : X86.Register.ah ∈ X86.catalog.registers := by decide
  have hax : X86.catalog.familyOf .ah = pure .ax := rfl
  refine ⟨X86.validate_catalog, hr, ?_, ?_⟩
  · obtain ⟨f, hf, _, s, hwalk, hrest, _⟩ :=
      walk_ends_at_last_effective X86.validate_catalog hr [.byte, .byte]
    cases Traced.pure_injective (hax.symm.trans hf)
    rw [hwalk, hrest (.inr ⟨rfl, by decide⟩)]
  · obtain ⟨f, hf, _, s, hwalk, _, hlow⟩ :=
      walk_ends_at_last_effective X86.validate_catalog hr [.byte, .quad, .byte]
    cases Traced.pure_injective (hax.symm.trans hf)
    have hn : ¬ X86.catalog.Rests .ax .ah [.byte, .quad, .byte] := by
      rintro (hnil | ⟨_, hall⟩)
      · cases hnil
      · exact absurd (hall .quad (by decide)) (by decide)
    obtain ⟨w, hw, hs⟩ := hlow hn
    have hlast : (X86.catalog.effective .ax [.byte, .quad, .byte]).getLast? = some .byte := by
      decide
    rw [hlast] at hw
    cases hw
    have hal : X86.catalog.lowMembers .ax .byte = [.al] := by decide
    rw [hal] at hs
    cases hs
    exact hwalk

end RegisterFamilies.Catalog
