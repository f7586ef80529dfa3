import Mathlib.Data.Nat.Basic
import Mathlib.Order.Basic
import RegisterFamilies.Width

namespace RegisterFamilies.Width

variable {v w : Width}

instance : LinearOrder Width := LinearOrder.lift' bits fun _ _ => bits_injective

theorem byte_le (w : Width) : .byte ≤ w := by
  cases w <;> decide

theorem byte_lt_iff : .byte < w ↔ w ≠ .byte := by
  cases w <;> decide

theorem word_le_iff : .word ≤ w ↔ .byte < w := by
  cases w <;> decide

theorem bits_pos (w : Width) : 0 < w.bits := by
  cases w <;> decide

/-- All widths are listed in order, so a search passes over the smaller ones first. -/
theorem eq_false_of_find?_all {p : Width → Bool} (h : all.find? p = some w) (hv : v < w) :
    p v = false := by
  obtain ⟨_, before, after, hall, hbefore⟩ := List.find?_eq_some_iff_append.1 h
  have hmem := v.mem_all
  have hsort := pairwise_lt_all
  rw [hall] at hmem hsort
  rcases List.mem_append.1 hmem with hmem | hmem
  · have hp := hbefore v hmem
    rwa [Bool.not_eq_true'] at hp
  · obtain ⟨_, hsort, _⟩ := List.pairwise_append.1 hsort
    rcases List.mem_cons.1 hmem with rfl | hmem
    · exact (lt_irrefl _ hv).elim
    · exact (lt_asymm hv (List.rel_of_pairwise_cons hsort hmem)).elim

theorem find?_all_eq_some_iff {p : Width → Bool} :
    all.find? p = some w ↔ p w = true ∧ ∀ v < w, p v = false := by
  refine ⟨fun h => ⟨List.find?_some h, fun v => eq_false_of_find?_all h⟩, fun ⟨hw, hlt⟩ => ?_⟩
  cases h : all.find? p with
  | none => exact (List.find?_eq_none.1 h w w.mem_all hw).elim
  | some u =>
    have hu := List.find?_some h
    rcases lt_trichotomy u w with huw | rfl | hwu
    · rw [hlt u huw] at hu
      cases hu
    · rfl
    · rw [eq_false_of_find?_all h hwu] at hw
      cases hw

end RegisterFamilies.Width
