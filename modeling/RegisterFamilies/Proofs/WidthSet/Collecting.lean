import Mathlib.Data.List.Dedup
import Mathlib.Data.List.Sort
import RegisterFamilies.Catalog.Lemmas
import RegisterFamilies.Catalog.Table
import RegisterFamilies.X86.Basic

namespace RegisterFamilies

namespace WidthSet

variable {w : Width} {l : List Width}

theorem pairwise_lt_mergeSort_dedup (l : List Width) :
    (l.dedup.mergeSort fun v w => v ≤ w).Pairwise (· < ·) := by
  have hne : (l.dedup.mergeSort fun v w => v ≤ w).Nodup :=
    (List.mergeSort_perm _ _).nodup_iff.2 l.nodup_dedup
  exact (List.pairwise_mergeSort' (· ≤ ·) l.dedup).imp₂ (fun _ _ => lt_of_le_of_ne) hne

theorem widths_ofList (l : List Width) :
    (ofList l).widths = l.dedup.mergeSort fun v w => v ≤ w := by
  apply (pairwise_lt_widths (ofList l)).eq_of_mem_iff (pairwise_lt_mergeSort_dedup l)
  intro w
  rw [mem_widths, mem_ofList, List.mem_mergeSort, List.mem_dedup]

/-- What is collected from a list holds its widths and nothing unnamed. Listed again, it is the list
sorted and without repetitions. -/
theorem widths_ofList_eq_sorted (l : List Width) :
    (∀ w, w ∈ ofList l ↔ w ∈ l) ∧ (ofList l).unnamed = ∅ ∧
    (ofList l).widths = (l.dedup.mergeSort fun v w => v ≤ w) ∧
    (ofList l).widths.Pairwise (· < ·) ∧
    (∀ l', ofList (l ++ l') = ofList l ∪ ofList l') ∧
    (∀ l' : List Width, l'.Perm l → ofList l' = ofList l) ∧
    (∀ s : WidthSet, ofList s.widths = s.named) ∧
    ∀ (ρ φ : Type) (c : Catalog ρ φ) (f : φ),
      (∀ w, w ∈ c.widths f ↔ ∃ r ∈ c.members f, c.width r = w) ∧
      ∀ d : Catalog ρ φ, d.width = c.width → (d.members f).Perm (c.members f) →
        d.widths f = c.widths f := by
  refine ⟨fun _ => mem_ofList, unnamed_eq_empty_iff.2 (named_ofList l), widths_ofList l,
    pairwise_lt_widths (ofList l), ofList_append l, fun l' h => ?_, ofList_widths,
    fun ρ φ c f => ⟨fun _ => Catalog.mem_widths, fun d => Catalog.widths_eq_of_perm⟩⟩
  exact ofList_eq_iff.2 fun _ => h.mem_iff

theorem widths_ofList_quad_byte_quad :
    ofList [.quad, .quad, .byte] = ofList [.quad, .byte, .quad] ∧
      ([.quad, .byte, .quad].dedup.mergeSort fun v w : Width => v ≤ w) = [.byte, .quad] ∧
      X86.catalog.reversed.widths .ax = X86.catalog.widths .ax := by
  have hw : (ofList [.quad, .byte, .quad]).widths = [.byte, .quad] := by decide
  obtain ⟨_, _, hsort, _, _, hperm, _, hcatalog⟩ := widths_ofList_eq_sorted [.quad, .byte, .quad]
  obtain ⟨_, hreversed⟩ := hcatalog X86.Register X86.Family X86.catalog .ax
  exact ⟨hperm _ (by decide), hsort.symm.trans hw, hreversed _ rfl (List.reverse_perm _)⟩

end WidthSet

end RegisterFamilies
