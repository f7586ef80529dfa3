import Mathlib.Data.Set.Basic
import RegisterFamilies.WidthSet.Change
import RegisterFamilies.WidthSet.Lemmas

namespace RegisterFamilies.WidthSet

variable {s t : WidthSet} {l : List Change} {ch : Change}

/-- The widths in a packed set, whatever unnamed bits come with them. -/
def denote (s : WidthSet) : Set Width := {w | w ∈ s}

namespace Change

def effect (A : Set Width) : Change → Set Width
  | add t => A ∪ t.denote
  | remove t => A \ t.denote
  | toggle t => A \ t.denote ∪ t.denote \ A
  | restrict t => A ∩ t.denote
  | assign t present => if present then A ∪ t.denote else A \ t.denote
  | complement => Aᶜ
  | fill => Set.univ
  | clear => ∅
  | only l => {w | w ∈ l}
  | extend l => A ∪ {w | w ∈ l}
  | truncate t => t.denote
  | retain t => t.denote

/-- No unnamed bits are left by the change, whatever there were before. -/
def Clears : Change → Prop
  | complement | fill | clear | only _ | truncate _ => True
  | add _ | remove _ | toggle _ | restrict _ | assign _ _ | extend _ | retain _ => False

/-- The change comes with no unnamed bits that it could bring in. -/
def Plain : Change → Prop
  | add t | toggle t | assign t _ | retain t => t.unnamed = ∅
  | remove _ | restrict _ | complement | fill | clear | only _ | extend _ | truncate _ => True

end Change

theorem denote_eq_iff : s.denote = t.denote ↔ s.named = t.named := by
  refine ⟨fun h => named_ext fun w => Set.ext_iff.1 h w, fun h => ?_⟩
  ext w
  change w ∈ s ↔ w ∈ t
  rw [← mem_named, h, mem_named]

theorem eq_of_denote_eq (hs : s.unnamed = ∅) (ht : t.unnamed = ∅) (h : s.denote = t.denote) :
    s = t := by
  rw [← unnamed_eq_empty_iff.1 hs, ← unnamed_eq_empty_iff.1 ht]
  exact denote_eq_iff.1 h

theorem widths_eq_of_denote_eq (h : s.denote = t.denote) : s.widths = t.widths := by
  apply List.filter_congr
  intro w _
  exact decide_eq_decide.2 (Set.ext_iff.1 h w)

theorem isFull_iff_denote : s.isFull = true ↔ s.denote = Set.univ := by
  rw [isFull_iff, Set.eq_univ_iff_forall]
  exact Iff.rfl

theorem denote_symmDiff : (s.symmDiff t).denote = s.denote \ t.denote ∪ t.denote \ s.denote := by
  ext w
  change w ∈ s.symmDiff t ↔ w ∈ s ∧ w ∉ t ∨ w ∈ t ∧ w ∉ s
  rw [mem_symmDiff]
  by_cases ht : w ∈ t
  · simp only [ht, not_true_eq_false, iff_false, and_false, true_and, false_or]
  · simp only [ht, not_false_eq_true, iff_true, and_true, false_and, or_false]

theorem denote_apply (s : WidthSet) (ch : Change) : (ch.apply s).denote = ch.effect s.denote := by
  cases ch with
  | add t => exact Set.ext fun _ => mem_union
  | remove t => exact Set.ext fun _ => mem_sdiff
  | toggle t => exact denote_symmDiff
  | restrict t => exact Set.ext fun _ => mem_inter
  | assign t present =>
    cases present with
    | true => exact Set.ext fun _ => mem_union
    | false => exact Set.ext fun _ => mem_sdiff
  | complement => exact Set.ext fun _ => mem_compl
  | fill => exact Set.eq_univ_of_forall fun _ => mem_full
  | clear => exact Set.eq_empty_of_forall_notMem fun _ => not_mem_empty
  | only l => exact Set.ext fun _ => mem_ofList
  | extend l => exact Set.ext fun _ => mem_union.trans (or_congr_right mem_ofList)
  | truncate t => exact Set.ext fun _ => mem_named
  | retain t => rfl

theorem denote_run (s : WidthSet) (l : List Change) :
    (run s l).denote = l.foldl Change.effect s.denote := by
  induction l generalizing s with
  | nil => rfl
  | cons ch l ih =>
    rw [List.foldl_cons, ← denote_apply]
    exact ih (ch.apply s)

theorem run_append (s : WidthSet) (l l' : List Change) : run s (l ++ l') = run (run s l) l' :=
  List.foldl_append

theorem unnamed_apply_of_clears (h : ch.Clears) : (ch.apply s).unnamed = ∅ := by
  cases ch with
  | complement => exact unnamed_named _
  | fill => exact unnamed_eq_empty_iff.2 (named_ofList Width.all)
  | clear => exact unnamed_eq_empty_iff.2 (named_ofList [])
  | only l => exact unnamed_eq_empty_iff.2 (named_ofList l)
  | truncate t => exact unnamed_named t
  | add => cases h
  | remove => cases h
  | toggle => cases h
  | restrict => cases h
  | assign => cases h
  | extend => cases h
  | retain => cases h

theorem unnamed_union (hs : s.unnamed = ∅) (ht : t.unnamed = ∅) : (s ∪ t).unnamed = ∅ := by
  rw [unnamed_eq_empty_iff] at hs ht ⊢
  rw [named_union, hs, ht]

theorem unnamed_sdiff (hs : s.unnamed = ∅) : (s \ t).unnamed = ∅ := by
  rw [unnamed_eq_empty_iff] at hs ⊢
  rw [named_sdiff, hs]

theorem unnamed_inter (hs : s.unnamed = ∅) : (s ∩ t).unnamed = ∅ := by
  rw [unnamed_eq_empty_iff] at hs ⊢
  rw [named_inter, hs]

theorem unnamed_symmDiff (hs : s.unnamed = ∅) (ht : t.unnamed = ∅) :
    (s.symmDiff t).unnamed = ∅ := by
  rw [unnamed_eq_empty_iff] at hs ht ⊢
  rw [named_symmDiff, hs, ht]

theorem unnamed_apply_of_plain (hs : s.unnamed = ∅) (h : ch.Plain) :
    (ch.apply s).unnamed = ∅ := by
  cases ch with
  | add t => exact unnamed_union hs h
  | remove t => exact unnamed_sdiff hs
  | toggle t => exact unnamed_symmDiff hs h
  | restrict t => exact unnamed_inter hs
  | assign t present =>
    cases present with
    | true => exact unnamed_union hs h
    | false => exact unnamed_sdiff hs
  | extend l => exact unnamed_union hs (unnamed_eq_empty_iff.2 (named_ofList l))
  | retain t => exact h
  | complement => exact unnamed_apply_of_clears trivial
  | fill => exact unnamed_apply_of_clears trivial
  | clear => exact unnamed_apply_of_clears trivial
  | only l => exact unnamed_apply_of_clears trivial
  | truncate t => exact unnamed_apply_of_clears trivial

theorem unnamed_run_of_plain (hs : s.unnamed = ∅) (h : ∀ ch ∈ l, ch.Plain) :
    (run s l).unnamed = ∅ := by
  induction l generalizing s with
  | nil => exact hs
  | cons ch l ih =>
    obtain ⟨hch, hl⟩ := List.forall_mem_cons.1 h
    exact ih (unnamed_apply_of_plain hs hch) hl

theorem denote_run_eq (h : s.named = t.named) (l : List Change) :
    (run s l).denote = (run t l).denote := by
  rw [denote_run, denote_run, denote_eq_iff.2 h]

/-- From a change that clears the unnamed bits on, the two runs go through the same sets. -/
theorem run_eq_of_clears (h : s.named = t.named) (hc : ∃ ch ∈ l, ch.Clears) :
    run s l = run t l := by
  obtain ⟨ch, hmem, hc⟩ := hc
  obtain ⟨before, after, rfl⟩ := List.append_of_mem hmem
  have happly : ch.apply (run s before) = ch.apply (run t before) := by
    apply eq_of_denote_eq (unnamed_apply_of_clears hc) (unnamed_apply_of_clears hc)
    rw [denote_apply, denote_apply, denote_run_eq h]
  rw [run_append, run_append]
  exact congrArg (run · after) happly

/-- After any changes a packed set stands for the widths that these changes make of those it began
with, whatever unnamed bits come with them. -/
theorem run_simulates_effects (s : WidthSet) (l : List Change) :
    (run s l).denote = l.foldl Change.effect s.denote ∧
    (∀ w, w ∈ (run s l).widths ↔ w ∈ (run s l).denote) ∧
    (run s l).widths.Pairwise (· < ·) ∧
    ((run s l).isFull = true ↔ (run s l).denote = Set.univ) ∧
    (∀ ch : Change, ch.Clears → (run s (l ++ [ch])).unnamed = ∅) ∧
    (∀ w, (Change.only [w]).apply (run s l) = ofWidth w) ∧
    (s.unnamed = ∅ → (∀ ch ∈ l, ch.Plain) → (run s l).unnamed = ∅) ∧
    ∀ t : WidthSet, s.named = t.named →
      (run s l).denote = (run t l).denote ∧ (run s l).widths = (run t l).widths ∧
      (run s l).isFull = (run t l).isFull ∧
      ((∃ ch ∈ l, ch.Clears) → run s l = run t l) := by
  refine ⟨denote_run s l, fun w => mem_widths, pairwise_lt_widths _, isFull_iff_denote,
    fun ch hc => ?_, fun w => ofList_singleton w, unnamed_run_of_plain, fun t h => ?_⟩
  · rw [run_append]
    exact unnamed_apply_of_clears hc
  · have hd := denote_run_eq h l
    refine ⟨hd, widths_eq_of_denote_eq hd, Bool.eq_iff_iff.2 ?_, run_eq_of_clears h⟩
    rw [isFull_iff_denote, isFull_iff_denote, hd]

/-- Toggling keeps the bits apart in which the two starts differ, and only the complement drops
them. -/
theorem run_from_unnamed_bits :
    let s := ofNat 0x01
    let t := ofNat 0xF1
    let l : List Change := [.toggle (ofNat 0x86), .complement, .extend [.long]]
    s.named = t.named ∧ run s (l.take 1) ≠ run t (l.take 1) ∧
      (run t (l.take 1)).widths = [.byte, .word, .long] ∧ run s l = run t l ∧
      (run t l).unnamed = ∅ := by
  intro s t l
  have h : s.named = t.named := by decide
  obtain ⟨_, _, _, _, _, _, _, hfirst⟩ := run_simulates_effects s (l.take 1)
  obtain ⟨_, _, _, _, _, _, hplain, hall⟩ := run_simulates_effects s l
  obtain ⟨_, hwidths, _⟩ := hfirst t h
  obtain ⟨_, _, _, hrun⟩ := hall t h
  have hl : run s l = run t l :=
    hrun ⟨.complement, List.mem_cons_of_mem _ List.mem_cons_self, trivial⟩
  refine ⟨h, by decide, ?_, hl, ?_⟩
  · rw [← hwidths]
    decide
  · rw [← hl]
    decide

end RegisterFamilies.WidthSet
