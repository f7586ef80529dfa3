import RegisterFamilies.WidthSet.Basic

namespace RegisterFamilies

def Width.place : Width → Nat
  | byte => 0
  | word => 1
  | long => 2
  | quad => 3

theorem Width.place_lt (w : Width) : w.place < 4 := by
  cases w <;> decide

theorem Width.getLsbD_flag (v w : Width) : v.flag.getLsbD w.place = decide (w = v) := by
  cases v <;> cases w <;> rfl

namespace WidthSet

variable {w : Width} {s t : WidthSet}

theorem mem_iff_getLsbD : w ∈ s ↔ s.mask.getLsbD w.place = true := by
  have h : ∀ m : BitVec 8, (⟨m⟩ : WidthSet).contains (ofWidth w) = true ↔
      m.getLsbD w.place = true := by
    cases w <;> decide
  exact h s.mask

@[simp] theorem not_mem_empty : w ∉ (∅ : WidthSet) := by
  cases w <;> decide

@[simp] theorem mem_ofWidth {v : Width} : w ∈ ofWidth v ↔ w = v := by
  rw [mem_iff_getLsbD, ofWidth, Width.getLsbD_flag, decide_eq_true_iff]

@[simp] theorem mem_union : w ∈ s ∪ t ↔ w ∈ s ∨ w ∈ t := by
  simp only [mem_iff_getLsbD, Union.union, BitVec.getLsbD_or, Bool.or_eq_true]

@[simp] theorem mem_inter : w ∈ s ∩ t ↔ w ∈ s ∧ w ∈ t := by
  simp only [mem_iff_getLsbD, Inter.inter, BitVec.getLsbD_and, Bool.and_eq_true]

theorem getLsbD_not_mask : (~~~s.mask).getLsbD w.place = !s.mask.getLsbD w.place := by
  have h : w.place < 8 := by
    have := w.place_lt
    omega
  simp only [BitVec.getLsbD_not, h, decide_true, Bool.true_and]

@[simp] theorem mem_sdiff : w ∈ s \ t ↔ w ∈ s ∧ w ∉ t := by
  simp only [mem_iff_getLsbD, SDiff.sdiff, BitVec.getLsbD_and, getLsbD_not_mask, Bool.and_eq_true,
    Bool.not_eq_true', Bool.not_eq_true]

@[simp] theorem mem_symmDiff : w ∈ s.symmDiff t ↔ (w ∈ s ↔ w ∉ t) := by
  simp only [mem_iff_getLsbD, symmDiff, BitVec.getLsbD_xor]
  cases s.mask.getLsbD w.place <;> cases t.mask.getLsbD w.place <;> decide

@[simp] theorem mem_full : w ∈ full := by
  cases w <;> decide

@[simp] theorem mem_named : w ∈ s.named ↔ w ∈ s := by
  simp only [named, mem_inter, mem_full, and_true]

@[simp] theorem mem_compl : w ∈ s.compl ↔ w ∉ s := by
  rw [compl, mem_named, mem_iff_getLsbD, getLsbD_not_mask, mem_iff_getLsbD, Bool.not_eq_true',
    Bool.not_eq_true]

@[simp] theorem mem_widths : w ∈ s.widths ↔ w ∈ s := by
  simp only [widths, List.mem_filter, w.mem_all, true_and, decide_eq_true_eq]

theorem pairwise_lt_widths (s : WidthSet) : s.widths.Pairwise (· < ·) :=
  Width.pairwise_lt_all.filter _

theorem length_widths_le (s : WidthSet) : s.widths.length ≤ 4 :=
  List.length_filter_le _ Width.all

theorem union_assoc (s t u : WidthSet) : s ∪ t ∪ u = s ∪ (t ∪ u) := by
  apply WidthSet.ext
  simp only [Union.union, BitVec.or_assoc]

@[simp] theorem empty_union (s : WidthSet) : ∅ ∪ s = s := by
  apply WidthSet.ext
  exact BitVec.zero_or

@[simp] theorem union_empty (s : WidthSet) : s ∪ ∅ = s := by
  apply WidthSet.ext
  exact BitVec.or_zero

theorem foldl_union_eq (s : WidthSet) (l : List Width) :
    l.foldl (fun u v => u ∪ ofWidth v) s = s ∪ ofList l := by
  induction l generalizing s with
  | nil => exact (union_empty s).symm
  | cons v l ih => rw [ofList, List.foldl_cons, List.foldl_cons, ih, ih, empty_union, union_assoc]

theorem ofList_cons (v : Width) (l : List Width) : ofList (v :: l) = ofWidth v ∪ ofList l := by
  rw [ofList, List.foldl_cons, empty_union, foldl_union_eq]

theorem ofList_singleton (w : Width) : ofList [w] = ofWidth w := empty_union (ofWidth w)

@[simp] theorem mem_ofList {l : List Width} : w ∈ ofList l ↔ w ∈ l := by
  induction l with
  | nil => exact iff_of_false not_mem_empty List.not_mem_nil
  | cons v l ih => rw [ofList_cons, mem_union, mem_ofWidth, ih, List.mem_cons]

/-- Without unnamed bits, a set is known by its members. -/
theorem named_ext (h : ∀ w, w ∈ s ↔ w ∈ t) : s.named = t.named := by
  have key : ∀ m n : BitVec 8, (∀ w : Width, m.getLsbD w.place = n.getLsbD w.place) →
      m &&& full.mask = n &&& full.mask := by
    intro m n hm
    apply BitVec.eq_of_getLsbD_eq
    intro i hi
    have h0 := hm .byte
    have h1 := hm .word
    have h2 := hm .long
    have h3 := hm .quad
    simp only [Width.place] at h0 h1 h2 h3
    have hf : ∀ i < 8, full.mask.getLsbD i = decide (i < 4) := by decide
    rw [BitVec.getLsbD_and, BitVec.getLsbD_and, hf i hi]
    by_cases h4 : i < 4
    · have : i = 0 ∨ i = 1 ∨ i = 2 ∨ i = 3 := by omega
      rcases this with rfl | rfl | rfl | rfl
      · rw [h0]
      · rw [h1]
      · rw [h2]
      · rw [h3]
    · simp only [h4, decide_false, Bool.and_false]
  apply WidthSet.ext
  refine key s.mask t.mask fun w => ?_
  have hw := h w
  rw [mem_iff_getLsbD, mem_iff_getLsbD] at hw
  exact Bool.eq_iff_iff.2 hw

theorem named_union (s t : WidthSet) : (s ∪ t).named = s.named ∪ t.named := by
  apply WidthSet.ext
  apply BitVec.eq_of_getLsbD_eq
  intro i _
  simp only [named, Union.union, Inter.inter, BitVec.getLsbD_and, BitVec.getLsbD_or,
    Bool.and_or_distrib_right]

theorem named_inter (s t : WidthSet) : (s ∩ t).named = s.named ∩ t := by
  apply WidthSet.ext
  simp only [named, Inter.inter, BitVec.and_assoc, BitVec.and_comm full.mask]

theorem named_sdiff (s t : WidthSet) : (s \ t).named = s.named \ t := by
  apply WidthSet.ext
  simp only [named, Inter.inter, SDiff.sdiff, BitVec.and_assoc, BitVec.and_comm full.mask]

theorem named_symmDiff (s t : WidthSet) : (s.symmDiff t).named = s.named.symmDiff t.named := by
  apply WidthSet.ext
  apply BitVec.eq_of_getLsbD_eq
  intro i _
  simp only [named, symmDiff, Inter.inter, BitVec.getLsbD_and, BitVec.getLsbD_xor,
    Bool.and_xor_distrib_right]

theorem named_named (s : WidthSet) : s.named.named = s.named :=
  named_ext fun _ => mem_named

theorem named_ofWidth (w : Width) : (ofWidth w).named = ofWidth w := by
  cases w <;> rfl

theorem named_ofList (l : List Width) : (ofList l).named = ofList l := by
  induction l with
  | nil => rfl
  | cons v l ih => rw [ofList_cons, named_union, named_ofWidth, ih]

theorem ofList_eq_iff {l l' : List Width} : ofList l = ofList l' ↔ ∀ w, w ∈ l ↔ w ∈ l' := by
  constructor
  · intro h w
    rw [← mem_ofList, h, mem_ofList]
  · intro h
    rw [← named_ofList l, ← named_ofList l']
    apply named_ext
    intro w
    rw [mem_ofList, mem_ofList, h w]

theorem ofList_append (l l' : List Width) : ofList (l ++ l') = ofList l ∪ ofList l' := by
  rw [ofList, List.foldl_append, foldl_union_eq]
  rfl

theorem ofList_widths (s : WidthSet) : ofList s.widths = s.named := by
  rw [← named_ofList]
  apply named_ext
  intro w
  rw [mem_ofList, mem_widths]

theorem named_union_unnamed (s : WidthSet) : s.named ∪ s.unnamed = s := by
  apply WidthSet.ext
  apply BitVec.eq_of_getLsbD_eq
  intro i hi
  simp only [named, unnamed, Union.union, Inter.inter, SDiff.sdiff, BitVec.getLsbD_or,
    BitVec.getLsbD_and, BitVec.getLsbD_not, hi, decide_true, Bool.true_and,
    ← Bool.and_or_distrib_left, Bool.or_not_self, Bool.and_true]

theorem unnamed_eq_empty_iff : s.unnamed = ∅ ↔ s.named = s := by
  refine ⟨fun h => ?_, fun h => ?_⟩
  · have hs := named_union_unnamed s
    rwa [h, union_empty] at hs
  · apply WidthSet.ext
    rw [← h]
    apply BitVec.eq_of_getLsbD_eq
    intro i hi
    simp only [named, unnamed, Inter.inter, SDiff.sdiff, BitVec.getLsbD_and, BitVec.getLsbD_not,
      hi, decide_true, Bool.true_and, Bool.and_assoc, Bool.and_not_self, Bool.and_false]
    exact BitVec.getLsbD_zero.symm

theorem unnamed_named (s : WidthSet) : s.named.unnamed = ∅ :=
  unnamed_eq_empty_iff.2 (named_named s)

theorem isFull_iff : s.isFull = true ↔ ∀ w, w ∈ s := by
  have h : ∀ m : BitVec 8, (⟨m⟩ : WidthSet).contains full = true ↔
      (m.getLsbD 0 = true ∧ m.getLsbD 1 = true) ∧ m.getLsbD 2 = true ∧ m.getLsbD 3 = true := by
    decide
  rw [isFull, h s.mask]
  constructor
  · rintro ⟨⟨h0, h1⟩, h2, h3⟩ w
    rw [mem_iff_getLsbD]
    cases w with
    | byte => exact h0
    | word => exact h1
    | long => exact h2
    | quad => exact h3
  · intro h
    exact ⟨⟨mem_iff_getLsbD.1 (h .byte), mem_iff_getLsbD.1 (h .word)⟩,
      mem_iff_getLsbD.1 (h .long), mem_iff_getLsbD.1 (h .quad)⟩

end WidthSet

end RegisterFamilies
