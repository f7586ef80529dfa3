import Mathlib.Data.List.Forall2
import Mathlib.Data.List.TakeWhile
import RegisterFamilies.Text.Layout

namespace RegisterFamilies.Text

/-- `p` is the text without the white space at its ends. -/
def Trims (l p : List Char) : Prop :=
  ∃ u v, Blank u ∧ Blank v ∧ l = u ++ p ++ v ∧
    (∀ c ∈ p.head?, c ∉ whiteSpace) ∧ ∀ c ∈ p.getLast?, c ∉ whiteSpace

variable {c : Char} {l p u v : List Char} {parts : List (List Char)}

theorem isBlank_iff : isBlank c = true ↔ c ∈ whiteSpace := by
  simp only [isBlank, blankRanges, List.any_cons, List.any_nil, Bool.or_false, Bool.or_eq_true,
    Bool.and_eq_true, decide_eq_true_eq, whiteSpace, List.mem_cons, List.not_mem_nil, or_false,
    ← Char.toNat_inj, Char.reduceToNat]
  omega

theorem isBlank_eq_false_iff : isBlank c = false ↔ c ∉ whiteSpace := by
  rw [← isBlank_iff, Bool.not_eq_true]

theorem Blank.isBlank (h : Blank l) : ∀ c ∈ l, isBlank c = true :=
  fun c hc => isBlank_iff.2 (h c hc)

theorem blank_of_isBlank (h : ∀ c ∈ l, isBlank c = true) : Blank l :=
  fun c hc => isBlank_iff.1 (h c hc)

theorem blank_nil : Blank [] := by
  intro c hc
  cases hc

theorem blank_replicate (n : Nat) : Blank (List.replicate n ' ') := by
  intro c hc
  rw [List.eq_of_mem_replicate hc]
  decide

theorem Blank.append (hu : Blank u) (hv : Blank v) : Blank (u ++ v) :=
  List.forall_mem_append.2 ⟨hu, hv⟩

theorem Blank.reverse (h : Blank l) : Blank l.reverse := by
  intro c hc
  exact h c (List.mem_reverse.1 hc)

theorem isBlank_eq_false_of_isAlphanum (h : c.isAlphanum = true) : isBlank c = false := by
  apply eq_false_of_ne_true
  intro hb
  have hall : whiteSpace.all (fun c => !c.isAlphanum) = true := by decide
  have hc := List.all_eq_true.1 hall c (isBlank_iff.1 hb)
  rw [h] at hc
  cases hc

theorem isBlank_eq_false_of_isAlpha (h : c.isAlpha = true) : isBlank c = false := by
  apply isBlank_eq_false_of_isAlphanum
  rw [Char.isAlphanum, h, Bool.true_or]

theorem trimLeft_append (hu : Blank u) : trimLeft (u ++ l) = trimLeft l :=
  List.dropWhile_append_of_pos hu.isBlank

theorem trimRight_append (hv : Blank v) : trimRight (l ++ v) = trimRight l := by
  rw [trimRight, List.reverse_append, trimLeft_append hv.reverse, trimRight]

theorem trimLeft_eq_nil_iff : trimLeft l = [] ↔ Blank l := by
  rw [trimLeft, List.dropWhile_eq_nil_iff]
  exact ⟨blank_of_isBlank, Blank.isBlank⟩

theorem trim_append (hu : Blank u) (hv : Blank v) : trim (u ++ l ++ v) = trim l := by
  rw [trim, List.append_assoc, trimLeft_append hu, trim]
  by_cases hl : trimLeft l = []
  · -- the text is blank throughout, and so are the blanks after it
    rw [trimLeft_append (trimLeft_eq_nil_iff.1 hl), hl, trimLeft_eq_nil_iff.2 hv]
  · have happ : trimLeft (l ++ v) = trimLeft l ++ v := by
      rw [trimLeft, List.dropWhile_append, if_neg]
      · rfl
      · rwa [List.isEmpty_iff]
    rw [happ, trimRight_append hv]

theorem trimLeft_eq_self (h : ∀ c ∈ l.head?, c ∉ whiteSpace) : trimLeft l = l := by
  cases l with
  | nil => rfl
  | cons c l =>
    have hc := isBlank_eq_false_iff.2 (h c rfl)
    rw [trimLeft, List.dropWhile_cons, hc, if_neg Bool.false_ne_true]

theorem not_mem_whiteSpace_of_head?_trimLeft (h : c ∈ (trimLeft l).head?) : c ∉ whiteSpace := by
  have hnot := List.head?_dropWhile_not isBlank l
  rw [← trimLeft, h] at hnot
  exact isBlank_eq_false_iff.1 hnot

theorem Trims.trim_eq (h : Trims l p) : trim l = p := by
  obtain ⟨u, v, hu, hv, rfl, hhead, hlast⟩ := h
  rw [trim_append hu hv, trim, trimLeft_eq_self hhead, trimRight, trimLeft_eq_self,
    List.reverse_reverse]
  rwa [List.head?_reverse]

theorem exists_eq_append_trimLeft (l : List Char) : ∃ u, Blank u ∧ l = u ++ trimLeft l :=
  ⟨l.takeWhile isBlank, blank_of_isBlank fun _ hc => List.mem_takeWhile_imp hc,
    List.takeWhile_append_dropWhile.symm⟩

theorem exists_eq_trimRight_append (l : List Char) : ∃ v, Blank v ∧ l = trimRight l ++ v := by
  obtain ⟨u, hu, hl⟩ := exists_eq_append_trimLeft l.reverse
  refine ⟨u.reverse, hu.reverse, ?_⟩
  rw [trimRight, ← List.reverse_append, ← hl, List.reverse_reverse]

theorem trims_trim (l : List Char) : Trims l (trim l) := by
  obtain ⟨u, hu, hl⟩ := exists_eq_append_trimLeft l
  obtain ⟨v, hv, hr⟩ := exists_eq_trimRight_append (trimLeft l)
  refine ⟨u, v, hu, hv, ?_, fun c hc => ?_, fun c hc => ?_⟩
  · rw [trim, List.append_assoc, ← hr, ← hl]
  · -- the head stays when blanks at the end are dropped
    apply not_mem_whiteSpace_of_head?_trimLeft (l := l)
    rw [hr, List.head?_append, ← trim, hc, Option.some_or]
    exact Option.mem_some_self c
  · rw [trim, trimRight, List.getLast?_reverse] at hc
    exact not_mem_whiteSpace_of_head?_trimLeft hc

theorem trims_append (hu : Blank u) (hv : Blank v) (hp : ∀ c ∈ p, isBlank c = false) :
    Trims (u ++ p ++ v) p := by
  refine ⟨u, v, hu, hv, rfl, fun c hc => ?_, fun c hc => ?_⟩
  · exact isBlank_eq_false_iff.1 (hp c (List.mem_of_mem_head? hc))
  · exact isBlank_eq_false_iff.1 (hp c (List.mem_of_getLast? hc))

end RegisterFamilies.Text
