import Mathlib.Data.Bool.Basic

namespace RegisterFamilies

variable {α : Type} {l : List α} {a b : α}

theorem eq_singleton_of_mem (ha : a ∈ l) (hl : l.length ≤ 1) : l = [a] := by
  have hpos := List.length_pos_of_mem ha
  obtain ⟨b, rfl⟩ := List.length_eq_one_iff.1 (Nat.le_antisymm hl hpos)
  rw [List.mem_singleton.1 ha]

/-- Of the elements with the property, `a` is the one that the list comes to first. -/
def IsFirst (p : α → Prop) (l : List α) (a : α) : Prop :=
  p a ∧ ∃ before after, l = before ++ a :: after ∧ ∀ b ∈ before, ¬ p b

section

variable {p : α → Prop} [DecidablePred p]

theorem find?_eq_some_iff_isFirst : (l.find? fun a => p a) = some a ↔ IsFirst p l a := by
  rw [List.find?_eq_some_iff_append, IsFirst]
  simp only [decide_eq_true_eq, Bool.not_eq_true', decide_eq_false_iff_not]

theorem IsFirst.unique (h : IsFirst p l a) (h' : IsFirst p l b) : a = b := by
  have ha := find?_eq_some_iff_isFirst.2 h
  rw [find?_eq_some_iff_isFirst.2 h'] at ha
  exact (Option.some.inj ha).symm

theorem exists_isFirst (h : ∃ a ∈ l, p a) : ∃ a, IsFirst p l a := by
  cases hf : l.find? fun a => p a with
  | some a => exact ⟨a, find?_eq_some_iff_isFirst.1 hf⟩
  | none =>
    obtain ⟨a, ha, hp⟩ := h
    exact (List.find?_eq_none.1 hf a ha (decide_eq_true hp)).elim

end

/-- A least element under a Boolean key is the first that lacks the mark, or else the first. -/
theorem minOn?_eq_or (p : α → Bool) (l : List α) :
    l.minOn? p = (l.find? fun a => !p a).or (l.find? p) := by
  induction l with
  | nil => rfl
  | cons a l ih =>
    rw [List.minOn?_cons, ih, List.find?_cons, List.find?_cons]
    cases ha : p a with
    | false =>
      -- an unmarked head is never beaten
      have hmin (b : α) : minOn p a b = a := by
        apply minOn_eq_left
        rw [ha]
        exact Bool.false_le (p b)
      cases (l.find? fun a => !p a).or (l.find? p) with
      | none => rfl
      | some b => exact congrArg some (hmin b)
    | true =>
      -- a marked head gives way to the first unmarked element only
      cases hl : l.find? fun a => !p a with
      | some b =>
        have hb := List.find?_some hl
        simp only [Bool.not_eq_true'] at hb
        have hmin : minOn p a b = b := by
          apply minOn_eq_right
          rw [ha, hb]
          decide
        exact congrArg some hmin
      | none =>
        cases hh : l.find? p with
        | none => rfl
        | some b =>
          have hmin : minOn p a b = a := by
            apply minOn_eq_left
            rw [ha, List.find?_some hh]
          exact congrArg some hmin

end RegisterFamilies
