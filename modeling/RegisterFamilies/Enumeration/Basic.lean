namespace RegisterFamilies

/-- How the name of a constructor becomes a label. In snake case every capital letter after the
first begins a new word. -/
inductive Casing where
  | lower
  | snake

namespace Casing

def rename : Casing → List Char → List Char
  | lower, l => l.map Char.toLower
  | snake, [] => []
  | snake, c :: l =>
    c.toLower :: l.flatMap fun d => if d.isUpper then ['_', d.toLower] else [d.toLower]

def label (casing : Casing) (constructorName : String) : String :=
  .ofList (casing.rename constructorName.toList)

end Casing

/-- A type with a list of its values, each of which is the first to bear its label. -/
class Enumeration (α : Type) where
  all : List α
  constructorName : α → String
  casing : Casing
  find_label (a : α) : (all.find? fun b =>
    casing.label (constructorName b) = casing.label (constructorName a)) = some a

namespace Enumeration

variable {α : Type} [Enumeration α]

def label (a : α) : String := (casing α).label (constructorName a)

def ofLabel? (s : String) : Option α := (all : List α).find? fun a => label a = s

theorem mem_all (a : α) : a ∈ (all : List α) := List.mem_of_find?_eq_some (find_label a)

theorem ofLabel?_label (a : α) : ofLabel? (label a) = some a := find_label a

theorem label_injective {a b : α} (h : label a = label b) : a = b := by
  have ha := ofLabel?_label a
  rw [h, ofLabel?_label b] at ha
  exact (Option.some.inj ha).symm

theorem ofLabel?_eq_some_iff {s : String} {a : α} : ofLabel? s = some a ↔ s = label a := by
  constructor
  · intro h
    have h := List.find?_some h
    exact (of_decide_eq_true h).symm
  · rintro rfl
    exact ofLabel?_label a

/-- The place of a value in the list, which orders the type. -/
def position (a : α) : Nat := (all : List α).findIdx fun b => label b = label a

def compare (a b : α) : Ordering := Ord.compare (position a) (position b)

def sort (l : List α) : List α := l.mergeSort fun a b => position a ≤ position b

def least? (l : List α) : Option α := l.minOn? position

def greatest? (l : List α) : Option α := l.maxOn? position

end Enumeration

end RegisterFamilies
