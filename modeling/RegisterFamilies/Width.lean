import RegisterFamilies.Enumeration.Basic

namespace RegisterFamilies

inductive Width where
  | byte
  | word
  | long
  | quad
  deriving DecidableEq

namespace Width

def all : List Width := [byte, word, long, quad]

instance : Enumeration Width where
  all := all
  constructorName
    | byte => "Byte"
    | word => "Word"
    | long => "Long"
    | quad => "Quad"
  casing := .lower
  find_label w := by cases w <;> rfl

def bits : Width → Nat
  | byte => 8
  | word => 16
  | long => 32
  | quad => 64

def bytes (w : Width) : Nat := w.bits / 8

/-- Widths are ordered by the storage they take. -/
instance : LE Width := ⟨fun v w => v.bits ≤ w.bits⟩

instance : LT Width := ⟨fun v w => v.bits < w.bits⟩

instance : DecidableLE Width := fun v w => inferInstanceAs (Decidable (v.bits ≤ w.bits))

instance : DecidableLT Width := fun v w => inferInstanceAs (Decidable (v.bits < w.bits))

theorem mem_all (w : Width) : w ∈ all := by
  cases w <;> decide

theorem pairwise_lt_all : all.Pairwise (· < ·) := by decide

def ofBits? : Nat → Option Width
  | 8 => some byte
  | 16 => some word
  | 32 => some long
  | 64 => some quad
  | _ => none

theorem ofBits?_eq_some_iff {n : Nat} {w : Width} : ofBits? n = some w ↔ n = w.bits := by
  constructor
  · intro h
    rw [ofBits?.eq_def] at h
    split at h <;> cases h <;> rfl
  · rintro rfl
    cases w <;> rfl

theorem bits_injective {v w : Width} (h : v.bits = w.bits) : v = w := by
  have hv := ofBits?_eq_some_iff.2 h
  rw [ofBits?_eq_some_iff.2 rfl] at hv
  exact Option.some.inj hv

/-- The letter that names the width in an instruction: `movb`, `movw`, `movl`, `movq`. -/
def suffix : Width → Char
  | byte => 'b'
  | word => 'w'
  | long => 'l'
  | quad => 'q'

def ofSuffix? : Char → Option Width
  | 'b' => some byte
  | 'w' => some word
  | 'l' => some long
  | 'q' => some quad
  | _ => none

theorem ofSuffix?_eq_some_iff {c : Char} {w : Width} : ofSuffix? c = some w ↔ c = w.suffix := by
  constructor
  · intro h
    rw [ofSuffix?.eq_def] at h
    split at h <;> cases h <;> rfl
  · rintro rfl
    cases w <;> rfl

instance : ToString Width := ⟨fun w => toString w.bits ++ "-bit"⟩

end Width

end RegisterFamilies
