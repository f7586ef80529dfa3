import RegisterFamilies.X86.Basic

namespace RegisterFamilies.X86

inductive Generation where
  | x86_16
  | x86_32
  | x86_64
  deriving DecidableEq

namespace Generation

def all : List Generation := [x86_16, x86_32, x86_64]

instance : Enumeration Generation where
  all := all
  constructorName
    | x86_16 => "X86_16"
    | x86_32 => "X86_32"
    | x86_64 => "X86_64"
  casing := .snake
  find_label g := by cases g <;> rfl

def nativeWidth : Generation → Width
  | x86_16 => .word
  | x86_32 => .long
  | x86_64 => .quad

def registers (g : Generation) : List Register :=
  Register.all.filter fun r => r.width ≤ g.nativeWidth

end Generation

def Register.head? (r : Register) (g : Generation) : Traced Defect (Option Register) :=
  r.sibling? g.nativeWidth

/-- A move to another register of the same family. -/
inductive Move where
  | sibling? (w : Width)
  | sibling (w : Width)
  | head? (g : Generation)
  | member (index : Nat)

namespace Move

def target (r : Register) : Move → Traced Defect (Option Register)
  | sibling? w => r.sibling? w
  | sibling w => do return (← r.sibling w).toOption
  | head? g => r.head? g
  | member index => do return (← r.familyMembers)[index]?

/-- Takes a move, and stays in place if it leads nowhere. -/
def step (r : Register) (m : Move) : Traced Defect Register := do
  return (← m.target r).getD r

end Move

def Register.walk (r : Register) : List Move → Traced Defect Register
  | [] => pure r
  | m :: l => do (← m.step r).walk l

end RegisterFamilies.X86
