import RegisterFamilies.Catalog.Query
import RegisterFamilies.Enumeration.Basic

namespace RegisterFamilies.X86

/-- Registers, from the narrowest to the widest. -/
inductive Register where
  | al | ah | bl | bh | cl | ch | dl | dh
  | ax | bx | cx | dx | di | si | bp | sp | ip
  | eax | ebx | ecx | edx | edi | esi | ebp | esp | eip
  | rax | rbx | rcx | rdx | rdi | rsi | rbp | rsp | rip
  deriving DecidableEq

/-- Families: accumulator, base, count, data, the two indices, base and stack pointer, and the
instruction pointer. -/
inductive Family where
  | ax | bx | cx | dx | di | si | bp | sp | ip
  deriving DecidableEq

namespace Register

def all : List Register :=
  [al, ah, bl, bh, cl, ch, dl, dh,
    ax, bx, cx, dx, di, si, bp, sp, ip,
    eax, ebx, ecx, edx, edi, esi, ebp, esp, eip,
    rax, rbx, rcx, rdx, rdi, rsi, rbp, rsp, rip]

def name : Register → String
  | al => "al" | ah => "ah" | bl => "bl" | bh => "bh"
  | cl => "cl" | ch => "ch" | dl => "dl" | dh => "dh"
  | ax => "ax" | bx => "bx" | cx => "cx" | dx => "dx"
  | di => "di" | si => "si" | bp => "bp" | sp => "sp"
  | ip => "ip"
  | eax => "eax" | ebx => "ebx" | ecx => "ecx" | edx => "edx"
  | edi => "edi" | esi => "esi" | ebp => "ebp" | esp => "esp"
  | eip => "eip"
  | rax => "rax" | rbx => "rbx" | rcx => "rcx" | rdx => "rdx"
  | rdi => "rdi" | rsi => "rsi" | rbp => "rbp" | rsp => "rsp"
  | rip => "rip"

def width : Register → Width
  | al | ah | bl | bh | cl | ch | dl | dh => .byte
  | ax | bx | cx | dx | di | si | bp | sp | ip => .word
  | eax | ebx | ecx | edx | edi | esi | ebp | esp | eip => .long
  | rax | rbx | rcx | rdx | rdi | rsi | rbp | rsp | rip => .quad

/-- The upper bytes of the four registers that can be taken apart. -/
def isHighByte (r : Register) : Bool := r ∈ [ah, bh, ch, dh]

instance : Enumeration Register where
  all := all
  constructorName
    | al => "Al" | ah => "Ah" | bl => "Bl" | bh => "Bh"
    | cl => "Cl" | ch => "Ch" | dl => "Dl" | dh => "Dh"
    | ax => "Ax" | bx => "Bx" | cx => "Cx" | dx => "Dx"
    | di => "Di" | si => "Si" | bp => "Bp" | sp => "Sp"
    | ip => "Ip"
    | eax => "Eax" | ebx => "Ebx" | ecx => "Ecx" | edx => "Edx"
    | edi => "Edi" | esi => "Esi" | ebp => "Ebp" | esp => "Esp"
    | eip => "Eip"
    | rax => "Rax" | rbx => "Rbx" | rcx => "Rcx" | rdx => "Rdx"
    | rdi => "Rdi" | rsi => "Rsi" | rbp => "Rbp" | rsp => "Rsp"
    | rip => "Rip"
  casing := .lower
  find_label r := by cases r <;> rfl

theorem label_eq_name (r : Register) : Enumeration.label r = r.name := by
  cases r <;> rfl

theorem name_injective {r s : Register} (h : r.name = s.name) : r = s := by
  rw [← label_eq_name, ← label_eq_name] at h
  exact Enumeration.label_injective h

def text (r : Register) (layout : Text.Layout) : List Char := layout.text r.name.toList

end Register

namespace Family

def all : List Family := [ax, bx, cx, dx, di, si, bp, sp, ip]

def name : Family → String
  | ax => "ax" | bx => "bx" | cx => "cx" | dx => "dx"
  | di => "di" | si => "si" | bp => "bp" | sp => "sp" | ip => "ip"

def members : Family → List Register
  | ax => [.al, .ah, .ax, .eax, .rax]
  | bx => [.bl, .bh, .bx, .ebx, .rbx]
  | cx => [.cl, .ch, .cx, .ecx, .rcx]
  | dx => [.dl, .dh, .dx, .edx, .rdx]
  | di => [.di, .edi, .rdi]
  | si => [.si, .esi, .rsi]
  | bp => [.bp, .ebp, .rbp]
  | sp => [.sp, .esp, .rsp]
  | ip => [.ip, .eip, .rip]

instance : Enumeration Family where
  all := all
  constructorName
    | ax => "Ax" | bx => "Bx" | cx => "Cx" | dx => "Dx"
    | di => "Di" | si => "Si" | bp => "Bp" | sp => "Sp" | ip => "Ip"
  casing := .lower
  find_label f := by cases f <;> rfl

theorem label_eq_name (f : Family) : Enumeration.label f = f.name := by
  cases f <;> rfl

def text (f : Family) (layout : Text.Layout) : List Char := layout.text f.name.toList

end Family

def catalog : Catalog Register Family where
  name := Register.name
  display r := .ofList (r.text {})
  width := Register.width
  isHighByte := Register.isHighByte
  familyName f := .ofList (f.text {})
  registers := Register.all
  families := Family.all
  members := Family.members

namespace Register

/-- The name after the suffix of the width. -/
def operand (r : Register) : String := .ofList (r.width.suffix :: r.name.toList)

def family (r : Register) : Traced Defect Family := catalog.familyOf r

def familyMembers (r : Register) : Traced Defect (List Register) := Family.members <$> r.family

def sibling? (r : Register) (w : Width) : Traced Defect (Option Register) := catalog.sibling? r w

def sibling (r : Register) (w : Width) : Traced Defect (Except RegisterError Register) :=
  catalog.sibling r w

def aliases (a b : Register) : Traced Defect Bool := catalog.aliases a b

def allAliases (r : Register) : Traced Defect (List Register) :=
  all.filterM r.aliases

end Register

namespace Family

def widths (f : Family) : WidthSet := catalog.widths f

def hasHighByte (f : Family) : Bool := catalog.hasHighByte f

end Family

end RegisterFamilies.X86
