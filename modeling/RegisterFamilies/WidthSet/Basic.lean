import RegisterFamilies.Width

namespace RegisterFamilies

def Width.flag : Width → BitVec 8
  | .byte => 1
  | .word => 2
  | .long => 4
  | .quad => 8

/-- A set of widths, with whatever unnamed bits came with it. -/
@[ext] structure WidthSet where
  mask : BitVec 8
  deriving DecidableEq

namespace WidthSet

/-- The set whose bits are the low eight of the number, unnamed ones included. -/
def ofNat (n : Nat) : WidthSet := ⟨.ofNat 8 n⟩

def toNat (s : WidthSet) : Nat := s.mask.toNat

def ofWidth (w : Width) : WidthSet := ⟨w.flag⟩

instance : EmptyCollection WidthSet := ⟨⟨0⟩⟩

instance : Union WidthSet := ⟨fun s t => ⟨s.mask ||| t.mask⟩⟩

instance : Inter WidthSet := ⟨fun s t => ⟨s.mask &&& t.mask⟩⟩

instance : SDiff WidthSet := ⟨fun s t => ⟨s.mask &&& ~~~t.mask⟩⟩

def ofList (l : List Width) : WidthSet := l.foldl (fun s w => s ∪ ofWidth w) ∅

def full : WidthSet := ofList Width.all

def named (s : WidthSet) : WidthSet := s ∩ full

def unnamed (s : WidthSet) : WidthSet := s \ full

def symmDiff (s t : WidthSet) : WidthSet := ⟨s.mask ^^^ t.mask⟩

/-- The widths that are not in the set, without unnamed bits. -/
def compl (s : WidthSet) : WidthSet := named ⟨~~~s.mask⟩

def contains (s t : WidthSet) : Bool := s ∩ t = t

def intersects (s t : WidthSet) : Bool := s ∩ t ≠ ∅

def isEmpty (s : WidthSet) : Bool := s = ∅

def isFull (s : WidthSet) : Bool := s.contains full

instance : Membership Width WidthSet := ⟨fun s w => s.contains (ofWidth w) = true⟩

instance (w : Width) (s : WidthSet) : Decidable (w ∈ s) :=
  inferInstanceAs (Decidable (s.contains (ofWidth w) = true))

def widths (s : WidthSet) : List Width := Width.all.filter (· ∈ s)

def ofNamed? (s : WidthSet) : Option WidthSet := if s.unnamed = ∅ then some s else none

/-- The one-width sets that make up the set, then its unnamed bits as one further part. -/
def parts (s : WidthSet) : List WidthSet :=
  s.widths.map ofWidth ++ if s.unnamed = ∅ then [] else [s.unnamed]

end WidthSet

end RegisterFamilies
