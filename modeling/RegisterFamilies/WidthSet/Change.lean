import RegisterFamilies.WidthSet.Basic

namespace RegisterFamilies.WidthSet

inductive Change where
  | add (t : WidthSet)
  | remove (t : WidthSet)
  | toggle (t : WidthSet)
  | restrict (t : WidthSet)
  /-- Adds or removes, as the flag says. -/
  | assign (t : WidthSet) (present : Bool)
  | complement
  | fill
  | clear
  /-- The set becomes the one with exactly these widths. -/
  | only (l : List Width)
  | extend (l : List Width)
  /-- The set becomes `t` without its unnamed bits. -/
  | truncate (t : WidthSet)
  /-- The set becomes `t` as it is. -/
  | retain (t : WidthSet)

def Change.apply (s : WidthSet) : Change → WidthSet
  | add t => s ∪ t
  | remove t => s \ t
  | toggle t => s.symmDiff t
  | restrict t => s ∩ t
  | assign t present => if present then s ∪ t else s \ t
  | complement => s.compl
  | fill => full
  | clear => ∅
  | only l => ofList l
  | extend l => s ∪ ofList l
  | truncate t => t.named
  | retain t => t

def run (s : WidthSet) (l : List Change) : WidthSet := l.foldl Change.apply s

end RegisterFamilies.WidthSet
