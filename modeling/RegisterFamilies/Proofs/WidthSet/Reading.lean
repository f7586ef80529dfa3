import RegisterFamilies.Proofs.Text.Hexadecimal
import RegisterFamilies.Proofs.Text.Trimming
import RegisterFamilies.Traced
import RegisterFamilies.WidthSet.Lemmas

namespace RegisterFamilies

namespace WidthSet

open Text

variable {digits l p t u : List Char} {parts : List (List Char)} {n : Nat} {s : WidthSet}
  {e : TextError}

/-- The parts of a written set, each with the bits for which it stands. -/
inductive PartSpells : List Char → WidthSet → Prop where
  | name (w : Width) : PartSpells w.flagName (ofWidth w)
  | numeral {sign digits : List Char} {n : Nat} (hs : sign = [] ∨ sign = ['+'])
      (hd : IsHexNumeral digits n) (hn : n ≤ 255) :
      PartSpells ('0' :: 'x' :: (sign ++ digits)) (ofNat n)

/-- What is wrong with a part that stands for nothing. -/
inductive PartDefect : List Char → TextError → Prop where
  | empty : PartDefect [] .emptyPart
  | numeral {digits : List Char} (h : ∀ s, ¬ PartSpells ('0' :: 'x' :: digits) s) :
      PartDefect ('0' :: 'x' :: digits) .invalidNumeral
  | name {l : List Char} (hne : l ≠ []) (hx : ∀ digits, l ≠ '0' :: 'x' :: digits)
      (h : ∀ s, ¬ PartSpells l s) : PartDefect l .unknownName

/-- The leftmost part that stands for nothing is wrong in the given way. -/
inductive FirstDefect : List (List Char) → TextError → Prop where
  | here {p : List Char} {parts : List (List Char)} {e : TextError} (h : PartDefect p e) :
      FirstDefect (p :: parts) e
  | later {p : List Char} {parts : List (List Char)} {s : WidthSet} {e : TextError}
      (hp : PartSpells p s) (h : FirstDefect parts e) : FirstDefect (p :: parts) e

def unite (l : List WidthSet) : WidthSet := l.foldr (· ∪ ·) ∅

/-- What a text is read as: blank texts as the empty set, others part by part. -/
inductive Reads : List Char → Except TextError WidthSet → Prop where
  | blank {t : List Char} (h : Blank t) : Reads t (.ok ∅)
  | parts {t : List Char} {parts : List (List Char)} {sets : List WidthSet} (ht : ¬ Blank t)
      (hp : List.Forall₂ Trims (t.splitOn '|') parts) (h : List.Forall₂ PartSpells parts sets) :
      Reads t (.ok (unite sets))
  | defect {t : List Char} {parts : List (List Char)} {e : TextError} (ht : ¬ Blank t)
      (hp : List.Forall₂ Trims (t.splitOn '|') parts) (h : FirstDefect parts e) :
      Reads t (.error e)

namespace PartSpells

end PartSpells

end WidthSet

end RegisterFamilies
