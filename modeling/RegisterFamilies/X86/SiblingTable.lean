import RegisterFamilies.Catalog.Validate
import RegisterFamilies.X86.Basic

namespace RegisterFamilies.X86

open Text

private def cellField : Layout := { alignment := some .right, width := 4 }

private def headField : Layout := { alignment := some .right, width := 3 }

/-- One cell: a register and its suffix, or a dash. -/
def siblingCell (w : Width) : Option Register → List Char
  | some r => r.text cellField ++ [' ', '(', w.suffix, ')']
  | none => cellField.text ['-'] ++ List.replicate 4 ' '

def siblingRow (f : Family) (first : Register) : Traced Defect (List Char) := do
  let cells ← Width.all.mapM fun w => siblingCell w <$> first.sibling? w
  return f.text headField ++ [':', ' '] ++ [' ', ' '].intercalate cells

def siblingTable : Traced Defect (List (List Char)) := do
  let rows ← Family.all.mapM fun f =>
    match f.members.head? with
    | some first => some <$> siblingRow f first
    | none => pure none
  return rows.reduceOption

/-- The table, if the catalog is in order, and else what is wrong with it. -/
def report : Except String (List (List Char)) :=
  match catalog.validate.result, siblingTable.result with
  | .ok (), .ok rows => .ok rows
  | .error e, _ => .error e.message
  | .ok (), .error defect => .error defect.message

end RegisterFamilies.X86
