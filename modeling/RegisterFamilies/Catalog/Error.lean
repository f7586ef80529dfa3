import RegisterFamilies.Text.Outline
import RegisterFamilies.Width

namespace RegisterFamilies

open Text

inductive CatalogError where
  | duplicateName (name : String)
  | orphan (register : String)
  | multipleFamilies (register : String)
  | uncatalogued (register : String)
  | emptyFamily (family : String)
  | widthCollision (family : String) (width : Width)
  | unordered (family : String)
  deriving DecidableEq

namespace CatalogError

def message : CatalogError → String
  | duplicateName name => "Duplicate register name " ++ ticked name
  | orphan register => "Register " ++ ticked register ++ " does not belong to any family"
  | multipleFamilies register => "Register " ++ ticked register ++ " belongs to multiple families"
  | uncatalogued register =>
    "Register " ++ ticked register ++ " is a family member but not in the catalog"
  | emptyFamily family => "Family " ++ ticked family ++ " is empty"
  | widthCollision family width =>
    "Family " ++ ticked family ++ " has conflicting " ++ toString width ++ " members"
  | unordered family => "Family " ++ ticked family ++ " is not ordered by width"

def kind : CatalogError → String
  | duplicateName _ => "DuplicateName"
  | orphan _ => "Orphan"
  | multipleFamilies _ => "MultipleFamilies"
  | uncatalogued _ => "Uncatalogued"
  | emptyFamily _ => "EmptyFamily"
  | widthCollision _ _ => "WidthCollision"
  | unordered _ => "Unordered"

def outline (e : CatalogError) : Outline :=
  match e with
  | duplicateName name | orphan name | multipleFamilies name | uncatalogued name
  | emptyFamily name | unordered name => .plain e.kind [quoted name]
  | widthCollision family width =>
    .labelled e.kind [("family", quoted family), ("width", Enumeration.constructorName width)]

end CatalogError

end RegisterFamilies
