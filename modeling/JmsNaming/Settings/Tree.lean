import JmsNaming.Text.Cut
import JmsNaming.Value.Basic

/-
Trees of settings: walking to the value or the section at a dotted path, and merging an overlay on
top of a base.
-/
namespace JmsNaming.Tree

/-! ## Paths -/

/-- The value at a path through maps. A segment that is missing or null ends the walk with nothing. -/
def valueAt? (v : Value) : List String → Option Value
  | [] => some v
  | name :: path =>
    match v with
    | .map t =>
      match Table.get? t name with
      | some w => if w.isNull then none else valueAt? w path
      | none => none
    | _ => none

/-- The map at a path through maps, empty if there is none. -/
def sectionAt (v : Value) : List String → Table
  | [] =>
    match v with
    | .map t => t
    | _ => []
  | name :: path =>
    match v with
    | .map t => sectionAt ((Table.get? t name).getD (.map [])) path
    | _ => []

/-! ## Merging -/

mutual

/-- What an overlaid value leaves of the value below it: two maps are merged, otherwise the overlay
replaces. -/
def overlay (below : Option Value) : (top : Value) → Value
  | .scalar s => .scalar s
  | .list items => .list items
  | .map top =>
    match below with
    | some (.map base) => .map (merge base top)
    | _ => .map top

/-- The base with the overlay's entries put into it one after the other. -/
def merge (base : Table) : (top : List (Scalar × Value)) → Table
  | [] => base
  | (k, v) :: rest => merge (base.put k (overlay (base.find? k) v)) rest

end

/-- All overlays on top of each other, the first at the bottom. -/
def mergeAll (trees : List Table) : Table :=
  trees.foldl merge []

end JmsNaming.Tree
