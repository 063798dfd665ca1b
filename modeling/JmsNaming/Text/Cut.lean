/-
Cutting text at a delimiter: at its first or last occurrence, at every occurrence, and joining
again.
-/
namespace JmsNaming.Text

/-- The text before and the text after the first `c`, if there is one. -/
def cut? (c : Char) : List Char → Option (List Char × List Char)
  | [] => none
  | x :: xs => if x = c then some ([], xs) else (cut? c xs).map fun p => (x :: p.1, p.2)

/-- The text before and the text after the last `c`, if there is one. -/
def cutLast? (c : Char) : List Char → Option (List Char × List Char)
  | [] => none
  | x :: xs =>
    match cutLast? c xs with
    | some p => some (x :: p.1, p.2)
    | none => if x = c then some ([], xs) else none

/-- The text up to the first `c`, or all of it. -/
def before (c : Char) (s : List Char) : List Char :=
  s.takeWhile (· != c)

/-- The text after the first `c`, or the empty text. -/
def after (c : Char) (s : List Char) : List Char :=
  (s.dropWhile (· != c)).drop 1

/-- The text after the last `c`, or all of it. -/
def afterLast (c : Char) (s : List Char) : List Char :=
  match cutLast? c s with
  | some p => p.2
  | none => s

/-- The pieces of a text between the occurrences of `c`; there is one more than there are `c`. -/
def pieces (c : Char) : List Char → List (List Char)
  | [] => [[]]
  | x :: xs =>
    if x = c then [] :: pieces c xs
    else match pieces c xs with
      | p :: ps => (x :: p) :: ps
      | [] => [[x]]

/-- The texts with `separator` between each two. -/
def join (separator : List Char) : List (List Char) → List Char
  | [] => []
  | [p] => p
  | p :: ps => p ++ separator ++ join separator ps

/-- The text without one leading copy of `lead`, if it begins with it. -/
def dropLead (lead s : List Char) : List Char :=
  if lead.isPrefixOf s then s.drop lead.length else s

/-! ## The same on strings -/

/-- The dotted segments of a key. -/
def segments (key : String) : List String :=
  (pieces '.' key.toList).map String.ofList

end JmsNaming.Text
