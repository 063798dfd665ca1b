import JmsNaming.Terminal.Wrap

/-
Writing on a terminal of a fixed width: lines of markup, and tables of two columns with a title.
A table is as wide as its contents; where that is more than the terminal has, the wider column gives
way first.
-/
namespace JmsNaming.Terminal

/-- The cells of a line. -/
def lineWidth : Nat := 400

/-- Lines of text, each with its end. -/
def joinLines (lines : List (List Char)) : String :=
  String.ofList (lines.flatMap (· ++ ['\n']))

/-- What markup looks like when it is printed. -/
def print (markup : String) : Except MarkupFault String :=
  (showMarkup markup.toList).map fun s => joinLines ((wrap lineWidth .fold s).map (clip lineWidth))

/-! ## Tables -/

/-- A table of two columns, in markup. Without a header the rows stand alone. -/
structure Table where
  title : String
  header : Option (String × String) := none
  rows : List (String × String)

/-- A table as it is shown, its markup taken out. -/
structure Shown where
  title : Option (List Char)
  header : Option (List Char × List Char)
  rows : List (List Char × List Char)

namespace Table

/-- What a row shows. -/
def showRow (row : String × String) : Except MarkupFault (List Char × List Char) := do
  return (← showMarkup row.1.toList, ← showMarkup row.2.toList)

/-- What a table shows; an empty title is none. -/
def shown (t : Table) : Except MarkupFault Shown := do
  let header ← t.header.mapM showRow
  let rows ← t.rows.mapM showRow
  let title ← if t.title.isEmpty then pure none else some <$> showMarkup t.title.toList
  return { title, header, rows }

end Table

/-! ## Column widths -/

/-- The places where a text ends a line for its measure. -/
def endsLine (c : Char) : Bool :=
  [0x0a, 0x1c, 0x1d, 0x1e, 0x85, 0x2028, 0x2029].contains c.toNat

/-- The cells of the longest line of a text. -/
def longestLine (s : List Char) : Nat :=
  ((s.splitOnP endsLine).map width).foldl max 0

/-- The cells that a column takes with a blank on both sides of each text. -/
def columnWidth (available : Nat) (texts : List (List Char)) : Nat :=
  (texts.map fun s => min available (longestLine s + 2)).foldl max 0

/-- Half of a number; a half is rounded to the even neighbour. -/
def halfToEven (n : Nat) : Nat :=
  if n % 4 = 3 then n / 2 + 1 else n / 2

/-- The widths of two columns that have `available` cells together. -/
def shrink (available a b : Nat) : Nat × Nat :=
  let excess := a + b - available
  let cutA := min excess (a - b)
  let cutB := min excess (b - a)
  let rest := excess - cutA - cutB
  let a := a - cutA
  let b := b - cutB
  (a - halfToEven rest, b - (rest - halfToEven rest))

/-! ## Drawing -/

/-- The strokes of a line across a table: at its left edge, along it, between the columns, and at its
right edge. -/
structure Rule where
  left : Char
  stroke : Char
  cross : Char
  right : Char

namespace Rule

def heavyTop : Rule := ⟨'┏', '━', '┳', '┓'⟩
def underHeader : Rule := ⟨'┡', '━', '╇', '┩'⟩
def top : Rule := ⟨'┌', '─', '┬', '┐'⟩
def bottom : Rule := ⟨'└', '─', '┴', '┘'⟩

def draw (r : Rule) (a b : Nat) : List Char :=
  r.left :: List.replicate a r.stroke ++ r.cross :: List.replicate b r.stroke ++ [r.right]

end Rule

/-- The lines of a cell: its text with a blank on both sides. A cell without room for text has one
line. -/
def cellLines (cells : Nat) (s : List Char) : List (List Char) :=
  if cells ≤ 2 then [List.replicate cells ' ']
  else (wrap (cells - 2) .cut s).map fun l => ' ' :: padTo (cells - 2) (truncate (cells - 2) l) ++ [' ']

/-- Lines side by side, the shorter column filled up with blank lines. -/
def besides (bar : Char) (a b : Nat) : List (List Char) → List (List Char) → List (List Char)
  | [], [] => []
  | x :: xs, [] => (bar :: x ++ bar :: List.replicate b ' ' ++ [bar]) :: besides bar a b xs []
  | [], y :: ys => (bar :: List.replicate a ' ' ++ bar :: y ++ [bar]) :: besides bar a b [] ys
  | x :: xs, y :: ys => (bar :: x ++ bar :: y ++ [bar]) :: besides bar a b xs ys

/-- The lines of a row. -/
def rowLines (bar : Char) (a b : Nat) (row : List Char × List Char) : List (List Char) :=
  besides bar a b (cellLines a row.1) (cellLines b row.2)

/-- A line in the middle of some cells; the odd blank stands on its right. -/
def centered (cells : Nat) (s : List Char) : List Char :=
  let s := clip cells (trimEnd s)
  padTo cells (List.replicate ((cells - width s) / 2) ' ' ++ s)

/-- The lines of a table. -/
def Shown.lines (t : Shown) : List (List Char) :=
  let available := lineWidth - 3
  let all := t.header.toList ++ t.rows
  let (a, b) := shrink available (columnWidth available (all.map (·.1))) (columnWidth available (all.map (·.2)))
  let title := t.title.elim [] fun s => (wrap (a + b + 3) .fold s).map (centered (a + b + 3))
  let head := match t.header with
    | some row => Rule.heavyTop.draw a b :: rowLines '┃' a b row ++ [Rule.underHeader.draw a b]
    | none => [Rule.top.draw a b]
  title ++ head ++ t.rows.flatMap (rowLines '│' a b) ++ [Rule.bottom.draw a b]

/-- What a table looks like when it is printed. -/
def Table.print (t : Table) : Except MarkupFault String :=
  t.shown.map fun s => joinLines s.lines

end JmsNaming.Terminal
