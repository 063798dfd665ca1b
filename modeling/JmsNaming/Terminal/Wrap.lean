import JmsNaming.Terminal.Markup

/-
Breaking text into lines of a number of cells: between words, and inside a word where it is longer
than a line and may be folded.
-/
namespace JmsNaming.Terminal

/-! ## Words -/

/-- A text without the blanks at its end. -/
def trimEnd (s : List Char) : List Char :=
  (s.reverse.dropWhile Text.isBlank).reverse

/-- The words of a text, each with the blanks after it and the first also with those before it. A text
of blanks is one word. -/
def wordsWithBlanks (s : List Char) : List (List Char) :=
  match s.splitBy fun a b => !Text.isBlank a || Text.isBlank b with
  | blanks :: w :: rest => if blanks.all Text.isBlank then (blanks ++ w) :: rest else blanks :: w :: rest
  | ws => ws

/-! ## Breaking -/

/-- What may be done with a word that is longer than a line. -/
inductive Overflow where
  /-- It goes on in the next line. -/
  | fold
  /-- It is cut, and the cut is marked. -/
  | cut
  deriving DecidableEq

/-- The pieces of a word that fill lines of a number of cells. The piece begun holds `used` cells. -/
def foldWord (cells used : Nat) (piece : List Char) : List Cluster → List (List Char)
  | [] => [piece]
  | g :: gs =>
    if cells < used + g.cells then piece :: foldWord cells g.cells g.chars gs
    else foldWord cells (used + g.cells) (piece ++ g.chars) gs

/-- Puts words on lines, onto a line begun that fills `used` cells. -/
def fillLines (cells : Nat) (overflow : Overflow) (line : List Char) (used : Nat) :
    List (List Char) → List (List Char)
  | [] => [line]
  | w :: rest =>
    if used + width (trimEnd w) ≤ cells then fillLines cells overflow (line ++ w) (used + width w) rest
    else
      let closed := if line.isEmpty then [] else [line]
      if width (trimEnd w) ≤ cells || overflow = .cut then
        closed ++ fillLines cells overflow w (width w) rest
      else
        let pieces := foldWord cells 0 [] (clusters w)
        let last := pieces.getLastD []
        closed ++ pieces.dropLast ++ fillLines cells overflow last (width last) rest

/-- The line without blanks that stand past a number of characters. -/
def trimPast (length : Nat) (s : List Char) : List Char :=
  let blanks := s.length - (trimEnd s).length
  s.take (s.length - min blanks (s.length - length))

/-- The distance between tabulator stops. -/
def tabStop : Nat := 8

/-- The parts of a line, put together from a cell on: after each but the last stand a blank for its
tabulator and blanks up to the next stop. -/
def joinAtStops (cell : Nat) : List (List Char) → List Char
  | [] => []
  | [last] => last
  | part :: rest =>
    let next := cell + width (part ++ [' '])
    let fill := (tabStop - next % tabStop) % tabStop
    part ++ ' ' :: List.replicate fill ' ' ++ joinAtStops (next + fill) rest

/-- The line with its tabulators filled up with blanks. -/
def expandTabs (line : List Char) : List Char :=
  joinAtStops 0 (Text.pieces '\t' line)

/-- The lines of a text: it is broken at its line ends and where a line is full. -/
def wrap (cells : Nat) (overflow : Overflow) (s : List Char) : List (List Char) :=
  (Text.pieces '\n' s).flatMap fun l =>
    (fillLines cells overflow [] 0 (wordsWithBlanks (expandTabs l))).map (trimPast cells)

end JmsNaming.Terminal
