import JmsNaming.Terminal.WidthTable
import JmsNaming.Text.Character

/-
How many cells of a terminal a text takes, the clusters of characters that share cells, and bringing
a text to a number of cells. A text is cut between clusters only.
-/
namespace JmsNaming.Terminal

/-- The cells of one character. -/
def charWidth (c : Char) : Nat :=
  if 0x20 ≤ c.toNat && c.toNat < 0x7f then 1
  else if Text.inRanges zeroWidthRanges c.toNat then 0
  else if Text.inRanges doubleWidthRanges c.toNat then 2
  else 1

/-- The character that joins the next one to the one before. -/
def joiner : Char := Char.ofNat 0x200d

/-- The selector of the emoji form of the character before. -/
def emojiSelector : Char := Char.ofNat 0xfe0f

/-- The selector of the text form of the character before. -/
def textSelector : Char := Char.ofNat 0xfe0e

/-- The cells of a text after a character that the emoji selector may still widen. -/
def widthAfter (last : Option Char) : List Char → Nat
  | [] => 0
  | c :: cs =>
    if c = joiner then
      match cs with
      | [] => 0
      | _ :: rest => widthAfter last rest
    else if c = emojiSelector then
      match last with
      | some b => (if Text.inRanges widenedRanges b.toNat then 1 else 0) + widthAfter none cs
      | none => widthAfter none cs
    else
      let n := charWidth c
      n + widthAfter (if n = 0 then last else some c) cs

/-- The cells of a text. -/
def width (s : List Char) : Nat :=
  widthAfter none s

/-- A character with those that stand in its cells: marks, selectors, and what is joined to it. -/
structure Cluster where
  chars : List Char
  cells : Nat
  deriving DecidableEq

/-- The clusters of a text after one begun and a character that the emoji selector may still widen. -/
def clustersAfter (last : Option Char) (begun : Cluster) : List Char → List Cluster
  | [] => [begun]
  | c :: cs =>
    if c = joiner then
      match cs with
      | [] => [⟨begun.chars ++ [c], begun.cells⟩]
      | d :: rest => clustersAfter last ⟨begun.chars ++ [c, d], begun.cells⟩ rest
    else if c = emojiSelector then
      let widened := last.any fun b => Text.inRanges widenedRanges b.toNat
      clustersAfter none ⟨begun.chars ++ [c], begun.cells + if widened then 1 else 0⟩ cs
    else
      let n := charWidth c
      if n = 0 then clustersAfter last ⟨begun.chars ++ [c], begun.cells⟩ cs
      else begun :: clustersAfter (some c) ⟨[c], n⟩ cs

/-- The clusters of a text. Only the first may take no cell. -/
def clusters : List Char → List Cluster
  | [] => []
  | c :: cs => clustersAfter (if charWidth c = 0 then none else some c) ⟨[c], charWidth c⟩ cs

/-- The start of a text that takes some cells; a blank stands for the half of a cluster that is cut. -/
def takeCells (cells : Nat) : List Cluster → List Char
  | [] => []
  | g :: gs => if g.cells ≤ cells then g.chars ++ takeCells (cells - g.cells) gs else List.replicate cells ' '

/-- The text with blanks added up to a number of cells. -/
def padTo (cells : Nat) (s : List Char) : List Char :=
  s ++ List.replicate (cells - width s) ' '

/-- The text cut or padded to a number of cells. -/
def fit (cells : Nat) (s : List Char) : List Char :=
  if cells = 0 then []
  else if width s ≤ cells then padTo cells s
  else takeCells cells (clusters s)

/-- The text, cut at a number of cells if it is longer. -/
def clip (cells : Nat) (s : List Char) : List Char :=
  if width s ≤ cells then s else fit cells s

/-- The mark of a text that was cut. -/
def ellipsis : Char := '…'

/-- The text, cut at a number of cells and marked if it is longer. -/
def truncate (cells : Nat) (s : List Char) : List Char :=
  if width s ≤ cells then s else fit (cells - 1) s ++ [ellipsis]

end JmsNaming.Terminal
