/-
  Texts on a grid of cells.

  A character that takes no cell belongs to the one before it, and so does whatever follows a
  joiner; a selector that asks for an emoji may widen the character before it.  So a text falls
  into clusters, none of which is ever divided: a line that is cut at a number of cells is cut
  between two clusters, and where a wide one would be divided, a space takes its place.
-/
import DateCalc.Text.CellWidth

namespace DateCalc.Text

/-! ## Special characters -/

/-- The character that joins the next one to the one before. -/
def joiner : Char := Char.ofNat 0x200D

/-- The character that asks for the one before it as an emoji. -/
def emojiSelector : Char := Char.ofNat 0xFE0F

/-- The cells that a selector adds to the character before it, if there is one. -/
def selectorCells (base : Option Char) : Nat := if base.any isWidenable then 1 else 0

/-! ## Widths of texts -/

/-- How many cells a text takes after a character that a selector would widen. -/
def cellsFrom (base : Option Char) : List Char → Nat
  | [] => 0
  | [c] => if c = emojiSelector then selectorCells base else charCells c
  | c :: d :: s =>
    if c = joiner then cellsFrom base s
    else if c = emojiSelector then selectorCells base + cellsFrom none (d :: s)
    else charCells c + cellsFrom (if charCells c = 0 then base else some c) (d :: s)

/-- How many cells a text takes. -/
def cells (s : List Char) : Nat := cellsFrom none s

/-! ## Clusters -/

/-- Characters that are shown as one, and the cells that they take. -/
structure Cluster where
  chars : List Char
  cells : Nat
  deriving DecidableEq

/-- A cluster with one more character that takes some cells of its own. -/
def Cluster.push (cluster : Cluster) (c : Char) (more : Nat) : Cluster :=
  ⟨cluster.chars ++ [c], cluster.cells + more⟩

/-- A cluster and those that follow it, where the text goes on after a character that a selector
would widen. -/
def clustersFrom (cluster : Cluster) (base : Option Char) : List Char → List Cluster
  | [] => [cluster]
  | [c] =>
    if c = emojiSelector then [cluster.push c (selectorCells base)]
    else if charCells c = 0 then [cluster.push c 0]
    else [cluster, ⟨[c], charCells c⟩]
  | c :: d :: s =>
    if c = joiner then clustersFrom ((cluster.push c 0).push d 0) base s
    else if c = emojiSelector then
      clustersFrom (cluster.push c (selectorCells base)) none (d :: s)
    else if charCells c = 0 then clustersFrom (cluster.push c 0) base (d :: s)
    else cluster :: clustersFrom ⟨[c], charCells c⟩ (some c) (d :: s)

/-- The clusters of a text. -/
def clusters : List Char → List Cluster
  | [] => []
  | c :: s => clustersFrom ⟨[c], charCells c⟩ (if charCells c = 0 then none else some c) s

/-! ## Cutting -/

/-- Clusters in pieces that take at most the width each, where some characters of the first piece
and their cells are given. -/
def piecesFrom (width : Nat) (piece : List Char) (taken : Nat) : List Cluster → List (List Char)
  | [] => [piece]
  | cluster :: more =>
    if width < taken + cluster.cells then
      piece :: piecesFrom width cluster.chars cluster.cells more
    else piecesFrom width (piece ++ cluster.chars) (taken + cluster.cells) more

/-- A text in pieces that take at most the width each. -/
def pieces (width : Nat) (s : List Char) : List (List Char) := piecesFrom width [] 0 (clusters s)

/-- The clusters that fit into a number of cells, and a space for half of one that does not. -/
def takeCells (width : Nat) : List Cluster → List Char
  | [] => []
  | cluster :: more =>
    if cluster.cells ≤ width then cluster.chars ++ takeCells (width - cluster.cells) more
    else List.replicate width ' '

/-- A text cut off at a number of cells. -/
def cutToCells (width : Nat) (s : List Char) : List Char :=
  if cells s ≤ width then s else takeCells width (clusters s)

example : cells "abc中".toList = 5 := by decide +kernel
example : pieces 3 "ab中c".toList = ["ab".toList, "中c".toList] := by decide +kernel
example : cutToCells 3 "ab中c".toList = "ab ".toList := by decide +kernel

end DateCalc.Text
