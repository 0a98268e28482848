import TypeRecovery.Text.Width

/-!
# Tables

A table has a row of headings and then its rows. A column is as wide as its widest cell, with two
blanks between columns, and no line ends in a blank.
-/

namespace TypeRecovery

inductive Align where
  | left
  | right
  deriving DecidableEq, Repr

structure Column where
  heading : String
  align : Align
  deriving DecidableEq, Repr

structure Table where
  columns : List Column
  rows : List (List String)

/-! ## Cells -/

/-- Cuts a text at line breaks. `line` is the line being read, in reverse. -/
def splitLines (line : List Char) : List Char → List String
  | [] => [String.ofList line.reverse]
  | c :: rest =>
    if c = '\n' then String.ofList line.reverse :: splitLines [] rest
    else splitLines (c :: line) rest

def cellLines (cell : String) : List String := splitLines [] cell.toList

def cellWidth (cell : String) : Nat := ((cellLines cell).map textWidth).foldl max 0

def blanks (n : Nat) : String := String.ofList (List.replicate n ' ')

def alignTo (align : Align) (width : Nat) (line : String) : String :=
  let gap := blanks (width - textWidth line)
  match align with
  | .left => line ++ gap
  | .right => gap ++ line

/-- Characters that count as blank at the end of a line. -/
def isTrailingBlank (c : Char) : Bool :=
  c.isWhitespace
    || inRanges
      [ (0xB, 0xC), (0x85, 0x85), (0xA0, 0xA0), (0x1680, 0x1680), (0x2000, 0x200A),
        (0x2028, 0x2029), (0x202F, 0x202F), (0x205F, 0x205F), (0x3000, 0x3000) ] c

def trimEnd (line : String) : String :=
  String.ofList (line.toList.reverse.dropWhile isTrailingBlank).reverse

/-! ## Lines -/

namespace Table

def headings (t : Table) : List String := t.columns.map Column.heading

def widths (t : Table) : List Nat :=
  t.rows.foldl (fun widths row => List.zipWith max widths (row.map cellWidth))
    (t.headings.map cellWidth)

/-- The lines of a row, as many as its highest cell has. -/
def rowLines (columns : List (Align × Nat)) (row : List String) : List String :=
  let cells := row.map cellLines
  let height := (cells.map List.length).foldl max 0
  (List.range height).map fun k =>
    trimEnd (String.intercalate "  "
      ((columns.zip cells).map fun ((align, width), lines) =>
        alignTo align width (lines.getD k "")))

def lines (t : Table) : List String :=
  let columns := (t.columns.map Column.align).zip t.widths
  (t.headings :: t.rows).flatMap (rowLines columns)

/-- The table with a line break behind each line. -/
def text (t : Table) : String := String.join (t.lines.map (· ++ "\n"))

end Table

end TypeRecovery
