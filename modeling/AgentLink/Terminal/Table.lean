/-!
# Tables

A table of text (`Table.render`) is drawn in box characters: a heavy frame around its header
row, light lines around the body, one space of padding on each side of a cell, and each column
as wide as its widest cell. Its title stands centred above it.
-/

namespace AgentLink

/-- A titled table of text: its column headers and its rows. -/
structure Table where
  title : String
  headers : List String
  rows : List (List String)
  deriving Repr, Inhabited

/-- The width of each column: that of its widest cell, header included. -/
def Table.widths (t : Table) : List Nat :=
  t.headers.zipIdx.map fun (h, i) =>
    t.rows.foldl (fun w row => Nat.max w (row.getD i "").length) h.length

/-- A text padded with spaces on the right to a width. -/
def padRight (s : String) (w : Nat) : String :=
  s ++ String.ofList (List.replicate (w - s.length) ' ')

/-- A row of cells between the characters of its frame. -/
def frameRow (left middle right : String) (cells : List String) (widths : List Nat) : String :=
  left ++ middle.intercalate ((cells.zip widths).map fun (c, w) => " " ++ padRight c w ++ " ") ++
    right

/-- A rule across the columns: its ends, its crossings and its line character. -/
def frameRule (left cross right : String) (line : Char) (widths : List Nat) : String :=
  left ++ cross.intercalate (widths.map fun w => String.ofList (List.replicate (w + 2) line)) ++
    right

/-- The lines of a table, the title first. -/
def Table.render (t : Table) : List String :=
  let ws := t.widths
  let width := ws.foldl (fun acc w => acc + w + 3) 1
  let pad := (width - t.title.length) / 2
  let title := String.ofList (List.replicate pad ' ') ++ t.title ++
    String.ofList (List.replicate (width - t.title.length - pad) ' ')
  [title, frameRule "┏" "┳" "┓" '━' ws, frameRow "┃" "┃" "┃" t.headers ws,
    frameRule "┡" "╇" "┩" '━' ws] ++
  t.rows.map (frameRow "│" "│" "│" · ws) ++ [frameRule "└" "┴" "┘" '─' ws]

end AgentLink
