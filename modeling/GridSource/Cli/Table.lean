/-!
# Tables

A table has a header and rows of texts.  It is drawn in columns that are as wide
as their widest cell.
-/

namespace GridSource.Cli

structure Table where
  title : Option String
  header : List String
  rows : List (List String)
deriving Repr, DecidableEq, Inhabited

namespace Table

/-- The larger width of each column; a missing column has none. -/
def widen : List Nat → List String → List Nat
  | widths, [] => widths
  | [], cell :: cells => cell.length :: widen [] cells
  | width :: widths, cell :: cells => max width cell.length :: widen widths cells

def widths (table : Table) : List Nat := (table.header :: table.rows).foldl widen []

def drawRow (widths : List Nat) (row : List String) : String :=
  let cells := row.zipWith (fun cell width =>
    cell ++ String.ofList (List.replicate (width - cell.length) ' ')) widths
  "  ".intercalate cells

def rule (widths : List Nat) : String :=
  "  ".intercalate (widths.map fun width => String.ofList (List.replicate width '-'))

def draw (table : Table) : String :=
  let widths := table.widths
  let body := drawRow widths table.header :: rule widths :: table.rows.map (drawRow widths)
  String.join ((table.title.toList ++ body).map (· ++ "\n"))

end Table

end GridSource.Cli
