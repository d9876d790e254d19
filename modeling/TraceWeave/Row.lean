import Std.Data.ExtTreeMap
import TraceWeave.Csv.Reader
import TraceWeave.Text.Blank

/-! Rows of an exported table.

A row gives texts to column names. The last text given to a column counts, and rows are equal
when they give the same texts, whatever the order of writing. Looking a column up trims its text;
an absent column reads as the empty text but is not equal to one. -/

namespace TraceWeave

structure Row where
  columns : Std.ExtTreeMap String String
  deriving DecidableEq

namespace Row

def empty : Row := ⟨∅⟩

def insert (row : Row) (column value : String) : Row := ⟨row.columns.insert column value⟩

def ofPairs (pairs : List (String × String)) : Row :=
  pairs.foldl (fun row (column, value) => row.insert column value) empty

/-- The text of a column as it was given. -/
def get? (row : Row) (column : String) : Option String := row.columns[column]?

/-- The trimmed text of a column, empty where it is absent. -/
def field (row : Row) (column : String) : String := Text.trim ((row.get? column).getD "")

/-- The rows of a table whose first record names the columns. A short record leaves the last
columns absent and fields beyond the header are dropped. -/
def ofTable : List (List String) → List Row
  | [] => []
  | header :: records =>
    let names := header.map Text.trim
    records.map fun record => ofPairs (names.zip record)

def ofCsv (text : String) : List Row := ofTable (Csv.records text)

theorem get?_insert (row : Row) (column value other : String) :
    (row.insert column value).get? other =
      if column = other then some value else row.get? other := by
  simp [insert, get?, Std.ExtTreeMap.getElem?_insert, Std.LawfulEqCmp.compare_eq_iff_eq]

theorem ext_get? {a b : Row} (h : ∀ column, a.get? column = b.get? column) : a = b := by
  cases a; cases b
  exact congrArg Row.mk (Std.ExtTreeMap.ext_getElem? h)

end Row

end TraceWeave
