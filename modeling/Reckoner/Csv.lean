import Reckoner.Session.Batch

/-!
# Tables as comma-separated values

Each record is a line of fields with commas between them. A field that holds a comma, a
double quote or a line end stands between double quotes, its own double quotes written
twice. Labels are not written. What is missing is an empty field.
-/

namespace Reckoner.Csv

/-- Whether a character cannot stand in a plain field. -/
def isSpecial (c : Char) : Bool :=
  c == ',' || c == '"' || c == '\n' || c == '\r'

/-- A text as a field. -/
def field (s : Text) : Text :=
  if s.any isSpecial then
    '"' :: s.flatMap (fun c => if c == '"' then ['"', '"'] else [c]) ++ ['"']
  else s

/-- A line with the given fields. -/
def record (fields : List Text) : Text :=
  Text.joinWith "," (fields.map field) ++ ['\n']

/-- A number as a text; nothing stands for what is no number. -/
def number (x : Float) : Text :=
  if x.isNaN then [] else Text.ofFloat x

/-- The fields of a row. -/
def fields (r : Row) : List Text :=
  [r.source, number r.result, r.report.getD []]

/-- The fields of the first line. -/
def header : List Text :=
  ["expression", "result", "error"]

/-- A whole table. -/
def ofTable (t : Table) : Text :=
  record header ++ t.rows.flatMap fun r => record (fields r)

end Reckoner.Csv
