import Reckoner.Session.Basic

/-!
# Evaluating many sources at once

A batch evaluates sources one by one and puts the outcomes into a table. A fault of an
expression either ends the batch or becomes part of its row, as the error mode says; any
other fault ends it. Rows are labelled with their numbers unless labels are given.
-/

namespace Reckoner

/-- The label of a row. -/
inductive Label where
  | number (n : Int)
  | name (s : Text)
  deriving DecidableEq, Repr

/-- The outcome of one source. A row with a report has no result. -/
structure Row where
  source : Text
  result : Float
  report : Option Text
  deriving DecidableEq, Repr

/-- The outcomes of a batch. -/
structure Table where
  labels : List Label
  rows : List Row
  deriving DecidableEq, Repr

/-- How many rows of a table report a fault. -/
def Table.faulty (t : Table) : Nat :=
  t.rows.countP (·.report.isSome)

/-- What becomes of the fault of an expression. -/
inductive ErrorMode where
  /-- It ends the batch. -/
  | raise
  /-- It is reported in its row. -/
  | coerce
  deriving DecidableEq, Repr

/-- The error mode of the given name. -/
def ErrorMode.ofName (s : Text) : Except Fault ErrorMode :=
  if s = "raise" then .ok .raise
  else if s = "coerce" then .ok .coerce
  else .error (.unknownErrorMode s)

/-- Sources with labels of their own. -/
structure Series where
  values : List Text
  labels : List Label
  deriving DecidableEq, Repr

/-- The series of the given values and labels, of which there have to be as many. -/
def Series.of (values : List Text) (labels : List Label) : Except Fault Series :=
  if values.length = labels.length then .ok ⟨values, labels⟩
  else .error (.seriesMismatch values.length labels.length)

/-- The characters of a text, each as a text. -/
def Text.characters (s : Text) : List Text :=
  s.map fun c => [c]

/-- A result that is no number. -/
def noResult : Float := 0 / 0

namespace Session

/-- The row of a source. -/
def row (mode : ErrorMode) (source : Text) : Action Session Row := do
  match ← (evaluate source).attempt with
  | .ok result => return ⟨source, result, none⟩
  | .error fault =>
    match mode, fault.label? with
    | .coerce, some label => do
      let report := label ++ ": " ++ fault.message
      Action.report (.failed source report)
      return ⟨source, noResult, some report⟩
    | _, _ => Action.fail fault

/-- The given labels, of which there have to be as many as rows, or else the numbers of
the rows. -/
def labelling (rows : Nat) : Option (List Label) → Except Fault (List Label)
  | none => .ok ((List.range rows).map fun i : Nat => .number i)
  | some labels =>
    if labels.length = rows then .ok labels
    else .error (.labelMismatch rows labels.length)

/-- Evaluate many sources in the error mode of the given name. -/
def evaluateMany (sources : List Text) (errors : Text) (labels : Option (List Label)) :
    Action Session Table := do
  let mode ← .lift (ErrorMode.ofName errors)
  let rows ← sources.mapM (row mode)
  let labels ← .lift (labelling rows.length labels)
  let table : Table := ⟨labels, rows⟩
  if 0 < table.faulty then Action.report (.tallied rows.length table.faulty)
  return table

/-- Evaluate the values of a series, whose labels serve unless others are given. -/
def evaluateSeries (series : Series) (errors : Text) (labels : Option (List Label)) :
    Action Session Table :=
  evaluateMany series.values errors (labels.or (some series.labels))

end Session

end Reckoner
