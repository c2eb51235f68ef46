import Uplift.Fault
import Uplift.Json.Printer
import Uplift.Report.Json

set_option autoImplicit false

/-! # Reports for machines

The outcome of a run as one JSON object, with the id of the run and the time of the report. -/

namespace Uplift

/-- The outcome of a run for machines. -/
structure Envelope where
  runId : String
  generatedAt : String
  /-- The failure with its causes, if the run failed. -/
  error : Option String
  totals : Totals
  reports : List CodemodReport
  deriving Repr

namespace Envelope

/-- The name of the format. -/
def schema : String := "upgrader.run.v1"

/-- The envelope of a run that succeeded. -/
def success (runId generatedAt : String) (reports : List CodemodReport) (totals : Totals) :
    Envelope :=
  { runId, generatedAt, error := none, totals, reports }

/-- The envelope of a run that failed. -/
def failure (runId generatedAt : String) (fault : Fault) : Envelope :=
  { runId, generatedAt, error := some fault.line, totals := {}, reports := [] }

/-- The envelope as JSON. -/
def toJson (e : Envelope) : Json :=
  .obj ([("schema", .str schema), ("run_id", .str e.runId), ("generated_at", .str e.generatedAt),
      ("success", .bool e.error.isNone)]
    ++ (match e.error with
      | some message => [("error", .str message)]
      | none => [])
    ++ [("totals", e.totals.toJson), ("reports", .arr (e.reports.map CodemodReport.toJson))])

/-- The text of an envelope. -/
def text (e : Envelope) : String := e.toJson.fileText

end Envelope

end Uplift
