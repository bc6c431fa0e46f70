import ReactBridge.Report.Inspect
import ReactBridge.Run

/-!
# Reports of runs

* `generatedFiles`, `failedPackages`: the counts of a run;
* `ofOutcomes`: the report on what a run has written.
-/

namespace ReactBridge.Report

open ReactBridge.Bridge ReactBridge.Run

def bridgesOf (outcome : Outcome) : List BridgeFiles :=
  match outcome.result with
  | .ok bridges => bridges
  | .error _ => []

def filesOf (outcomes : List Outcome) : List Path :=
  (outcomes.flatMap bridgesOf).flatMap fun bridge => [bridge.moduleFile, bridge.packageFile]

def generatedFiles (outcomes : List Outcome) : Nat :=
  ((filesOf outcomes).map Path.components).eraseDups.length

def failures (outcomes : List Outcome) : List (String × Failure) :=
  outcomes.filterMap fun outcome =>
    match outcome.result with
    | .ok _ => none
    | .error e => some (outcome.label, e)

def failedPackages (outcomes : List Outcome) : Nat :=
  (failures outcomes).length

/-- A path as it is shown: relative to the output directory if it lies in it. -/
def shownPath (output path : Path) : String :=
  ((path.stripBase output).getD path).text

def ofOutcome (output : Path) (outcome : Outcome) : List Event :=
  .heading outcome.label ::
  match outcome.result with
  | .error _ => [.item "failed"]
  | .ok [] => [.item "no exported functions"]
  | .ok bridges => bridges.flatMap fun bridge =>
    [.added (shownPath output bridge.moduleFile), .added (shownPath output bridge.packageFile)]

def summary (outcomes : List Outcome) : String :=
  "Generated " ++ toString (generatedFiles outcomes) ++ " file(s) for " ++
    toString (outcomes.length - failedPackages outcomes) ++ " of " ++
    toString outcomes.length ++ " package(s)"

def ofOutcomes (output : Path) (outcomes : List Outcome) : List Event :=
  outcomes.flatMap (ofOutcome output) ++
  [.emptyLine, .keyValue "Output" output.text, .plain (summary outcomes)]

end ReactBridge.Report
