import InfinibandCheck.Types

/-!
`evaluateThresholds`, which turns the evaluated port list into the cycle's
verdict. It calls `infiniband.EvaluatePortsAndRate`, whose package is not in
this repository's sources; it is modelled from the spec's threshold evaluator.
-/

namespace Infiniband

def reasonThresholdNotSetSkipped : String := "ports or rate threshold not set, skipping"
def reasonMissingIbstatIbstatusOutput : String := "missing ibstat/ibstatus output (skipped evaluation)"
def reasonMissingEventBucket : String := "missing event storage (skipped evaluation)"
def reasonNoIbIssueFoundFromIbstat : String := "no infiniband issue found (in ibstat/ibstatus)"

def portHealthy (atLeastRate : Int) (port : IBPort) : Bool :=
  port.state == "Active" && decide (atLeastRate ≤ port.rate)

def healthyPortCount (ports : List IBPort) (atLeastRate : Int) : Int :=
  (ports.filter (portHealthy atLeastRate)).length

/-- Modelled from the spec: `infiniband.EvaluatePortsAndRate`. Every port that does not
count is unhealthy; with fewer counted ports than `atLeastPorts` the unhealthy set and a
descriptive error come back, otherwise the empty set and no error. The error's wording
is this model's. -/
def evaluatePortsAndRate (ports : List IBPort) (atLeastPorts atLeastRate : Int) :
    List IBPort × Option String :=
  let healthy := healthyPortCount ports atLeastRate
  if healthy < atLeastPorts then
    (ports.filter fun port => !portHealthy atLeastRate port,
      some ("only " ++ toString healthy ++ " port(s) are active and >=" ++ toString atLeastRate ++
        " Gb/s, expect >=" ++ toString atLeastPorts ++ " port(s)"))
  else ([], none)

def hardwareInspection : SuggestedActions := ⟨[.hardwareInspection]⟩

def evaluateThresholds (cr : CheckResult) (thresholds : ExpectedPortStates) : CheckResult :=
  if thresholds.isZero then
    { cr with health := .healthy, suggestedActions := none, unhealthyIBPorts := [],
              reason := reasonThresholdNotSetSkipped, err := none, errIbstatus := none }
  else if cr.allIBPorts.isEmpty then
    { cr with reason := reasonMissingIbstatIbstatusOutput, health := .healthy }
  else
    match evaluatePortsAndRate cr.allIBPorts thresholds.atLeastPorts thresholds.atLeastRate with
    | (unhealthy, some e) =>
      { cr with health := .unhealthy, suggestedActions := some hardwareInspection,
                unhealthyIBPorts := unhealthy, reason := e }
    | (_, none) =>
      let cr := { cr with health := .healthy, suggestedActions := none, unhealthyIBPorts := [],
                          reason := reasonNoIbIssueFoundFromIbstat }
      -- partial output from "ibstat" that meets the thresholds: its error is discarded
      if cr.err.isSome && cr.health == .healthy then { cr with err := none, errIbstatus := none }
      else cr

def Violated (ports : List IBPort) (thresholds : ExpectedPortStates) : Prop :=
  ports ≠ [] ∧ healthyPortCount ports thresholds.atLeastRate < thresholds.atLeastPorts

instance (ports : List IBPort) (thresholds : ExpectedPortStates) :
    Decidable (Violated ports thresholds) := inferInstanceAs (Decidable (_ ∧ _))

theorem portHealthy_of_le {rate rate' : Int} (lower : rate ≤ rate') {port : IBPort}
    (passes : portHealthy rate' port = true) : portHealthy rate port = true := by
  simp only [portHealthy, Bool.and_eq_true, decide_eq_true_eq] at passes ⊢
  exact ⟨passes.1, lower.trans passes.2⟩

theorem Violated.mono {ports : List IBPort} {thresholds thresholds' : ExpectedPortStates}
    (violated : Violated ports thresholds) (morePorts : thresholds.atLeastPorts ≤ thresholds'.atLeastPorts)
    (higher : thresholds.atLeastRate ≤ thresholds'.atLeastRate) : Violated ports thresholds' := by
  have fewer : healthyPortCount ports thresholds'.atLeastRate ≤ healthyPortCount ports thresholds.atLeastRate :=
    Int.ofNat_le.mpr (List.monotone_filter_right ports fun _ => portHealthy_of_le higher).length_le
  exact ⟨violated.1, by have := violated.2; omega⟩

section Evaluate
variable (cr : CheckResult) (thresholds : ExpectedPortStates)

theorem evaluateThresholds_eq (nonzero : thresholds.isZero = false) :
    evaluateThresholds cr thresholds =
      if Violated cr.allIBPorts thresholds then
        { cr with health := .unhealthy, suggestedActions := some hardwareInspection,
                  unhealthyIBPorts := cr.allIBPorts.filter fun port => !portHealthy thresholds.atLeastRate port,
                  reason := (evaluatePortsAndRate cr.allIBPorts thresholds.atLeastPorts
                    thresholds.atLeastRate).2.getD "" }
      else if cr.allIBPorts = [] then
        { cr with reason := reasonMissingIbstatIbstatusOutput, health := .healthy }
      else
        { cr with health := .healthy, suggestedActions := none, unhealthyIBPorts := [],
                  reason := reasonNoIbIssueFoundFromIbstat, err := none,
                  errIbstatus := if cr.err.isSome then none else cr.errIbstatus } := by
  unfold evaluateThresholds Violated evaluatePortsAndRate
  by_cases empty : cr.allIBPorts = []
  · simp [nonzero, empty]
  · by_cases few : healthyPortCount cr.allIBPorts thresholds.atLeastRate < thresholds.atLeastPorts
    · simp [nonzero, empty, few]
    · cases h : cr.err <;> simp [nonzero, empty, few, h]

end Evaluate

end Infiniband
