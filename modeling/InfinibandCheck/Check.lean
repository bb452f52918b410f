import InfinibandCheck.PortFlap

/-!
`component.Check`, one cycle of the health check, and what it publishes
(`HealthStates`). The cycle returns early, healthy, when the policy is the
disabled sentinel, when no GPU is detected or a source function is missing, and
when there is no event bucket. Otherwise it evaluates the ports, records an
event and, if that worked, runs the three temporal analyzers.
-/

namespace Infiniband

variable {σ : Type}

def applySourceError (cr : CheckResult) : CheckResult :=
  match cr.err with
  | none => cr
  | some e =>
    if e.isNoIbstatCommand then { cr with health := .healthy, reason := "ibstat command not found" }
    else { cr with health := .unhealthy, reason := "ibstat command failed" }

def selectedPorts (cr : CheckResult) : List IBPort :=
  match cr.ibstatOutput, cr.ibstatusOutput with
  | some o, _ => o.ibPorts
  | none, some o => o.ibPorts
  | none, none => []

def totalPorts (cr : CheckResult) : Nat :=
  match cr.ibstatOutput, cr.ibstatusOutput with
  | some o, _ => o.parsed.length
  | none, some o => o.parsed.length
  | none, none => 0

def evaluateIbSwitchFault (cr : CheckResult) : CheckResult :=
  if cr.health = .healthy then cr
  else if cr.unhealthyIBPorts.isEmpty then cr
  else if totalPorts cr = 0 ∨ cr.unhealthyIBPorts.length ≠ totalPorts cr then cr
  else { cr with reasonIbSwitchFault := "ib switch fault, all ports down" }

def Component.check (c : Component σ) (relTime : Int → Int → String) (dropOrder : RangeOrder Int)
    (flapOrder : RangeOrder (List String)) (now : Int) (s : σ) : CheckResult × σ :=
  let cr : CheckResult := { ts := now }
  let thresholds := c.getThresholdsFunc now
  if thresholds.isZero then ({ cr with reason := reasonThresholdNotSetSkipped, health := .healthy }, s)
  else match c.nvmlInstance with
    | none => ({ cr with health := .healthy, reason := "NVIDIA NVML instance is nil" }, s)
    | some nvml =>
      if !nvml.nvmlExists then ({ cr with health := .healthy, reason := "NVIDIA NVML library is not loaded" }, s)
      else if nvml.productName = "" then
        ({ cr with health := .healthy,
                   reason := "NVIDIA NVML is loaded but GPU is not detected (missing product name)" }, s)
      else match c.getIbstatOutputFunc, c.getIbstatusOutputFunc with
        | some getIbstat, some getIbstatus =>
          let cr := applySourceError { cr with
            ibstatusOutput := (getIbstatus now).1, errIbstatus := (getIbstatus now).2
            ibstatOutput := (getIbstat now).1, err := (getIbstat now).2 }
          match c.eventBucket with
          | none => ({ cr with reason := reasonMissingEventBucket, health := .healthy }, s)
          | some bucket =>
            let cr := evaluateThresholds { cr with allIBPorts := selectedPorts cr } thresholds
            match recordIbEvent bucket cr s with
            | (cr, s, some _) => (cr, s)
            | (cr, s, none) =>
              let cr := evaluateIbSwitchFault cr
              let cr := c.evaluateIbPortDrop relTime dropOrder s cr
              (c.evaluateIbPortFlap flapOrder s cr, s)
        | _, _ => ({ cr with health := .healthy, reason := "ibstat checker not found" }, s)

def CheckResult.summary (cr : CheckResult) : String :=
  let reason := cr.reason
  let reason := if cr.reasonIbSwitchFault ≠ "" then reason ++ "; " ++ cr.reasonIbSwitchFault else reason
  let reason := if cr.reasonIbPortDrop ≠ "" then reason ++ "; " ++ cr.reasonIbPortDrop else reason
  if cr.reasonIbPortFlap ≠ "" then reason ++ "; " ++ cr.reasonIbPortFlap else reason

/-- `getError`: the `ibstat` error only; the `ibstatus` one is never surfaced. -/
def CheckResult.getError (cr : CheckResult) : String :=
  match cr.err with
  | some e => e.message
  | none => ""

structure HealthState where
  time : Int
  health : HealthStateType
  reason : String
  error : String
  suggestedActions : Option SuggestedActions
deriving DecidableEq, Repr

def CheckResult.healthState (cr : CheckResult) : HealthState :=
  ⟨cr.ts, cr.health, cr.summary, cr.getError, cr.suggestedActions⟩

def healthStates (now : Int) : Option CheckResult → HealthState
  | none => ⟨now, .healthy, "no data yet", "", none⟩
  | some cr => cr.healthState

/-- `Check` gets past its early returns to `recordIbEvent`: a policy, a detected GPU,
both source functions and an event bucket. -/
structure Records (c : Component σ) (now : Int) (getIbstat : Int → Option IbstatOutput × Option GoError)
    (getIbstatus : Int → Option IbstatusOutput × Option GoError) (bucket : Bucket σ) : Prop where
  policy : (c.getThresholdsFunc now).isZero = false
  gpu : ∃ nvml, c.nvmlInstance = some nvml ∧ nvml.nvmlExists = true ∧ nvml.productName ≠ ""
  ibstat : c.getIbstatOutputFunc = some getIbstat
  ibstatus : c.getIbstatusOutputFunc = some getIbstatus
  stored : c.eventBucket = some bucket

def resultAtRecord (now : Int) (thresholds : ExpectedPortStates)
    (ibstat : Option IbstatOutput × Option GoError) (ibstatus : Option IbstatusOutput × Option GoError) :
    CheckResult :=
  let cr := applySourceError {
    ts := now, ibstatusOutput := ibstatus.1, errIbstatus := ibstatus.2
    ibstatOutput := ibstat.1, err := ibstat.2 }
  evaluateThresholds { cr with allIBPorts := selectedPorts cr } thresholds

def Component.analyze (c : Component σ) (relTime : Int → Int → String) (dropOrder : RangeOrder Int)
    (flapOrder : RangeOrder (List String)) (s : σ) (cr : CheckResult) : CheckResult :=
  c.evaluateIbPortFlap flapOrder s (c.evaluateIbPortDrop relTime dropOrder s (evaluateIbSwitchFault cr))

theorem check_of_records {c : Component σ} {now : Int} {getIbstat getIbstatus} {bucket : Bucket σ}
    (records : Records c now getIbstat getIbstatus bucket) (relTime : Int → Int → String)
    (dropOrder : RangeOrder Int) (flapOrder : RangeOrder (List String)) (s : σ) :
    c.check relTime dropOrder flapOrder now s =
      let recorded := recordIbEvent bucket
        (resultAtRecord now (c.getThresholdsFunc now) (getIbstat now) (getIbstatus now)) s
      if recorded.2.2.isSome then (recorded.1, recorded.2.1)
      else (c.analyze relTime dropOrder flapOrder recorded.2.1 recorded.1, recorded.2.1) := by
  obtain ⟨policy, ⟨nvml, found, loaded, named⟩, ibstat, ibstatus, stored⟩ := records
  simp only [Component.check, policy, found, loaded, named, ibstat, ibstatus, stored, Bool.not_true,
    Bool.false_eq_true, if_false, resultAtRecord, Component.analyze]
  rcases recordIbEvent bucket _ s with ⟨_, _, _ | _⟩ <;> rfl

theorem applySourceError_eq (cr : CheckResult) :
    ∃ health reason, applySourceError cr = { cr with health := health, reason := reason } := by
  unfold applySourceError
  split
  · exact ⟨cr.health, cr.reason, rfl⟩
  · split <;> exact ⟨_, _, rfl⟩

theorem resultAtRecord_eq {thresholds : ExpectedPortStates} (nonzero : thresholds.isZero = false)
    (now : Int) (ibstat : Option IbstatOutput × Option GoError)
    (ibstatus : Option IbstatusOutput × Option GoError) :
    resultAtRecord now thresholds ibstat ibstatus =
      evaluateThresholds {
        ts := now, ibstatusOutput := ibstatus.1, errIbstatus := ibstatus.2
        ibstatOutput := ibstat.1, err := ibstat.2
        allIBPorts := selectedPorts { ts := now, ibstatusOutput := ibstatus.1, ibstatOutput := ibstat.1 } }
        thresholds := by
  obtain ⟨health, reason, eq⟩ := applySourceError_eq
    { ts := now, ibstatusOutput := ibstatus.1, errIbstatus := ibstatus.2, ibstatOutput := ibstat.1,
      err := ibstat.2 }
  rw [resultAtRecord, eq, evaluateThresholds_eq _ _ nonzero, evaluateThresholds_eq _ _ nonzero]
  rfl

theorem totalPorts_eq_length (cr : CheckResult) : totalPorts cr = (selectedPorts cr).length := by
  unfold totalPorts selectedPorts
  split <;> simp

theorem resultAtRecord_ports {thresholds : ExpectedPortStates} (nonzero : thresholds.isZero = false)
    (now : Int) (ibstat : Option IbstatOutput × Option GoError)
    (ibstatus : Option IbstatusOutput × Option GoError) :
    (resultAtRecord now thresholds ibstat ibstatus).allIBPorts =
        selectedPorts { ts := now, ibstatusOutput := ibstatus.1, ibstatOutput := ibstat.1 } ∧
      totalPorts (resultAtRecord now thresholds ibstat ibstatus) =
        (resultAtRecord now thresholds ibstat ibstatus).allIBPorts.length := by
  rw [resultAtRecord_eq nonzero, evaluateThresholds_eq _ _ nonzero]
  split_ifs <;> exact ⟨rfl, totalPorts_eq_length _⟩

theorem resultAtRecord_verdict {thresholds : ExpectedPortStates} (nonzero : thresholds.isZero = false)
    (now : Int) (ibstat : Option IbstatOutput × Option GoError)
    (ibstatus : Option IbstatusOutput × Option GoError) :
    let cr := resultAtRecord now thresholds ibstat ibstatus
    (cr.health = .unhealthy ↔ Violated cr.allIBPorts thresholds) ∧
    (cr.health = .unhealthy →
      cr.unhealthyIBPorts = cr.allIBPorts.filter (fun port => !portHealthy thresholds.atLeastRate port) ∧
      cr.suggestedActions = some hardwareInspection) ∧
    (cr.health ≠ .unhealthy →
      cr.health = .healthy ∧ cr.unhealthyIBPorts = [] ∧ cr.suggestedActions = none ∧
      (cr.allIBPorts = [] → cr.reason = reasonMissingIbstatIbstatusOutput) ∧
      (cr.allIBPorts ≠ [] → cr.err = none)) := by
  rw [resultAtRecord_eq nonzero, evaluateThresholds_eq _ _ nonzero]
  split_ifs with violated empty
  · exact ⟨iff_of_true rfl violated, fun _ => ⟨rfl, rfl⟩, fun unhealthy => absurd rfl unhealthy⟩
  · exact ⟨iff_of_false nofun violated, nofun, fun _ => ⟨rfl, rfl, rfl, fun _ => rfl, absurd empty⟩⟩
  all_goals
    exact ⟨iff_of_false nofun violated, nofun, fun _ => ⟨rfl, rfl, rfl, fun e => absurd e empty, fun _ => rfl⟩⟩

theorem resultAtRecord_err_of_no_ports {thresholds : ExpectedPortStates} (nonzero : thresholds.isZero = false)
    (now : Int) (ibstat : Option IbstatOutput × Option GoError)
    (ibstatus : Option IbstatusOutput × Option GoError)
    (empty : (resultAtRecord now thresholds ibstat ibstatus).allIBPorts = []) :
    (resultAtRecord now thresholds ibstat ibstatus).err = ibstat.2 := by
  rw [(resultAtRecord_ports nonzero now ibstat ibstatus).1] at empty
  rw [resultAtRecord_eq nonzero, evaluateThresholds_eq _ _ nonzero, if_neg fun violated => violated.1 empty,
    if_pos empty]

/-! ## The verdict a cycle publishes -/

/-- A result whose verdict agrees with the evidence it carries. -/
structure Consistent (cr : CheckResult) : Prop where
  decided : cr.health = .healthy ∨ cr.health = .unhealthy
  ports : cr.unhealthyIBPorts ≠ [] → cr.health = .unhealthy
  actions : cr.suggestedActions ≠ none → cr.health = .unhealthy
  switchFault : cr.reasonIbSwitchFault ≠ "" → cr.health = .unhealthy
  portDrop : cr.reasonIbPortDrop ≠ "" → cr.health = .unhealthy

structure Unjudged (cr : CheckResult) : Prop where
  ports : cr.unhealthyIBPorts = []
  actions : cr.suggestedActions = none
  switchFault : cr.reasonIbSwitchFault = ""
  portDrop : cr.reasonIbPortDrop = ""
  portFlap : cr.reasonIbPortFlap = ""

theorem Unjudged.consistent {cr : CheckResult} (h : Unjudged cr)
    (decided : cr.health = .healthy ∨ cr.health = .unhealthy) : Consistent cr :=
  ⟨decided, by simp [h.ports], by simp [h.actions], by simp [h.switchFault], by simp [h.portDrop]⟩

theorem Unjudged.applySourceError {cr : CheckResult} (h : Unjudged cr) :
    Unjudged (applySourceError cr) := by
  obtain ⟨health, reason, eq⟩ := applySourceError_eq cr
  rw [eq]
  exact ⟨h.ports, h.actions, h.switchFault, h.portDrop, h.portFlap⟩

theorem Unjudged.evaluateThresholds {cr : CheckResult} {thresholds : ExpectedPortStates}
    (h : Unjudged cr) (nonzero : thresholds.isZero = false) :
    Consistent (evaluateThresholds cr thresholds) ∧
      (evaluateThresholds cr thresholds).reasonIbSwitchFault = "" ∧
      (evaluateThresholds cr thresholds).reasonIbPortDrop = "" ∧
      (evaluateThresholds cr thresholds).reasonIbPortFlap = "" := by
  rw [evaluateThresholds_eq _ _ nonzero]
  split_ifs
  · exact ⟨⟨.inr rfl, fun _ => rfl, fun _ => rfl, fun _ => rfl, fun _ => rfl⟩, h.switchFault,
      h.portDrop, h.portFlap⟩
  · exact ⟨Unjudged.consistent ⟨h.ports, h.actions, h.switchFault, h.portDrop, h.portFlap⟩ (.inl rfl),
      h.switchFault, h.portDrop, h.portFlap⟩
  all_goals exact ⟨Unjudged.consistent ⟨rfl, rfl, h.switchFault, h.portDrop, h.portFlap⟩ (.inl rfl),
    h.switchFault, h.portDrop, h.portFlap⟩

theorem resultAtRecord_unjudged {thresholds : ExpectedPortStates} (nonzero : thresholds.isZero = false)
    (now : Int) (ibstat : Option IbstatOutput × Option GoError)
    (ibstatus : Option IbstatusOutput × Option GoError) :
    Consistent (resultAtRecord now thresholds ibstat ibstatus) ∧
      (resultAtRecord now thresholds ibstat ibstatus).reasonIbSwitchFault = "" ∧
      (resultAtRecord now thresholds ibstat ibstatus).reasonIbPortDrop = "" ∧
      (resultAtRecord now thresholds ibstat ibstatus).reasonIbPortFlap = "" := by
  rw [resultAtRecord_eq nonzero]
  exact Unjudged.evaluateThresholds ⟨rfl, rfl, rfl, rfl, rfl⟩ nonzero

theorem Consistent.recordIbEvent {cr : CheckResult} (h : Consistent cr) (bucket : Bucket σ) (s : σ) :
    Consistent (recordIbEvent bucket cr s).1 := by
  rcases recordIbEvent_cases bucket cr s with ⟨_, _, eq⟩ | ⟨_, _, _, eq⟩ | ⟨_, _, eq⟩ <;> rw [eq]
  · exact h
  · exact ⟨h.decided, h.ports, h.actions, h.switchFault, h.portDrop⟩
  · exact ⟨.inr rfl, fun _ => rfl, fun _ => rfl, fun _ => rfl, fun _ => rfl⟩

theorem recordIbEvent_reasons (bucket : Bucket σ) (cr : CheckResult) (s : σ) :
    (recordIbEvent bucket cr s).1.reasonIbSwitchFault = cr.reasonIbSwitchFault ∧
      (recordIbEvent bucket cr s).1.reasonIbPortDrop = cr.reasonIbPortDrop ∧
      (recordIbEvent bucket cr s).1.reasonIbPortFlap = cr.reasonIbPortFlap := by
  rcases recordIbEvent_cases bucket cr s with ⟨_, _, eq⟩ | ⟨_, _, _, eq⟩ | ⟨_, _, eq⟩ <;>
    exact eq ▸ ⟨rfl, rfl, rfl⟩

theorem Consistent.unhealthy_of_ne_healthy {cr : CheckResult} (h : Consistent cr)
    (notHealthy : cr.health ≠ .healthy) : cr.health = .unhealthy :=
  h.decided.resolve_left notHealthy

theorem Consistent.evaluateIbSwitchFault {cr : CheckResult} (h : Consistent cr) :
    Consistent (evaluateIbSwitchFault cr) := by
  unfold Infiniband.evaluateIbSwitchFault
  split_ifs with healthy
  · exact h
  · exact h
  · exact h
  · exact ⟨h.decided, h.ports, h.actions, fun _ => h.unhealthy_of_ne_healthy healthy, h.portDrop⟩

theorem evaluateIbPortDrop_healthy (c : Component σ) (relTime : Int → Int → String)
    (order : RangeOrder Int) (s : σ) {cr : CheckResult} (healthy : cr.health = .healthy) :
    c.evaluateIbPortDrop relTime order s cr = cr := by
  simp [Component.evaluateIbPortDrop, healthy]

theorem Consistent.evaluateIbPortDrop {cr : CheckResult} (h : Consistent cr) (c : Component σ)
    (relTime : Int → Int → String) (order : RangeOrder Int) (s : σ) :
    Consistent (c.evaluateIbPortDrop relTime order s cr) := by
  by_cases healthy : cr.health = .healthy
  · rwa [evaluateIbPortDrop_healthy c relTime order s healthy]
  · rcases evaluateIbPortDrop_cases c relTime order s cr with eq | ⟨_, _, _, _, eq⟩ <;> rw [eq]
    · exact h
    · exact ⟨h.decided, h.ports, h.actions, h.switchFault, fun _ => h.unhealthy_of_ne_healthy healthy⟩

theorem Consistent.evaluateIbPortFlap {cr : CheckResult} (h : Consistent cr) (c : Component σ)
    (order : RangeOrder (List String)) (s : σ) : Consistent (c.evaluateIbPortFlap order s cr) := by
  rcases evaluateIbPortFlap_cases c order s cr with eq | ⟨_, _, _, _, eq⟩ <;> rw [eq]
  · exact h
  · exact ⟨h.decided, h.ports, h.actions, h.switchFault, h.portDrop⟩

theorem Consistent.analyze {cr : CheckResult} (h : Consistent cr) (c : Component σ)
    (relTime : Int → Int → String) (dropOrder : RangeOrder Int) (flapOrder : RangeOrder (List String))
    (s : σ) : Consistent (c.analyze relTime dropOrder flapOrder s cr) :=
  ((h.evaluateIbSwitchFault.evaluateIbPortDrop c relTime dropOrder s).evaluateIbPortFlap c flapOrder s)

theorem check_cases (c : Component σ) (relTime : Int → Int → String) (dropOrder : RangeOrder Int)
    (flapOrder : RangeOrder (List String)) (now : Int) (s : σ) :
    (Unjudged (c.check relTime dropOrder flapOrder now s).1 ∧
      (c.check relTime dropOrder flapOrder now s).1.health = .healthy ∧
      (c.check relTime dropOrder flapOrder now s).2 = s) ∨
    ∃ getIbstat getIbstatus bucket, Records c now getIbstat getIbstatus bucket := by
  have fresh (reason : String) : Unjudged { ts := now, health := .healthy, reason := reason } :=
    ⟨rfl, rfl, rfl, rfl, rfl⟩
  by_cases policy : (c.getThresholdsFunc now).isZero = true
  · left; simp only [Component.check, policy, if_true, and_true]; exact fresh _
  rcases found : c.nvmlInstance with _ | ⟨loaded, name⟩
  · left; simp only [Component.check, policy, found, if_false, Bool.false_eq_true, and_true]; exact fresh _
  cases loaded
  · left; simp only [Component.check, policy, found, Bool.false_eq_true, if_false, if_true, Bool.not_false, and_true]
    exact fresh _
  by_cases named : name = ""
  · left; simp only [Component.check, policy, found, named, Bool.false_eq_true, if_false, if_true, Bool.not_true, and_true]
    exact fresh _
  rcases ibstat : c.getIbstatOutputFunc with _ | getIbstat
  · left; simp only [Component.check, policy, found, named, ibstat, if_false, Bool.false_eq_true,
      Bool.not_true, and_true]
    exact fresh _
  rcases ibstatus : c.getIbstatusOutputFunc with _ | getIbstatus
  · left; simp only [Component.check, policy, found, named, ibstat, ibstatus, if_false,
      Bool.false_eq_true, Bool.not_true, and_true]
    exact fresh _
  rcases stored : c.eventBucket with _ | bucket
  · left
    simp only [Component.check, policy, found, named, ibstat, ibstatus, stored, if_false,
      Bool.false_eq_true, Bool.not_true, and_true]
    have base : Unjudged {
        ts := now, ibstatusOutput := (getIbstatus now).1, errIbstatus := (getIbstatus now).2
        ibstatOutput := (getIbstat now).1, err := (getIbstat now).2 } := ⟨rfl, rfl, rfl, rfl, rfl⟩
    have := base.applySourceError
    exact ⟨this.ports, this.actions, this.switchFault, this.portDrop, this.portFlap⟩
  · exact .inr ⟨getIbstat, getIbstatus, bucket, ⟨by simpa using policy, ⟨_, found, rfl, named⟩, ibstat,
      ibstatus, stored⟩⟩

/-- Whatever the policy, the GPU, the sources and the store do, the published result is decided
and its verdict agrees with its evidence; a failed record leaves every temporal reason empty;
and without a policy the cycle is healthy and touches no store. -/
theorem check_publishes_consistent_verdict (c : Component σ) (relTime : Int → Int → String)
    (dropOrder : RangeOrder Int) (flapOrder : RangeOrder (List String)) (now : Int) (s : σ) :
    Consistent (c.check relTime dropOrder flapOrder now s).1 ∧
    (∀ getIbstat getIbstatus bucket, Records c now getIbstat getIbstatus bucket →
      (recordIbEvent bucket (resultAtRecord now (c.getThresholdsFunc now) (getIbstat now)
        (getIbstatus now)) s).2.2 ≠ none →
      (c.check relTime dropOrder flapOrder now s).1.reasonIbSwitchFault = "" ∧
      (c.check relTime dropOrder flapOrder now s).1.reasonIbPortDrop = "" ∧
      (c.check relTime dropOrder flapOrder now s).1.reasonIbPortFlap = "") ∧
    ((c.getThresholdsFunc now).isZero = true →
      c.check relTime dropOrder flapOrder now s =
        ({ ts := now, reason := reasonThresholdNotSetSkipped, health := .healthy }, s)) := by
  refine ⟨?_, fun getIbstat getIbstatus bucket records failed => ?_,
    fun zero => by simp [Component.check, zero]⟩
  · rcases check_cases c relTime dropOrder flapOrder now s with ⟨unjudged, healthy, -⟩ |
      ⟨getIbstat, getIbstatus, bucket, records⟩
    · exact unjudged.consistent (.inl healthy)
    · have recorded := (resultAtRecord_unjudged records.policy now (getIbstat now)
        (getIbstatus now)).1.recordIbEvent bucket s
      rw [check_of_records records]
      dsimp only
      split_ifs
      · exact recorded
      · exact recorded.analyze c relTime dropOrder flapOrder _
  · obtain ⟨-, switchFault, portDrop, portFlap⟩ :=
      resultAtRecord_unjudged records.policy now (getIbstat now) (getIbstatus now)
    obtain ⟨keptSwitchFault, keptPortDrop, keptPortFlap⟩ := recordIbEvent_reasons bucket
      (resultAtRecord now (c.getThresholdsFunc now) (getIbstat now) (getIbstatus now)) s
    rw [check_of_records records]
    dsimp only
    rw [if_pos (Option.isSome_iff_ne_none.mpr failed)]
    exact ⟨keptSwitchFault.trans switchFault, keptPortDrop.trans portDrop, keptPortFlap.trans portFlap⟩

def node (thresholds : ExpectedPortStates) (ibstat : Option IbstatOutput × Option GoError)
    (ibstatus : Option IbstatusOutput × Option GoError) : Component (List Event) where
  nvmlInstance := some ⟨true, "NVIDIA GPU"⟩
  eventBucket := some memoryBucket
  getIbstatOutputFunc := some fun _ => ibstat
  getIbstatusOutputFunc := some fun _ => ibstatus
  getThresholdsFunc := fun _ => thresholds

theorem node_records {thresholds : ExpectedPortStates} (nonzero : thresholds.isZero = false) (now : Int)
    (ibstat : Option IbstatOutput × Option GoError) (ibstatus : Option IbstatusOutput × Option GoError) :
    Records (node thresholds ibstat ibstatus) now (fun _ => ibstat) (fun _ => ibstatus) memoryBucket :=
  ⟨nonzero, ⟨_, rfl, rfl, by decide⟩, rfl, rfl, rfl⟩

/-! ## After a successful record -/

theorem evaluateIbSwitchFault_eq (cr : CheckResult) :
    evaluateIbSwitchFault cr =
      if cr.health ≠ .healthy ∧ cr.unhealthyIBPorts ≠ [] ∧ cr.unhealthyIBPorts.length = totalPorts cr then
        { cr with reasonIbSwitchFault := "ib switch fault, all ports down" }
      else cr := by
  unfold evaluateIbSwitchFault
  by_cases healthy : cr.health = .healthy
  · simp [healthy]
  by_cases listed : cr.unhealthyIBPorts = []
  · simp [healthy, listed]
  have : cr.unhealthyIBPorts.length ≠ 0 := by simpa using listed
  by_cases same : cr.unhealthyIBPorts.length = totalPorts cr
  · simp [healthy, listed, same]; omega
  · simp [healthy, listed, same]

theorem evaluateIbSwitchFault_keeps (cr : CheckResult) :
    (evaluateIbSwitchFault cr).health = cr.health ∧ (evaluateIbSwitchFault cr).ts = cr.ts := by
  rw [evaluateIbSwitchFault_eq]
  split_ifs <;> exact ⟨rfl, rfl⟩

theorem switchFault_condition_iff {cr : CheckResult} {atLeastRate : Int}
    (decided : cr.health = .healthy ∨ cr.health = .unhealthy)
    (failing : cr.health = .unhealthy →
      cr.unhealthyIBPorts = cr.allIBPorts.filter fun port => !portHealthy atLeastRate port)
    (total : totalPorts cr = cr.allIBPorts.length) :
    (cr.health ≠ .healthy ∧ cr.unhealthyIBPorts ≠ [] ∧ cr.unhealthyIBPorts.length = totalPorts cr) ↔
      cr.health = .unhealthy ∧ cr.allIBPorts ≠ [] ∧
        ∀ port ∈ cr.allIBPorts, portHealthy atLeastRate port = false := by
  rw [total]
  constructor
  · rintro ⟨notHealthy, listed, same⟩
    have unhealthy := decided.resolve_left notHealthy
    rw [failing unhealthy] at listed same
    refine ⟨unhealthy, fun empty => listed (by simp [empty]), fun port mem => ?_⟩
    simpa using List.filter_length_eq_length.mp same port mem
  · rintro ⟨unhealthy, listed, allFail⟩
    have kept : cr.allIBPorts.filter (fun port => !portHealthy atLeastRate port) = cr.allIBPorts :=
      List.filter_eq_self.mpr fun port mem => by simp [allFail port mem]
    rw [failing unhealthy, kept]
    exact ⟨by simp [unhealthy], listed, rfl⟩

theorem analyze_eq (c : Component σ) (relTime : Int → Int → String) (dropOrder : RangeOrder Int)
    (flapOrder : RangeOrder (List String)) (s : σ) (cr : CheckResult) :
    ∃ drop flap, c.analyze relTime dropOrder flapOrder s cr =
      { evaluateIbSwitchFault cr with reasonIbPortDrop := drop, reasonIbPortFlap := flap } := by
  unfold Component.analyze
  rcases evaluateIbPortDrop_cases c relTime dropOrder s (evaluateIbSwitchFault cr) with
    dropped | ⟨_, _, _, _, dropped⟩ <;> rw [dropped] <;>
    rcases evaluateIbPortFlap_cases c flapOrder s _ with flapped | ⟨_, _, _, _, flapped⟩ <;> rw [flapped]
  all_goals exact ⟨_, _, rfl⟩

theorem analyze_keeps (c : Component σ) (relTime : Int → Int → String) (dropOrder : RangeOrder Int)
    (flapOrder : RangeOrder (List String)) (s : σ) (cr : CheckResult) :
    (c.analyze relTime dropOrder flapOrder s cr).allIBPorts = cr.allIBPorts ∧
      (c.analyze relTime dropOrder flapOrder s cr).health = cr.health ∧
      (c.analyze relTime dropOrder flapOrder s cr).reasonIbPortDrop =
        (c.evaluateIbPortDrop relTime dropOrder s (evaluateIbSwitchFault cr)).reasonIbPortDrop := by
  have flapped := evaluateIbPortFlap_cases c flapOrder s
    (c.evaluateIbPortDrop relTime dropOrder s (evaluateIbSwitchFault cr))
  unfold Component.analyze
  rcases evaluateIbPortDrop_cases c relTime dropOrder s (evaluateIbSwitchFault cr) with dropped | ⟨_, _, _, _, dropped⟩ <;>
    rcases flapped with flapEq | ⟨_, _, _, _, flapEq⟩ <;> rw [flapEq, dropped] <;>
    rw [evaluateIbSwitchFault_eq] <;> split_ifs <;> exact ⟨rfl, rfl, rfl⟩

theorem check_of_recorded {c : Component σ} {now : Int} {getIbstat getIbstatus} {bucket : Bucket σ}
    (records : Records c now getIbstat getIbstatus bucket) (relTime : Int → Int → String)
    (dropOrder : RangeOrder Int) (flapOrder : RangeOrder (List String)) (s : σ)
    (recorded : (recordIbEvent bucket (resultAtRecord now (c.getThresholdsFunc now) (getIbstat now)
      (getIbstatus now)) s).2.2 = none) :
    ∃ err s', (err = (resultAtRecord now (c.getThresholdsFunc now) (getIbstat now) (getIbstatus now)).err ∨
        err = none) ∧
      c.check relTime dropOrder flapOrder now s =
        (c.analyze relTime dropOrder flapOrder s'
          { resultAtRecord now (c.getThresholdsFunc now) (getIbstat now) (getIbstatus now) with err := err }, s') := by
  rw [check_of_records records]
  rcases recordIbEvent_cases bucket
    (resultAtRecord now (c.getThresholdsFunc now) (getIbstat now) (getIbstatus now)) s with
    ⟨_, _, eq⟩ | ⟨s', _, _, eq⟩ | ⟨_, _, eq⟩ <;> rw [eq] at recorded ⊢
  · exact ⟨_, s, .inl rfl, rfl⟩
  · exact ⟨none, s', .inr rfl, rfl⟩
  · exact absurd recorded nofun

/-- In a cycle that reaches the analyzers, the switch-fault reason is set exactly when the
verdict is Unhealthy and every evaluated port, of at least one, fails the policy: the count the
detector compares against, taken from the selected output, is the number of ports evaluated. -/
theorem check_switchFault_iff_all_ports_fail {c : Component σ} {now : Int} {getIbstat getIbstatus}
    {bucket : Bucket σ} (records : Records c now getIbstat getIbstatus bucket)
    (relTime : Int → Int → String) (dropOrder : RangeOrder Int) (flapOrder : RangeOrder (List String))
    (s : σ) (recorded : (recordIbEvent bucket (resultAtRecord now (c.getThresholdsFunc now)
      (getIbstat now) (getIbstatus now)) s).2.2 = none) :
    totalPorts (c.check relTime dropOrder flapOrder now s).1 =
        (c.check relTime dropOrder flapOrder now s).1.allIBPorts.length ∧
      ((c.check relTime dropOrder flapOrder now s).1.reasonIbSwitchFault ≠ "" ↔
        (c.check relTime dropOrder flapOrder now s).1.health = .unhealthy ∧
        (c.check relTime dropOrder flapOrder now s).1.allIBPorts ≠ [] ∧
        ∀ port ∈ (c.check relTime dropOrder flapOrder now s).1.allIBPorts,
          portHealthy (c.getThresholdsFunc now).atLeastRate port = false) := by
  obtain ⟨err, s', -, checked⟩ := check_of_recorded records relTime dropOrder flapOrder s recorded
  obtain ⟨drop, flap, analyzed⟩ := analyze_eq c relTime dropOrder flapOrder s'
    { resultAtRecord now (c.getThresholdsFunc now) (getIbstat now) (getIbstatus now) with err := err }
  obtain ⟨consistent, unset, -, -⟩ :=
    resultAtRecord_unjudged records.policy now (getIbstat now) (getIbstatus now)
  obtain ⟨-, total⟩ := resultAtRecord_ports records.policy now (getIbstat now) (getIbstatus now)
  obtain ⟨-, failing, -⟩ := resultAtRecord_verdict records.policy now (getIbstat now) (getIbstatus now)
  have condition := switchFault_condition_iff consistent.decided (fun h => (failing h).1) total
  rw [checked]
  dsimp only
  rw [analyzed, evaluateIbSwitchFault_eq]
  split_ifs with fault
  · exact ⟨total, iff_of_true (show "ib switch fault, all ports down" ≠ "" by decide) (condition.mp fault)⟩
  · exact ⟨total, iff_of_false (not_not.mpr unset) (fault ∘ condition.mpr)⟩

theorem check_switchFault_at_one_down_port :
    let ibstat : Option IbstatOutput × Option GoError := (some ⟨[⟨"mlx5_0", ⟨"Down", "Disabled", 0⟩⟩]⟩, none)
    let n := node ⟨1, 100⟩ ibstat (none, none)
    let run := (n.check (fun _ _ => "") (.inserted _) (.inserted _) minute []).1
    Records n minute (fun _ => ibstat) (fun _ => (none, none)) memoryBucket ∧
    (recordIbEvent memoryBucket (resultAtRecord minute ⟨1, 100⟩ ibstat (none, none)) []).2.2 = none ∧
    totalPorts run = run.allIBPorts.length ∧
    (run.reasonIbSwitchFault ≠ "" ↔ run.health = .unhealthy ∧ run.allIBPorts ≠ [] ∧
      ∀ port ∈ run.allIBPorts, portHealthy 100 port = false) :=
  ⟨node_records (by decide) _ _ _, memoryBucket_recorded _ _,
    check_switchFault_iff_all_ports_fail (node_records (by decide) _ _ _) _ _ _ _ (memoryBucket_recorded _ _)⟩

theorem check_verdict_of_recorded {c : Component σ} {now : Int} {getIbstat getIbstatus}
    {bucket : Bucket σ} (records : Records c now getIbstat getIbstatus bucket)
    (relTime : Int → Int → String) (dropOrder : RangeOrder Int) (flapOrder : RangeOrder (List String))
    (s : σ) (recorded : (recordIbEvent bucket (resultAtRecord now (c.getThresholdsFunc now)
      (getIbstat now) (getIbstatus now)) s).2.2 = none) :
    let cr := (c.check relTime dropOrder flapOrder now s).1
    let recordedResult := resultAtRecord now (c.getThresholdsFunc now) (getIbstat now) (getIbstatus now)
    cr.allIBPorts = recordedResult.allIBPorts ∧ cr.health = recordedResult.health ∧
      cr.unhealthyIBPorts = recordedResult.unhealthyIBPorts ∧
      cr.suggestedActions = recordedResult.suggestedActions ∧ cr.reason = recordedResult.reason ∧
      (cr.err = recordedResult.err ∨ cr.err = none) := by
  obtain ⟨err, s', kept, checked⟩ := check_of_recorded records relTime dropOrder flapOrder s recorded
  obtain ⟨drop, flap, analyzed⟩ := analyze_eq c relTime dropOrder flapOrder s'
    { resultAtRecord now (c.getThresholdsFunc now) (getIbstat now) (getIbstatus now) with err := err }
  dsimp only
  rw [checked]
  dsimp only
  rw [analyzed, evaluateIbSwitchFault_eq]
  split_ifs <;> exact ⟨rfl, rfl, rfl, rfl, rfl, kept⟩

/-- A cycle that records its event evaluates the selected ports: the primary's when it returned
some, the fallback's when the primary returned no output. With no ports it is healthy with the
missing-output reason; otherwise it is unhealthy exactly when too few ports are Active at the
policy's rate, and then lists the failing ports and asks for a hardware inspection; healthy, it
lists none, asks for nothing and drops the primary's error. -/
theorem check_evaluates_selected_ports {c : Component σ} {now : Int} {getIbstat getIbstatus}
    {bucket : Bucket σ} (records : Records c now getIbstat getIbstatus bucket)
    (relTime : Int → Int → String) (dropOrder : RangeOrder Int) (flapOrder : RangeOrder (List String))
    (s : σ) (recorded : (recordIbEvent bucket (resultAtRecord now (c.getThresholdsFunc now)
      (getIbstat now) (getIbstatus now)) s).2.2 = none) :
    let cr := (c.check relTime dropOrder flapOrder now s).1
    let thresholds := c.getThresholdsFunc now
    ((getIbstat now).1 = none → cr.allIBPorts = ((getIbstatus now).1.map IbstatusOutput.ibPorts).getD []) ∧
    (∀ output, (getIbstat now).1 = some output → output.ibPorts ≠ [] → cr.allIBPorts = output.ibPorts) ∧
    (cr.allIBPorts = [] →
      cr.health = .healthy ∧ cr.reason = reasonMissingIbstatIbstatusOutput ∧
      cr.unhealthyIBPorts = [] ∧ cr.suggestedActions = none ∧
      (resultAtRecord now thresholds (getIbstat now) (getIbstatus now)).err = (getIbstat now).2 ∧
      (cr.err = (getIbstat now).2 ∨ cr.err = none)) ∧
    (cr.allIBPorts ≠ [] →
      (cr.health = .unhealthy ↔
        healthyPortCount cr.allIBPorts thresholds.atLeastRate < thresholds.atLeastPorts) ∧
      (cr.health = .unhealthy →
        cr.unhealthyIBPorts = cr.allIBPorts.filter (fun port => !portHealthy thresholds.atLeastRate port) ∧
        cr.suggestedActions = some hardwareInspection) ∧
      (cr.health = .healthy → cr.unhealthyIBPorts = [] ∧ cr.suggestedActions = none ∧ cr.err = none)) := by
  obtain ⟨ports, health, unhealthy, actions, reason, err⟩ :=
    check_verdict_of_recorded records relTime dropOrder flapOrder s recorded
  obtain ⟨selected, -⟩ := resultAtRecord_ports records.policy now (getIbstat now) (getIbstatus now)
  obtain ⟨violation, failing, passing⟩ :=
    resultAtRecord_verdict records.policy now (getIbstat now) (getIbstatus now)
  dsimp only at ports health unhealthy actions reason err ⊢
  rw [ports, health, unhealthy, actions, reason]
  refine ⟨fun absent => ?_, fun output present listed => ?_, fun empty => ?_, fun listed => ?_⟩
  · rw [selected]
    cases (getIbstatus now).1 <;> simp [selectedPorts, absent]
  · simp [selected, selectedPorts, present]
  · obtain ⟨healthy, noPorts, noActions, missing, -⟩ := passing fun unhealthy => (violation.mp unhealthy).1 empty
    have kept := resultAtRecord_err_of_no_ports records.policy now _ _ empty
    exact ⟨healthy, missing empty, noPorts, noActions, kept, err.imp_left (·.trans kept)⟩
  · refine ⟨violation.trans (and_iff_right listed), failing, fun healthy => ?_⟩
    obtain ⟨-, noPorts, noActions, -, cleared⟩ := passing (by simp [healthy])
    exact ⟨noPorts, noActions, err.elim (·.trans (cleared listed)) id⟩

theorem check_evaluates_selected_ports_of_partial_output :
    let ibstat : Option IbstatOutput × Option GoError :=
      (some ⟨[⟨"mlx5_0", ⟨"Active", "LinkUp", 400⟩⟩]⟩, some ⟨"exit status 255", false⟩)
    let n := node ⟨1, 100⟩ ibstat (none, none)
    let cr := (n.check (fun _ _ => "") (.inserted _) (.inserted _) minute []).1
    Records n minute (fun _ => ibstat) (fun _ => (none, none)) memoryBucket ∧
    (recordIbEvent memoryBucket (resultAtRecord minute ⟨1, 100⟩ ibstat (none, none)) []).2.2 = none ∧
    (ibstat.1 = none → cr.allIBPorts = ((none : Option IbstatusOutput).map IbstatusOutput.ibPorts).getD []) ∧
    (∀ output, ibstat.1 = some output → output.ibPorts ≠ [] → cr.allIBPorts = output.ibPorts) ∧
    (cr.allIBPorts = [] →
      cr.health = .healthy ∧ cr.reason = reasonMissingIbstatIbstatusOutput ∧
      cr.unhealthyIBPorts = [] ∧ cr.suggestedActions = none ∧
      (resultAtRecord minute ⟨1, 100⟩ ibstat (none, none)).err = ibstat.2 ∧
      (cr.err = ibstat.2 ∨ cr.err = none)) ∧
    (cr.allIBPorts ≠ [] →
      (cr.health = .unhealthy ↔ healthyPortCount cr.allIBPorts 100 < 1) ∧
      (cr.health = .unhealthy →
        cr.unhealthyIBPorts = cr.allIBPorts.filter (fun port => !portHealthy 100 port) ∧
        cr.suggestedActions = some hardwareInspection) ∧
      (cr.health = .healthy → cr.unhealthyIBPorts = [] ∧ cr.suggestedActions = none ∧ cr.err = none)) :=
  ⟨node_records (by decide) _ _ _, memoryBucket_recorded _ _,
    check_evaluates_selected_ports (node_records (by decide) _ _ _) _ _ _ _ (memoryBucket_recorded _ _)⟩

/-- `ibstat` fails with no output, `ibstatus` returns nothing, and the store already holds the
event this cycle records: every store call succeeds and the verdict is healthy, yet the primary
error is published. -/
theorem check_keeps_ibstat_error_without_ports :
    let failure : GoError := ⟨"exit status 255", false⟩
    let n := node ⟨1, 100⟩ (none, some failure) (none, none)
    let stored : Event := ⟨minute, "ibstat", eventTypeInfo, reasonMissingIbstatIbstatusOutput,
      [("all_ibports", "[]")]⟩
    let cr := (n.check (fun _ _ => "") (.inserted _) (.inserted _) minute [stored]).1
    Records n minute (fun _ => (none, some failure)) (fun _ => (none, none)) memoryBucket ∧
    (recordIbEvent memoryBucket (resultAtRecord minute ⟨1, 100⟩ (none, some failure) (none, none))
      [stored]).2.2 = none ∧
    cr.allIBPorts = [] ∧ cr.health = .healthy ∧ cr.err = some failure ∧
    cr.getError = "exit status 255" :=
  ⟨node_records (by decide) _ _ _, memoryBucket_recorded _ _, by decide⟩

def CheckResult.withoutErrors (cr : CheckResult) : CheckResult :=
  { cr with err := none, errIbstatus := none }

theorem applySourceError_overwritten (cr : CheckResult) (health : HealthStateType) (reason : String) :
    { applySourceError cr with health := health, reason := reason } =
      { cr with health := health, reason := reason } := by
  obtain ⟨_, _, eq⟩ := applySourceError_eq cr
  rw [eq]

theorem resultAtRecord_withoutErrors {thresholds : ExpectedPortStates}
    (nonzero : thresholds.isZero = false) (now : Int) (output : Option IbstatOutput)
    (err err' : Option GoError) (ibstatus : Option IbstatusOutput × Option GoError) :
    (resultAtRecord now thresholds (output, err) ibstatus).withoutErrors =
      (resultAtRecord now thresholds (output, err') ibstatus).withoutErrors := by
  rw [resultAtRecord_eq nonzero, resultAtRecord_eq nonzero, evaluateThresholds_eq _ _ nonzero,
    evaluateThresholds_eq _ _ nonzero]
  split_ifs <;> rfl

theorem recordIbEvent_withoutErrors (bucket : Bucket σ) {cr cr' : CheckResult} (s : σ)
    (same : cr.withoutErrors = cr'.withoutErrors) :
    (recordIbEvent bucket cr s).2 = (recordIbEvent bucket cr' s).2 ∧
      (recordIbEvent bucket cr s).1.withoutErrors = (recordIbEvent bucket cr' s).1.withoutErrors := by
  have event := congrArg convertToIbstatEvent same
  change convertToIbstatEvent cr = convertToIbstatEvent cr' at event
  dsimp only [recordIbEvent]
  rw [← event]
  rcases bucket.find s (convertToIbstatEvent cr) with _ | _ | _
  · exact ⟨rfl, congrArg (fun r => { r with health := .unhealthy, reason := "error finding ibstat event" }) same⟩
  · rcases bucket.insert s (convertToIbstatEvent cr) with _ | _
    · exact ⟨rfl, congrArg (fun r => { r with health := .unhealthy, reason := "error inserting ibstat event" }) same⟩
    · exact ⟨rfl, same⟩
  · exact ⟨rfl, same⟩

theorem evaluateIbSwitchFault_withoutErrors (cr : CheckResult) :
    evaluateIbSwitchFault cr.withoutErrors = (evaluateIbSwitchFault cr).withoutErrors := by
  rw [evaluateIbSwitchFault_eq, evaluateIbSwitchFault_eq, apply_ite CheckResult.withoutErrors]
  rfl

theorem evaluateIbPortDrop_withoutErrors (c : Component σ) (relTime : Int → Int → String)
    (order : RangeOrder Int) (s : σ) (cr : CheckResult) :
    c.evaluateIbPortDrop relTime order s cr.withoutErrors =
      (c.evaluateIbPortDrop relTime order s cr).withoutErrors := by
  unfold Component.evaluateIbPortDrop
  simp only [CheckResult.withoutErrors]
  repeat' split
  all_goals rfl

theorem evaluateIbPortFlap_withoutErrors (c : Component σ) (order : RangeOrder (List String)) (s : σ)
    (cr : CheckResult) :
    c.evaluateIbPortFlap order s cr.withoutErrors = (c.evaluateIbPortFlap order s cr).withoutErrors := by
  unfold Component.evaluateIbPortFlap
  simp only [CheckResult.withoutErrors]
  repeat' split
  all_goals rfl

theorem analyze_withoutErrors (c : Component σ) (relTime : Int → Int → String)
    (dropOrder : RangeOrder Int) (flapOrder : RangeOrder (List String)) (s : σ) {cr cr' : CheckResult}
    (same : cr.withoutErrors = cr'.withoutErrors) :
    (c.analyze relTime dropOrder flapOrder s cr).withoutErrors =
      (c.analyze relTime dropOrder flapOrder s cr').withoutErrors := by
  simp only [Component.analyze, ← evaluateIbSwitchFault_withoutErrors, ← evaluateIbPortDrop_withoutErrors,
    ← evaluateIbPortFlap_withoutErrors, same]

/-- Whatever error `ibstat` returns beside its output, `Check` publishes the same verdict,
reasons and ports and leaves the store the same: the verdict `applySourceError` sets for the
error is always overwritten, and only the published errors differ. -/
theorem check_ibstat_error_only_reaches_errors (c : Component σ) (relTime : Int → Int → String)
    (dropOrder : RangeOrder Int) (flapOrder : RangeOrder (List String)) (now : Int) (s : σ)
    (output : Option IbstatOutput) (err err' : Option GoError) :
    ({ c with getIbstatOutputFunc := some fun _ => (output, err) }.check relTime dropOrder flapOrder now s).2 =
      ({ c with getIbstatOutputFunc := some fun _ => (output, err') }.check relTime dropOrder flapOrder
        now s).2 ∧
    ({ c with getIbstatOutputFunc := some fun _ => (output, err) }.check relTime dropOrder flapOrder
        now s).1.withoutErrors =
      ({ c with getIbstatOutputFunc := some fun _ => (output, err') }.check relTime dropOrder flapOrder
        now s).1.withoutErrors := by
  by_cases policy : (c.getThresholdsFunc now).isZero = true
  · simp [Component.check, policy]
  rcases Option.eq_none_or_eq_some c.nvmlInstance with found | ⟨nvml, found⟩
  · simp [Component.check, policy, found]
  by_cases loaded : nvml.nvmlExists = true
  swap
  · simp [Component.check, policy, found, loaded]
  by_cases named : nvml.productName = ""
  · simp [Component.check, policy, found, loaded, named]
  rcases Option.eq_none_or_eq_some c.getIbstatusOutputFunc with ibstatus | ⟨getIbstatus, ibstatus⟩
  · simp [Component.check, policy, found, loaded, named, ibstatus]
  rcases Option.eq_none_or_eq_some c.eventBucket with stored | ⟨bucket, stored⟩
  · simp only [Component.check, policy, found, loaded, named, ibstatus, stored, Bool.not_true,
      Bool.false_eq_true, if_false, applySourceError_overwritten, true_and]
    rfl
  · have records : Records { c with getIbstatOutputFunc := some fun _ => (output, err) } now
        (fun _ => (output, err)) getIbstatus bucket :=
      ⟨by simpa using policy, ⟨_, found, loaded, named⟩, rfl, ibstatus, stored⟩
    have records' : Records { c with getIbstatOutputFunc := some fun _ => (output, err') } now
        (fun _ => (output, err')) getIbstatus bucket :=
      ⟨by simpa using policy, ⟨_, found, loaded, named⟩, rfl, ibstatus, stored⟩
    rw [check_of_records records, check_of_records records']
    obtain ⟨sameState, sameResult⟩ := recordIbEvent_withoutErrors bucket s
      (resultAtRecord_withoutErrors records.policy now output err err' (getIbstatus now))
    dsimp only
    rw [sameState]
    split_ifs
    · exact ⟨rfl, sameResult⟩
    · exact ⟨rfl, analyze_withoutErrors c relTime dropOrder flapOrder _ sameResult⟩

/-- `ibstat` is not installed and `ibstatus` lists one Down port: the cycle is unhealthy and
inserts its event. -/
theorem check_evaluates_fallback_without_ibstat :
    let notFound : GoError := ⟨"ibstat not found", true⟩
    let n := node ⟨1, 100⟩ (none, some notFound) (some ⟨[⟨"mlx5_0", "Down", "Disabled", 0⟩]⟩, none)
    let run := n.check (fun _ _ => "") (.inserted _) (.inserted _) minute []
    notFound.isNoIbstatCommand = true ∧ run.1.health = .unhealthy ∧ run.2.length = 1 := by
  decide

/-- Under a policy, the event a cycle records is Info while its verdict is Unhealthy exactly when
the policy is violated by a port list whose every port passes: too few ports, all healthy. -/
theorem resultAtRecord_info_while_unhealthy_iff {thresholds : ExpectedPortStates}
    (nonzero : thresholds.isZero = false) (now : Int) (ibstat : Option IbstatOutput × Option GoError)
    (ibstatus : Option IbstatusOutput × Option GoError) :
    let cr := resultAtRecord now thresholds ibstat ibstatus
    (convertToIbstatEvent cr).type = eventTypeInfo ∧ cr.health = .unhealthy ↔
      Violated cr.allIBPorts thresholds ∧ ∀ port ∈ cr.allIBPorts, portHealthy thresholds.atLeastRate port = true := by
  obtain ⟨violation, failing, -⟩ := resultAtRecord_verdict nonzero now ibstat ibstatus
  dsimp only at violation failing ⊢
  constructor
  · rintro ⟨info, unhealthy⟩
    have listed : (resultAtRecord now thresholds ibstat ibstatus).unhealthyIBPorts = [] := by
      by_contra nonempty
      simp [convertToIbstatEvent, nonempty, eventTypeInfo, eventTypeWarning] at info
    rw [(failing unhealthy).1, List.filter_eq_nil_iff] at listed
    exact ⟨violation.mp unhealthy, fun port mem => by simpa using listed port mem⟩
  · rintro ⟨violated, allPass⟩
    have unhealthy := violation.mpr violated
    refine ⟨?_, unhealthy⟩
    have : (resultAtRecord now thresholds ibstat ibstatus).unhealthyIBPorts = [] := by
      rw [(failing unhealthy).1, List.filter_eq_nil_iff]
      simp +contextual [allPass]
    simp [convertToIbstatEvent, this]

theorem resultAtRecord_info_while_unhealthy_one_port :
    (⟨2, 100⟩ : ExpectedPortStates).isZero = false ∧
    ((convertToIbstatEvent (resultAtRecord minute ⟨2, 100⟩
        (some ⟨[⟨"mlx5_0", ⟨"Active", "LinkUp", 400⟩⟩]⟩, none) (none, none))).type = eventTypeInfo ∧
      (resultAtRecord minute ⟨2, 100⟩ (some ⟨[⟨"mlx5_0", ⟨"Active", "LinkUp", 400⟩⟩]⟩, none)
        (none, none)).health = .unhealthy ↔
      Violated (resultAtRecord minute ⟨2, 100⟩ (some ⟨[⟨"mlx5_0", ⟨"Active", "LinkUp", 400⟩⟩]⟩, none)
        (none, none)).allIBPorts ⟨2, 100⟩ ∧
      ∀ port ∈ (resultAtRecord minute ⟨2, 100⟩ (some ⟨[⟨"mlx5_0", ⟨"Active", "LinkUp", 400⟩⟩]⟩, none)
        (none, none)).allIBPorts, portHealthy (⟨2, 100⟩ : ExpectedPortStates).atLeastRate port = true) :=
  ⟨by decide, resultAtRecord_info_while_unhealthy_iff (by decide) _ _ _⟩

def shortPortList : Component (List Event) :=
  node ⟨2, 100⟩ (some ⟨[⟨"mlx5_0", ⟨"Active", "LinkUp", 400⟩⟩]⟩, none) (none, none)

/-- On that node the cycle is Unhealthy, the event it inserts is Info, and `Events` does not
show it. -/
theorem check_records_unhealthy_cycle_as_info :
    (shortPortList.check (fun _ _ => "") (.inserted _) (.inserted _) minute []).1.health = .unhealthy ∧
    (shortPortList.check (fun _ _ => "") (.inserted _) (.inserted _) minute []).2.map (·.type) =
      [eventTypeInfo] ∧
    shortPortList.events (shortPortList.check (fun _ _ => "") (.inserted _) (.inserted _) minute []).2 0 =
      .ok [] :=
  ⟨by decide, by decide, rfl⟩

end Infiniband
