import InfinibandCheck.Check

/-!
The three analyzers `Check` runs on the result it recorded: `evaluateIbSwitchFault`,
`evaluateIbPortDrop` and `evaluateIbPortFlap`. Each reads the verdict, the timestamp, the
unhealthy ports, the tool outputs and the store, and writes nothing but its own reason field.
From these two frame facts alone, any two analyzers commute, and any order of the three gives
what `Check`'s order gives. Go's map range orders enter as before: each call may range in its
own order.
-/

namespace Infiniband

variable {σ : Type}

structure AnalyzerInput where
  health : HealthStateType
  ts : Int
  unhealthyIBPorts : List IBPort
  ibstatOutput : Option IbstatOutput
  ibstatusOutput : Option IbstatusOutput

def CheckResult.analyzerInput (cr : CheckResult) : AnalyzerInput :=
  ⟨cr.health, cr.ts, cr.unhealthyIBPorts, cr.ibstatOutput, cr.ibstatusOutput⟩

theorem CheckResult.analyzerInput_eq_iff {cr cr' : CheckResult} :
    cr.analyzerInput = cr'.analyzerInput ↔ cr.health = cr'.health ∧ cr.ts = cr'.ts ∧
      cr.unhealthyIBPorts = cr'.unhealthyIBPorts ∧ cr.ibstatOutput = cr'.ibstatOutput ∧
      cr.ibstatusOutput = cr'.ibstatusOutput := by
  simp only [CheckResult.analyzerInput, AnalyzerInput.mk.injEq]

inductive Analyzer where
  | switchFault
  | portDrop
  | portFlap
  deriving DecidableEq, Repr

def Analyzer.all : List Analyzer := [.switchFault, .portDrop, .portFlap]

def Analyzer.run (c : Component σ) (relTime : Int → Int → String) (dropOrder : RangeOrder Int)
    (flapOrder : RangeOrder (List String)) (s : σ) : Analyzer → CheckResult → CheckResult
  | .switchFault => evaluateIbSwitchFault
  | .portDrop => c.evaluateIbPortDrop relTime dropOrder s
  | .portFlap => c.evaluateIbPortFlap flapOrder s

def Analyzer.reason : Analyzer → CheckResult → String
  | .switchFault, cr => cr.reasonIbSwitchFault
  | .portDrop, cr => cr.reasonIbPortDrop
  | .portFlap, cr => cr.reasonIbPortFlap

def Analyzer.setReason : Analyzer → CheckResult → String → CheckResult
  | .switchFault, cr, r => { cr with reasonIbSwitchFault := r }
  | .portDrop, cr, r => { cr with reasonIbPortDrop := r }
  | .portFlap, cr, r => { cr with reasonIbPortFlap := r }

/-- `f` writes only analyzer `a`'s reason field, and reads only the analyzer inputs: two results
that agree on them are both left as they are, or both given the same reason. -/
structure Analyzer.Frames (a : Analyzer) (f : CheckResult → CheckResult) : Prop where
  writes : ∀ cr, f cr = a.setReason cr (a.reason (f cr))
  reads : ∀ cr cr', cr.analyzerInput = cr'.analyzerInput →
    (f cr = cr ∧ f cr' = cr') ∨ a.reason (f cr) = a.reason (f cr')

namespace Analyzer

@[simp] theorem setReason_analyzerInput (a : Analyzer) (cr : CheckResult) (r : String) :
    (a.setReason cr r).analyzerInput = cr.analyzerInput := by
  cases a <;> rfl

theorem reason_setReason_of_ne {a b : Analyzer} (distinct : a ≠ b) (cr : CheckResult) (r : String) :
    a.reason (b.setReason cr r) = a.reason cr := by
  cases a <;> cases b <;> first | rfl | exact absurd rfl distinct

theorem setReason_comm {a b : Analyzer} (distinct : a ≠ b) (cr : CheckResult) (r r' : String) :
    a.setReason (b.setReason cr r') r = b.setReason (a.setReason cr r) r' := by
  cases a <;> cases b <;> first | rfl | exact absurd rfl distinct

variable {a b : Analyzer} {f g : CheckResult → CheckResult}

theorem Frames.analyzerInput (frames : a.Frames f) (cr : CheckResult) :
    (f cr).analyzerInput = cr.analyzerInput := by
  rw [frames.writes cr, setReason_analyzerInput]

theorem Frames.reason_eq (frames : a.Frames f) {cr cr' : CheckResult}
    (same : cr.analyzerInput = cr'.analyzerInput) (kept : a.reason cr = a.reason cr') :
    a.reason (f cr) = a.reason (f cr') := by
  rcases frames.reads cr cr' same with ⟨unchanged, unchanged'⟩ | decided
  · rw [unchanged, unchanged', kept]
  · exact decided

theorem Frames.comm (framesF : a.Frames f) (framesG : b.Frames g) (distinct : a ≠ b) (cr : CheckResult) :
    f (g cr) = g (f cr) := by
  have fReason : a.reason (f (g cr)) = a.reason (f cr) := framesF.reason_eq (framesG.analyzerInput cr)
    (by rw [framesG.writes cr, reason_setReason_of_ne distinct])
  have gReason : b.reason (g (f cr)) = b.reason (g cr) := framesG.reason_eq (framesF.analyzerInput cr)
    (by rw [framesF.writes cr, reason_setReason_of_ne (Ne.symm distinct)])
  calc f (g cr)
      = a.setReason (g cr) (a.reason (f cr)) := by rw [← fReason]; exact framesF.writes (g cr)
    _ = a.setReason (b.setReason cr (b.reason (g cr))) (a.reason (f cr)) := by rw [← framesG.writes cr]
    _ = b.setReason (a.setReason cr (a.reason (f cr))) (b.reason (g cr)) := setReason_comm distinct _ _ _
    _ = b.setReason (f cr) (b.reason (g (f cr))) := by rw [← framesF.writes cr, gReason]
    _ = g (f cr) := (framesG.writes (f cr)).symm

end Analyzer

theorem evaluateIbSwitchFault_frames : Analyzer.switchFault.Frames evaluateIbSwitchFault := by
  constructor
  · intro cr
    rw [evaluateIbSwitchFault_eq]
    split_ifs <;> rfl
  · intro cr cr' same
    obtain ⟨health, -, unhealthy, ibstat, ibstatus⟩ := CheckResult.analyzerInput_eq_iff.mp same
    have total : totalPorts cr = totalPorts cr' := by rw [totalPorts, totalPorts, ibstat, ibstatus]
    rw [evaluateIbSwitchFault_eq, evaluateIbSwitchFault_eq, health, unhealthy, total]
    split_ifs
    · exact .inr rfl
    · exact .inl ⟨rfl, rfl⟩

theorem evaluateIbPortDrop_frames (c : Component σ) (relTime : Int → Int → String) (order : RangeOrder Int)
    (s : σ) : Analyzer.portDrop.Frames (c.evaluateIbPortDrop relTime order s) := by
  constructor
  · intro cr
    rcases evaluateIbPortDrop_cases c relTime order s cr with same | ⟨_, _, _, _, same⟩ <;> rw [same] <;> rfl
  · intro cr cr' same
    obtain ⟨health, ts, -⟩ := CheckResult.analyzerInput_eq_iff.mp same
    unfold Component.evaluateIbPortDrop
    rw [health, ts]
    repeat' split
    all_goals first | exact .inl ⟨rfl, rfl⟩ | exact .inr rfl

theorem evaluateIbPortFlap_frames (c : Component σ) (order : RangeOrder (List String)) (s : σ) :
    Analyzer.portFlap.Frames (c.evaluateIbPortFlap order s) := by
  constructor
  · intro cr
    rcases evaluateIbPortFlap_cases c order s cr with same | ⟨_, _, _, _, same⟩ <;> rw [same] <;> rfl
  · intro cr cr' same
    obtain ⟨-, ts, -⟩ := CheckResult.analyzerInput_eq_iff.mp same
    unfold Component.evaluateIbPortFlap
    rw [ts]
    repeat' split
    all_goals first | exact .inl ⟨rfl, rfl⟩ | exact .inr rfl

theorem Analyzer.run_frames (c : Component σ) (relTime : Int → Int → String) (dropOrder : RangeOrder Int)
    (flapOrder : RangeOrder (List String)) (s : σ) :
    ∀ a : Analyzer, a.Frames (a.run c relTime dropOrder flapOrder s)
  | .switchFault => evaluateIbSwitchFault_frames
  | .portDrop => evaluateIbPortDrop_frames c relTime dropOrder s
  | .portFlap => evaluateIbPortFlap_frames c flapOrder s

theorem analyze_map_order (c : Component σ) (relTime : Int → Int → String) (s : σ) (cr : CheckResult)
    (dropOrder dropOrder' : RangeOrder Int) (flapOrder flapOrder' : RangeOrder (List String)) :
    c.analyze relTime dropOrder flapOrder s cr = c.analyze relTime dropOrder' flapOrder' s cr := by
  rw [Component.analyze, Component.analyze, evaluateIbPortDrop_map_order c relTime s _ dropOrder dropOrder',
    evaluateIbPortFlap_map_order c s _ flapOrder flapOrder']

/-- The three analyzers run in any order, on any check result and store, give the result
`Check`'s order gives, whatever order each call ranges its maps in: each writes only its own reason
field and reads only the verdict, the timestamp, the unhealthy ports, the tool outputs and the
store. -/
theorem analyzers_independent_of_order (c : Component σ) (relTime : Int → Int → String) (s : σ) :
    (∀ order : List Analyzer, order.Perm Analyzer.all →
      ∀ (dropOrder dropOrder' : RangeOrder Int) (flapOrder flapOrder' : RangeOrder (List String))
        (cr : CheckResult),
        order.foldl (fun cr a => a.run c relTime dropOrder flapOrder s cr) cr =
          c.analyze relTime dropOrder' flapOrder' s cr) ∧
    ∀ (dropOrder : RangeOrder Int) (flapOrder : RangeOrder (List String)) (a : Analyzer),
      a.Frames (a.run c relTime dropOrder flapOrder s) := by
  refine ⟨fun order perm dropOrder dropOrder' flapOrder flapOrder' cr => ?_, fun dropOrder flapOrder => Analyzer.run_frames c relTime dropOrder flapOrder s⟩
  have frames := Analyzer.run_frames c relTime dropOrder flapOrder s
  calc order.foldl (fun cr a => a.run c relTime dropOrder flapOrder s cr) cr
      = Analyzer.all.foldl (fun cr a => a.run c relTime dropOrder flapOrder s cr) cr :=
        perm.foldl_eq' (fun a _ b _ cr => by
          by_cases same : a = b
          · rw [same]
          · exact ((frames a).comm (frames b) same cr).symm) cr
    _ = c.analyze relTime dropOrder flapOrder s cr := rfl
    _ = c.analyze relTime dropOrder' flapOrder' s cr := analyze_map_order c relTime s cr _ _ _ _

end Infiniband
