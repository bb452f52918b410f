import InfinibandCheck.History

/-!
What the component publishes: `IsSupported`, and `LastHealthStates`, which reads the result
`Check`'s deferred write stores on every path out of the cycle. A component that `IsSupported`
rejects, or that has no event store, never writes the store and stays Healthy; in a run whose
store works, no error is ever published, since the successful `Insert` in `recordIbEvent`
overwrites the error the cycle carried; and over a store that does not fail, a stricter policy
never turns an Unhealthy cycle Healthy.
-/

namespace Infiniband

variable {σ : Type}

def Component.isSupported (c : Component σ) : Bool :=
  match c.nvmlInstance with
  | none => false
  | some nvml => nvml.nvmlExists && nvml.productName != ""

theorem Records.isSupported {c : Component σ} {now : Int} {getIbstat getIbstatus} {bucket : Bucket σ}
    (records : Records c now getIbstat getIbstatus bucket) : c.isSupported = true := by
  obtain ⟨nvml, found, loaded, named⟩ := records.gpu
  simp [Component.isSupported, found, loaded, named]

theorem check_idle {c : Component σ} (idle : c.isSupported = false ∨ c.eventBucket = none)
    (relTime : Int → Int → String) (dropOrder : RangeOrder Int) (flapOrder : RangeOrder (List String))
    (now : Int) (s : σ) :
    Unjudged (c.check relTime dropOrder flapOrder now s).1 ∧
      (c.check relTime dropOrder flapOrder now s).1.health = .healthy ∧
      (c.check relTime dropOrder flapOrder now s).2 = s :=
  (check_cases c relTime dropOrder flapOrder now s).resolve_right fun ⟨_, _, _, records⟩ =>
    idle.elim (by simp [records.isSupported]) (by simp [records.stored])

theorem analyze_err (c : Component σ) (relTime : Int → Int → String) (dropOrder : RangeOrder Int)
    (flapOrder : RangeOrder (List String)) (s : σ) (cr : CheckResult) :
    (c.analyze relTime dropOrder flapOrder s cr).err = cr.err := by
  obtain ⟨drop, flap, analyzed⟩ := analyze_eq c relTime dropOrder flapOrder s cr
  rw [analyzed, evaluateIbSwitchFault_eq]
  split_ifs <;> rfl

theorem resultAtRecord_stricter {thresholds thresholds' : ExpectedPortStates}
    (nonzero : thresholds.isZero = false) (nonzero' : thresholds'.isZero = false)
    (morePorts : thresholds.atLeastPorts ≤ thresholds'.atLeastPorts)
    (higher : thresholds.atLeastRate ≤ thresholds'.atLeastRate) (now : Int)
    (ibstat : Option IbstatOutput × Option GoError) (ibstatus : Option IbstatusOutput × Option GoError)
    (unhealthy : (resultAtRecord now thresholds ibstat ibstatus).health = .unhealthy) :
    (resultAtRecord now thresholds' ibstat ibstatus).health = .unhealthy ∧
      List.Sublist (resultAtRecord now thresholds ibstat ibstatus).unhealthyIBPorts
        (resultAtRecord now thresholds' ibstat ibstatus).unhealthyIBPorts := by
  obtain ⟨violation, failing, -⟩ := resultAtRecord_verdict nonzero now ibstat ibstatus
  obtain ⟨violation', failing', -⟩ := resultAtRecord_verdict nonzero' now ibstat ibstatus
  have same : (resultAtRecord now thresholds ibstat ibstatus).allIBPorts =
      (resultAtRecord now thresholds' ibstat ibstatus).allIBPorts :=
    (resultAtRecord_ports nonzero now ibstat ibstatus).1.trans
      (resultAtRecord_ports nonzero' now ibstat ibstatus).1.symm
  have unhealthy' := violation'.mpr (same ▸ (violation.mp unhealthy).mono morePorts higher)
  refine ⟨unhealthy', ?_⟩
  rw [(failing unhealthy).1, (failing' unhealthy').1, same]
  refine List.monotone_filter_right _ fun port fails => ?_
  simp only [Bool.not_eq_true', ← Bool.not_eq_true] at fails ⊢
  exact mt (portHealthy_of_le higher) fails

theorem OrderedStore.recorded {bucket : Bucket σ} {contents : σ → List Event}
    (store : OrderedStore bucket contents) (cr : CheckResult) (s : σ) :
    (recordIbEvent bucket cr s).2.2 = none := by
  obtain ⟨s', inserted, -⟩ := store.insert s (convertToIbstatEvent cr)
  simp only [recordIbEvent, store.find]
  cases (contents s).find? (· == convertToIbstatEvent cr) <;> simp [inserted]

/-- Over a store that does not fail, a stricter policy never hides a problem: a cycle that is
Unhealthy stays Unhealthy under any nonzero policy that asks for as many ports at as high a rate,
and keeps listing each port it listed as unhealthy. -/
theorem check_stricter_policy {c : Component σ} {bucket : Bucket σ} {contents : σ → List Event}
    (store : OrderedStore bucket contents) (configured : c.eventBucket = some bucket)
    (stricter : Int → ExpectedPortStates) (nonzero : ∀ t, (stricter t).isZero = false)
    (morePorts : ∀ t, (c.getThresholdsFunc t).atLeastPorts ≤ (stricter t).atLeastPorts)
    (higher : ∀ t, (c.getThresholdsFunc t).atLeastRate ≤ (stricter t).atLeastRate)
    (relTime : Int → Int → String) (dropOrder : RangeOrder Int) (flapOrder : RangeOrder (List String))
    (now : Int) (s : σ) (unhealthy : (c.check relTime dropOrder flapOrder now s).1.health = .unhealthy) :
    ({ c with getThresholdsFunc := stricter }.check relTime dropOrder flapOrder now s).1.health =
        .unhealthy ∧
      List.Sublist (c.check relTime dropOrder flapOrder now s).1.unhealthyIBPorts
        ({ c with getThresholdsFunc := stricter }.check relTime dropOrder flapOrder now s).1.unhealthyIBPorts := by
  rcases check_cases c relTime dropOrder flapOrder now s with ⟨-, healthy, -⟩ |
    ⟨getIbstat, getIbstatus, bucket', records⟩
  · exact absurd (healthy.symm.trans unhealthy) nofun
  obtain rfl : bucket = bucket' := Option.some.inj (configured.symm.trans records.stored)
  have records' : Records { c with getThresholdsFunc := stricter } now getIbstat getIbstatus bucket :=
    ⟨nonzero now, records.gpu, records.ibstat, records.ibstatus, records.stored⟩
  obtain ⟨-, health, ports, -⟩ :=
    check_verdict_of_recorded records relTime dropOrder flapOrder s (store.recorded _ s)
  obtain ⟨-, health', ports', -⟩ :=
    check_verdict_of_recorded records' relTime dropOrder flapOrder s (store.recorded _ s)
  dsimp only at health ports health' ports'
  rw [health] at unhealthy
  rw [health', ports, ports']
  exact resultAtRecord_stricter records.policy (nonzero now) (morePorts now) (higher now) now _ _ unhealthy

theorem node_stricter_policy :
    let n := node ⟨1, 100⟩ (some ⟨[⟨"mlx5_0", ⟨"Down", "Disabled", 0⟩⟩]⟩, none) (none, none)
    let n' := { n with getThresholdsFunc := fun _ => ⟨2, 200⟩ }
    (n.check (fun _ _ => "") (.inserted _) (.inserted _) minute []).1.health = .unhealthy ∧
    (n'.check (fun _ _ => "") (.inserted _) (.inserted _) minute []).1.health = .unhealthy ∧
      List.Sublist (n.check (fun _ _ => "") (.inserted _) (.inserted _) minute []).1.unhealthyIBPorts
        (n'.check (fun _ _ => "") (.inserted _) (.inserted _) minute []).1.unhealthyIBPorts :=
  have unhealthy : ((node ⟨1, 100⟩ (some ⟨[⟨"mlx5_0", ⟨"Down", "Disabled", 0⟩⟩]⟩, none) (none, none)).check
      (fun _ _ => "") (.inserted _) (.inserted _) minute []).1.health = .unhealthy := by decide
  ⟨unhealthy, check_stricter_policy memoryBucket_ordered rfl (fun _ => ⟨2, 200⟩) (fun _ => rfl)
    (fun _ => show (1 : Int) ≤ 2 by decide) (fun _ => show (100 : Int) ≤ 200 by decide) _ _ _ _ _ unhealthy⟩

namespace Run

variable {r : Run σ}

/-- `LastHealthStates`, read after `n` cycles. `Check` stores its result in a deferred call, so
whichever way a cycle returns, the state read is the last cycle's, or "no data yet". -/
def lastHealthStates (r : Run σ) (now : Int) : ℕ → HealthState
  | 0 => healthStates now none
  | j + 1 => healthStates now (some (r.result j))

theorem store_idle (idle : r.component.isSupported = false ∨ r.component.eventBucket = none) :
    ∀ j, r.store j = r.initial
  | 0 => rfl
  | j + 1 => (check_idle idle _ _ _ _ _).2.2.trans (store_idle idle j)

/-- A run of a component that `IsSupported` rejects, or that has no event store, as in a one-off
scan: the store stays as it was, and every cycle is Healthy, with no failing port, no action and
no temporal reason. -/
theorem quiet_of_unsupported (idle : r.component.isSupported = false ∨ r.component.eventBucket = none)
    (j : ℕ) : r.store j = r.initial ∧ (r.result j).health = .healthy ∧ Unjudged (r.result j) :=
  ⟨store_idle idle j, (check_idle idle _ _ _ _ _).2.1, (check_idle idle _ _ _ _ _).1⟩

def scanRun : Run (List Event) :=
  { downRun with component := { downRun.component with eventBucket := none } }

theorem scanRun_quiet :
    scanRun.component.eventBucket = none ∧
      scanRun.store 3 = scanRun.initial ∧ (scanRun.result 3).health = .healthy ∧ Unjudged (scanRun.result 3) :=
  ⟨rfl, quiet_of_unsupported (.inr rfl) 3⟩

variable {getIbstat : Int → Option IbstatOutput × Option GoError}
  {getIbstatus : Int → Option IbstatusOutput × Option GoError} {bucket : Bucket σ}
  {contents : σ → List Event}

/-- In a run whose store works, `LastHealthStates` never reports an error, whatever `ibstat`
returns: every cycle inserts a new event, and the successful `Insert` overwrites the cycle's
error with its own nil. -/
theorem Regular.lastHealthStates_no_error (regular : r.Regular getIbstat getIbstatus bucket contents)
    (now : Int) : ∀ n, (r.lastHealthStates now n).error = ""
  | 0 => rfl
  | j + 1 => by
    show (r.result j).getError = ""
    rw [regular.result_eq, CheckResult.getError, analyze_err]

def failingRun : Run (List Event) :=
  { downRun with
    component := node ⟨1, 100⟩
      (some ⟨[⟨"mlx5_0", ⟨"Down", "Disabled", 0⟩⟩]⟩, some ⟨"exit status 255", false⟩) (none, none) }

theorem failingRun_lastHealthStates_no_error :
    failingRun.Regular (fun _ => (some ⟨[⟨"mlx5_0", ⟨"Down", "Disabled", 0⟩⟩]⟩, some ⟨"exit status 255", false⟩))
      (fun _ => (none, none)) memoryBucket id ∧ (failingRun.lastHealthStates minute 4).error = "" :=
  have regular : failingRun.Regular
      (fun _ => (some ⟨[⟨"mlx5_0", ⟨"Down", "Disabled", 0⟩⟩]⟩, some ⟨"exit status 255", false⟩))
      (fun _ => (none, none)) memoryBucket id :=
    ⟨memoryBucket_ordered, fun _ => node_records (by decide) _ _ _, downRun_regular.increasing,
      downRun_regular.started, downRun_regular.cadence, nofun⟩
  ⟨regular, regular.lastHealthStates_no_error minute 4⟩

end Run

end Infiniband
