import InfinibandCheck.Analyzers
import InfinibandCheck.Run

/-!
The event store over runs of the component. `Check` reaches the store only through
`recordIbEvent`, which looks the cycle's event up and inserts it only when no equal event is
held. So, whatever the tools, the policy and the cycle times, the store only grows by
appending, by at most one ibstat event per cycle stamped at the cycle's time, and it never comes
to hold two equal events. When the cycle times increase it stays in time order, the order
`readAllIbstatEvents` takes it to be in. In a regular run, `Events` reports exactly the cycles
that found an unhealthy port.
-/

namespace Infiniband

variable {σ : Type} {bucket : Bucket σ} {contents : σ → List Event}

theorem check_store_of_records {c : Component σ} {now : Int} {getIbstat getIbstatus}
    (records : Records c now getIbstat getIbstatus bucket) (relTime : Int → Int → String)
    (dropOrder : RangeOrder Int) (flapOrder : RangeOrder (List String)) (s : σ) :
    (c.check relTime dropOrder flapOrder now s).2 =
      (recordIbEvent bucket (resultAtRecord now (c.getThresholdsFunc now) (getIbstat now)
        (getIbstatus now)) s).2.1 := by
  rw [check_of_records records]
  dsimp only
  split_ifs <;> rfl

/-- Modelled from the spec: a store whose calls may fail, and that otherwise behaves as
`OrderedStore` has it. A failed call is a returned error, and the caller keeps the store state
it had. -/
structure FallibleStore (bucket : Bucket σ) (contents : σ → List Event) : Prop where
  find : ∀ s ev, (∃ e, bucket.find s ev = .error e) ∨ bucket.find s ev = .ok ((contents s).find? (· == ev))
  insert : ∀ s ev, (∃ e, bucket.insert s ev = .error e) ∨
    ∃ s', bucket.insert s ev = .ok s' ∧ contents s' = contents s ++ [ev]

theorem OrderedStore.fallible (store : OrderedStore bucket contents) : FallibleStore bucket contents :=
  ⟨fun s ev => .inr (store.find s ev), fun s ev => .inr (store.insert s ev)⟩

theorem check_contents_cases (store : FallibleStore bucket contents) {c : Component σ}
    (configured : c.eventBucket = some bucket) (relTime : Int → Int → String)
    (dropOrder : RangeOrder Int) (flapOrder : RangeOrder (List String)) (now : Int) (s : σ) :
    contents (c.check relTime dropOrder flapOrder now s).2 = contents s ∨
      ∃ ev, ev ∉ contents s ∧ ev.name = "ibstat" ∧ ev.time = now ∧
        contents (c.check relTime dropOrder flapOrder now s).2 = contents s ++ [ev] := by
  rcases check_cases c relTime dropOrder flapOrder now s with ⟨-, -, same⟩ |
    ⟨getIbstat, getIbstatus, bucket', records⟩
  · exact .inl (congrArg contents same)
  obtain rfl : bucket' = bucket := Option.some.inj (records.stored.symm.trans configured)
  rw [check_store_of_records records]
  rcases recordIbEvent_cases bucket' (resultAtRecord now (c.getThresholdsFunc now) (getIbstat now)
      (getIbstatus now)) s with ⟨-, -, kept⟩ | ⟨s', absent, inserted, recorded⟩ | ⟨_, _, failed⟩
  · exact .inl (by rw [kept])
  · obtain ⟨e, failed⟩ | ⟨s'', inserted', appended⟩ := store.insert s (convertToIbstatEvent _)
    · exact absurd (inserted.symm.trans failed) nofun
    obtain rfl : s' = s'' := Except.ok.inj (inserted.symm.trans inserted')
    obtain ⟨e, failed⟩ | held := store.find s (convertToIbstatEvent _)
    · exact absurd (absent.symm.trans failed) nofun
    rw [held, Except.ok.injEq, List.find?_eq_none] at absent
    refine .inr ⟨_, fun held => absurd (beq_self_eq_true _) (absent _ held), rfl,
      resultAtRecord_ts records.policy _ _ _, ?_⟩
    rw [recorded, appended]
  · exact .inl (by rw [failed])

namespace Run

variable {r : Run σ}

theorem downRun_regular : downRun.Regular (fun _ => (some ⟨[⟨"mlx5_0", ⟨"Down", "Disabled", 0⟩⟩]⟩, none))
    (fun _ => (none, none)) memoryBucket id :=
  ⟨memoryBucket_ordered, fun _ => node_records (by decide) _ _ _,
    fun j => by simp only [downRun, minute]; omega,
    by simp only [downRun, minute]; omega, fun j => by simp only [downRun, minute]; omega, nofun⟩

theorem store_step (store : FallibleStore bucket contents) (configured : r.component.eventBucket = some bucket)
    (j : ℕ) :
    contents (r.store (j + 1)) = contents (r.store j) ∨
      ∃ ev, ev ∉ contents (r.store j) ∧ ev.name = "ibstat" ∧ ev.time = r.times j ∧
        contents (r.store (j + 1)) = contents (r.store j) ++ [ev] :=
  check_contents_cases store configured _ _ _ _ _

/-- Over any run, the store only grows by appending: after `n` more cycles it holds what it held,
then at most `n` events, each an ibstat event stamped at the time of one of those cycles. -/
theorem store_appends (store : FallibleStore bucket contents)
    (configured : r.component.eventBucket = some bucket) (j : ℕ) :
    ∀ n, ∃ added, contents (r.store (j + n)) = contents (r.store j) ++ added ∧ added.length ≤ n ∧
      ∀ ev ∈ added, ev.name = "ibstat" ∧ ∃ m < n, ev.time = r.times (j + m)
  | 0 => ⟨[], by simp, le_rfl, nofun⟩
  | n + 1 => by
    obtain ⟨added, grown, short, stamped⟩ := store_appends store configured j n
    rcases store_step store configured (j + n) with same | ⟨ev, -, named, timed, appended⟩
    · exact ⟨added, by rw [← Nat.add_assoc, same, grown], by omega,
        fun ev held => (stamped ev held).imp_right fun ⟨m, below, at_m⟩ => ⟨m, by omega, at_m⟩⟩
    · refine ⟨added ++ [ev], by rw [← Nat.add_assoc, appended, grown, List.append_assoc],
        by simp only [List.length_append, List.length_singleton]; omega, fun ev' held => ?_⟩
      rcases List.mem_append.mp held with old | new
      · exact (stamped ev' old).imp_right fun ⟨m, below, at_m⟩ => ⟨m, by omega, at_m⟩
      · obtain rfl := List.mem_singleton.mp new
        exact ⟨named, n, by omega, timed⟩

theorem downRun_store_appends : FallibleStore memoryBucket id ∧
    downRun.component.eventBucket = some memoryBucket ∧
    ∃ added, id (downRun.store (0 + 5)) = id (downRun.store 0) ++ added ∧ added.length ≤ 5 ∧
      ∀ ev ∈ added, ev.name = "ibstat" ∧ ∃ m < 5, ev.time = downRun.times (0 + m) :=
  ⟨memoryBucket_ordered.fallible, rfl,
    store_appends (r := downRun) memoryBucket_ordered.fallible rfl 0 5⟩

/-- Over any run, the store never comes to hold two equal events. -/
theorem store_nodup (store : FallibleStore bucket contents)
    (configured : r.component.eventBucket = some bucket) (distinct : (contents r.initial).Nodup) :
    ∀ j, (contents (r.store j)).Nodup
  | 0 => distinct
  | j + 1 => by
    rcases store_step store configured j with same | ⟨ev, fresh, -, -, appended⟩
    · rw [same]
      exact store_nodup store configured distinct j
    · rw [appended, List.nodup_append]
      exact ⟨store_nodup store configured distinct j, List.nodup_singleton ev,
        List.disjoint_singleton.mpr fresh⟩

theorem downRun_store_nodup : FallibleStore memoryBucket id ∧
    downRun.component.eventBucket = some memoryBucket ∧ (id downRun.initial).Nodup ∧
    (id (downRun.store 5)).Nodup :=
  ⟨memoryBucket_ordered.fallible, rfl, List.nodup_nil,
    store_nodup (r := downRun) memoryBucket_ordered.fallible rfl List.nodup_nil 5⟩

/-- Over any run whose cycle times increase, from a store in time order that holds only events
older than the first cycle, the store stays in time order, every event older than the next
cycle. -/
theorem store_time_ordered (store : FallibleStore bucket contents)
    (configured : r.component.eventBucket = some bucket) (increasing : ∀ j, r.times j < r.times (j + 1))
    (ordered : (contents r.initial).Pairwise (·.time ≤ ·.time))
    (before : ∀ ev ∈ contents r.initial, ev.time < r.times 0) :
    ∀ j, (contents (r.store j)).Pairwise (·.time ≤ ·.time) ∧ ∀ ev ∈ contents (r.store j), ev.time < r.times j
  | 0 => ⟨ordered, before⟩
  | j + 1 => by
    obtain ⟨sorted, older⟩ := store_time_ordered store configured increasing ordered before j
    have later := increasing j
    rcases store_step store configured j with same | ⟨ev, -, -, timed, appended⟩
    · rw [same]
      exact ⟨sorted, fun ev' held => (older ev' held).trans later⟩
    · rw [appended, List.pairwise_append]
      refine ⟨⟨sorted, List.pairwise_singleton _ _, fun ev' held _ new => ?_⟩, fun ev' held => ?_⟩
      · rw [List.mem_singleton.mp new, timed]
        exact (older ev' held).le
      · rcases List.mem_append.mp held with old | new
        · exact (older ev' old).trans later
        · rw [List.mem_singleton.mp new, timed]
          exact later

theorem downRun_store_time_ordered : FallibleStore memoryBucket id ∧
    downRun.component.eventBucket = some memoryBucket ∧ (∀ j, downRun.times j < downRun.times (j + 1)) ∧
    (id downRun.initial).Pairwise (·.time ≤ ·.time) ∧ (∀ ev ∈ id downRun.initial, ev.time < downRun.times 0) ∧
    ((id (downRun.store 5)).Pairwise (·.time ≤ ·.time) ∧ ∀ ev ∈ id (downRun.store 5), ev.time < downRun.times 5) :=
  ⟨memoryBucket_ordered.fallible, rfl, downRun_regular.increasing, List.Pairwise.nil, nofun,
    store_time_ordered memoryBucket_ordered.fallible rfl downRun_regular.increasing List.Pairwise.nil nofun 5⟩

theorem convertToIbstatEvent_info (cr : CheckResult) :
    ((convertToIbstatEvent cr).name == "ibstat" && (convertToIbstatEvent cr).type == eventTypeInfo) =
      cr.unhealthyIBPorts.isEmpty := by
  cases h : cr.unhealthyIBPorts <;> simp [convertToIbstatEvent, h, eventTypeInfo, eventTypeWarning]

variable {getIbstat : Int → Option IbstatOutput × Option GoError}
  {getIbstatus : Int → Option IbstatusOutput × Option GoError}

/-- In a regular run, `Events since`, read before cycle `n`, lists the events the store first
held since `since` that are not Info ibstat records, then, in cycle order, the event of each
earlier cycle stamped at or after `since` that found an unhealthy port, and of no other cycle. -/
theorem Regular.events_eq (regular : r.Regular getIbstat getIbstatus bucket contents) (n : ℕ)
    (since : Int) :
    r.component.events (r.store n) since = .ok
      (((contents r.initial).filter (since ≤ ·.time)).filter
          (fun ev => !(ev.name == "ibstat" && ev.type == eventTypeInfo)) ++
        ((List.range n).filter fun j =>
          since ≤ r.times j ∧ (r.recorded getIbstat getIbstatus j).unhealthyIBPorts ≠ []).map
          (r.event getIbstat getIbstatus)) := by
  simp only [Component.events, (regular.records 0).stored, regular.ordered.get, Except.map,
    regular.contents_store, List.filter_append, List.filter_map, List.filter_filter]
  congr 3
  refine List.filter_congr fun j _ => ?_
  simp only [Function.comp, convertToIbstatEvent_info, regular.event_time]
  cases h : (r.recorded getIbstat getIbstatus j).unhealthyIBPorts <;> simp [h, Bool.and_comm]

theorem downRun_events_eq : downRun.Regular (fun _ => (some ⟨[⟨"mlx5_0", ⟨"Down", "Disabled", 0⟩⟩]⟩, none))
      (fun _ => (none, none)) memoryBucket id ∧
    downRun.component.events (downRun.store 5) minute = .ok
      (((id downRun.initial).filter (minute ≤ ·.time)).filter
          (fun ev => !(ev.name == "ibstat" && ev.type == eventTypeInfo)) ++
        ((List.range 5).filter fun j => minute ≤ downRun.times j ∧
          (downRun.recorded (fun _ => (some ⟨[⟨"mlx5_0", ⟨"Down", "Disabled", 0⟩⟩]⟩, none))
            (fun _ => (none, none)) j).unhealthyIBPorts ≠ []).map
          (downRun.event (fun _ => (some ⟨[⟨"mlx5_0", ⟨"Down", "Disabled", 0⟩⟩]⟩, none)) (fun _ => (none, none)))) :=
  ⟨downRun_regular, Regular.events_eq downRun_regular 5 minute⟩

/-! ## What the drop analyzer reads back -/

def dropReadings (r : Run σ) (contents : σ → List Event) (j : ℕ) : List (Int × IBPort) :=
  readings ((contents (r.store (j + 1))).filter (Time.add (r.times j) (-10 * minute) ≤ ·.time))

theorem Regular.events_ordered (regular : r.Regular getIbstat getIbstatus bucket contents) (n : ℕ) :
    (contents (r.store n)).Pairwise fun ev ev' => r.times 0 ≤ ev.time → ev.time ≤ ev'.time := by
  rw [regular.contents_store, List.pairwise_append, List.pairwise_map]
  have initial (ev) (held : ev ∈ contents r.initial) (late : r.times 0 ≤ ev.time) : False :=
    absurd (regular.before ev held) (not_lt.mpr late)
  refine ⟨List.pairwise_of_forall_mem_list fun ev held _ _ late => (initial ev held late).elim,
    (List.pairwise_lt_range n).imp fun earlier _ => ?_,
    fun ev held _ _ late => (initial ev held late).elim⟩
  rw [regular.event_time, regular.event_time]
  exact regular.times_le earlier.le

theorem Regular.dropReadings_ordered (regular : r.Regular getIbstat getIbstatus bucket contents) (j : ℕ) :
    (r.dropReadings contents j).Pairwise fun a b => r.times 0 ≤ a.1 → a.1 ≤ b.1 := by
  rw [dropReadings, readings, List.pairwise_flatMap]
  refine ⟨fun ev _ => List.pairwise_map.mpr (List.pairwise_of_forall fun _ _ _ => le_rfl),
    ((regular.events_ordered (j + 1)).sublist (List.filter_sublist _)).imp fun ordered a held b held' => ?_⟩
  obtain ⟨_, _, rfl⟩ := List.mem_map.mp held
  obtain ⟨_, _, rfl⟩ := List.mem_map.mp held'
  exact ordered

theorem Regular.reasonIbPortDrop_eq (regular : r.Regular getIbstat getIbstatus bucket contents) (j : ℕ) :
    (r.result j).reasonIbPortDrop =
      if (r.recorded getIbstat getIbstatus j).health = .unhealthy ∧
          droppedDevices (r.times j) (r.dropReadings contents j) ≠ [] then
        "ib port drop -- " ++ ", ".intercalate (sortStrings ((droppedDevices (r.times j)
          (r.dropReadings contents j)).map fun p => dropMessage r.relTime (r.times j) p.1 p.2))
      else "" := by
  set recorded := { r.recorded getIbstat getIbstatus j with err := none }
  obtain ⟨-, -, reason⟩ := analyze_keeps r.component r.relTime (r.dropOrder j) (r.flapOrder j)
    (r.store (j + 1)) recorded
  rw [← regular.result_eq] at reason
  rw [reason]
  obtain ⟨faultHealth, faultTs⟩ := evaluateIbSwitchFault_keeps recorded
  obtain ⟨consistent, -, unjudged, -⟩ := resultAtRecord_unjudged (regular.records j).policy (r.times j)
    (getIbstat (r.times j)) (getIbstatus (r.times j))
  by_cases unhealthy : (r.recorded getIbstat getIbstatus j).health = .unhealthy
  · have stamped : (evaluateIbSwitchFault recorded).ts = r.times j := faultTs.trans (regular.recorded_ts _)
    have read : readAllIbstatEvents r.component.eventBucket (r.store (j + 1))
        (Time.add (evaluateIbSwitchFault recorded).ts (-10 * minute)) =
        .ok (ibstatOnly ((contents (r.store (j + 1))).filter
          (Time.add (r.times j) (-10 * minute) ≤ ·.time))) := by
      rw [(regular.records j).stored, stamped, readAllIbstatEvents, regular.ordered.get]
      rfl
    have nonzero : (evaluateIbSwitchFault recorded).ts ≠ 0 := by
      have := regular.times_le (Nat.zero_le j)
      have := regular.started
      omega
    rw [evaluateIbPortDrop_of_read _ _ _ _ _ _ (by simp [(regular.records j).stored])
      (faultHealth.trans unhealthy) nonzero read, readings_ibstat, stamped]
    split_ifs with none_dropped fired fired
    · exact absurd none_dropped fired.2
    · rw [evaluateIbSwitchFault_frames.writes]
      exact unjudged
    · rfl
    · exact absurd ⟨unhealthy, none_dropped⟩ fired
  · have healthy : (evaluateIbSwitchFault recorded).health = .healthy :=
      faultHealth.trans (consistent.decided.resolve_right unhealthy)
    rw [evaluateIbPortDrop_healthy _ _ _ _ healthy, if_neg fun fired => unhealthy fired.1,
      evaluateIbSwitchFault_frames.writes]
    exact unjudged

theorem Regular.mem_dropReadings (regular : r.Regular getIbstat getIbstatus bucket contents) {i j : ℕ}
    (later : j ≤ i) (inside : r.times i - 10 * minute ≤ r.times j) {port : IBPort}
    (listed : port ∈ (r.result j).allIBPorts) :
    (r.times j, compactPort port) ∈ r.dropReadings contents i := by
  have held : r.event getIbstat getIbstatus j ∈ (contents (r.store (i + 1))).filter
      (Time.add (r.times i) (-10 * minute) ≤ ·.time) := by
    rw [regular.contents_store]
    refine List.mem_filter.mpr ⟨List.mem_append_right _ (List.mem_map_of_mem _
      (List.mem_range.mpr (Nat.lt_succ_of_le later))), ?_⟩
    rw [regular.event_time, Time.add, decide_eq_true_eq]
    omega
  refine List.mem_flatMap.mpr ⟨_, held, ?_⟩
  have recorded := readings_convertToIbstatEvent (r.recorded getIbstat getIbstatus j)
  rw [readings, List.flatMap_singleton, regular.recorded_ts, ← regular.result_allIBPorts] at recorded
  rw [recorded]
  exact List.mem_map_of_mem _ listed

/-- In a regular run, the drop reason of cycle `i` is empty, or lists one message for each of
some devices, each with a drop time `t` from ten to four minutes before the cycle, such that
every cycle up to `i` stamped after `t` that listed the device saw it Down: the analyzer never
reports a port seen in another state since the drop it reports. -/
theorem Regular.reasonIbPortDrop_sound (regular : r.Regular getIbstat getIbstatus bucket contents) (i : ℕ) :
    (r.result i).reasonIbPortDrop = "" ∨
      ∃ msgs, msgs ≠ [] ∧ (r.result i).reasonIbPortDrop = "ib port drop -- " ++ ", ".intercalate msgs ∧
        ∀ m ∈ msgs, ∃ d t, m = d ++ " dropped " ++ r.relTime t (r.times i) ∧
          r.times i - 10 * minute ≤ t ∧ 4 * minute ≤ r.times i - t ∧
          ∀ j ≤ i, t < r.times j → ∀ port ∈ (r.result j).allIBPorts, port.device = d → port.state = "Down" := by
  rw [regular.reasonIbPortDrop_eq]
  split_ifs with fired
  · refine .inr ⟨_, fun empty => fired.2 (List.map_eq_nil_iff.mp (List.Perm.eq_nil
      ((sortStrings_perm _).symm.trans (List.Perm.of_eq empty)))), rfl, fun m held => ?_⟩
    obtain ⟨⟨d, t⟩, dropped, rfl⟩ := List.mem_map.mp ((sortStrings_perm _).mem_iff.mp held)
    obtain ⟨start, late⟩ := (mem_droppedDevices _ _ _ _).mp dropped
    obtain ⟨x, read, -, rfl⟩ := downRunStart_some start
    obtain ⟨ev, window, stamped⟩ := mem_readings read
    have inside := of_decide_eq_true (List.mem_filter.mp window).2
    rw [Time.add] at inside
    exact ⟨d, x.1, rfl, by omega, late, fun j later newer port listed named =>
      downRunStart_later_down (regular.dropReadings_ordered i) start _
        (regular.mem_dropReadings later (by omega) listed) named (regular.times_le (Nat.zero_le j)) newer⟩
  · exact .inl rfl

theorem downRun_reasonIbPortDrop_sound :
    downRun.Regular (fun _ => (some ⟨[⟨"mlx5_0", ⟨"Down", "Disabled", 0⟩⟩]⟩, none)) (fun _ => (none, none))
      memoryBucket id ∧
    ((downRun.result 4).reasonIbPortDrop = "" ∨
      ∃ msgs, msgs ≠ [] ∧ (downRun.result 4).reasonIbPortDrop = "ib port drop -- " ++ ", ".intercalate msgs ∧
        ∀ m ∈ msgs, ∃ d t, m = d ++ " dropped " ++ downRun.relTime t (downRun.times 4) ∧
          downRun.times 4 - 10 * minute ≤ t ∧ 4 * minute ≤ downRun.times 4 - t ∧
          ∀ j ≤ 4, t < downRun.times j → ∀ port ∈ (downRun.result j).allIBPorts, port.device = d →
            port.state = "Down") :=
  ⟨downRun_regular, Regular.reasonIbPortDrop_sound downRun_regular 4⟩

/-! ## What the flap analyzer reads back -/

def flapReadings (r : Run σ) (contents : σ → List Event) (i : ℕ) : List (Int × IBPort) :=
  readings ((contents (r.store (i + 1))).filter fun ev => r.times i - ev.time ≤ 4 * minute)

theorem Regular.stored_before (regular : r.Regular getIbstat getIbstatus bucket contents) (i : ℕ) :
    ∀ ev ∈ contents (r.store (i + 1)), ev.time ≤ r.times i := by
  rw [regular.contents_store]
  intro ev held
  rcases List.mem_append.mp held with initial | recorded
  · exact ((regular.before ev initial).trans_le (regular.times_le (Nat.zero_le i))).le
  · obtain ⟨j, below, rfl⟩ := List.mem_map.mp recorded
    rw [regular.event_time]
    exact regular.times_le (Nat.lt_succ_iff.mp (List.mem_range.mp below))

theorem Regular.two_ibstat_events (regular : r.Regular getIbstat getIbstatus bucket contents) (k : ℕ) :
    2 ≤ (ibstatOnly ((contents (r.store (k + 2))).filter
      (Time.add (r.times (k + 1)) (-10 * minute) ≤ ·.time))).length := by
  have positive : 0 < minute := by decide
  have gap := regular.cadence k
  have last : List.Sublist [r.event getIbstat getIbstatus k, r.event getIbstat getIbstatus (k + 1)]
      (contents (r.store (k + 2))) := by
    rw [regular.contents_store, List.range_succ, List.range_succ, List.map_append, List.map_append,
      List.append_assoc, List.map_singleton, List.map_singleton, List.singleton_append]
    exact (List.sublist_append_right _ _).trans (List.sublist_append_right _ _)
  have kept := ((last.filter (Time.add (r.times (k + 1)) (-10 * minute) ≤ ·.time)).filter
    (·.name == "ibstat")).length_le
  simp only [List.filter_cons, regular.event_time, Time.add, decide_eq_true_eq] at kept
  rw [if_pos (by omega), if_pos (by omega)] at kept
  exact kept

theorem Regular.reasonIbPortFlap_eq (regular : r.Regular getIbstat getIbstatus bucket contents) (k : ℕ) :
    (r.result (k + 1)).reasonIbPortFlap =
      if flappingDevices (r.flapReadings contents (k + 1)) = [] then ""
      else "ib port flap -- " ++ ", ".intercalate (sortStrings
        ((flappingDevices (r.flapReadings contents (k + 1))).map fun p => flapMessage p.1 p.2)) := by
  set recorded := { r.recorded getIbstat getIbstatus (k + 1) with err := none }
  set dropped := r.component.evaluateIbPortDrop r.relTime (r.dropOrder (k + 1)) (r.store (k + 2))
    (evaluateIbSwitchFault recorded) with dropped_eq
  obtain ⟨-, -, -, unflapped⟩ := resultAtRecord_unjudged (regular.records (k + 1)).policy (r.times (k + 1))
    (getIbstat (r.times (k + 1))) (getIbstatus (r.times (k + 1)))
  have kept : dropped.ts = r.times (k + 1) ∧ dropped.reasonIbPortFlap = "" := by
    rw [dropped_eq, (evaluateIbPortDrop_frames _ _ _ _).writes, evaluateIbSwitchFault_frames.writes]
    exact ⟨regular.recorded_ts _, unflapped⟩
  have read : readAllIbstatEvents r.component.eventBucket (r.store (k + 2))
      (Time.add dropped.ts (-10 * minute)) = .ok (ibstatOnly ((contents (r.store (k + 2))).filter
        (Time.add (r.times (k + 1)) (-10 * minute) ≤ ·.time))) := by
    rw [(regular.records (k + 1)).stored, kept.1, readAllIbstatEvents, regular.ordered.get]
    rfl
  have past : ∀ oldest ∈ (ibstatOnly ((contents (r.store (k + 2))).filter
      (Time.add (r.times (k + 1)) (-10 * minute) ≤ ·.time))).head?, oldest.time ≤ dropped.ts :=
    fun oldest first => kept.1 ▸ regular.stored_before (k + 1) oldest
      (List.mem_of_mem_filter (List.mem_of_mem_filter (List.mem_of_mem_head? first)))
  have nonzero : dropped.ts ≠ 0 := by
    have := regular.times_le (Nat.zero_le (k + 1))
    have := regular.started
    omega
  have scanned : windowReadings (r.times (k + 1)) (ibstatOnly ((contents (r.store (k + 2))).filter
      (Time.add (r.times (k + 1)) (-10 * minute) ≤ ·.time))) = r.flapReadings contents (k + 1) := by
    have positive : 0 < minute := by decide
    rw [flapReadings, ← readings_ibstat, windowReadings]
    simp only [ibstatOnly, List.filter_filter]
    congr 1
    refine List.filter_congr fun ev _ => ?_
    by_cases recent : r.times (k + 1) - ev.time ≤ 4 * minute
    · have inside : Time.add (r.times (k + 1)) (-10 * minute) ≤ ev.time := by
        rw [Time.add]
        omega
      simp only [recent, inside, decide_True, Bool.true_and, Bool.and_true]
    · simp only [recent, decide_False, Bool.false_and, Bool.and_false]
  rw [regular.result_eq, Component.analyze, evaluateIbPortFlap_of_read _ _ _ _ _
    (by simp [(regular.records (k + 1)).stored]) nonzero read (regular.two_ibstat_events k) past,
    kept.1, scanned]
  split_ifs
  · exact kept.2
  · rfl

/-- In a regular run, from the second cycle on and whatever the verdict, the flap reason names a
device exactly when two of its readings from the last four minutes differ in state, with the
last four states it went through: it is empty when no device changed state in that time. -/
theorem Regular.reasonIbPortFlap_spec (regular : r.Regular getIbstat getIbstatus bucket contents) (k : ℕ) :
    (r.result (k + 1)).reasonIbPortFlap =
      (if flappingDevices (r.flapReadings contents (k + 1)) = [] then ""
      else "ib port flap -- " ++ ", ".intercalate (sortStrings
        ((flappingDevices (r.flapReadings contents (k + 1))).map fun p => p.1 ++ " " ++ " -> ".intercalate p.2))) ∧
    ∀ d transitions, (d, transitions) ∈ flappingDevices (r.flapReadings contents (k + 1)) ↔
      (∃ x ∈ r.flapReadings contents (k + 1), ∃ y ∈ r.flapReadings contents (k + 1),
        x.2.device = d ∧ y.2.device = d ∧ x.2.state ≠ y.2.state) ∧
      transitions = lastFour (collapsedStates (r.flapReadings contents (k + 1)) d) :=
  ⟨regular.reasonIbPortFlap_eq k, fun d transitions => by
    rw [mem_flappingDevices, two_le_collapsedStates]⟩

theorem downRun_reasonIbPortFlap_spec :
    downRun.Regular (fun _ => (some ⟨[⟨"mlx5_0", ⟨"Down", "Disabled", 0⟩⟩]⟩, none)) (fun _ => (none, none))
      memoryBucket id ∧
    (downRun.result (3 + 1)).reasonIbPortFlap =
      (if flappingDevices (downRun.flapReadings id (3 + 1)) = [] then ""
      else "ib port flap -- " ++ ", ".intercalate (sortStrings
        ((flappingDevices (downRun.flapReadings id (3 + 1))).map fun p => p.1 ++ " " ++ " -> ".intercalate p.2))) ∧
    ∀ d transitions, (d, transitions) ∈ flappingDevices (downRun.flapReadings id (3 + 1)) ↔
      (∃ x ∈ downRun.flapReadings id (3 + 1), ∃ y ∈ downRun.flapReadings id (3 + 1),
        x.2.device = d ∧ y.2.device = d ∧ x.2.state ≠ y.2.state) ∧
      transitions = lastFour (collapsedStates (downRun.flapReadings id (3 + 1)) d) :=
  ⟨downRun_regular, Regular.reasonIbPortFlap_spec downRun_regular 3⟩

end Run

end Infiniband
