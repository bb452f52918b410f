import InfinibandCheck.Check

/-!
A run of the component. `component.Start` calls `Check` once a minute, and every cycle
sees the store the cycle before it left. A run is the sequence of cycle times
`times 0 < times 1 < ...`, with the range order Go picks for each cycle's maps. The store is
any bucket whose `Get`, `Find` and `Insert` act on the events it holds as the check reads them;
the ticker's cadence and the I/O timeouts enter as a bound on the gap between two cycles.
-/

namespace Infiniband

variable {σ : Type}

/-- Modelled from the spec: an event store seen through the events it holds. `Get since`
returns the held events stamped at or after `since` in the order they are held, `Find`
returns a held event equal to the one asked for, and `Insert` appends; none of them fails. -/
structure OrderedStore (bucket : Bucket σ) (contents : σ → List Event) : Prop where
  get : ∀ s since, bucket.get s since = .ok ((contents s).filter (since ≤ ·.time))
  find : ∀ s ev, bucket.find s ev = .ok ((contents s).find? (· == ev))
  insert : ∀ s ev, ∃ s', bucket.insert s ev = .ok s' ∧ contents s' = contents s ++ [ev]

theorem memoryBucket_ordered : OrderedStore memoryBucket id :=
  ⟨fun _ _ => rfl, fun _ _ => rfl, fun _ _ => ⟨_, rfl, rfl⟩⟩

theorem resultAtRecord_ts {thresholds : ExpectedPortStates} (nonzero : thresholds.isZero = false)
    (now : Int) (ibstat : Option IbstatOutput × Option GoError)
    (ibstatus : Option IbstatusOutput × Option GoError) :
    (resultAtRecord now thresholds ibstat ibstatus).ts = now := by
  rw [resultAtRecord_eq nonzero, evaluateThresholds_eq _ _ nonzero]
  split_ifs <;> rfl

theorem check_appends_event {c : Component σ} {now : Int} {getIbstat getIbstatus} {bucket : Bucket σ}
    {contents : σ → List Event} (store : OrderedStore bucket contents)
    (records : Records c now getIbstat getIbstatus bucket) (relTime : Int → Int → String)
    (dropOrder : RangeOrder Int) (flapOrder : RangeOrder (List String)) {s : σ}
    (older : ∀ ev ∈ contents s, ev.time < now) :
    ∃ s', contents s' = contents s ++ [convertToIbstatEvent
        (resultAtRecord now (c.getThresholdsFunc now) (getIbstat now) (getIbstatus now))] ∧
      c.check relTime dropOrder flapOrder now s =
        (c.analyze relTime dropOrder flapOrder s'
          { resultAtRecord now (c.getThresholdsFunc now) (getIbstat now) (getIbstatus now) with err := none },
          s') := by
  set recorded := resultAtRecord now (c.getThresholdsFunc now) (getIbstat now) (getIbstatus now)
  have fresh : (contents s).find? (· == convertToIbstatEvent recorded) = none := by
    refine List.find?_eq_none.mpr fun ev held same => ?_
    have : ev.time = now := by
      rw [beq_iff_eq.mp same, convertToIbstatEvent]
      exact resultAtRecord_ts records.policy _ _ _
    exact absurd (older ev held) (by omega)
  obtain ⟨s', inserted, appended⟩ := store.insert s (convertToIbstatEvent recorded)
  refine ⟨s', appended, ?_⟩
  have stored : recordIbEvent bucket recorded s = ({ recorded with err := none }, s', none) := by
    simp only [recordIbEvent, store.find, fresh, inserted]
  rw [check_of_records records]
  simp only [stored]
  rfl

/-- `component.Start`'s loop: `Check` at each of `times`, with the range orders Go picks for
each cycle's maps. -/
structure Run (σ : Type) where
  component : Component σ
  relTime : Int → Int → String
  dropOrder : ℕ → RangeOrder Int
  flapOrder : ℕ → RangeOrder (List String)
  times : ℕ → Int
  initial : σ

namespace Run

variable (r : Run σ)

def store : ℕ → σ
  | 0 => r.initial
  | j + 1 => (r.component.check r.relTime (r.dropOrder j) (r.flapOrder j) (r.times j) (store j)).2

def result (j : ℕ) : CheckResult :=
  (r.component.check r.relTime (r.dropOrder j) (r.flapOrder j) (r.times j) (r.store j)).1

def recorded (getIbstat : Int → Option IbstatOutput × Option GoError)
    (getIbstatus : Int → Option IbstatusOutput × Option GoError) (j : ℕ) : CheckResult :=
  resultAtRecord (r.times j) (r.component.getThresholdsFunc (r.times j)) (getIbstat (r.times j))
    (getIbstatus (r.times j))

/-- A regular run: every cycle gets to `recordIbEvent`, over an ordered store that holds nothing
stamped at or after the first cycle; the cycles are stamped after the zero time, in increasing
order, at most six minutes apart. -/
structure Regular (getIbstat : Int → Option IbstatOutput × Option GoError)
    (getIbstatus : Int → Option IbstatusOutput × Option GoError) (bucket : Bucket σ)
    (contents : σ → List Event) : Prop where
  ordered : OrderedStore bucket contents
  records : ∀ j, Records r.component (r.times j) getIbstat getIbstatus bucket
  increasing : ∀ j, r.times j < r.times (j + 1)
  started : 0 < r.times 0
  cadence : ∀ j, r.times (j + 1) - r.times j ≤ 6 * minute
  before : ∀ ev ∈ contents r.initial, ev.time < r.times 0

variable {r} {getIbstat : Int → Option IbstatOutput × Option GoError}
  {getIbstatus : Int → Option IbstatusOutput × Option GoError} {bucket : Bucket σ}
  {contents : σ → List Event}

abbrev event (r : Run σ) (getIbstat : Int → Option IbstatOutput × Option GoError)
    (getIbstatus : Int → Option IbstatusOutput × Option GoError) (j : ℕ) : Event :=
  convertToIbstatEvent (r.recorded getIbstat getIbstatus j)

theorem Regular.recorded_ts (regular : r.Regular getIbstat getIbstatus bucket contents) (j : ℕ) :
    (r.recorded getIbstat getIbstatus j).ts = r.times j :=
  resultAtRecord_ts (regular.records j).policy _ _ _

theorem Regular.event_time (regular : r.Regular getIbstat getIbstatus bucket contents) (j : ℕ) :
    (r.event getIbstat getIbstatus j).time = r.times j :=
  regular.recorded_ts j

theorem Regular.times_lt (regular : r.Regular getIbstat getIbstatus bucket contents) {j j' : ℕ}
    (earlier : j < j') : r.times j < r.times j' :=
  strictMono_nat_of_lt_succ regular.increasing earlier

theorem Regular.times_le (regular : r.Regular getIbstat getIbstatus bucket contents) {j j' : ℕ}
    (earlier : j ≤ j') : r.times j ≤ r.times j' :=
  (strictMono_nat_of_lt_succ regular.increasing).monotone earlier

theorem Regular.older (regular : r.Regular getIbstat getIbstatus bucket contents) {j : ℕ}
    (held : contents (r.store j) = contents r.initial ++ (List.range j).map (r.event getIbstat getIbstatus)) :
    ∀ ev ∈ contents (r.store j), ev.time < r.times j := by
  rw [held]
  intro ev member
  rcases List.mem_append.mp member with initial | recorded
  · exact (regular.before ev initial).trans_le (regular.times_le (Nat.zero_le j))
  · obtain ⟨m, earlier, rfl⟩ := List.mem_map.mp recorded
    rw [regular.event_time]
    exact regular.times_lt (List.mem_range.mp earlier)

theorem Regular.contents_store (regular : r.Regular getIbstat getIbstatus bucket contents) :
    ∀ j, contents (r.store j) = contents r.initial ++ (List.range j).map (r.event getIbstat getIbstatus)
  | 0 => by simp [store]
  | j + 1 => by
    obtain ⟨s', appended, checked⟩ := check_appends_event regular.ordered (regular.records j) r.relTime
      (r.dropOrder j) (r.flapOrder j) (regular.older (regular.contents_store j))
    rw [store, checked, appended, regular.contents_store j, List.range_succ, List.map_append,
      List.append_assoc]
    rfl

theorem Regular.result_eq (regular : r.Regular getIbstat getIbstatus bucket contents) (j : ℕ) :
    r.result j = r.component.analyze r.relTime (r.dropOrder j) (r.flapOrder j) (r.store (j + 1))
      { r.recorded getIbstat getIbstatus j with err := none } := by
  obtain ⟨s', -, checked⟩ := check_appends_event regular.ordered (regular.records j) r.relTime
    (r.dropOrder j) (r.flapOrder j) (regular.older (regular.contents_store j))
  rw [result, store, checked]
  rfl

theorem Regular.contents_after (regular : r.Regular getIbstat getIbstatus bucket contents) (p n : ℕ) :
    contents (r.store (p + n)) =
      contents (r.store p) ++ (List.range n).map fun m => r.event getIbstat getIbstatus (p + m) := by
  rw [regular.contents_store, regular.contents_store, List.range_add, List.map_append, List.map_map,
    List.append_assoc]
  rfl

theorem Regular.result_allIBPorts (regular : r.Regular getIbstat getIbstatus bucket contents) (j : ℕ) :
    (r.result j).allIBPorts = (r.recorded getIbstat getIbstatus j).allIBPorts := by
  rw [regular.result_eq]
  exact (analyze_keeps _ _ _ _ _ _).1

theorem Regular.readings_down (regular : r.Regular getIbstat getIbstatus bucket contents) {d : String}
    {p n : ℕ} (down : ∀ m ≤ n, (∃ port ∈ (r.result (p + m)).allIBPorts, port.device = d) ∧
      ∀ port ∈ (r.result (p + m)).allIBPorts, port.device = d → port.state = "Down") :
    let rs := readings ((List.range (n + 1)).map fun m => r.event getIbstat getIbstatus (p + m))
    (∀ x ∈ rs, x.2.device = d → x.2.state = "Down") ∧
      ∃ x, (rs.filter (·.2.device == d)).head? = some x ∧ x.1 = r.times p := by
  have ported (m : ℕ) : readings [r.event getIbstat getIbstatus (p + m)] =
      (r.result (p + m)).allIBPorts.map fun port => (r.times (p + m), compactPort port) := by
    rw [readings_convertToIbstatEvent, regular.result_allIBPorts, regular.recorded_ts]
  constructor
  · intro x member named
    obtain ⟨ev, held, read⟩ := List.mem_flatMap.mp member
    obtain ⟨m, below, rfl⟩ := List.mem_map.mp held
    have : x ∈ readings [r.event getIbstat getIbstatus (p + m)] := by simpa [readings] using read
    rw [ported] at this
    obtain ⟨port, listed, rfl⟩ := List.mem_map.mp this
    exact (down m (Nat.lt_succ_iff.mp (List.mem_range.mp below))).2 port listed named
  · obtain ⟨port, listed, named⟩ := (down 0 (Nat.zero_le n)).1
    rw [List.range_succ_eq_map, List.map_cons, ← List.singleton_append, readings_append, List.filter_append,
      ported, Nat.add_zero]
    have found : ((r.result p).allIBPorts.map fun port => (r.times p, compactPort port)).filter
        (·.2.device == d) ≠ [] := by
      simp only [ne_eq, List.filter_eq_nil_iff, List.mem_map, not_forall, not_not]
      exact ⟨_, ⟨port, listed, rfl⟩, by simp [compactPort, named]⟩
    obtain ⟨x, rest, split⟩ := List.exists_cons_of_ne_nil found
    refine ⟨x, by rw [split]; rfl, ?_⟩
    have : x ∈ ((r.result p).allIBPorts.map fun port => (r.times p, compactPort port)) :=
      List.mem_of_mem_filter (split ▸ List.mem_cons_self x rest)
    obtain ⟨_, _, rfl⟩ := List.mem_map.mp this
    rfl

theorem Regular.window_from (regular : r.Regular getIbstat getIbstatus bucket contents) {p n : ℕ}
    (inside : r.times (p + n) - 10 * minute ≤ r.times p) :
    (contents (r.store (p + n + 1))).filter (Time.add (r.times (p + n)) (-10 * minute) ≤ ·.time) =
      (contents (r.store p)).filter (Time.add (r.times (p + n)) (-10 * minute) ≤ ·.time) ++
        (List.range (n + 1)).map fun m => r.event getIbstat getIbstatus (p + m) := by
  rw [Nat.add_assoc, regular.contents_after, List.filter_append]
  refine congrArg _ (List.filter_eq_self.mpr fun ev held => ?_)
  obtain ⟨m, -, rfl⟩ := List.mem_map.mp held
  have := regular.times_le (Nat.le_add_right p m)
  simp only [decide_eq_true_eq, regular.event_time, Time.add]
  omega

theorem Regular.reasonIbPortDrop_of_dropped (regular : r.Regular getIbstat getIbstatus bucket contents)
    {j : ℕ} {d : String} {t : Int} (unhealthy : (r.result j).health = .unhealthy)
    (dropped : (d, t) ∈ droppedDevices (r.times j) (readings (ibstatOnly
      ((contents (r.store (j + 1))).filter (Time.add (r.times j) (-10 * minute) ≤ ·.time))))) :
    ∃ msgs, (r.result j).reasonIbPortDrop = "ib port drop -- " ++ ", ".intercalate msgs ∧
      dropMessage r.relTime (r.times j) d t ∈ msgs := by
  set recorded := { r.recorded getIbstat getIbstatus j with err := none }
  obtain ⟨-, health, reason⟩ := analyze_keeps r.component r.relTime (r.dropOrder j)
    (r.flapOrder j) (r.store (j + 1)) recorded
  rw [← regular.result_eq] at health reason
  obtain ⟨faultHealth, faultTs⟩ := evaluateIbSwitchFault_keeps recorded
  have stamped : (evaluateIbSwitchFault recorded).ts = r.times j := faultTs.trans (regular.recorded_ts _)
  have read : readAllIbstatEvents r.component.eventBucket (r.store (j + 1))
      (Time.add (evaluateIbSwitchFault recorded).ts (-10 * minute)) =
      .ok (ibstatOnly ((contents (r.store (j + 1))).filter
        (Time.add (r.times j) (-10 * minute) ≤ ·.time))) := by
    rw [(regular.records j).stored, stamped, readAllIbstatEvents, regular.ordered.get]
    rfl
  have nonzero : (evaluateIbSwitchFault recorded).ts ≠ 0 := by
    have := regular.times_le (Nat.zero_le j)
    have := regular.started
    omega
  rw [reason, evaluateIbPortDrop_of_read _ _ _ _ _ _ (by simp [(regular.records j).stored])
    (faultHealth.trans (health.symm.trans unhealthy)) nonzero read, stamped,
    if_neg (List.ne_nil_of_mem dropped)]
  exact ⟨_, rfl, (sortStrings_perm _).mem_iff.mpr (List.mem_map_of_mem _ dropped)⟩

/-- In a regular run, once device `d` reads Down in every cycle from cycle `k` on, every
unhealthy cycle `i` stamped at least four minutes after cycle `k` names `d` in its drop reason:
the ten minutes `evaluateIbPortDrop` reads back, against at most six minutes between cycles,
always reach a cycle that saw `d` Down at least four minutes before. -/
theorem Regular.reports_persistent_drop (regular : r.Regular getIbstat getIbstatus bucket contents)
    {d : String} {k i : ℕ}
    (down : ∀ j, k ≤ j → j ≤ i → (∃ port ∈ (r.result j).allIBPorts, port.device = d) ∧
      ∀ port ∈ (r.result j).allIBPorts, port.device = d → port.state = "Down")
    (late : 4 * minute ≤ r.times i - r.times k) (unhealthy : (r.result i).health = .unhealthy) :
    ∃ msgs t, (r.result i).reasonIbPortDrop = "ib port drop -- " ++ ", ".intercalate msgs ∧
      d ++ " dropped " ++ r.relTime t (r.times i) ∈ msgs ∧ 4 * minute ≤ r.times i - t := by
  have positive : 0 < minute := by decide
  have reached : ∃ j, r.times i - 10 * minute ≤ r.times j := ⟨i, by omega⟩
  have k_lt : k < i := lt_of_not_le fun later => absurd (regular.times_le later) (by omega)
  -- `p`: the first cycle that is both in the window and at or after cycle `k`
  obtain ⟨p, k_le, p_le, p_inside, p_late⟩ : ∃ p, k ≤ p ∧ p ≤ i ∧
      r.times i - 10 * minute ≤ r.times p ∧ 4 * minute ≤ r.times i - r.times p := by
    rcases le_or_lt (Nat.find reached) k with within | after
    · exact ⟨k, le_rfl, k_lt.le, (Nat.find_spec reached).trans (regular.times_le within), late⟩
    · have outside := Nat.find_min reached (Nat.sub_lt (by omega) Nat.one_pos)
      have gap := regular.cadence (Nat.find reached - 1)
      rw [Nat.sub_add_cancel (by omega)] at gap
      exact ⟨Nat.find reached, after.le, Nat.find_min' reached (by omega), Nat.find_spec reached, by omega⟩
  -- the window splits at cycle `p`: older events, then those of cycles `p` on, all Down for `d`
  obtain ⟨n, rfl⟩ : ∃ n, i = p + n := ⟨i - p, by omega⟩
  obtain ⟨allDown, first, head, at_p⟩ := regular.readings_down (d := d) (p := p) (n := n)
    fun m below => down (p + m) (by omega) (by omega)
  have earlier : ∀ x ∈ readings ((contents (r.store p)).filter
      (Time.add (r.times (p + n)) (-10 * minute) ≤ ·.time)), x.1 ≤ r.times p := by
    intro x member
    obtain ⟨ev, held, stamped⟩ := mem_readings member
    exact stamped ▸ (regular.older (regular.contents_store p) ev (List.mem_of_mem_filter held)).le
  obtain ⟨t, start, t_le⟩ := downRunStart_append_down earlier allDown ⟨first, head, at_p.le⟩
  -- so the analyzer of cycle `p + n` finds `d` dropped at `t`
  have dropped : (d, t) ∈ droppedDevices (r.times (p + n)) (readings (ibstatOnly
      ((contents (r.store (p + n + 1))).filter (Time.add (r.times (p + n)) (-10 * minute) ≤ ·.time)))) := by
    rw [readings_ibstat, regular.window_from p_inside, readings_append]
    exact (mem_droppedDevices _ _ _ _).mpr ⟨start, by omega⟩
  obtain ⟨msgs, reason, named⟩ := regular.reasonIbPortDrop_of_dropped unhealthy dropped
  exact ⟨msgs, t, reason, named, by omega⟩

def downRun : Run (List Event) where
  component := node ⟨1, 100⟩ (some ⟨[⟨"mlx5_0", ⟨"Down", "Disabled", 0⟩⟩]⟩, none) (none, none)
  relTime := fun _ _ => "4 minutes ago"
  dropOrder := fun _ => .inserted _
  flapOrder := fun _ => .inserted _
  times := fun j => (j + 1) * minute
  initial := []

theorem downRun_reports_drop :
    downRun.Regular (fun _ => (some ⟨[⟨"mlx5_0", ⟨"Down", "Disabled", 0⟩⟩]⟩, none)) (fun _ => (none, none))
      memoryBucket id ∧
    (∀ j, 0 ≤ j → j ≤ 4 → (∃ port ∈ (downRun.result j).allIBPorts, port.device = "mlx5_0") ∧
      ∀ port ∈ (downRun.result j).allIBPorts, port.device = "mlx5_0" → port.state = "Down") ∧
    4 * minute ≤ downRun.times 4 - downRun.times 0 ∧ (downRun.result 4).health = .unhealthy ∧
    ∃ msgs t, (downRun.result 4).reasonIbPortDrop = "ib port drop -- " ++ ", ".intercalate msgs ∧
      "mlx5_0" ++ " dropped " ++ downRun.relTime t (downRun.times 4) ∈ msgs ∧ 4 * minute ≤ downRun.times 4 - t := by
  have regular : downRun.Regular (fun _ => (some ⟨[⟨"mlx5_0", ⟨"Down", "Disabled", 0⟩⟩]⟩, none))
      (fun _ => (none, none)) memoryBucket id :=
    ⟨memoryBucket_ordered, fun _ => node_records (by decide) _ _ _,
      fun j => by simp only [downRun, minute]; omega,
      by simp only [downRun, minute]; omega, fun j => by simp only [downRun, minute]; omega, nofun⟩
  have listed (j : ℕ) : (downRun.result j).allIBPorts = [⟨"mlx5_0", "Down", "Disabled", 0⟩] :=
    (regular.result_allIBPorts j).trans ((resultAtRecord_ports (regular.records j).policy _ _ _).1.trans rfl)
  have down : ∀ j, 0 ≤ j → j ≤ 4 → (∃ port ∈ (downRun.result j).allIBPorts, port.device = "mlx5_0") ∧
      ∀ port ∈ (downRun.result j).allIBPorts, port.device = "mlx5_0" → port.state = "Down" :=
    fun j _ _ => by simp [listed j]
  have late : 4 * minute ≤ downRun.times 4 - downRun.times 0 := by simp only [downRun, minute]; omega
  have unhealthy : (downRun.result 4).health = .unhealthy := by
    rw [regular.result_eq, (analyze_keeps _ _ _ _ _ _).2.1]
    decide
  exact ⟨regular, down, late, unhealthy, Run.Regular.reports_persistent_drop regular down late unhealthy⟩

/-- Modelled from the spec: a store whose `Get` returns the events stamped at or after `since`
sorted by time ("events are sorted by time ascending"); `Find` returns an equal event and
`Insert` appends. -/
def timeSortedBucket : Bucket (List Event) where
  find events ev := .ok (events.find? (· == ev))
  insert events ev := .ok (events ++ [ev])
  get events since := .ok ((events.filter (since ≤ ·.time)).insertionSort (·.time ≤ ·.time))

theorem timeSortedBucket_recorded (cr : CheckResult) (events : List Event) :
    (recordIbEvent timeSortedBucket cr events).2.2 = none := by
  dsimp only [recordIbEvent, timeSortedBucket]
  cases events.find? (· == convertToIbstatEvent cr) <;> rfl

def futureRun : Run (List Event) where
  component := { downRun.component with eventBucket := some timeSortedBucket }
  relTime := fun _ _ => "4 minutes ago"
  dropOrder := fun _ => .inserted _
  flapOrder := fun _ => .inserted _
  times := fun j => (4 * j + 1) * minute
  initial := [⟨61 * minute, "ibstat", eventTypeInfo, "",
    [("all_ibports", marshalIBPorts [⟨"mlx5_0", "Active", "", 0⟩])]⟩]

/-- Without its initial events stamped before the first cycle, a persistent drop can go
unreported: the store returns events in time order, every cycle records, the cycles are four
minutes apart, and the port reads Down in every cycle, yet the second cycle's drop analyzer
reads the later Active reading last and reports nothing. -/
theorem futureRun_misses_drop :
    (∀ events since, ∃ got, timeSortedBucket.get events since = .ok got ∧
      got.Sorted (·.time ≤ ·.time) ∧ got.Perm (events.filter (since ≤ ·.time))) ∧
    (∀ events ev, timeSortedBucket.find events ev = .ok (events.find? (· == ev))) ∧
    (∀ events ev, timeSortedBucket.insert events ev = .ok (events ++ [ev])) ∧
    (∀ j, Records futureRun.component (futureRun.times j)
      (fun _ => (some ⟨[⟨"mlx5_0", ⟨"Down", "Disabled", 0⟩⟩]⟩, none)) (fun _ => (none, none))
      timeSortedBucket) ∧
    (∀ j, (recordIbEvent timeSortedBucket (futureRun.recorded
      (fun _ => (some ⟨[⟨"mlx5_0", ⟨"Down", "Disabled", 0⟩⟩]⟩, none)) (fun _ => (none, none)) j)
      (futureRun.store j)).2.2 = none) ∧
    (∀ j, futureRun.times j < futureRun.times (j + 1) ∧
      futureRun.times (j + 1) - futureRun.times j ≤ 6 * minute) ∧
    (∃ ev ∈ futureRun.initial, futureRun.times 0 < ev.time) ∧
    (∀ j, (∃ port ∈ (futureRun.result j).allIBPorts, port.device = "mlx5_0") ∧
      ∀ port ∈ (futureRun.result j).allIBPorts, port.device = "mlx5_0" → port.state = "Down") ∧
    4 * minute ≤ futureRun.times 1 - futureRun.times 0 ∧ (futureRun.result 1).health = .unhealthy ∧
    (futureRun.result 1).reasonIbPortDrop = "" := by
  have records (j : ℕ) : Records futureRun.component (futureRun.times j)
      (fun _ => (some ⟨[⟨"mlx5_0", ⟨"Down", "Disabled", 0⟩⟩]⟩, none)) (fun _ => (none, none))
      timeSortedBucket :=
    ⟨show (⟨1, 100⟩ : ExpectedPortStates).isZero = false by decide, ⟨_, rfl, rfl, by decide⟩, rfl, rfl, rfl⟩
  have verdict (j : ℕ) := check_verdict_of_recorded (records j) futureRun.relTime (futureRun.dropOrder j)
    (futureRun.flapOrder j) (futureRun.store j) (timeSortedBucket_recorded _ _)
  have listed (j : ℕ) : (futureRun.result j).allIBPorts = [⟨"mlx5_0", "Down", "Disabled", 0⟩] :=
    (verdict j).1.trans ((resultAtRecord_ports (records j).policy _ _ _).1.trans rfl)
  have : IsTotal Event fun a b => a.time ≤ b.time := ⟨fun a b => le_total a.time b.time⟩
  have : IsTrans Event fun a b => a.time ≤ b.time := ⟨fun _ _ _ => le_trans⟩
  refine ⟨fun events since => ⟨_, rfl, List.sorted_insertionSort _ _, List.perm_insertionSort _ _⟩,
    fun _ _ => rfl, fun _ _ => rfl, records, fun _ => timeSortedBucket_recorded _ _,
    fun j => by simp only [futureRun, minute]; omega, ⟨_, List.mem_singleton_self _, by decide⟩,
    fun j => by simp [listed j], by decide, (verdict 1).2.1.trans (by decide), by decide⟩

end Run

end Infiniband
