import InfinibandCheck.PortDrop
import Mathlib.Data.List.Destutter

/-!
`evaluateIbPortFlap`. The scan keeps `stateTransitions`, a map from device to
the states it went through in the last four minutes, appending a state only
when it differs from the last one kept. `collapsedStates` says the same with
`List.destutter`: the device's in-window states with consecutive repeats removed.
-/

namespace Infiniband

variable {σ : Type}

def flapStep (stateTransitions : GoMap (List String)) (port : IBPort) : GoMap (List String) :=
  match stateTransitions.lookup port.device with
  | none | some [] => stateTransitions.insert port.device [port.state]
  | some prev =>
    -- ib port state flapped
    if prev.getLast? ≠ some port.state then stateTransitions.insert port.device (prev ++ [port.state])
    else stateTransitions

def scanTransitions (now : Int) (ibstatEvents : List Event) : GoMap (List String) :=
  ibstatEvents.foldl (fun stateTransitions ev =>
    if 4 * minute < Time.sub now ev.time then stateTransitions
    else (parseIBPortsFromEvent ev).foldl flapStep stateTransitions) ∅

def flapMessage (dev : String) (transitions : List String) : String :=
  dev ++ " " ++ " -> ".intercalate transitions

def flapMessages (entries : List (Sigma fun _ : String => List String)) : List String :=
  entries.filterMap fun entry =>
    if entry.2.length < 2 then none
    else
      -- keep the last 4 entries
      let transitions := if entry.2.length > 4 then entry.2.drop (entry.2.length - 4) else entry.2
      some (flapMessage entry.1 transitions)

def ibPortFlapReason (order : RangeOrder (List String)) (now : Int) (ibstatEvents : List Event) :
    Option String :=
  let stateTransitions := scanTransitions now ibstatEvents
  if stateTransitions.entries.isEmpty then none
  else
    let msgs := flapMessages (order.order stateTransitions.entries)
    if msgs.isEmpty then none else some ("ib port flap -- " ++ ", ".intercalate (sortStrings msgs))

/-- Evaluated whatever the current verdict: a port may have recovered and still have flapped. -/
def Component.evaluateIbPortFlap (c : Component σ) (order : RangeOrder (List String)) (s : σ)
    (cr : CheckResult) : CheckResult :=
  if Time.isZero cr.ts then cr
  else match c.eventBucket with
    | none => cr
    | some _ =>
      match readAllIbstatEvents c.eventBucket s (Time.add cr.ts (-10 * minute)) with
      | .error _ => cr
      | .ok [] | .ok [_] => cr
      | .ok (oldest :: rest) =>
        if Time.sub cr.ts oldest.time < 0 then cr
        else match ibPortFlapReason order cr.ts (oldest :: rest) with
          | none => cr
          | some reason => { cr with reasonIbPortFlap := reason }

def windowReadings (now : Int) (events : List Event) : List (Int × IBPort) :=
  readings (events.filter fun ev => now - ev.time ≤ 4 * minute)

def collapsedStates (rs : List (Int × IBPort)) (d : String) : List String :=
  ((rs.filter (·.2.device == d)).map (·.2.state)).destutter (· ≠ ·)

def lastFour (states : List String) : List String := states.drop (states.length - 4)

def flappingDevices (rs : List (Int × IBPort)) : List (String × List String) :=
  (readingDevices rs).filterMap fun d =>
    if 2 ≤ (collapsedStates rs d).length then some (d, lastFour (collapsedStates rs d)) else none

theorem destutter'_append_singleton (a : String) (l : List String) (x : String) :
    (l ++ [x]).destutter' (· ≠ ·) a =
      if (l.destutter' (· ≠ ·) a).getLast? = some x then l.destutter' (· ≠ ·) a
      else l.destutter' (· ≠ ·) a ++ [x] := by
  induction l generalizing a with
  | nil => by_cases same : a = x <;> simp [same]
  | cons b l ih =>
    by_cases same : a = b
    · subst same
      simp [ih]
    · obtain ⟨last, hlast⟩ := Option.ne_none_iff_exists'.mp
        (mt List.getLast?_eq_none_iff.mp (List.destutter'_ne_nil (R := (· ≠ ·)) (a := b) (l := l)))
      have step : ∀ rest, (b :: rest).destutter' (· ≠ ·) a = a :: rest.destutter' (· ≠ ·) b :=
        fun rest => List.destutter'_cons_pos (R := fun x y => x ≠ y) rest same
      simp only [List.cons_append, step, ih, List.getLast?_cons, hlast, Option.getD_some]
      split_ifs <;> rfl

theorem destutter_append_singleton (l : List String) (x : String) :
    (l ++ [x]).destutter (· ≠ ·) =
      if (l.destutter (· ≠ ·)).getLast? = some x then l.destutter (· ≠ ·)
      else l.destutter (· ≠ ·) ++ [x] := by
  cases l with
  | nil => simp
  | cons a l => simp only [List.cons_append, List.destutter_cons', destutter'_append_singleton]

theorem two_le_length_destutter' (a : String) (l : List String) :
    2 ≤ (l.destutter' (· ≠ ·) a).length ↔ ∃ b ∈ l, b ≠ a := by
  induction l generalizing a with
  | nil => simp
  | cons b l ih =>
    by_cases same : a = b
    · subst same
      rw [List.destutter'_cons_neg (R := fun x y => x ≠ y) l (not_not.mpr rfl), ih]
      simp only [List.mem_cons, exists_eq_or_imp, ne_eq, not_true_eq_false, false_or]
    · rw [List.destutter'_cons_pos (R := fun x y => x ≠ y) l same, List.length_cons]
      have := List.length_pos.mpr (List.destutter'_ne_nil (R := fun x y : String => x ≠ y) (a := b) (l := l))
      exact ⟨fun _ => ⟨b, List.mem_cons_self b l, Ne.symm same⟩, fun _ => by omega⟩

theorem two_le_collapsedStates (rs : List (Int × IBPort)) (d : String) :
    2 ≤ (collapsedStates rs d).length ↔
      ∃ x ∈ rs, ∃ y ∈ rs, x.2.device = d ∧ y.2.device = d ∧ x.2.state ≠ y.2.state := by
  have differ (l : List String) : 2 ≤ (l.destutter (· ≠ ·)).length ↔ ∃ a ∈ l, ∃ b ∈ l, a ≠ b := by
    cases l with
    | nil => simp
    | cons a l =>
      rw [List.destutter_cons', two_le_length_destutter']
      constructor
      · rintro ⟨b, held, other⟩
        exact ⟨b, List.mem_cons_of_mem a held, a, List.mem_cons_self a l, other⟩
      · rintro ⟨x, heldX, y, heldY, other⟩
        by_cases first : x = a
        · subst first
          exact ⟨y, (List.mem_cons.mp heldY).resolve_left (Ne.symm other), Ne.symm other⟩
        · exact ⟨x, (List.mem_cons.mp heldX).resolve_left first, first⟩
  rw [collapsedStates, differ]
  simp only [List.mem_map, List.mem_filter, beq_iff_eq]
  constructor
  · rintro ⟨_, ⟨x, ⟨heldX, namedX⟩, rfl⟩, _, ⟨y, ⟨heldY, namedY⟩, rfl⟩, other⟩
    exact ⟨x, heldX, y, heldY, namedX, namedY, other⟩
  · rintro ⟨x, heldX, y, heldY, namedX, namedY, other⟩
    exact ⟨_, ⟨x, ⟨heldX, namedX⟩, rfl⟩, _, ⟨y, ⟨heldY, namedY⟩, rfl⟩, other⟩

theorem lookup_flapStep (m : GoMap (List String)) (port : IBPort) (d : String) :
    (flapStep m port).lookup d =
      if port.device = d then
        some (match m.lookup d with
          | none | some [] => [port.state]
          | some prev => if prev.getLast? ≠ some port.state then prev ++ [port.state] else prev)
      else m.lookup d := by
  unfold flapStep
  by_cases same : port.device = d
  · subst same
    split <;> rename_i found <;> simp only [found, AList.lookup_insert, if_true]
    split_ifs <;> simp [AList.lookup_insert, found]
  · have other : d ≠ port.device := Ne.symm same
    split <;> (try split_ifs) <;> simp [same, AList.lookup_insert_ne other]

theorem collapsedStates_append (rs : List (Int × IBPort)) (r : Int × IBPort) (d : String) :
    collapsedStates (rs ++ [r]) d =
      if r.2.device = d then
        if (collapsedStates rs d).getLast? = some r.2.state then collapsedStates rs d
        else collapsedStates rs d ++ [r.2.state]
      else collapsedStates rs d := by
  unfold collapsedStates
  by_cases same : r.2.device = d
  · simp [List.filter_append, same, destutter_append_singleton]
  · simp [List.filter_append, same]

theorem lookup_scanFlaps (rs : List (Int × IBPort)) (d : String) :
    (rs.foldl (fun m r => flapStep m r.2) ∅).lookup d =
      if collapsedStates rs d = [] then none else some (collapsedStates rs d) := by
  induction rs using List.reverseRecOn with
  | nil => rfl
  | append_singleton rs r ih =>
    rw [List.foldl_append, List.foldl_cons, List.foldl_nil, lookup_flapStep, collapsedStates_append, ih]
    by_cases same : r.2.device = d
    · by_cases empty : collapsedStates rs d = []
      · simp [same, empty]
      · split_ifs <;> simp_all
    · simp [same]

theorem scanTransitions_eq (now : Int) (events : List Event) :
    scanTransitions now events = (windowReadings now events).foldl (fun m r => flapStep m r.2) ∅ := by
  unfold scanTransitions windowReadings readings
  generalize (∅ : GoMap (List String)) = init
  induction events generalizing init with
  | nil => rfl
  | cons ev evs ih =>
    have window : 4 * minute < Time.sub now ev.time ↔ ¬now - ev.time ≤ 4 * minute := by
      rw [Time.lt_sub_iff (by simp [minute]) (by simp [minute])]
      omega
    by_cases old : 4 * minute < Time.sub now ev.time
    · simp only [List.foldl_cons, old, ↓reduceIte, List.filter_cons, window.mp old, decide_False,
        Bool.false_eq_true, ih]
    · have recent : now - ev.time ≤ 4 * minute := not_not.mp ((not_iff_not.mpr window).mp old)
      simp only [List.foldl_cons, old, ↓reduceIte, List.filter_cons, recent, decide_True,
        List.flatMap_cons, List.foldl_append, List.foldl_map, ih]

theorem collapsedStates_ne_nil {rs : List (Int × IBPort)} {d : String} (listed : collapsedStates rs d ≠ []) :
    d ∈ readingDevices rs := by
  have readsOf : rs.filter (·.2.device == d) ≠ [] := fun empty => listed (by simp [collapsedStates, empty])
  obtain ⟨r, member⟩ := List.exists_mem_of_ne_nil _ readsOf
  simp only [List.mem_filter, beq_iff_eq] at member
  exact List.mem_dedup.mpr (List.mem_map.mpr ⟨r, member.1, member.2⟩)

theorem scanTransitions_entries (now : Int) (events : List Event) :
    (scanTransitions now events).entries.Perm ((readingDevices (windowReadings now events)).filterMap fun d =>
      (if collapsedStates (windowReadings now events) d = [] then none
        else some (collapsedStates (windowReadings now events) d)).map (Sigma.mk d)) :=
  GoMap.entries_perm _ _ _ (List.nodup_dedup _) (fun d => by rw [scanTransitions_eq, lookup_scanFlaps])
    fun d states listed => collapsedStates_ne_nil fun empty => by simp [empty] at listed

theorem flapMessages_spec (rs : List (Int × IBPort)) :
    flapMessages ((readingDevices rs).filterMap fun d =>
      (if collapsedStates rs d = [] then none else some (collapsedStates rs d)).map (Sigma.mk d)) =
      (flappingDevices rs).map fun p => flapMessage p.1 p.2 := by
  simp only [flapMessages, flappingDevices, List.filterMap_filterMap, List.map_filterMap]
  congr 1
  funext d
  by_cases empty : collapsedStates rs d = []
  · simp [empty]
  · by_cases few : (collapsedStates rs d).length < 2
    · simp [empty, few, show ¬2 ≤ (collapsedStates rs d).length by omega]
    · have long : 2 ≤ (collapsedStates rs d).length := by omega
      by_cases more : (collapsedStates rs d).length > 4
      · simp [empty, few, long, more, lastFour]
      · simp [empty, few, long, more, lastFour, show (collapsedStates rs d).length - 4 = 0 by omega]

theorem ibPortFlapReason_eq (order : RangeOrder (List String)) (now : Int) (events : List Event) :
    ibPortFlapReason order now events =
      if flappingDevices (windowReadings now events) = [] then none
      else some ("ib port flap -- " ++ ", ".intercalate (sortStrings
        ((flappingDevices (windowReadings now events)).map fun p => flapMessage p.1 p.2))) := by
  have perm : (flapMessages (order.order (scanTransitions now events).entries)).Perm
      ((flappingDevices (windowReadings now events)).map fun p => flapMessage p.1 p.2) := by
    rw [← flapMessages_spec]
    exact ((order.perm _).trans (scanTransitions_entries now events)).filterMap _
  dsimp only [ibPortFlapReason]
  rw [sortStrings_eq_of_perm perm]
  by_cases none_flapping : flappingDevices (windowReadings now events) = []
  · simp only [none_flapping, List.map_nil, List.perm_nil] at perm
    simp [none_flapping, perm]
  · have some_msgs : flapMessages (order.order (scanTransitions now events).entries) ≠ [] :=
      fun empty => none_flapping (by simpa [empty] using perm)
    have some_entries : (scanTransitions now events).entries ≠ [] := fun empty => by
      rw [empty, List.Perm.eq_nil (order.perm [])] at some_msgs
      exact some_msgs rfl
    simp [none_flapping, some_msgs, some_entries]

theorem mem_flappingDevices (rs : List (Int × IBPort)) (d : String) (transitions : List String) :
    (d, transitions) ∈ flappingDevices rs ↔
      2 ≤ (collapsedStates rs d).length ∧ transitions = lastFour (collapsedStates rs d) := by
  simp only [flappingDevices, List.mem_filterMap]
  constructor
  · rintro ⟨d', -, hit⟩
    split_ifs at hit with long
    cases hit
    exact ⟨long, rfl⟩
  · rintro ⟨long, rfl⟩
    refine ⟨d, collapsedStates_ne_nil fun empty => ?_, by simp [long]⟩
    simp [empty] at long

theorem flappingDevices_nodup (rs : List (Int × IBPort)) : ((flappingDevices rs).map Prod.fst).Nodup := by
  rw [flappingDevices, List.map_filterMap]
  refine (List.nodup_dedup _).filterMap fun d d' x hx hx' => ?_
  simp only [Option.mem_def, Option.map_eq_some'] at hx hx'
  obtain ⟨_, hit, rfl⟩ := hx
  obtain ⟨_, hit', same⟩ := hx'
  split_ifs at hit hit'
  cases hit
  cases hit'
  exact same.symm

theorem flappingDevices_chain (rs : List (Int × IBPort)) :
    ∀ p ∈ flappingDevices rs, p.2.Chain' (· ≠ ·) := by
  rintro ⟨d, transitions⟩ member
  obtain ⟨-, rfl⟩ := (mem_flappingDevices rs d transitions).mp member
  exact (List.destutter_is_chain' (R := fun x y => x ≠ y) _).drop _

theorem evaluateIbPortFlap_reports (c : Component σ) (order : RangeOrder (List String)) (s : σ)
    (cr : CheckResult) (bucket : Bucket σ) (events : List Event)
    (configured : c.eventBucket = some bucket)
    (stored : bucket.get s (Time.add cr.ts (-10 * minute)) = .ok events) (nonzero : cr.ts ≠ 0) :
    c.evaluateIbPortFlap order s cr =
        (if (ibstatOnly events).length < 2 ∨
            (ibstatOnly events).head?.any (fun oldest => cr.ts < oldest.time) ∨
            flappingDevices (windowReadings cr.ts (ibstatOnly events)) = [] then cr
        else { cr with reasonIbPortFlap := "ib port flap -- " ++ ", ".intercalate (sortStrings
          ((flappingDevices (windowReadings cr.ts (ibstatOnly events))).map fun p => p.1 ++ " " ++ " -> ".intercalate p.2)) }) ∧
      (∀ d transitions, (d, transitions) ∈ flappingDevices (windowReadings cr.ts (ibstatOnly events)) ↔
        2 ≤ (collapsedStates (windowReadings cr.ts (ibstatOnly events)) d).length ∧
        transitions = lastFour (collapsedStates (windowReadings cr.ts (ibstatOnly events)) d)) ∧
      ((flappingDevices (windowReadings cr.ts (ibstatOnly events))).map Prod.fst).Nodup ∧
      ∀ p ∈ flappingDevices (windowReadings cr.ts (ibstatOnly events)), p.2.Chain' (· ≠ ·) := by
  refine ⟨?_, mem_flappingDevices _, flappingDevices_nodup _, flappingDevices_chain _⟩
  have read : readAllIbstatEvents c.eventBucket s (Time.add cr.ts (-10 * minute)) = .ok (ibstatOnly events) := by
    rw [configured, readAllIbstatEvents, stored]
    rfl
  unfold Component.evaluateIbPortFlap
  rw [if_neg (by simp [Time.isZero, nonzero]), configured]
  rw [configured] at read
  rw [read]
  dsimp only
  rcases ibstatOnly events with _ | ⟨oldest, _ | ⟨next, rest⟩⟩
  · simp
  · simp
  · have future : Time.sub cr.ts oldest.time < 0 ↔ cr.ts < oldest.time := by
      rw [Time.sub_lt_iff (by omega) (by omega)]
      omega
    have two : ¬(oldest :: next :: rest).length < 2 := by simp only [List.length_cons]; omega
    by_cases ahead : cr.ts < oldest.time
    · simp [future.mpr ahead, ahead]
    · by_cases none_flapping : flappingDevices (windowReadings cr.ts (oldest :: next :: rest)) = []
      · simp only [future, ahead, if_false, ibPortFlapReason_eq, none_flapping, if_true, or_true]
      · simp only [future, ahead, if_false, ibPortFlapReason_eq, none_flapping, two, Option.any_some,
          decide_False, Bool.false_eq_true, or_self, List.head?_cons, if_false, flapMessage]

theorem evaluateIbPortFlap_reports_active_then_down :
    let c : Component (List Event) := ⟨none, some memoryBucket, none, none, fun _ => ⟨1, 0⟩⟩
    let reading (t : Int) (state : String) : Event := ⟨t, "ibstat", eventTypeInfo, "",
      [("all_ibports", marshalIBPorts [⟨"mlx5_0", state, "", 0⟩])]⟩
    let events := [reading minute "Active", reading (2 * minute) "Down"]
    let cr : CheckResult := { ts := 2 * minute }
    c.eventBucket = some memoryBucket ∧
    memoryBucket.get events (Time.add cr.ts (-10 * minute)) = .ok events ∧ cr.ts ≠ 0 ∧
    c.evaluateIbPortFlap (.inserted _) events cr =
        (if (ibstatOnly events).length < 2 ∨
            (ibstatOnly events).head?.any (fun oldest => cr.ts < oldest.time) ∨
            flappingDevices (windowReadings cr.ts (ibstatOnly events)) = [] then cr
        else { cr with reasonIbPortFlap := "ib port flap -- " ++ ", ".intercalate (sortStrings
          ((flappingDevices (windowReadings cr.ts (ibstatOnly events))).map fun p => p.1 ++ " " ++ " -> ".intercalate p.2)) }) ∧
      (∀ d transitions, (d, transitions) ∈ flappingDevices (windowReadings cr.ts (ibstatOnly events)) ↔
        2 ≤ (collapsedStates (windowReadings cr.ts (ibstatOnly events)) d).length ∧
        transitions = lastFour (collapsedStates (windowReadings cr.ts (ibstatOnly events)) d)) ∧
      ((flappingDevices (windowReadings cr.ts (ibstatOnly events))).map Prod.fst).Nodup ∧
      ∀ p ∈ flappingDevices (windowReadings cr.ts (ibstatOnly events)), p.2.Chain' (· ≠ ·) :=
  ⟨rfl, rfl, by decide, evaluateIbPortFlap_reports _ _ _ _ _ _ rfl rfl (by decide)⟩

theorem ibPortDropReason_some {relTime : Int → Int → String} {order : RangeOrder Int} {now : Int}
    {events : List Event} {reason : String} (set : ibPortDropReason relTime order now events = some reason) :
    ∃ msgs : List String, msgs.Sorted (· ≤ ·) ∧
      msgs.Perm ((droppedDevices now (readings events)).map fun p => dropMessage relTime now p.1 p.2) ∧
      reason = "ib port drop -- " ++ ", ".intercalate msgs := by
  rw [ibPortDropReason_eq] at set
  split_ifs at set
  cases set
  exact ⟨_, sortStrings_sorted _, sortStrings_perm _, rfl⟩

theorem ibPortFlapReason_some {order : RangeOrder (List String)} {now : Int} {events : List Event}
    {reason : String} (set : ibPortFlapReason order now events = some reason) :
    ∃ msgs : List String, msgs.Sorted (· ≤ ·) ∧
      msgs.Perm ((flappingDevices (windowReadings now events)).map fun p => flapMessage p.1 p.2) ∧
      reason = "ib port flap -- " ++ ", ".intercalate msgs := by
  rw [ibPortFlapReason_eq] at set
  split_ifs at set
  cases set
  exact ⟨_, sortStrings_sorted _, sortStrings_perm _, rfl⟩

theorem evaluateIbPortDrop_cases (c : Component σ) (relTime : Int → Int → String) (order : RangeOrder Int)
    (s : σ) (cr : CheckResult) :
    c.evaluateIbPortDrop relTime order s cr = cr ∨
      ∃ events reason, readAllIbstatEvents c.eventBucket s (Time.add cr.ts (-10 * minute)) = .ok events ∧
        ibPortDropReason relTime order cr.ts events = some reason ∧
        c.evaluateIbPortDrop relTime order s cr = { cr with reasonIbPortDrop := reason } := by
  unfold Component.evaluateIbPortDrop
  repeat' split
  all_goals first
    | exact .inl rfl
    | exact .inr ⟨_, _, ‹_›, ‹_›, rfl⟩

theorem evaluateIbPortFlap_cases (c : Component σ) (order : RangeOrder (List String)) (s : σ)
    (cr : CheckResult) :
    c.evaluateIbPortFlap order s cr = cr ∨
      ∃ events reason, readAllIbstatEvents c.eventBucket s (Time.add cr.ts (-10 * minute)) = .ok events ∧
        ibPortFlapReason order cr.ts events = some reason ∧
        c.evaluateIbPortFlap order s cr = { cr with reasonIbPortFlap := reason } := by
  unfold Component.evaluateIbPortFlap
  repeat' split
  all_goals first
    | exact .inl rfl
    | exact .inr ⟨_, _, ‹_›, ‹_›, rfl⟩

theorem evaluateIbPortFlap_of_read (c : Component σ) (order : RangeOrder (List String)) (s : σ)
    (cr : CheckResult) (events : List Event) (configured : c.eventBucket.isSome) (nonzero : cr.ts ≠ 0)
    (read : readAllIbstatEvents c.eventBucket s (Time.add cr.ts (-10 * minute)) = .ok events)
    (two : 2 ≤ events.length) (past : ∀ oldest ∈ events.head?, oldest.time ≤ cr.ts) :
    c.evaluateIbPortFlap order s cr =
      if flappingDevices (windowReadings cr.ts events) = [] then cr
      else { cr with reasonIbPortFlap := "ib port flap -- " ++ ", ".intercalate (sortStrings
        ((flappingDevices (windowReadings cr.ts events)).map fun p => flapMessage p.1 p.2)) } := by
  obtain ⟨bucket, hb⟩ := Option.isSome_iff_exists.mp configured
  unfold Component.evaluateIbPortFlap
  rw [if_neg (by simp [Time.isZero, nonzero]), hb]
  rw [hb] at read
  dsimp only
  rw [read]
  rcases events with _ | ⟨oldest, _ | ⟨next, rest⟩⟩
  · exact absurd two (by simp)
  · exact absurd two (by simp)
  · have ahead : ¬Time.sub cr.ts oldest.time < 0 := by
      rw [Time.sub_lt_iff (by omega) (by omega)]
      have := past oldest rfl
      omega
    simp only [ahead, if_false, ibPortFlapReason_eq]
    split_ifs <;> rfl

theorem evaluateIbPortDrop_map_order (c : Component σ) (relTime : Int → Int → String) (s : σ)
    (cr : CheckResult) (order order' : RangeOrder Int) :
    c.evaluateIbPortDrop relTime order s cr = c.evaluateIbPortDrop relTime order' s cr := by
  simp only [Component.evaluateIbPortDrop, ibPortDropReason_eq]

theorem evaluateIbPortFlap_map_order (c : Component σ) (s : σ) (cr : CheckResult)
    (order order' : RangeOrder (List String)) :
    c.evaluateIbPortFlap order s cr = c.evaluateIbPortFlap order' s cr := by
  simp only [Component.evaluateIbPortFlap, ibPortFlapReason_eq]

/-- Ranging over `droppedSince` and `stateTransitions` in any two orders gives the same
result, and a reason set from the history read lists one message per reported device, in
ascending order. -/
theorem ibPortReasons_independent_of_map_order (c : Component σ) (relTime : Int → Int → String)
    (s : σ) (cr : CheckResult) (dropOrder dropOrder' : RangeOrder Int)
    (flapOrder flapOrder' : RangeOrder (List String)) :
    c.evaluateIbPortDrop relTime dropOrder s cr = c.evaluateIbPortDrop relTime dropOrder' s cr ∧
    c.evaluateIbPortFlap flapOrder s cr = c.evaluateIbPortFlap flapOrder' s cr ∧
    ∀ events, readAllIbstatEvents c.eventBucket s (Time.add cr.ts (-10 * minute)) = .ok events →
      (c.evaluateIbPortDrop relTime dropOrder s cr = cr ∨ ∃ msgs : List String, msgs.Sorted (· ≤ ·) ∧
        msgs.Perm ((droppedDevices cr.ts (readings events)).map fun p =>
          p.1 ++ " dropped " ++ relTime p.2 cr.ts) ∧
        c.evaluateIbPortDrop relTime dropOrder s cr =
          { cr with reasonIbPortDrop := "ib port drop -- " ++ ", ".intercalate msgs }) ∧
      (c.evaluateIbPortFlap flapOrder s cr = cr ∨ ∃ msgs : List String, msgs.Sorted (· ≤ ·) ∧
        msgs.Perm ((flappingDevices (windowReadings cr.ts events)).map fun p =>
          p.1 ++ " " ++ " -> ".intercalate p.2) ∧
        c.evaluateIbPortFlap flapOrder s cr =
          { cr with reasonIbPortFlap := "ib port flap -- " ++ ", ".intercalate msgs }) := by
  refine ⟨evaluateIbPortDrop_map_order c relTime s cr _ _, evaluateIbPortFlap_map_order c s cr _ _,
    fun events read => ⟨?_, ?_⟩⟩
  · rcases evaluateIbPortDrop_cases c relTime dropOrder s cr with same | ⟨_, _, read', set, changed⟩
    · exact .inl same
    · obtain rfl := Except.ok.inj (read'.symm.trans read)
      obtain ⟨msgs, sorted, perm, rfl⟩ := ibPortDropReason_some set
      exact .inr ⟨msgs, sorted, perm, changed⟩
  · rcases evaluateIbPortFlap_cases c flapOrder s cr with same | ⟨_, _, read', set, changed⟩
    · exact .inl same
    · obtain rfl := Except.ok.inj (read'.symm.trans read)
      obtain ⟨msgs, sorted, perm, rfl⟩ := ibPortFlapReason_some set
      exact .inr ⟨msgs, sorted, perm, changed⟩

end Infiniband
