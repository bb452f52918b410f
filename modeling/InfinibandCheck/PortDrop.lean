import InfinibandCheck.Record
import Mathlib.Data.List.Dedup

/-!
`evaluateIbPortDrop`. The scan keeps `droppedSince`, a map from device to the
time it was first seen down; a reading in any other state deletes the device.
`downRunStart` says what the map holds independently of the loop: where the
device's final run of "Down" readings starts. `humanize.RelTime` is a library
function, left as the parameter `relTime`.
-/

namespace Infiniband

variable {σ : Type}

def readings (events : List Event) : List (Int × IBPort) :=
  events.flatMap fun ev => (parseIBPortsFromEvent ev).map (ev.time, ·)

def dropStep (droppedSince : GoMap Int) (reading : Int × IBPort) : GoMap Int :=
  if reading.2.state ≠ "Down" then droppedSince.erase reading.2.device
  else if reading.2.device ∈ droppedSince then droppedSince
  else droppedSince.insert reading.2.device reading.1

def scanDropped (events : List Event) : GoMap Int :=
  events.foldl (fun droppedSince ev =>
    (parseIBPortsFromEvent ev).foldl (fun m port => dropStep m (ev.time, port)) droppedSince) ∅

def dropMessage (relTime : Int → Int → String) (now : Int) (dev : String) (ts : Int) : String :=
  dev ++ " dropped " ++ relTime ts now

def dropMessages (relTime : Int → Int → String) (now : Int)
    (entries : List (Sigma fun _ : String => Int)) : List String :=
  entries.filterMap fun entry =>
    let elapsed := Time.sub now entry.2
    if elapsed < 0 then none
    else if elapsed < 4 * minute then none
    else some (dropMessage relTime now entry.1 entry.2)

def ibPortDropReason (relTime : Int → Int → String) (order : RangeOrder Int) (now : Int)
    (ibstatEvents : List Event) : Option String :=
  let msgs := dropMessages relTime now (order.order (scanDropped ibstatEvents).entries)
  if msgs.isEmpty then none else some ("ib port drop -- " ++ ", ".intercalate (sortStrings msgs))

def Component.evaluateIbPortDrop (c : Component σ) (relTime : Int → Int → String)
    (order : RangeOrder Int) (s : σ) (cr : CheckResult) : CheckResult :=
  if cr.health = .healthy then cr
  else if Time.isZero cr.ts then cr
  else match c.eventBucket with
    | none => cr
    | some _ =>
      match readAllIbstatEvents c.eventBucket s (Time.add cr.ts (-10 * minute)) with
      | .error _ => cr
      | .ok ibstatEvents =>
        if ibstatEvents.isEmpty then cr
        -- the one event read is the one just inserted
        else if ibstatEvents.length = 1 ∧ ibstatEvents.head?.map (·.time) = some cr.ts then cr
        else match ibPortDropReason relTime order cr.ts ibstatEvents with
          | none => cr
          | some reason => { cr with reasonIbPortDrop := reason }

def downRunStart (rs : List (Int × IBPort)) (d : String) : Option Int :=
  (((rs.filter (·.2.device == d)).reverse.takeWhile (·.2.state == "Down")).getLast?).map (·.1)

def readingDevices (rs : List (Int × IBPort)) : List String := (rs.map (·.2.device)).dedup

def droppedDevices (now : Int) (rs : List (Int × IBPort)) : List (String × Int) :=
  (readingDevices rs).filterMap fun d =>
    (downRunStart rs d).bind fun t => if 4 * minute ≤ now - t then some (d, t) else none

theorem lookup_dropStep (m : GoMap Int) (reading : Int × IBPort) (d : String) :
    (dropStep m reading).lookup d =
      if reading.2.device = d then
        if reading.2.state = "Down" then some ((m.lookup d).getD reading.1) else none
      else m.lookup d := by
  unfold dropStep
  by_cases same : reading.2.device = d
  · subst same
    by_cases down : reading.2.state = "Down"
    · by_cases tracked : reading.2.device ∈ m
      · obtain ⟨t, found⟩ := Option.isSome_iff_exists.mp (AList.lookup_isSome.mpr tracked)
        simp [down, tracked, found]
      · simp [down, tracked, AList.lookup_insert, AList.lookup_eq_none.mpr tracked]
    · simp [down, AList.lookup_erase]
  · have other : d ≠ reading.2.device := Ne.symm same
    split_ifs <;> simp [same, AList.lookup_erase_ne other, AList.lookup_insert_ne other]

theorem downRunStart_append (rs : List (Int × IBPort)) (reading : Int × IBPort) (d : String) :
    downRunStart (rs ++ [reading]) d =
      if reading.2.device = d then
        if reading.2.state = "Down" then some ((downRunStart rs d).getD reading.1) else none
      else downRunStart rs d := by
  unfold downRunStart
  by_cases same : reading.2.device = d
  · by_cases down : reading.2.state = "Down"
    · simp only [List.filter_append, List.filter_cons, same, beq_self_eq_true, List.filter_nil,
        List.reverse_append, List.reverse_cons, List.reverse_nil, List.nil_append, List.singleton_append,
        List.takeWhile_cons, down, if_true, ite_true]
      rw [List.getLast?_cons]
      generalize List.getLast? _ = last
      cases last <;> rfl
    · simp [List.filter_append, same, down]
  · simp [List.filter_append, same]

theorem readings_append (events events' : List Event) :
    readings (events ++ events') = readings events ++ readings events' :=
  List.flatMap_append _ _ _

theorem readings_convertToIbstatEvent (cr : CheckResult) :
    readings [convertToIbstatEvent cr] = cr.allIBPorts.map fun port => (cr.ts, compactPort port) := by
  simp only [readings, List.flatMap_cons, List.flatMap_nil, List.append_nil,
    parseIBPortsFromEvent_recorded, List.map_map]
  rfl

theorem mem_readings {events : List Event} {r : Int × IBPort} (member : r ∈ readings events) :
    ∃ ev ∈ events, r.1 = ev.time := by
  obtain ⟨ev, held, read⟩ := List.mem_flatMap.mp member
  obtain ⟨_, _, rfl⟩ := List.mem_map.mp read
  exact ⟨ev, held, rfl⟩

theorem downRunStart_append_down {rs₁ rs₂ : List (Int × IBPort)} {d : String} {bound : Int}
    (earlier : ∀ r ∈ rs₁, r.1 ≤ bound) (down : ∀ r ∈ rs₂, r.2.device = d → r.2.state = "Down")
    (first : ∃ r, (rs₂.filter (·.2.device == d)).head? = some r ∧ r.1 ≤ bound) :
    ∃ t, downRunStart (rs₁ ++ rs₂) d = some t ∧ t ≤ bound := by
  obtain ⟨r, head, early⟩ := first
  have allDown : ∀ x ∈ (rs₂.filter (·.2.device == d)).reverse, (x.2.state == "Down") = true := by
    intro x member
    simp only [List.mem_reverse, List.mem_filter, beq_iff_eq] at member
    simp [down x member.1 member.2]
  unfold downRunStart
  rw [List.filter_append, List.reverse_append, List.takeWhile_append_of_pos allDown,
    List.getLast?_append, List.getLast?_reverse, head]
  cases last : ((rs₁.filter (·.2.device == d)).reverse.takeWhile (·.2.state == "Down")).getLast? with
  | none => exact ⟨r.1, rfl, early⟩
  | some x =>
    have member : x ∈ rs₁ := List.mem_of_mem_filter (List.mem_reverse.mp
      ((List.takeWhile_sublist _).subset (List.mem_of_getLast?_eq_some last)))
    exact ⟨x.1, rfl, earlier x member⟩

theorem lookup_scan (rs : List (Int × IBPort)) (d : String) :
    (rs.foldl dropStep ∅).lookup d = downRunStart rs d := by
  induction rs using List.reverseRecOn with
  | nil => rfl
  | append_singleton rs reading ih =>
    rw [List.foldl_append, List.foldl_cons, List.foldl_nil, lookup_dropStep, downRunStart_append, ih]

theorem scanDropped_eq (events : List Event) :
    scanDropped events = (readings events).foldl dropStep ∅ := by
  unfold scanDropped readings
  generalize (∅ : GoMap Int) = init
  induction events generalizing init with
  | nil => rfl
  | cons ev evs ih => simp [List.foldl_append, List.foldl_map, ih]

theorem downRunStart_some {rs : List (Int × IBPort)} {d : String} {t : Int}
    (start : downRunStart rs d = some t) : ∃ r ∈ rs, r.2.device = d ∧ r.1 = t := by
  obtain ⟨r, last, rfl⟩ := Option.map_eq_some'.mp start
  have member := (List.takeWhile_sublist _).subset (List.mem_of_getLast?_eq_some last)
  simp only [List.mem_reverse, List.mem_filter, beq_iff_eq] at member
  exact ⟨r, member.1, member.2, rfl⟩

theorem downRunStart_later_down {rs : List (Int × IBPort)} {d : String} {t bound : Int}
    (ordered : rs.Pairwise fun a b => bound ≤ a.1 → a.1 ≤ b.1) (start : downRunStart rs d = some t) :
    ∀ x ∈ rs, x.2.device = d → bound ≤ x.1 → t < x.1 → x.2.state = "Down" := by
  intro x member named late newer
  obtain ⟨y, last, rfl⟩ := Option.map_eq_some'.mp start
  set named_d := rs.filter (·.2.device == d)
  set run := named_d.reverse.takeWhile (·.2.state == "Down")
  have split : named_d = (named_d.reverse.dropWhile (·.2.state == "Down")).reverse ++ run.reverse := by
    rw [← List.reverse_append, List.takeWhile_append_dropWhile, List.reverse_reverse]
  have listed : x ∈ named_d := List.mem_filter.mpr ⟨member, beq_iff_eq.mpr named⟩
  have ordered_d : named_d.Pairwise fun a b => bound ≤ a.1 → a.1 ≤ b.1 := ordered.sublist (List.filter_sublist _)
  rw [split, List.mem_append] at listed
  rw [split, List.pairwise_append] at ordered_d
  rcases listed with before | inRun
  · have first : y ∈ run.reverse := List.mem_reverse.mpr (List.mem_of_getLast?_eq_some last)
    exact absurd (ordered_d.2.2 x before y first late) (not_le.mpr newer)
  · have taken : x ∈ run := List.mem_reverse.mp inRun
    have down := List.mem_takeWhile_imp taken
    exact beq_iff_eq.mp down

theorem scanDropped_entries (events : List Event) :
    (scanDropped events).entries.Perm ((readingDevices (readings events)).filterMap fun d =>
      (downRunStart (readings events) d).map (Sigma.mk d)) := by
  refine GoMap.entries_perm _ _ _ (List.nodup_dedup _) (fun d => by rw [scanDropped_eq, lookup_scan])
    fun d t start => ?_
  obtain ⟨r, member, device, -⟩ := downRunStart_some start
  exact List.mem_dedup.mpr (List.mem_map.mpr ⟨r, member, device⟩)

theorem dropMessages_spec (relTime : Int → Int → String) (now : Int) (rs : List (Int × IBPort)) :
    dropMessages relTime now ((readingDevices rs).filterMap fun d => (downRunStart rs d).map (Sigma.mk d)) =
      (droppedDevices now rs).map fun p => dropMessage relTime now p.1 p.2 := by
  simp only [dropMessages, droppedDevices, List.filterMap_filterMap, List.map_filterMap]
  congr 1
  funext d
  cases downRunStart rs d with
  | none => rfl
  | some t =>
    simp only [Option.map_some', Option.bind_some, Option.some_bind,
      Time.sub_lt_iff (c := 0) (by omega) (by omega),
      Time.sub_lt_iff (c := 4 * minute) (by simp [minute]) (by simp [minute])]
    have positive : 0 < minute := by decide
    split_ifs <;> first | rfl | omega

theorem ibPortDropReason_eq (relTime : Int → Int → String) (order : RangeOrder Int) (now : Int)
    (events : List Event) :
    ibPortDropReason relTime order now events =
      if droppedDevices now (readings events) = [] then none
      else some ("ib port drop -- " ++ ", ".intercalate (sortStrings
        ((droppedDevices now (readings events)).map fun p => dropMessage relTime now p.1 p.2))) := by
  have perm : (dropMessages relTime now (order.order (scanDropped events).entries)).Perm
      ((droppedDevices now (readings events)).map fun p => dropMessage relTime now p.1 p.2) := by
    rw [← dropMessages_spec]
    exact ((order.perm _).trans (scanDropped_entries events)).filterMap _
  dsimp only [ibPortDropReason]
  rw [sortStrings_eq_of_perm perm]
  by_cases none_dropped : droppedDevices now (readings events) = []
  · simp only [none_dropped, List.map_nil, List.perm_nil] at perm
    simp [none_dropped, perm]
  · have some_msgs : dropMessages relTime now (order.order (scanDropped events).entries) ≠ [] :=
      fun empty => none_dropped (by simpa [empty] using perm)
    simp [none_dropped, some_msgs]

theorem readings_ibstat (events : List Event) : readings (ibstatOnly events) = readings events := by
  induction events with
  | nil => rfl
  | cons ev evs ih =>
    by_cases ibstat : ev.name = "ibstat"
    · simp [readings, ibstatOnly, ibstat] at ih ⊢; exact ih
    · simp [readings, ibstatOnly, ibstat, parseIBPortsFromEvent] at ih ⊢; exact ih

theorem mem_droppedDevices (now : Int) (rs : List (Int × IBPort)) (d : String) (t : Int) :
    (d, t) ∈ droppedDevices now rs ↔ downRunStart rs d = some t ∧ 4 * minute ≤ now - t := by
  simp only [droppedDevices, List.mem_filterMap, Option.bind_eq_some]
  constructor
  · rintro ⟨d', -, t', start, hit⟩
    split_ifs at hit with long
    cases hit
    exact ⟨start, long⟩
  · rintro ⟨start, long⟩
    obtain ⟨r, member, rfl, -⟩ := downRunStart_some start
    exact ⟨r.2.device, List.mem_dedup.mpr (List.mem_map_of_mem _ member), t, start, by simp [long]⟩

theorem droppedDevices_nodup (now : Int) (rs : List (Int × IBPort)) :
    ((droppedDevices now rs).map Prod.fst).Nodup := by
  rw [droppedDevices, List.map_filterMap]
  refine (List.nodup_dedup _).filterMap fun d d' x hx hx' => ?_
  simp only [Option.mem_def, Option.map_eq_some', Option.bind_eq_some] at hx hx'
  obtain ⟨_, ⟨_, _, hit⟩, rfl⟩ := hx
  obtain ⟨_, ⟨_, _, hit'⟩, same⟩ := hx'
  split_ifs at hit hit'
  cases hit
  cases hit'
  exact same.symm

theorem droppedDevices_fresh (now : Int) (rs : List (Int × IBPort)) (fresh : ∀ r ∈ rs, r.1 = now) :
    droppedDevices now rs = [] := by
  refine List.eq_nil_iff_forall_not_mem.mpr fun ⟨d, t⟩ member => ?_
  obtain ⟨start, long⟩ := (mem_droppedDevices now rs d t).mp member
  obtain ⟨r, listed, -, rfl⟩ := downRunStart_some start
  have : 0 < minute := by decide
  rw [fresh r listed] at long
  omega

theorem evaluateIbPortDrop_of_read (c : Component σ) (relTime : Int → Int → String)
    (order : RangeOrder Int) (s : σ) (cr : CheckResult) (ibstatEvents : List Event)
    (configured : c.eventBucket.isSome) (unhealthy : cr.health = .unhealthy) (nonzero : cr.ts ≠ 0)
    (read : readAllIbstatEvents c.eventBucket s (Time.add cr.ts (-10 * minute)) = .ok ibstatEvents) :
    c.evaluateIbPortDrop relTime order s cr =
      if droppedDevices cr.ts (readings ibstatEvents) = [] then cr
      else { cr with reasonIbPortDrop := "ib port drop -- " ++ ", ".intercalate (sortStrings
        ((droppedDevices cr.ts (readings ibstatEvents)).map fun p => dropMessage relTime cr.ts p.1 p.2)) } := by
  obtain ⟨bucket, hb⟩ := Option.isSome_iff_exists.mp configured
  have scanned := ibPortDropReason_eq relTime order cr.ts ibstatEvents
  unfold Component.evaluateIbPortDrop
  rw [if_neg (by simp [unhealthy]), if_neg (by simp [Time.isZero, nonzero]), hb]
  rw [hb] at read
  dsimp only
  rw [read]
  dsimp only
  rcases ibstatEvents with _ | ⟨ev, _ | ⟨ev', rest⟩⟩
  · simp [readings, droppedDevices, readingDevices]
  · by_cases now : ev.time = cr.ts
    · have fresh : droppedDevices cr.ts (readings [ev]) = [] := by
        refine droppedDevices_fresh _ _ fun r member => ?_
        simp only [readings, List.flatMap_cons, List.flatMap_nil, List.append_nil, List.mem_map] at member
        obtain ⟨_, _, rfl⟩ := member
        exact now
      simp [now, fresh]
    · simp only [List.isEmpty_cons, List.length_singleton, List.head?_cons, Option.map_some',
        Option.some.injEq, now, and_false, if_false, Bool.false_eq_true, scanned]
      split_ifs <;> rfl
  · simp only [List.isEmpty_cons, List.length_cons, Bool.false_eq_true, if_false, scanned]
    split_ifs <;> first | rfl | omega

theorem evaluateIbPortDrop_reports (c : Component σ) (relTime : Int → Int → String)
    (order : RangeOrder Int) (s : σ) (cr : CheckResult) (bucket : Bucket σ) (events : List Event)
    (configured : c.eventBucket = some bucket)
    (stored : bucket.get s (Time.add cr.ts (-10 * minute)) = .ok events)
    (unhealthy : cr.health = .unhealthy) (nonzero : cr.ts ≠ 0) :
    c.evaluateIbPortDrop relTime order s cr =
        (if droppedDevices cr.ts (readings events) = [] then cr
        else { cr with reasonIbPortDrop := "ib port drop -- " ++ ", ".intercalate (sortStrings
          ((droppedDevices cr.ts (readings events)).map fun p => p.1 ++ " dropped " ++ relTime p.2 cr.ts)) }) ∧
      (∀ d t, (d, t) ∈ droppedDevices cr.ts (readings events) ↔
        downRunStart (readings events) d = some t ∧ 4 * minute ≤ cr.ts - t) ∧
      ((droppedDevices cr.ts (readings events)).map Prod.fst).Nodup := by
  refine ⟨?_, mem_droppedDevices cr.ts _, droppedDevices_nodup cr.ts _⟩
  have read : readAllIbstatEvents c.eventBucket s (Time.add cr.ts (-10 * minute)) =
      .ok (ibstatOnly events) := by
    rw [configured, readAllIbstatEvents, stored]
    rfl
  rw [evaluateIbPortDrop_of_read c relTime order s cr _ (by simp [configured]) unhealthy nonzero read,
    readings_ibstat]
  rfl

theorem evaluateIbPortDrop_reports_five_minutes_down :
    let c : Component (List Event) := ⟨none, some memoryBucket, none, none, fun _ => ⟨1, 0⟩⟩
    let down : Event := ⟨minute, "ibstat", eventTypeWarning, "",
      [("all_ibports", marshalIBPorts [⟨"mlx5_0", "Down", "", 0⟩])]⟩
    let cr : CheckResult := { ts := 6 * minute, health := .unhealthy }
    let relTime : Int → Int → String := fun _ _ => "5 minutes ago"
    c.eventBucket = some memoryBucket ∧
    memoryBucket.get [down] (Time.add cr.ts (-10 * minute)) = .ok [down] ∧
    cr.health = .unhealthy ∧ cr.ts ≠ 0 ∧
    c.evaluateIbPortDrop relTime (.inserted _) [down] cr =
        (if droppedDevices cr.ts (readings [down]) = [] then cr
        else { cr with reasonIbPortDrop := "ib port drop -- " ++ ", ".intercalate (sortStrings
          ((droppedDevices cr.ts (readings [down])).map fun p => p.1 ++ " dropped " ++ relTime p.2 cr.ts)) }) ∧
      (∀ d t, (d, t) ∈ droppedDevices cr.ts (readings [down]) ↔
        downRunStart (readings [down]) d = some t ∧ 4 * minute ≤ cr.ts - t) ∧
      ((droppedDevices cr.ts (readings [down])).map Prod.fst).Nodup :=
  ⟨rfl, rfl, rfl, by decide,
    evaluateIbPortDrop_reports _ _ _ _ _ _ _ rfl rfl rfl (by decide)⟩

/-- The drop analyzer reads a history only through its readings: a stored payload it cannot
decode adds no reading, like an event of another name, so it is skipped and the scan goes on
over the rest. -/
theorem evaluateIbPortDrop_of_same_readings (c : Component σ) (relTime : Int → Int → String)
    (order : RangeOrder Int) (s s' : σ) (cr : CheckResult) (bucket : Bucket σ) (events events' : List Event)
    (configured : c.eventBucket = some bucket) (decided : cr.health = .healthy ∨ cr.health = .unhealthy)
    (stored : bucket.get s (Time.add cr.ts (-10 * minute)) = .ok events)
    (stored' : bucket.get s' (Time.add cr.ts (-10 * minute)) = .ok events')
    (same : readings events = readings events') :
    c.evaluateIbPortDrop relTime order s cr = c.evaluateIbPortDrop relTime order s' cr := by
  rcases decided with healthy | unhealthy
  · simp [Component.evaluateIbPortDrop, healthy]
  by_cases zero : cr.ts = 0
  · simp [Component.evaluateIbPortDrop, unhealthy, zero, Time.isZero]
  have read (s : σ) (events : List Event) (stored : bucket.get s (Time.add cr.ts (-10 * minute)) = .ok events) :
      readAllIbstatEvents c.eventBucket s (Time.add cr.ts (-10 * minute)) = .ok (ibstatOnly events) := by
    rw [configured, readAllIbstatEvents, stored]
    rfl
  rw [evaluateIbPortDrop_of_read c relTime order s cr _ (by simp [configured]) unhealthy zero (read s _ stored),
    evaluateIbPortDrop_of_read c relTime order s' cr _ (by simp [configured]) unhealthy zero (read s' _ stored'),
    readings_ibstat, readings_ibstat, same]

theorem evaluateIbPortDrop_skips_undecodable_payload :
    let c : Component (List Event) := ⟨none, some memoryBucket, none, none, fun _ => ⟨1, 0⟩⟩
    let down : Event := ⟨minute, "ibstat", eventTypeWarning, "",
      [("all_ibports", marshalIBPorts [⟨"mlx5_0", "Down", "", 0⟩])]⟩
    let garbled : Event := ⟨2 * minute, "ibstat", eventTypeWarning, "", [("all_ibports", "[\x7b")]⟩
    let cr : CheckResult := { ts := 6 * minute, health := .unhealthy }
    c.eventBucket = some memoryBucket ∧ (cr.health = .healthy ∨ cr.health = .unhealthy) ∧
    memoryBucket.get [down, garbled] (Time.add cr.ts (-10 * minute)) = .ok [down, garbled] ∧
    memoryBucket.get [down] (Time.add cr.ts (-10 * minute)) = .ok [down] ∧
    readings [down, garbled] = readings [down] ∧
    c.evaluateIbPortDrop (fun _ _ => "5 minutes ago") (.inserted _) [down, garbled] cr =
      c.evaluateIbPortDrop (fun _ _ => "5 minutes ago") (.inserted _) [down] cr :=
  have same : readings [⟨minute, "ibstat", eventTypeWarning, "",
      [("all_ibports", marshalIBPorts [⟨"mlx5_0", "Down", "", 0⟩])]⟩,
      ⟨2 * minute, "ibstat", eventTypeWarning, "", [("all_ibports", "[\x7b")]⟩] =
    readings [⟨minute, "ibstat", eventTypeWarning, "",
      [("all_ibports", marshalIBPorts [⟨"mlx5_0", "Down", "", 0⟩])]⟩] := by decide
  ⟨rfl, .inr rfl, rfl, rfl, same,
    evaluateIbPortDrop_of_same_readings _ _ _ _ _ _ _ _ _ rfl (.inr rfl) rfl rfl same⟩

end Infiniband
