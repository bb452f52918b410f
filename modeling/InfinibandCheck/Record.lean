import InfinibandCheck.Json
import InfinibandCheck.Thresholds

/-!
The event recorder and the reads of history: `convertToIbstatEvent`,
`parseIBPortsFromEvent`, `recordIbEvent`, `readAllIbstatEvents` and the
component's `Events`. The event store is the `eventstore.Bucket` interface over a
store state: a call that fails, by a store error or by its 15 second context
running out, is an `.error`.
-/

namespace Infiniband

def compactPort (port : IBPort) : IBPort := ⟨port.device, port.state, "", 0⟩

def convertToIbstatEvent (cr : CheckResult) : Event :=
  let ibportsEncoded := if cr.allIBPorts.isEmpty then "[]"
    else marshalIBPorts (cr.allIBPorts.map compactPort)
  let eventType := if cr.unhealthyIBPorts.isEmpty then eventTypeInfo else eventTypeWarning
  ⟨cr.ts, "ibstat", eventType, cr.reason, [("all_ibports", ibportsEncoded)]⟩

def parseIBPortsFromEvent (ev : Event) : List IBPort :=
  if ev.name ≠ "ibstat" then []
  else
    let raw := ev.extra "all_ibports"
    if raw = "" then [] else (unmarshal raw).getD []

theorem parseIBPortsFromEvent_recorded (cr : CheckResult) :
    parseIBPortsFromEvent (convertToIbstatEvent cr) = cr.allIBPorts.map compactPort := by
  rcases eq_or_ne cr.allIBPorts [] with empty | listed
  · simp [convertToIbstatEvent, parseIBPortsFromEvent, Event.extra, empty]
    rfl
  · have encoded := unmarshal_marshalIBPorts (cr.allIBPorts.map compactPort) (by simp [compactPort])
    have nonblank : marshalIBPorts (cr.allIBPorts.map compactPort) ≠ "" := by
      simp [marshalIBPorts, String.ext_iff]
    simp [convertToIbstatEvent, parseIBPortsFromEvent, Event.extra, listed, encoded, nonblank]

theorem parseIBPortsFromEvent_convertToIbstatEvent (cr : CheckResult) :
    parseIBPortsFromEvent (convertToIbstatEvent cr) = cr.allIBPorts.map (fun p => ⟨p.device, p.state, "", 0⟩) ∧
      (cr.allIBPorts = [] → (convertToIbstatEvent cr).extra "all_ibports" = "[]") :=
  ⟨parseIBPortsFromEvent_recorded cr, fun empty => by simp [convertToIbstatEvent, Event.extra, empty]⟩

/-- `eventstore.Bucket`, as the calls the component makes on a store in state `σ`. -/
structure Bucket (σ : Type) where
  find : σ → Event → Except GoError (Option Event)
  insert : σ → Event → Except GoError σ
  get : σ → Int → Except GoError (List Event)

/-- Modelled from the spec: an event store as the check expects it. `Find` returns an equal
stored event, `Insert` appends, and `Get since` returns the events stamped at or after `since`
in the order they were inserted. -/
def memoryBucket : Bucket (List Event) where
  find events ev := .ok (events.find? (· == ev))
  insert events ev := .ok (events ++ [ev])
  get events since := .ok (events.filter (since ≤ ·.time))

structure NvmlInstance where
  nvmlExists : Bool
  productName : String

/-- `component`. The tool and threshold functions read the machine, so they are modelled
as functions of the time they are called at. -/
structure Component (σ : Type) where
  nvmlInstance : Option NvmlInstance
  eventBucket : Option (Bucket σ)
  getIbstatOutputFunc : Option (Int → Option IbstatOutput × Option GoError)
  getIbstatusOutputFunc : Option (Int → Option IbstatusOutput × Option GoError)
  getThresholdsFunc : Int → ExpectedPortStates

variable {σ : Type}

/-- `recordIbEvent` with the bucket it is called with: the updated result, the store,
and the error `Check` stops on. A successful insert also overwrites `cr.err`. -/
def recordIbEvent (bucket : Bucket σ) (cr : CheckResult) (s : σ) : CheckResult × σ × Option GoError :=
  let ev := convertToIbstatEvent cr
  match bucket.find s ev with
  | .error e => ({ cr with err := some e, health := .unhealthy, reason := "error finding ibstat event" }, s, some e)
  | .ok (some _) => (cr, s, none)
  | .ok none =>
    match bucket.insert s ev with
    | .error e =>
      ({ cr with err := some e, health := .unhealthy, reason := "error inserting ibstat event" }, s, some e)
    | .ok s' => ({ cr with err := none }, s', none)

theorem recordIbEvent_cases (bucket : Bucket σ) (cr : CheckResult) (s : σ) :
    (∃ found, bucket.find s (convertToIbstatEvent cr) = .ok (some found) ∧
        recordIbEvent bucket cr s = (cr, s, none)) ∨
    (∃ s', bucket.find s (convertToIbstatEvent cr) = .ok none ∧
        bucket.insert s (convertToIbstatEvent cr) = .ok s' ∧
        recordIbEvent bucket cr s = ({ cr with err := none }, s', none)) ∨
    (∃ e reason, recordIbEvent bucket cr s =
        ({ cr with err := some e, health := .unhealthy, reason := reason }, s, some e)) := by
  rcases found : bucket.find s (convertToIbstatEvent cr) with e | _ | ev
  · exact .inr (.inr ⟨e, "error finding ibstat event", by simp [recordIbEvent, found]⟩)
  · rcases inserted : bucket.insert s (convertToIbstatEvent cr) with e | s'
    · exact .inr (.inr ⟨e, "error inserting ibstat event", by simp [recordIbEvent, found, inserted]⟩)
    · exact .inr (.inl ⟨s', rfl, rfl, by simp [recordIbEvent, found, inserted]⟩)
  · exact .inl ⟨ev, rfl, by simp [recordIbEvent, found]⟩

theorem memoryBucket_recorded (cr : CheckResult) (events : List Event) :
    (recordIbEvent memoryBucket cr events).2.2 = none := by
  dsimp only [recordIbEvent, memoryBucket]
  cases events.find? (· == convertToIbstatEvent cr) <;> rfl

def ibstatOnly (events : List Event) : List Event := events.filter (·.name == "ibstat")

def readAllIbstatEvents (bucket : Option (Bucket σ)) (s : σ) (since : Int) :
    Except GoError (List Event) :=
  match bucket with
  | none => .ok []
  | some b => (b.get s since).map ibstatOnly

def Component.events (c : Component σ) (s : σ) (since : Int) : Except GoError (List Event) :=
  match c.eventBucket with
  | none => .ok []
  | some b => (b.get s since).map fun evs =>
      evs.filter fun ev => !(ev.name == "ibstat" && ev.type == eventTypeInfo)

end Infiniband
