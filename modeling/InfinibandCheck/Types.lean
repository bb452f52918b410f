import Mathlib.Data.List.AList
import Mathlib.Data.List.Sort
import Mathlib.Data.String.Basic

/-!
The data of the nvidia infiniband component
(components/accelerator/nvidia/infiniband/component.go) and of the helpers it
calls from pkg/nvidia-query/infiniband, pkg/eventstore and apiv1. Pointers the
check can leave nil are `Option`; `time.Time` is nanoseconds since the zero
time, so `IsZero` is `t = 0`. Go's `range` over a map visits the entries in an
order the runtime picks afresh each time: `RangeOrder` is that choice.
-/

namespace Infiniband

def minute : Int := 60000000000

def Time.isZero (t : Int) : Bool := t == 0

-- `Add` wraps only past the year 292277026596; not modelled.
def Time.add (t d : Int) : Int := t + d

/-- `Sub` saturates at the bounds of the int64 `Duration`. -/
def Time.sub (t u : Int) : Int :=
  if 9223372036854775807 < t - u then 9223372036854775807
  else if t - u < -9223372036854775808 then -9223372036854775808
  else t - u

theorem Time.sub_lt_iff {t u c : Int} (lower : -9223372036854775808 < c)
    (upper : c ≤ 9223372036854775807) : Time.sub t u < c ↔ t - u < c := by
  unfold Time.sub; split_ifs <;> omega

theorem Time.lt_sub_iff {t u c : Int} (lower : -9223372036854775808 ≤ c)
    (upper : c < 9223372036854775807) : c < Time.sub t u ↔ c < t - u := by
  unfold Time.sub; split_ifs <;> omega

structure IBPort where
  device : String
  state : String
  physicalState : String
  rate : Int
deriving DecidableEq, Repr

/-- Modelled from the spec: `infiniband.ExpectedPortStates` and its `IsZero`, the
disabled sentinel "where both fields are zero". -/
structure ExpectedPortStates where
  atLeastPorts : Int
  atLeastRate : Int
deriving DecidableEq, Repr

def ExpectedPortStates.isZero (t : ExpectedPortStates) : Bool :=
  t.atLeastPorts == 0 && t.atLeastRate == 0

structure GoError where
  message : String
  isNoIbstatCommand : Bool
deriving DecidableEq, Repr

inductive HealthStateType where
  | unset
  | healthy
  | unhealthy
deriving DecidableEq, Repr

inductive RepairActionType where
  | hardwareInspection
deriving DecidableEq, Repr

structure SuggestedActions where
  repairActions : List RepairActionType
deriving DecidableEq, Repr

structure IbstatPort where
  state : String
  physicalState : String
  rate : Int
deriving DecidableEq, Repr

structure IbstatCard where
  device : String
  port1 : IbstatPort
deriving DecidableEq, Repr

structure IbstatOutput where
  parsed : List IbstatCard
deriving DecidableEq, Repr

structure IbstatusDevice where
  device : String
  state : String
  physicalState : String
  rate : Int
deriving DecidableEq, Repr

structure IbstatusOutput where
  parsed : List IbstatusDevice
deriving DecidableEq, Repr

/-- Modelled from the spec: `IbstatCards.IBPorts`. The tools' parsing is out of the
spec's scope ("this design consumes an already-parsed list of ports"): every parsed
card is one port. -/
def IbstatOutput.ibPorts (o : IbstatOutput) : List IBPort :=
  o.parsed.map fun card => ⟨card.device, card.port1.state, card.port1.physicalState, card.port1.rate⟩

/-- Modelled from the spec: `IbstatusDevices.IBPorts`, one port per parsed device. -/
def IbstatusOutput.ibPorts (o : IbstatusOutput) : List IBPort :=
  o.parsed.map fun dev => ⟨dev.device, dev.state, dev.physicalState, dev.rate⟩

@[simp] theorem IbstatOutput.length_ibPorts (o : IbstatOutput) :
    o.ibPorts.length = o.parsed.length := List.length_map _ _

@[simp] theorem IbstatusOutput.length_ibPorts (o : IbstatusOutput) :
    o.ibPorts.length = o.parsed.length := List.length_map _ _

structure Event where
  time : Int
  name : String
  type : String
  message : String
  extraInfo : List (String × String)
deriving DecidableEq, Repr

def eventTypeInfo : String := "Info"
def eventTypeWarning : String := "Warning"

def Event.extra (ev : Event) (key : String) : String :=
  ((ev.extraInfo.find? (·.1 == key)).map (·.2)).getD ""

structure CheckResult where
  ibstatOutput : Option IbstatOutput := none
  ibstatusOutput : Option IbstatusOutput := none
  allIBPorts : List IBPort := []
  unhealthyIBPorts : List IBPort := []
  ts : Int
  err : Option GoError := none
  errIbstatus : Option GoError := none
  health : HealthStateType := .unset
  suggestedActions : Option SuggestedActions := none
  reason : String := ""
  reasonIbSwitchFault : String := ""
  reasonIbPortDrop : String := ""
  reasonIbPortFlap : String := ""
deriving DecidableEq, Repr

abbrev GoMap (β : Type) := AList fun _ : String => β

theorem GoMap.entries_perm {β : Type} (m : GoMap β) (keys : List String) (spec : String → Option β)
    (distinct : keys.Nodup) (lookup_eq : ∀ key, m.lookup key = spec key)
    (covered : ∀ key b, spec key = some b → key ∈ keys) :
    m.entries.Perm (keys.filterMap fun key => (spec key).map (Sigma.mk key)) := by
  have specDistinct : (keys.filterMap fun key => (spec key).map (Sigma.mk key)).Nodup :=
    distinct.filterMap fun a a' b ha ha' => by
      simp only [Option.mem_def, Option.map_eq_some'] at ha ha'
      obtain ⟨_, _, rfl⟩ := ha
      obtain ⟨_, _, same⟩ := ha'
      exact (congrArg Sigma.fst same).symm
  refine (List.perm_ext_iff_of_nodup m.nodupKeys.nodup specDistinct).mpr fun ⟨key, b⟩ => ?_
  rw [← AList.mem_lookup_iff, Option.mem_def, lookup_eq]
  simp only [List.mem_filterMap, Option.map_eq_some', Sigma.mk.inj_iff, heq_eq_eq]
  constructor
  · intro found
    exact ⟨key, covered key b found, b, found, rfl, rfl⟩
  · rintro ⟨_, _, _, found, rfl, rfl⟩
    exact found

/-- One run of `for k, v := range m`: every entry once, in an order of the runtime's choosing. -/
structure RangeOrder (β : Type) where
  order : List (Sigma fun _ : String => β) → List (Sigma fun _ : String => β)
  perm : ∀ entries, (order entries).Perm entries

def RangeOrder.inserted (β : Type) : RangeOrder β := ⟨id, fun _ => List.Perm.refl _⟩

def sortStrings (msgs : List String) : List String :=
  msgs.mergeSort fun a b => decide (a ≤ b)

theorem sortStrings_perm (msgs : List String) : (sortStrings msgs).Perm msgs :=
  List.mergeSort_perm _ _

theorem sortStrings_sorted (msgs : List String) : (sortStrings msgs).Sorted (· ≤ ·) :=
  List.sorted_mergeSort' msgs

theorem sortStrings_eq_of_perm {left right : List String} (order : left.Perm right) :
    sortStrings left = sortStrings right :=
  List.eq_of_perm_of_sorted (((sortStrings_perm left).trans order).trans (sortStrings_perm right).symm)
    (sortStrings_sorted left) (sortStrings_sorted right)

end Infiniband
