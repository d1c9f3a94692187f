-- The end of the control manager. It walks over the map of the registered units only, and calls each
-- of them with the identifiers of all the units that came before it.
import Chaos.UniqueUnits
import Mathlib.Data.List.Sort

namespace chaos.cu.control_manager

open runs

/-- The calls that leave the manager, with the manager of the unit they are made for. -/
inductive ShutdownEvent where
  | deregisterManager
  | deregisterAction (o i : Nat)
  | _stop (o : Nat) (device_id : List Char)
  | _deinit (o : Nat) (device_id : List Char)
  | _undefineActionAndDataset (o : Nat)
  deriving DecidableEq, Repr

/-- `calls` is what was called so far, and `decoded` are the exceptions that are logged. -/
structure Shutdown where
  manager : ControlManager
  allCUDeviceIDToStop : List (List Char)
  calls : List ShutdownEvent
  decoded : List CException

namespace Shutdown

/-- The calls that one unit gets with one identifier. -/
def hooksOf (o : Nat) (device_id : List Char) : List ShutdownEvent :=
  [._stop o device_id, ._deinit o device_id, ._undefineActionAndDataset o]

/-- A call that is made in a `try` block. What the hook does may depend on the calls before it. -/
def attempt (hooks : List ShutdownEvent → ShutdownEvent → Except CException Unit) (d : Shutdown)
    (e : ShutdownEvent) : Shutdown :=
  { d with
    calls := d.calls ++ [e]
    decoded :=
      match hooks d.calls e with
      | .ok () => d.decoded
      | .error ex => if ex.errorCode ≠ 1 then d.decoded ++ [ex] else d.decoded }

/-- The turn of the inner loop for one identifier. -/
def disposeDevice (hooks : List ShutdownEvent → ShutdownEvent → Except CException Unit) (o : Nat)
    (d : Shutdown) (device_id : List Char) : Shutdown :=
  (hooksOf o device_id).foldl (attempt hooks) d

def deregisterActions (o : Nat) (cu : WorkUnitManagement) : List ShutdownEvent :=
  (ControlManager.declared o cu).map fun a => .deregisterAction a.1 a.2

/-- The turn of the outer loop for one unit. The identifiers of the units before it stay in the
vector. -/
def disposeUnit (hooks : List ShutdownEvent → ShutdownEvent → Except CException Unit)
    (getDeviceID : AbstractControlUnit → List Char) (d : Shutdown) (o : Nat) : Option Shutdown :=
  (d.manager.units o).map fun cu =>
    let actions := d.manager.actions.diff (ControlManager.declared o cu)
    let d := { d with
      manager := { d.manager with actions := actions }
      calls := d.calls ++ deregisterActions o cu
      allCUDeviceIDToStop := d.allCUDeviceIDToStop ++ [getDeviceID cu.work_unit_instance] }
    d.allCUDeviceIDToStop.foldl (disposeDevice hooks o) d

end Shutdown

/-- The order of the keys of a map: the first character that differs decides. -/
def notAfter : List Char → List Char → Bool
  | [], _ => true
  | _ :: _, [] => false
  | a :: as, b :: bs => a.toNat < b.toNat || a.toNat = b.toNat && notAfter as bs

/-- The managers in a map, in the order of their identifiers. -/
def UnitMap.inOrder (m : UnitMap) : List Nat :=
  (m.keys.insertionSort fun a b => notAfter a b = true).filterMap m.lookup

namespace ControlManager

/-- The maps are cleared, and the managers that they held are deleted. -/
def clear (s : ControlManager) : ControlManager :=
  { s with
    map_cuid_registered_instance := ∅
    map_cuid_reg_unreg_instance := ∅
    units := fun o =>
      if o ∈ s.map_cuid_registered_instance.inOrder ++ s.map_cuid_reg_unreg_instance.inOrder then
        none
      else s.units o }

/-- The exceptions of the hooks do not leave the function. -/
def deinit (s : ControlManager)
    (hooks : List ShutdownEvent → ShutdownEvent → Except CException Unit)
    (getDeviceID : AbstractControlUnit → List Char) : Option Shutdown :=
  (s.map_cuid_registered_instance.inOrder.foldlM (Shutdown.disposeUnit hooks getDeviceID)
    ⟨s, [], [.deregisterManager], []⟩).map fun d => { d with manager := d.manager.clear }

end ControlManager

variable {hooks : List ShutdownEvent → ShutdownEvent → Except CException Unit}
  {getDeviceID : AbstractControlUnit → List Char} {s : ControlManager} {d d' : Shutdown}
  {o : Nat} {w : WorkUnitManagement} {ids : List (List Char)}

/-! ## What is claimed -/

def stopOf (o : Nat) : ShutdownEvent → Option (List Char)
  | ._stop o' device_id => if o' = o then some device_id else none
  | _ => none

def deinitOf (o : Nat) : ShutdownEvent → Option (List Char)
  | ._deinit o' device_id => if o' = o then some device_id else none
  | _ => none

/-- The unit is published, or it is in the other map with an action that is registered. -/
def Known (s : ControlManager) (o : Nat) (w : WorkUnitManagement) : Prop :=
  s.units o = some w ∧ ((∃ cuid, s.map_cuid_registered_instance.lookup cuid = some o) ∨
    (∃ cuid, s.map_cuid_reg_unreg_instance.lookup cuid = some o) ∧ ∃ i, (o, i) ∈ s.actions)

structure ShutsDown (getDeviceID : AbstractControlUnit → List Char) (s : ControlManager)
    (d : Shutdown) : Prop where
  deregistered : ∀ o w, Known s o w → ∀ i < w.work_unit_instance.declareActions,
    d.calls.count (.deregisterAction o i) = 1
  stopped : ∀ o w, Known s o w →
    d.calls.filterMap (stopOf o) = [getDeviceID w.work_unit_instance]
  deinited : ∀ o w, Known s o w →
    d.calls.filterMap (deinitOf o) = [getDeviceID w.work_unit_instance]
  undefined : ∀ o w, Known s o w → d.calls.count (._undefineActionAndDataset o) = 1
  registered : d.manager.map_cuid_registered_instance = ∅
  registering : d.manager.map_cuid_reg_unreg_instance = ∅

/-- At most one unit is published, and no action of another unit is registered. -/
def OneUnit (s : ControlManager) : Prop :=
  s.map_cuid_registered_instance.keys.length ≤ 1 ∧
    ∀ a ∈ s.actions, ∃ cuid, s.map_cuid_registered_instance.lookup cuid = some a.1

/-! ## The calls of the loops -/

namespace Shutdown

variable (hooks getDeviceID)

theorem disposeDevice_effect (o : Nat) (d : Shutdown) (device_id : List Char) :
    let d' := disposeDevice hooks o d device_id
    d'.calls = d.calls ++ hooksOf o device_id ∧ d'.manager = d.manager ∧
      d'.allCUDeviceIDToStop = d.allCUDeviceIDToStop := by
  simp [disposeDevice, hooksOf, attempt]

theorem disposeDevices_effect (o : Nat) (ids : List (List Char)) (d : Shutdown) :
    let d' := ids.foldl (disposeDevice hooks o) d
    d'.calls = d.calls ++ ids.flatMap (hooksOf o) ∧ d'.manager = d.manager ∧
      d'.allCUDeviceIDToStop = d.allCUDeviceIDToStop := by
  induction ids generalizing d with
  | nil => simp
  | cons device_id ids ih =>
    obtain ⟨hcalls, hmanager, hids⟩ := disposeDevice_effect hooks o d device_id
    obtain ⟨hcalls', hmanager', hids'⟩ := ih (disposeDevice hooks o d device_id)
    refine ⟨?_, hmanager'.trans hmanager, hids'.trans hids⟩
    rw [List.foldl_cons, hcalls', hcalls, List.flatMap_cons, List.append_assoc]

/-- The calls for one unit, with the identifiers of the units before it. -/
def unitCalls (getDeviceID : AbstractControlUnit → List Char) (ids : List (List Char)) (o : Nat)
    (w : WorkUnitManagement) : List ShutdownEvent :=
  deregisterActions o w ++ (ids ++ [getDeviceID w.work_unit_instance]).flatMap (hooksOf o)

theorem disposeUnit_effect (hw : d.manager.units o = some w) :
    ∃ d', disposeUnit hooks getDeviceID d o = some d' ∧
      d'.calls = d.calls ++ unitCalls getDeviceID d.allCUDeviceIDToStop o w ∧
      d'.manager.units = d.manager.units ∧
      d'.allCUDeviceIDToStop = d.allCUDeviceIDToStop ++ [getDeviceID w.work_unit_instance] := by
  unfold disposeUnit
  rw [hw, Option.map_some]
  refine ⟨_, rfl, ?_⟩
  simp only [disposeDevices_effect, unitCalls, List.append_assoc, and_self]

/-- The unit that a call is made for. -/
def unitOf : ShutdownEvent → Option Nat
  | .deregisterManager => none
  | .deregisterAction o _ => some o
  | ._stop o _ => some o
  | ._deinit o _ => some o
  | ._undefineActionAndDataset o => some o

theorem unitOf_unitCalls {e : ShutdownEvent} (he : e ∈ unitCalls getDeviceID ids o w) :
    unitOf e = some o := by
  rcases List.mem_append.mp he with he | he
  · obtain ⟨a, ha, rfl⟩ := List.mem_map.mp he
    simp [unitOf, (ControlManager.mem_declared.mp ha).1]
  · obtain ⟨device_id, -, he⟩ := List.mem_flatMap.mp he
    simp only [hooksOf, List.mem_cons, List.not_mem_nil, or_false] at he
    rcases he with rfl | rfl | rfl <;> rfl

theorem disposeUnits_effect (os : List Nat) (d : Shutdown)
    (hall : ∀ o ∈ os, ∃ w, d.manager.units o = some w) :
    ∃ d' calls, os.foldlM (disposeUnit hooks getDeviceID) d = some d' ∧
      d'.calls = d.calls ++ calls ∧ ∀ e ∈ calls, ∃ o ∈ os, unitOf e = some o := by
  induction os generalizing d with
  | nil => exact ⟨d, [], rfl, by simp, by simp⟩
  | cons o os ih =>
    obtain ⟨w, hw⟩ := hall o List.mem_cons_self
    obtain ⟨d₁, hd₁, hcalls, hunits, -⟩ := disposeUnit_effect hooks getDeviceID hw
    obtain ⟨d₂, calls, hd₂, hcalls', hof⟩ := ih d₁ (by
      intro o' ho'
      rw [hunits]
      exact hall o' (List.mem_cons_of_mem _ ho'))
    refine ⟨d₂, unitCalls getDeviceID d.allCUDeviceIDToStop o w ++ calls, ?_, ?_, ?_⟩
    · rw [List.foldlM_cons, hd₁]
      exact hd₂
    · rw [hcalls', hcalls, List.append_assoc]
    · intro e he
      rcases List.mem_append.mp he with he | he
      · exact ⟨o, List.mem_cons_self, unitOf_unitCalls getDeviceID he⟩
      · obtain ⟨o', ho', he⟩ := hof e he
        exact ⟨o', List.mem_cons_of_mem _ ho', he⟩

theorem stopOf_hooks (ids : List (List Char)) :
    (ids.flatMap (hooksOf o)).filterMap (stopOf o) = ids := by
  induction ids with
  | nil => rfl
  | cons device_id ids ih => simp [hooksOf, List.filterMap_cons, stopOf, ih]

theorem deinitOf_hooks (ids : List (List Char)) :
    (ids.flatMap (hooksOf o)).filterMap (deinitOf o) = ids := by
  induction ids with
  | nil => rfl
  | cons device_id ids ih => simp [hooksOf, List.filterMap_cons, deinitOf, ih]

theorem stopOf_unitCalls :
    (unitCalls getDeviceID ids o w).filterMap (stopOf o) =
      ids ++ [getDeviceID w.work_unit_instance] := by
  unfold unitCalls deregisterActions
  rw [List.filterMap_append, stopOf_hooks, List.filterMap_map]
  simp [Function.comp_def, stopOf]

theorem deinitOf_unitCalls :
    (unitCalls getDeviceID ids o w).filterMap (deinitOf o) =
      ids ++ [getDeviceID w.work_unit_instance] := by
  unfold unitCalls deregisterActions
  rw [List.filterMap_append, deinitOf_hooks, List.filterMap_map]
  simp [Function.comp_def, deinitOf]

/-- The calls for a unit when no unit came before it. -/
theorem count_unitCalls :
    (∀ i < w.work_unit_instance.declareActions,
      (unitCalls getDeviceID [] o w).count (.deregisterAction o i) = 1) ∧
    (unitCalls getDeviceID [] o w).count (._undefineActionAndDataset o) = 1 := by
  unfold unitCalls deregisterActions
  constructor
  · intro i hi
    have hinj : Function.Injective fun a : Nat × Nat => ShutdownEvent.deregisterAction a.1 a.2 := by
      rintro ⟨a, i⟩ ⟨b, j⟩ hab
      simpa using hab
    have hmem : (o, i) ∈ ControlManager.declared o w := ControlManager.mem_declared.mpr ⟨rfl, hi⟩
    rw [List.count_append, List.count_eq_one_of_mem (ControlManager.nodup_declared.map hinj)
      (List.mem_map_of_mem hmem)]
    simp [hooksOf]
  · rw [List.count_append, List.count_eq_zero.mpr (by simp)]
    simp [hooksOf]

theorem stopOf_of_other {calls : List ShutdownEvent}
    (h : ∀ e ∈ calls, unitOf e ≠ some o) : calls.filterMap (stopOf o) = [] := by
  rw [List.filterMap_eq_nil_iff]
  intro e he
  have hne := h e he
  cases e <;> simp_all [unitOf, stopOf]

end Shutdown

/-! ## The walk over the map -/

theorem UnitMap.mem_inOrder {m : UnitMap} : o ∈ m.inOrder ↔ ∃ cuid, m.lookup cuid = some o := by
  simp only [inOrder, List.mem_filterMap, List.mem_insertionSort]
  constructor
  · rintro ⟨cuid, -, hlook⟩
    exact ⟨cuid, hlook⟩
  · rintro ⟨cuid, hlook⟩
    exact ⟨cuid, ControlManager.mem_of_lookup hlook, hlook⟩

theorem UnitMap.length_inOrder (m : UnitMap) : m.inOrder.length = m.keys.length := by
  unfold inOrder
  rw [List.filterMap_length_eq_length.mpr, List.length_insertionSort]
  intro cuid hmem
  exact AList.lookup_isSome.mpr ((List.mem_insertionSort _).mp hmem)

namespace ControlManager

theorem Good.unit_inOrder (h : Good s) :
    ∀ o ∈ s.map_cuid_registered_instance.inOrder, ∃ w, s.units o = some w := by
  intro o ho
  obtain ⟨cuid, hlook⟩ := UnitMap.mem_inOrder.mp ho
  obtain ⟨w, hw, -⟩ := h.registered cuid o hlook
  exact ⟨w, hw⟩

variable (hooks getDeviceID)

/-- The walk comes to its end, and clears the maps. -/
theorem Good.deinit (h : Good s) : ∃ d calls,
    s.deinit hooks getDeviceID = some d ∧ d.calls = .deregisterManager :: calls ∧
      (∀ e ∈ calls, ∃ o ∈ s.map_cuid_registered_instance.inOrder,
        Shutdown.unitOf e = some o) ∧
      d.manager.map_cuid_registered_instance = ∅ ∧ d.manager.map_cuid_reg_unreg_instance = ∅ := by
  obtain ⟨d, calls, hd, hcalls, hof⟩ := Shutdown.disposeUnits_effect hooks getDeviceID
    _ ⟨s, [], [.deregisterManager], []⟩ h.unit_inOrder
  refine ⟨{ d with manager := d.manager.clear }, calls, ?_, hcalls, hof, rfl, rfl⟩
  unfold ControlManager.deinit
  rw [hd, Option.map_some]

/-- The only unit gets each call once. -/
theorem deinit_single (hone : s.map_cuid_registered_instance.inOrder = [o])
    (hw : s.units o = some w) (hd : s.deinit hooks getDeviceID = some d) :
    d.calls = .deregisterManager :: Shutdown.unitCalls getDeviceID [] o w := by
  obtain ⟨d', hd', hcalls, -⟩ := Shutdown.disposeUnit_effect hooks getDeviceID
    (d := ⟨s, [], [.deregisterManager], []⟩) hw
  unfold ControlManager.deinit at hd
  rw [hone, List.foldlM_cons, hd'] at hd
  cases hd
  exact hcalls

/-- A second unit is stopped with the identifier of the first one before its own. -/
theorem Good.deinit_second (h : Good s) {o' : Nat} {os : List Nat}
    (htwo : s.map_cuid_registered_instance.inOrder = o' :: o :: os)
    (hd : s.deinit hooks getDeviceID = some d) :
    1 < (d.calls.filterMap (stopOf o)).length := by
  have hall := h.unit_inOrder
  rw [htwo] at hall
  obtain ⟨w', hw'⟩ := hall o' (by simp)
  obtain ⟨w, hw⟩ := hall o (by simp)
  obtain ⟨d₁, hd₁, hcalls₁, hunits₁, hids⟩ := Shutdown.disposeUnit_effect hooks getDeviceID
    (d := ⟨s, [], [.deregisterManager], []⟩) hw'
  obtain ⟨d₂, hd₂, hcalls₂, hunits₂, -⟩ := Shutdown.disposeUnit_effect hooks getDeviceID
    (d := d₁) (by rw [hunits₁]; exact hw)
  obtain ⟨d₃, calls, hd₃, hcalls₃, -⟩ := Shutdown.disposeUnits_effect hooks getDeviceID
    os d₂ (by
      intro o' ho'
      rw [hunits₂, hunits₁]
      exact hall o' (by simp [ho']))
  unfold ControlManager.deinit at hd
  rw [htwo, List.foldlM_cons, hd₁] at hd
  simp only [Option.bind_eq_bind, Option.bind_some, List.foldlM_cons, hd₂, hd₃,
    Option.map_some, Option.some.injEq] at hd
  subst hd
  simp only [hcalls₃, hcalls₂, hids, List.filterMap_append, List.length_append,
    Shutdown.stopOf_unitCalls, List.length_singleton]
  omega

/-! ## What holds of every shutdown -/

theorem Good.shutsDown_iff (h : Good s) (hd : s.deinit hooks getDeviceID = some d) :
    ShutsDown getDeviceID s d ↔ OneUnit s := by
  obtain ⟨d', calls, hd', hcalls, hof, hregistered, hregistering⟩ := h.deinit hooks getDeviceID
  obtain rfl : d' = d := Option.some.inj (hd'.symm.trans hd)
  constructor
  · intro hs
    refine ⟨?_, ?_⟩
    · by_contra hlen
      rw [← UnitMap.length_inOrder] at hlen
      rcases hos : s.map_cuid_registered_instance.inOrder with _ | ⟨o', _ | ⟨o, os⟩⟩
      · simp [hos] at hlen
      · simp [hos] at hlen
      · have htwo := h.deinit_second hooks getDeviceID hos hd
        have hmem : o ∈ s.map_cuid_registered_instance.inOrder := by simp [hos]
        obtain ⟨cuid, hlook⟩ := UnitMap.mem_inOrder.mp hmem
        obtain ⟨w, hw, -⟩ := h.registered cuid o hlook
        rw [hs.stopped o w ⟨hw, .inl ⟨cuid, hlook⟩⟩] at htwo
        simp at htwo
    · rintro ⟨o, i⟩ ha
      by_contra hnone
      obtain ⟨w, hw, -⟩ := (h.actions o i).mp ha
      have hin := (h.held o w hw).resolve_right fun hin => hnone ⟨_, hin⟩
      have hstop := hs.stopped o w ⟨hw, .inr ⟨⟨_, hin⟩, i, ha⟩⟩
      rw [hcalls, Shutdown.stopOf_of_other] at hstop
      · simp at hstop
      · intro e he heq
        rcases List.mem_cons.mp he with rfl | he
        · simp [Shutdown.unitOf] at heq
        · obtain ⟨o', ho', he⟩ := hof e he
          rw [heq, Option.some.injEq] at he
          exact hnone (UnitMap.mem_inOrder.mp (he ▸ ho'))
  · rintro ⟨hlen, hactions⟩
    have hknown : ∀ o w, Known s o w → s.units o = some w ∧
        s.map_cuid_registered_instance.inOrder = [o] := by
      rintro o w ⟨hw, hin⟩
      have hmem : o ∈ s.map_cuid_registered_instance.inOrder := by
        rcases hin with hin | ⟨-, i, hi⟩
        · exact UnitMap.mem_inOrder.mpr hin
        · exact UnitMap.mem_inOrder.mpr (hactions _ hi)
      rw [← UnitMap.length_inOrder] at hlen
      refine ⟨hw, ?_⟩
      rcases hos : s.map_cuid_registered_instance.inOrder with _ | ⟨o', _ | ⟨o'', os⟩⟩
      · simp [hos] at hmem
      · simp only [hos, List.mem_singleton] at hmem
        rw [hmem]
      · simp [hos] at hlen
    have hcallsOf : ∀ o w, Known s o w →
        d'.calls = .deregisterManager :: Shutdown.unitCalls getDeviceID [] o w := by
      intro o w hk
      obtain ⟨hw, hone⟩ := hknown o w hk
      exact deinit_single hooks getDeviceID hone hw hd
    refine
      { deregistered := ?_, stopped := ?_, deinited := ?_, undefined := ?_
        registered := hregistered, registering := hregistering }
    · intro o w hk i hi
      rw [hcallsOf o w hk, List.count_cons, (Shutdown.count_unitCalls getDeviceID).1 i hi]
      rfl
    · intro o w hk
      rw [hcallsOf o w hk]
      exact Shutdown.stopOf_unitCalls getDeviceID
    · intro o w hk
      rw [hcallsOf o w hk]
      exact Shutdown.deinitOf_unitCalls getDeviceID
    · intro o w hk
      rw [hcallsOf o w hk, List.count_cons, (Shutdown.count_unitCalls getDeviceID).2]
      rfl

/-- A shutdown comes to its end in every state that is reached, and it does what is claimed exactly
when there is one unit at most. -/
theorem shutdown_disposes_of_each_unit_once (aliases : List (List Char)) (as : List Label)
    (hr : run step (new aliases) as = some s) :
    ∃ d, s.deinit hooks getDeviceID = some d ∧ (ShutsDown getDeviceID s d ↔ OneUnit s) := by
  have hgood : Good s :=
    run_keeps Good (fun _ a _ hs ht => step_good hs a ht) (good_new aliases) hr
  obtain ⟨d, -, hd, -⟩ := hgood.deinit hooks getDeviceID
  exact ⟨d, hd, hgood.shutsDown_iff hooks getDeviceID hd⟩

/-- The steps that publish a unit. -/
def publish (cuid : List Char) : List Label :=
  [.submitControlUnit ⟨cuid, 1, []⟩, .manageSubmitted, .makeSMStep cuid, .makeSMStep cuid,
    .workUnitRegistrationACK (some ⟨some cuid, some 5⟩), .makeSMStep cuid,
    .migrateStableAndUnstable cuid]

/-- Every call on the unit throws, and the exception of `_stop` is not logged. -/
theorem shutdown_disposes_of_a_published_unit :
    ∃ s, run step (new []) (publish ['a']) = some s ∧ ∃ d,
      s.deinit (fun calls _ => .error ⟨calls.length - 1, "", ""⟩) (·.control_unit_id) = some d ∧
        (ShutsDown (·.control_unit_id) s d ↔ OneUnit s) :=
  ⟨_, rfl, shutdown_disposes_of_each_unit_once _ _ [] (publish ['a']) rfl⟩

/-- The second of two published units is stopped with the identifier of the first one, and then with
its own. -/
theorem second_unit_stopped_with_the_first_id :
    ¬ ∀ (hooks : List ShutdownEvent → ShutdownEvent → Except CException Unit)
      (getDeviceID : AbstractControlUnit → List Char) (aliases : List (List Char))
      (as : List Label) (s : ControlManager), run step (new aliases) as = some s →
      ∃ d, s.deinit hooks getDeviceID = some d ∧ ShutsDown getDeviceID s d := by
  intro hclaim
  obtain ⟨s, hr⟩ : ∃ s, run step (new []) (publish ['a'] ++ publish ['b']) = some s := ⟨_, rfl⟩
  obtain ⟨d, hd, hs⟩ := hclaim (fun _ _ => .ok ()) (·.control_unit_id) [] _ s hr
  have hunit : (run step (new []) (publish ['a'] ++ publish ['b'])).bind (·.units 1) =
      some ⟨⟨['b'], 1, []⟩, .Published, false⟩ := by decide +kernel
  have hlook : (run step (new []) (publish ['a'] ++ publish ['b'])).bind
      (·.map_cuid_registered_instance.lookup ['b']) = some 1 := by decide +kernel
  have hcalls : ((run step (new []) (publish ['a'] ++ publish ['b'])).bind
      (·.deinit (fun _ _ => .ok ()) (·.control_unit_id))).map
      (·.calls.filterMap (stopOf 1)) = some [['a'], ['b']] := by decide +kernel
  rw [hr, Option.bind_some] at hunit hlook hcalls
  rw [hd, Option.map_some, hs.stopped 1 _ ⟨hunit, .inl ⟨_, hlook⟩⟩] at hcalls
  simp at hcalls

end ControlManager

end chaos.cu.control_manager
