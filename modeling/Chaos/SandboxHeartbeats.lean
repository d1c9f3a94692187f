-- The heartbeats of the sandboxes of a slow control unit. Each sandbox has an attribute for them in
-- the system domain. The executor looks for the attribute at the first heartbeat, and keeps what it
-- has found for the heartbeats of all sandboxes.
import Std.Data.String.ToNat
import Chaos.AttributeSlots
import Chaos.LittleEndian
import Chaos.SandboxMap

namespace chaos.cu.control_manager.slow_command

open chaos.batch_command chaos.common.data.cache chaos.utility little_endian pointer_map runs

/-! ## The attributes of the system domain -/

def DP_SYS_HEARTBEAT : String := "dp_sys_hp"

def DP_SYS_UNIT_TYPE : String := "dp_sys_unit_type"

def DP_SYS_LAST_ERROR : String := "dp_sys_lerr"

def DP_SYS_LAST_ERROR_MESSAGE : String := "dp_sys_lerr_msg"

def DP_SYS_LAST_ERROR_DOMAIN : String := "dp_sys_lerr_domain"

def DP_SYS_RUN_UNIT_AVAILABLE : String := "dp_sys_ru_available"

def DP_SYS_RUN_UNIT_ID : String := "dp_sys_ru_id"

def DPCK_TIMESTAMP : String := "dpck_ts"

def SCCU : String := "sccu"

/-- The bytes of a text, without the zero behind them. -/
def textBytes (text : String) : List UInt8 := text.toUTF8.toList

/-- The attribute for the heartbeats of a sandbox. -/
def heartbeatName (sandbox_id : String) : String := sandbox_id ++ "_hb"

/-- `initSystemAttributeOnSharedAttributeCache` of `AbstractControlUnit` -/
def initBaseAttributes (domain_attribute_setting : AttributesSetting) (control_unit_type : String) :
    Except Failure AttributesSetting := do
  let s := domain_attribute_setting.addAttribute DP_SYS_HEARTBEAT 0 .TYPE_INT64 true
  let s := s.addAttribute DP_SYS_UNIT_TYPE (.ofNat (textBytes control_unit_type).length)
    .TYPE_STRING true
  let s ← s.write (s.index - 1) (textBytes control_unit_type)
  let s := s.addAttribute DP_SYS_LAST_ERROR 0 .TYPE_INT32 true
  let s := s.addAttribute DP_SYS_LAST_ERROR_MESSAGE 255 .TYPE_STRING true
  return s.addAttribute DP_SYS_LAST_ERROR_DOMAIN 255 .TYPE_STRING true

/-- `initSystemAttributeOnSharedAttributeCache` of `SCAbstractControlUnit` -/
def initSystemAttributes (domain_attribute_setting : AttributesSetting) (run_unit : UInt32)
    (all_sandbox_ids : List String) : Except Failure AttributesSetting := do
  let s ← initBaseAttributes domain_attribute_setting SCCU
  let s := s.addAttribute DP_SYS_RUN_UNIT_AVAILABLE 0 .TYPE_INT32 true
  let s ← s.write (s.index - 1) (toBytes 4 run_unit.toNat)
  let s := s.addAttribute DP_SYS_RUN_UNIT_ID 127 .TYPE_STRING true
  return all_sandbox_ids.foldl
    (fun s sandbox_id => s.addAttribute (heartbeatName sandbox_id) 0 .TYPE_INT64 true) s

/-- `completeOutputAttribute` -/
def completeOutputAttribute (s : AttributesSetting) : AttributesSetting :=
  s.addAttribute DPCK_TIMESTAMP 8 .TYPE_INT64 true

/-! ## The executor -/

inductive BatchSandboxEventType
  | EVT_RUN
  | EVT_HEART_BEAT
  deriving DecidableEq

/-- `initialized` are the sandboxes that `init` has initialized. A pointer into a set of attributes
is given by the index of the value. -/
structure SlowCommandExecutor extends SandboxExecutor where
  initialized : List String
  system_set : AttributesSetting
  output_set : AttributesSetting
  ts_hb_cache : Option UInt16
  last_ru_id_cache : Option UInt16
  last_acq_ts_cache : Option UInt16

/-- `getSandboxID` goes through each pointer of the map. -/
def getSandboxID : List (UInt32 × Option String) → Except Failure (List String)
  | [] => .ok []
  | (_, none) :: _ => .error .undefined
  | (_, some identification) :: rest => (getSandboxID rest).map (identification :: ·)

/-- `pushSystemDataset`. What is sent is read from the set. -/
def pushSystemDataset (s : AttributesSetting) : AttributesSetting :=
  if s.hasChanged then s.resetChangedIndex else s

/-- `pushOutputDataset`. `made` says whether there is a pack to send the values with. -/
def pushOutputDataset (s : AttributesSetting) (made : Bool) : AttributesSetting :=
  if s.hasChanged && made then s.resetChangedIndex else s

/-- A value that was found before is not looked for again. -/
def cachedValue (cache : Option UInt16) (s : AttributesSetting) (variable_name : String) :
    Except Failure (Option UInt16) :=
  match cache with
  | some n => .ok (some n)
  | none => s.getVariableValue variable_name

namespace SlowCommandExecutor

def create (executorID : String) : SlowCommandExecutor where
  toSandboxExecutor := .create executorID
  initialized := []
  system_set := .create
  output_set := .create
  ts_hb_cache := none
  last_ru_id_cache := none
  last_acq_ts_cache := none

variable (e : SlowCommandExecutor)

/-- The start of `handleSandboxEvent`: the sandbox is the one of the last event. Without a value to
write this to, the event is dropped. -/
def setRunUnit (sandbox_id : String) : Except Failure (Option SlowCommandExecutor) := do
  match ← cachedValue e.last_ru_id_cache e.system_set DP_SYS_RUN_UNIT_ID with
  | none => return none
  | some n =>
    let system_set ← e.system_set.write n (textBytes sandbox_id)
    return some { e with last_ru_id_cache := some n, system_set := system_set }

/-- The value is looked for once, whichever sandbox the heartbeats come from. -/
def handleHeartbeat (sandbox_id : String) (type_value : List UInt8) :
    Except Failure SlowCommandExecutor :=
  if type_value.length = 8 then do
    match ← cachedValue e.ts_hb_cache e.system_set (heartbeatName sandbox_id) with
    | none => return e
    | some n =>
      let system_set ← e.system_set.write n type_value
      return { e with ts_hb_cache := some n, system_set := pushSystemDataset system_set }
  else return e

def handleRun (type_value : List UInt8) (made : Bool) : Except Failure SlowCommandExecutor := do
  match ← cachedValue e.last_acq_ts_cache e.output_set DPCK_TIMESTAMP with
  | none => return e
  | some n =>
    let output_set ← e.output_set.write n type_value
    return { e with last_acq_ts_cache := some n, output_set := pushOutputDataset output_set made }

/-- The event of a sandbox, with the bytes that come with it. -/
def handleSandboxEvent (sandbox_id : String) (type : BatchSandboxEventType)
    (type_value : List UInt8) (made : Bool) : Except Failure SlowCommandExecutor := do
  match ← e.setRunUnit sandbox_id with
  | none => return e
  | some e =>
    match type with
    | .EVT_HEART_BEAT => e.handleHeartbeat sandbox_id type_value
    | .EVT_RUN => e.handleRun type_value made

/-- The control unit is initialized. `attributes` are the output attributes of its dataset. -/
def init (attributes : AttributesSetting) : Except Failure SlowCommandExecutor := do
  let executor := e.initMap
  let all_sandbox_ids ← getSandboxID executor.sandbox_map.toList
  let system_set ← initSystemAttributes e.system_set (.ofNat executor.sandbox_map.size)
    all_sandbox_ids
  return { e with
    toSandboxExecutor := { executor with service := executor.service.sendEvent .init }
    initialized := all_sandbox_ids
    output_set := completeOutputAttribute attributes
    system_set := system_set }

/-- The control unit is deinitialized, and with it the sets of attributes. -/
def deinit : SlowCommandExecutor where
  toSandboxExecutor := { e.toSandboxExecutor with service := e.service.sendEvent .deinit }
  initialized := []
  system_set := e.system_set.deinit
  output_set := e.output_set.deinit
  ts_hb_cache := none
  last_ru_id_cache := none
  last_acq_ts_cache := none

end SlowCommandExecutor

/-! ## The runs -/

/-- A step of a control unit. The event of a sandbox carries a time. -/
inductive Label
  | addExecutionChannels (execution_channels : UInt32)
  | init (attributes : AttributesSetting)
  | deinit
  | event (sandbox_id : String) (type : BatchSandboxEventType) (time : UInt64) (made : Bool)

namespace SlowCommandExecutor

/-- The life cycle of the service refuses a second `init` or `deinit`. Only the sandboxes that were
initialized send events. What is thrown into the thread of a sandbox ends the process. -/
def step (e : SlowCommandExecutor) : Label → Option SlowCommandExecutor
  | .addExecutionChannels execution_channels =>
    some { e with toSandboxExecutor := e.addSandboxInstance execution_channels }
  | .init attributes =>
    if (process_event e.service.state_machine .init).isSome then (e.init attributes).toOption
    else some e
  | .deinit =>
    if (process_event e.service.state_machine .deinit).isSome then some e.deinit else some e
  | .event sandbox_id type time made =>
    if sandbox_id ∈ e.initialized then
      (e.handleSandboxEvent sandbox_id type (toBytes 8 time.toNat) made).toOption
    else none

/-! ## What is claimed -/

/-- A heartbeat comes back. The attribute of its sandbox has the time then, those of the other
sandboxes are as before, and so is every other attribute but the one that names the sandbox of the
last event. -/
structure UpdatesOwn (e : SlowCommandExecutor) (sandbox_id : String) (time : UInt64)
    (e' : SlowCommandExecutor) : Prop where
  own : e'.system_set.namedValue (heartbeatName sandbox_id) = some (toBytes 8 time.toNat)
  sandboxes : ∀ other ∈ e.initialized, other ≠ sandbox_id →
    e'.system_set.namedValue (heartbeatName other) =
      e.system_set.namedValue (heartbeatName other)
  others : ∀ name, name ≠ heartbeatName sandbox_id → name ≠ DP_SYS_RUN_UNIT_ID →
    e'.system_set.namedValue name = e.system_set.namedValue name

/-- What an event must do. A run event is one of the output domain. -/
def Separate (e : SlowCommandExecutor) : Label → Prop
  | .event sandbox_id .EVT_HEART_BEAT time made => sandbox_id ∈ e.initialized →
    ∃ e', e.step (.event sandbox_id .EVT_HEART_BEAT time made) = some e' ∧
      e.UpdatesOwn sandbox_id time e'
  | .event sandbox_id .EVT_RUN time made =>
    ∀ e', e.step (.event sandbox_id .EVT_RUN time made) = some e' →
      ∀ name, name ≠ DP_SYS_RUN_UNIT_ID →
        e'.system_set.namedValue name = e.system_set.namedValue name
  | _ => True

/-- There are no more attributes than indexes in the system domain. -/
def HasRoom (e : SlowCommandExecutor) : Prop := 7 + e.initMap.sandbox_map.size ≤ 2 ^ 16

/-- A value that was kept for the heartbeats is the one of this sandbox. -/
def OwnsSlot (e : SlowCommandExecutor) (sandbox_id : String) : Prop :=
  ∀ n, e.ts_hb_cache = some n →
    e.system_set.mapAttributeNameIndex[heartbeatName sandbox_id]? = some n

/-- The condition on an initialization. -/
def RoomIsLeft (e : SlowCommandExecutor) : Label → Prop
  | .init _ => (process_event e.service.state_machine .init).isSome → e.HasRoom
  | _ => True

/-- The condition on a step: there is room when the unit is initialized, and a heartbeat finds no
value that was kept from another sandbox. -/
def SlotIsOwn (e : SlowCommandExecutor) : Label → Prop
  | .init attributes => e.RoomIsLeft (.init attributes)
  | .event sandbox_id .EVT_HEART_BEAT _ _ => e.OwnsSlot sandbox_id
  | _ => True

instance OwnsSlot.decidable (e : SlowCommandExecutor) (sandbox_id : String) :
    Decidable (e.OwnsSlot sandbox_id) :=
  match h : e.ts_hb_cache with
  | none => isTrue (by simp [OwnsSlot, h])
  | some n =>
    decidable_of_iff (e.system_set.mapAttributeNameIndex[heartbeatName sandbox_id]? = some n)
      (by simp [OwnsSlot, h])

instance RoomIsLeft.decidable (e : SlowCommandExecutor) : ∀ a, Decidable (e.RoomIsLeft a)
  | .init _ => inferInstanceAs (Decidable (_ → 7 + e.initMap.sandbox_map.size ≤ 2 ^ 16))
  | .addExecutionChannels _ | .deinit | .event _ _ _ _ => isTrue trivial

instance SlotIsOwn.decidable (e : SlowCommandExecutor) : ∀ a, Decidable (e.SlotIsOwn a)
  | .init attributes => inferInstanceAs (Decidable (e.RoomIsLeft (.init attributes)))
  | .event sandbox_id .EVT_HEART_BEAT _ _ => inferInstanceAs (Decidable (e.OwnsSlot sandbox_id))
  | .addExecutionChannels _ | .deinit | .event _ .EVT_RUN _ _ => isTrue trivial

end SlowCommandExecutor

/-! ## The names -/

/-- The identification of a sandbox by its number. -/
def identification (executorID : String) (key : UInt32) : String :=
  executorID ++ "-sandbox-" ++ toString key

theorem identification_injective (executorID : String) :
    Function.Injective (identification executorID) := by
  intro k k' h
  have hrepr : Nat.repr k.toNat = Nat.repr k'.toNat := (String.append_right_inj _).mp h
  exact UInt32.toNat_inj.mp (Nat.repr_injective hrepr)

theorem heartbeatName_injective : Function.Injective heartbeatName :=
  fun _ _ h => (String.append_left_inj _).mp h

/-- The attributes that each slow control unit has, with their sizes. -/
def baseAttributes : List (String × UInt32) :=
  [(DP_SYS_HEARTBEAT, 8), (DP_SYS_UNIT_TYPE, 4), (DP_SYS_LAST_ERROR, 4),
    (DP_SYS_LAST_ERROR_MESSAGE, 255), (DP_SYS_LAST_ERROR_DOMAIN, 255),
    (DP_SYS_RUN_UNIT_AVAILABLE, 4), (DP_SYS_RUN_UNIT_ID, 127)]

def systemAttributes (all_sandbox_ids : List String) : List (String × UInt32) :=
  baseAttributes ++ all_sandbox_ids.map fun sandbox_id => (heartbeatName sandbox_id, 8)

/-- None of them ends like the attribute of a sandbox. -/
theorem heartbeatName_not_base (sandbox_id : String) :
    heartbeatName sandbox_id ∉ baseAttributes.map Prod.fst := by
  intro hmem
  have hlast : (heartbeatName sandbox_id).toList.getLast? = some 'b' := by
    simp [heartbeatName, String.toList_append]
  have hbase : ∀ name ∈ baseAttributes.map Prod.fst, name.toList.getLast? ≠ some 'b' := by
    decide +kernel
  exact hbase _ hmem hlast

/-! ## The attributes -/

section Attributes

variable {s : AttributesSetting} {attributes : List (String × UInt32)} {name : String}
  {size : UInt32}

/-- The value of the attribute that was added last. -/
theorem write_last (h : HoldsAttributes s (attributes ++ [(name, size)])) (value : List UInt8) :
    ∃ s', s.write (s.index - 1) value = .ok s' ∧
      HoldsAttributes s' (attributes ++ [(name, size)]) := by
  obtain ⟨n, v, hslot⟩ := h.exists_slot (List.mem_append_right _ (List.mem_singleton_self _))
  cases h.index_last.symm.trans hslot.index
  obtain ⟨s', hwrite, hholds, -⟩ := h.write hslot value
  exact ⟨s', hwrite, hholds⟩

theorem initBaseAttributes_spec : ∃ s, initBaseAttributes .create SCCU = .ok s ∧
    HoldsAttributes s (baseAttributes.take 5) := by
  have hlength : UInt32.ofNat (textBytes SCCU).length = 4 := by decide +kernel
  have hfirst := HoldsAttributes.create.addAttribute DP_SYS_HEARTBEAT 0 .TYPE_INT64 (by decide)
    (by decide) (by decide)
  have htype := hfirst.addAttribute DP_SYS_UNIT_TYPE 4 .TYPE_STRING (by decide) (by decide)
    (by decide)
  obtain ⟨s, hwrite, hset⟩ := write_last htype (textBytes SCCU)
  have hcode := hset.addAttribute DP_SYS_LAST_ERROR 0 .TYPE_INT32 (by decide) (by decide)
    (by decide)
  have hmessage := hcode.addAttribute DP_SYS_LAST_ERROR_MESSAGE 255 .TYPE_STRING (by decide)
    (by decide) (by decide)
  have hdomain := hmessage.addAttribute DP_SYS_LAST_ERROR_DOMAIN 255 .TYPE_STRING (by decide)
    (by decide) (by decide)
  refine ⟨_, ?_, hdomain⟩
  unfold initBaseAttributes
  rw [hlength]
  dsimp only
  rw [hwrite]
  rfl

/-- Each sandbox gets an attribute of its own, while an index is left for it. -/
theorem addHeartbeats_spec (all_sandbox_ids : List String) (h : HoldsAttributes s attributes)
    (hnodup : all_sandbox_ids.Nodup)
    (hnew : ∀ id ∈ all_sandbox_ids, heartbeatName id ∉ attributes.map Prod.fst)
    (hroom : attributes.length + all_sandbox_ids.length ≤ 2 ^ 16) :
    HoldsAttributes (all_sandbox_ids.foldl
        (fun s sandbox_id => s.addAttribute (heartbeatName sandbox_id) 0 .TYPE_INT64 true) s)
      (attributes ++ all_sandbox_ids.map fun sandbox_id => (heartbeatName sandbox_id, 8)) := by
  induction all_sandbox_ids generalizing s attributes with
  | nil => simpa using h
  | cons id rest ih =>
    rw [List.length_cons] at hroom
    obtain ⟨hid, hrest⟩ := List.nodup_cons.mp hnodup
    have hadded := h.addAttribute (heartbeatName id) 0 .TYPE_INT64 (hnew id List.mem_cons_self)
      (by omega) (by decide)
    have hall := ih hadded hrest ?_ ?_
    · simpa [AttributesSetting.attributeSize] using hall
    · intro other hother hmem
      rw [List.map_append, List.mem_append] at hmem
      rcases hmem with hold | hlast
      · exact hnew other (List.mem_cons_of_mem _ hother) hold
      · have heq := heartbeatName_injective (List.mem_singleton.mp hlast)
        exact hid (heq ▸ hother)
    · rw [List.length_append, List.length_singleton]
      omega

theorem initSystemAttributes_spec (run_unit : UInt32) {all_sandbox_ids : List String}
    (hnodup : all_sandbox_ids.Nodup) (hroom : 7 + all_sandbox_ids.length ≤ 2 ^ 16) :
    ∃ s, initSystemAttributes .create run_unit all_sandbox_ids = .ok s ∧
      HoldsAttributes s (systemAttributes all_sandbox_ids) := by
  obtain ⟨s, hbase, hset⟩ := initBaseAttributes_spec
  have havailable := hset.addAttribute DP_SYS_RUN_UNIT_AVAILABLE 0 .TYPE_INT32 (by decide)
    (by decide) (by decide)
  obtain ⟨u, hwrite, hunits⟩ := write_last havailable (toBytes 4 run_unit.toNat)
  have hunit := hunits.addAttribute DP_SYS_RUN_UNIT_ID 127 .TYPE_STRING (by decide) (by decide)
    (by decide)
  have hall := addHeartbeats_spec all_sandbox_ids hunit hnodup
    (fun id _ => heartbeatName_not_base id) hroom
  refine ⟨_, ?_, hall⟩
  unfold initSystemAttributes
  rw [hbase]
  change (AttributesSetting.write _ _ _).bind _ = _
  rw [hwrite]
  rfl

end Attributes

/-! ## The sandboxes -/

/-- Each sandbox has the identification that its number gives. -/
def Identified (e : SandboxExecutor) : Prop :=
  ∀ key p, e.sandbox_map[key]? = some p → p = some (identification e.executorID key)

theorem Identified.addNewSandboxInstance {e : SandboxExecutor} (h : Identified e) :
    Identified e.addNewSandboxInstance := by
  intro key p hp
  unfold SandboxExecutor.addNewSandboxInstance at hp
  dsimp only at hp
  rw [Std.TreeMap.getElem?_insertIfNew] at hp
  split at hp
  · rename_i heq
    cases Std.LawfulEqCmp.eq_of_compare heq.1
    exact (Option.some.inj hp).symm
  · exact h key p hp

theorem Identified.addSandboxInstance {e : SandboxExecutor} (h : Identified e) (n : UInt32) :
    Identified (e.addSandboxInstance n) := by
  unfold SandboxExecutor.addSandboxInstance
  induction n.toNat with
  | zero => exact h
  | succ n ih =>
    rw [Function.iterate_succ_apply']
    exact ih.addNewSandboxInstance

theorem Identified.initMap {e : SandboxExecutor} (h : Identified e) : Identified e.initMap := by
  have hreset : Identified { e with command_sequence_id := 0 } := h
  unfold SandboxExecutor.initMap
  dsimp only
  split
  · exact hreset.addNewSandboxInstance
  · exact hreset

theorem getSandboxID_eq (executorID : String) {l : List (UInt32 × Option String)}
    (h : ∀ x ∈ l, x.2 = some (identification executorID x.1)) :
    getSandboxID l = .ok (l.map fun x => identification executorID x.1) := by
  induction l with
  | nil => rfl
  | cons x rest ih =>
    obtain ⟨key, p⟩ := x
    obtain rfl : p = some (identification executorID key) := h (key, p) List.mem_cons_self
    rw [getSandboxID, ih fun y hy => h y (List.mem_cons_of_mem _ hy)]
    rfl

/-- No two sandboxes have the same identification. -/
theorem Identified.getSandboxID {e : SandboxExecutor} (h : Identified e) :
    ∃ ids, getSandboxID e.sandbox_map.toList = .ok ids ∧ ids.Nodup ∧
      ids.length = e.sandbox_map.size := by
  refine ⟨_, getSandboxID_eq e.executorID ?_, ?_, ?_⟩
  · rintro ⟨key, p⟩ hmem
    exact h key p (Std.TreeMap.mem_toList_iff_getElem?_eq_some.mp hmem)
  · have hkeys : e.sandbox_map.toList.map (fun x => identification e.executorID x.1) =
        e.sandbox_map.keys.map (identification e.executorID) := by
      rw [← Std.TreeMap.map_fst_toList_eq_keys, List.map_map]
      rfl
    rw [hkeys]
    exact Std.TreeMap.nodup_keys.map (identification_injective _)
  · rw [List.length_map, Std.TreeMap.length_toList]

/-! ## The events -/

namespace SlowCommandExecutor

/-- The attributes of an initialized control unit. What was kept is the value that names a sandbox,
and the value of one of the sandboxes. -/
structure Ready (e : SlowCommandExecutor) : Prop where
  attributes : HoldsAttributes e.system_set (systemAttributes e.initialized)
  runUnit : ∀ n, e.last_ru_id_cache = some n →
    e.system_set.mapAttributeNameIndex[DP_SYS_RUN_UNIT_ID]? = some n
  kept : ∀ n, e.ts_hb_cache = some n → ∃ other ∈ e.initialized,
    e.system_set.mapAttributeNameIndex[heartbeatName other]? = some n

variable {e e' : SlowCommandExecutor} {sandbox_id target : String} {n : UInt16}

/-- The value that is found is the one that was kept, or the one of the name. -/
theorem cachedValue_eq {cache : Option UInt16} {s : AttributesSetting} {name found : String}
    {size : UInt32} {v : ValueSetting} (hslot : AttributeSlot s found size n v)
    (hkept : ∀ m, cache = some m → s.mapAttributeNameIndex[found]? = some m)
    (hnone : cache = none → found = name) : cachedValue cache s name = .ok (some n) := by
  cases cache with
  | none =>
    cases hnone rfl
    exact hslot.getVariableValue
  | some m =>
    cases (hkept m rfl).symm.trans hslot.index
    rfl

/-- A push changes nothing that is found or stored under a name. -/
theorem push_kept (s : AttributesSetting) :
    (pushSystemDataset s).mapAttributeNameIndex = s.mapAttributeNameIndex ∧
      (pushSystemDataset s).mapAttributeIndexSettings = s.mapAttributeIndexSettings := by
  unfold pushSystemDataset
  split <;> exact ⟨rfl, rfl⟩

theorem namedValue_push (s : AttributesSetting) (name : String) :
    (pushSystemDataset s).namedValue name = s.namedValue name := by
  unfold AttributesSetting.namedValue
  rw [(push_kept s).1, (push_kept s).2]

theorem HoldsAttributes.push {s : AttributesSetting} {attributes : List (String × UInt32)}
    (h : HoldsAttributes s attributes) : HoldsAttributes (pushSystemDataset s) attributes := by
  unfold pushSystemDataset
  split
  · exact h.resetChangedIndex
  · exact h

/-- The attributes are the same under another set with the same names. -/
theorem Ready.with_set (h : e.Ready) {s : AttributesSetting}
    (hset : HoldsAttributes s (systemAttributes e.initialized))
    (hindex : s.mapAttributeNameIndex = e.system_set.mapAttributeNameIndex) :
    Ready { e with system_set := s } := by
  refine ⟨hset, ?_, ?_⟩
  · dsimp only
    rw [hindex]
    exact h.runUnit
  · dsimp only
    rw [hindex]
    exact h.kept

/-- The sandbox of the event is noted, and only this attribute is written. -/
theorem setRunUnit_spec (h : e.Ready) (sandbox_id : String) :
    ∃ n s, e.setRunUnit sandbox_id =
        .ok (some { e with last_ru_id_cache := some n, system_set := s }) ∧
      Ready { e with last_ru_id_cache := some n, system_set := s } ∧
      s.mapAttributeNameIndex = e.system_set.mapAttributeNameIndex ∧
      ∀ name ≠ DP_SYS_RUN_UNIT_ID, s.namedValue name = e.system_set.namedValue name := by
  obtain ⟨n, v, hslot⟩ : ∃ n v, AttributeSlot e.system_set DP_SYS_RUN_UNIT_ID 127 n v :=
    h.attributes.exists_slot (List.mem_append_left _ (by decide))
  obtain ⟨s, hwrite, hholds, hindex, -, hothers⟩ :=
    h.attributes.write hslot (textBytes sandbox_id)
  refine ⟨n, s, ?_, ?_, hindex, hothers⟩
  · unfold setRunUnit
    rw [cachedValue_eq hslot h.runUnit fun _ => rfl]
    change (AttributesSetting.write _ _ _).bind _ = _
    rw [hwrite]
    rfl
  · refine { h.with_set hholds hindex with runUnit := ?_ }
    rintro _ ⟨⟩
    dsimp only
    rw [hindex]
    exact hslot.index

/-- A heartbeat writes the value that was kept, or its own where none was. -/
theorem handleHeartbeat_spec (h : e.Ready) (hmem : target ∈ e.initialized)
    (hkept : e.OwnsSlot target) (hnone : e.ts_hb_cache = none → target = sandbox_id)
    {type_value : List UInt8} (hlength : type_value.length = 8) :
    ∃ e', e.handleHeartbeat sandbox_id type_value = .ok e' ∧ e'.Ready ∧
      e'.toSandboxExecutor = e.toSandboxExecutor ∧
      e'.system_set.namedValue (heartbeatName target) = some type_value ∧
      ∀ name ≠ heartbeatName target,
        e'.system_set.namedValue name = e.system_set.namedValue name := by
  obtain ⟨n, v, hslot⟩ : ∃ n v, AttributeSlot e.system_set (heartbeatName target) 8 n v :=
    h.attributes.exists_slot (List.mem_append_right _ (List.mem_map_of_mem hmem))
  obtain ⟨s, hwrite, hholds, hindex, hself, hothers⟩ := h.attributes.write hslot type_value
  have hpush := (push_kept s).1.trans hindex
  refine ⟨{ e with ts_hb_cache := some n, system_set := pushSystemDataset s }, ?_, ?_, rfl, ?_, ?_⟩
  · unfold handleHeartbeat
    rw [if_pos hlength, cachedValue_eq hslot hkept fun hcache => congrArg _ (hnone hcache)]
    change (AttributesSetting.write _ _ _).bind _ = _
    rw [hwrite]
    rfl
  · refine { h.with_set (HoldsAttributes.push hholds) hpush with kept := ?_ }
    rintro _ ⟨⟩
    refine ⟨target, hmem, ?_⟩
    dsimp only
    rw [hpush]
    exact hslot.index
  · exact (namedValue_push s _).trans (hself hlength)
  · exact fun name hname => (namedValue_push s name).trans (hothers name hname)

/-- A run event is one of the output domain. -/
theorem handleRun_eq {type_value : List UInt8} {made : Bool}
    (h : e.handleRun type_value made = .ok e') :
    ∃ cache s, e' = { e with last_acq_ts_cache := cache, output_set := s } := by
  unfold handleRun at h
  cases hcache : cachedValue e.last_acq_ts_cache e.output_set DPCK_TIMESTAMP with
  | error failure =>
    rw [hcache] at h
    cases h
  | ok found =>
    rw [hcache] at h
    cases found with
    | none =>
      cases h
      exact ⟨_, _, rfl⟩
    | some n =>
      change (AttributesSetting.write _ _ _).bind _ = _ at h
      cases hwrite : e.output_set.write n type_value with
      | error failure =>
        rw [hwrite] at h
        cases h
      | ok s =>
        rw [hwrite] at h
        cases h
        exact ⟨_, _, rfl⟩

/-! ## The steps -/

/-- The next heartbeat of a sandbox goes to the value of a sandbox, and to its own where none was
kept. -/
theorem Ready.exists_target (h : e.Ready) (hmem : sandbox_id ∈ e.initialized) :
    ∃ target ∈ e.initialized, e.OwnsSlot target ∧
      (e.ts_hb_cache = none → target = sandbox_id) := by
  cases hcache : e.ts_hb_cache with
  | none =>
    refine ⟨sandbox_id, hmem, ?_, fun _ => rfl⟩
    intro n hn
    cases hcache.symm.trans hn
  | some n =>
    obtain ⟨other, hother, hindex⟩ := h.kept n hcache
    refine ⟨other, hother, ?_, nofun⟩
    intro m hm
    cases hcache.symm.trans hm
    exact hindex

/-- A heartbeat of an initialized sandbox comes back. -/
theorem heartbeat_step (h : e.Ready) (hmem : sandbox_id ∈ e.initialized)
    (htarget : target ∈ e.initialized) (hkept : e.OwnsSlot target)
    (hnone : e.ts_hb_cache = none → target = sandbox_id) (time : UInt64) (made : Bool) :
    ∃ e', e.step (.event sandbox_id .EVT_HEART_BEAT time made) = some e' ∧ e'.Ready ∧
      e'.toSandboxExecutor = e.toSandboxExecutor ∧
      e'.system_set.namedValue (heartbeatName target) = some (toBytes 8 time.toNat) ∧
      ∀ name, name ≠ heartbeatName target → name ≠ DP_SYS_RUN_UNIT_ID →
        e'.system_set.namedValue name = e.system_set.namedValue name := by
  obtain ⟨n, s, hnote, hready, hindex, hrest⟩ := setRunUnit_spec h sandbox_id
  obtain ⟨e', hheartbeat, hready', hsame, hself, hothers⟩ := handleHeartbeat_spec hready htarget
    (fun m hm => (congrArg (·[heartbeatName target]?) hindex).trans (hkept m hm)) hnone
    (length_toBytes 8 time.toNat)
  refine ⟨e', ?_, hready', hsame, hself, ?_⟩
  · refine (if_pos hmem).trans ?_
    unfold handleSandboxEvent
    rw [hnote]
    exact congrArg Except.toOption hheartbeat
  · intro name hname hunit
    exact (hothers name hname).trans (hrest name hunit)

theorem run_step (h : e.Ready) {time : UInt64} {made : Bool}
    (hstep : e.step (.event sandbox_id .EVT_RUN time made) = some e') :
    e'.Ready ∧ e'.toSandboxExecutor = e.toSandboxExecutor ∧
      ∀ name ≠ DP_SYS_RUN_UNIT_ID,
        e'.system_set.namedValue name = e.system_set.namedValue name := by
  obtain ⟨n, s, hnote, hready, -, hothers⟩ := setRunUnit_spec h sandbox_id
  unfold step at hstep
  dsimp only at hstep
  split at hstep
  · have hevent : e.handleSandboxEvent sandbox_id .EVT_RUN (toBytes 8 time.toNat) made =
        .ok e' := by
      cases heq : e.handleSandboxEvent sandbox_id .EVT_RUN (toBytes 8 time.toNat) made with
      | error failure =>
        rw [heq] at hstep
        cases hstep
      | ok r =>
        rw [heq] at hstep
        cases hstep
        rfl
    unfold handleSandboxEvent at hevent
    rw [hnote] at hevent
    obtain ⟨cache, output, rfl⟩ := handleRun_eq hevent
    exact ⟨⟨hready.attributes, hready.runUnit, hready.kept⟩, rfl, hothers⟩
  · cases hstep

/-- A deinitialized control unit has no attributes, and nothing was kept. -/
structure Cleared (e : SlowCommandExecutor) : Prop where
  initialized : e.initialized = []
  system_set : e.system_set = .create
  runUnit : e.last_ru_id_cache = none
  kept : e.ts_hb_cache = none

structure Inv (e : SlowCommandExecutor) : Prop where
  identified : Identified e.toSandboxExecutor
  cleared : e.service.state_machine = .IS_DEINTIATED → e.Cleared
  ready : e.service.state_machine ≠ .IS_DEINTIATED → e.Ready

theorem Inv.create (executorID : String) : (create executorID).Inv := by
  refine ⟨?_, fun _ => ⟨rfl, rfl, rfl, rfl⟩, fun h => absurd rfl h⟩
  intro key p hp
  simp [SlowCommandExecutor.create, SandboxExecutor.create] at hp

/-- A sandbox that sends events is one of an initialized control unit. -/
theorem Inv.ready_of_mem (h : e.Inv) (hmem : sandbox_id ∈ e.initialized) :
    e.Ready ∧ e.service.state_machine ≠ .IS_DEINTIATED := by
  have hstate : e.service.state_machine ≠ .IS_DEINTIATED := by
    intro hdeinit
    rw [(h.cleared hdeinit).initialized] at hmem
    cases hmem
  exact ⟨h.ready hstate, hstate⟩

/-- A step that leaves the sandboxes and the life cycle as they are. -/
theorem Inv.of_ready (h : e.Inv) (hmem : sandbox_id ∈ e.initialized) (hready : e'.Ready)
    (hsame : e'.toSandboxExecutor = e.toSandboxExecutor) : e'.Inv := by
  refine ⟨hsame ▸ h.identified, ?_, fun _ => hready⟩
  rw [hsame]
  exact fun hdeinit => absurd hdeinit (h.ready_of_mem hmem).2

theorem init_spec (h : e.Inv) (hroom : e.HasRoom)
    (hdeinit : e.service.state_machine = .IS_DEINTIATED) (attributes : AttributesSetting) :
    ∃ e', e.init attributes = .ok e' ∧ e'.Inv := by
  have hcleared := h.cleared hdeinit
  obtain ⟨ids, hids, hnodup, hlength⟩ := h.identified.initMap.getSandboxID
  obtain ⟨s, hset, hholds⟩ := initSystemAttributes_spec (.ofNat e.initMap.sandbox_map.size) hnodup
    (hlength ▸ hroom)
  have hservice : e.initMap.service = e.service := by
    unfold SandboxExecutor.initMap
    dsimp only
    split <;> rfl
  have hinit : e.init attributes = .ok { e with
      toSandboxExecutor := { e.initMap with service := e.initMap.service.sendEvent .init }
      initialized := ids
      output_set := completeOutputAttribute attributes
      system_set := s } := by
    unfold init
    dsimp only
    rw [hids, hcleared.system_set]
    change (initSystemAttributes _ _ _).bind _ = _
    rw [hset]
    rfl
  refine ⟨_, hinit, ?_, ?_, ?_⟩
  · exact h.identified.initMap
  · intro hstate
    simp [StartableService.sendEvent, hservice, hdeinit, process_event] at hstate
  · intro _
    refine ⟨hholds, ?_, ?_⟩
    · intro n hn
      cases hcleared.runUnit.symm.trans hn
    · intro n hn
      cases hcleared.kept.symm.trans hn

theorem Inv.deinit (h : e.Inv)
    (hsome : (process_event e.service.state_machine .deinit).isSome) : e.deinit.Inv := by
  have hstate : e.deinit.service.state_machine = .IS_DEINTIATED := by
    obtain ⟨state, hnext⟩ := Option.isSome_iff_exists.mp hsome
    simp [SlowCommandExecutor.deinit, StartableService.sendEvent, hnext,
      process_event_deinit hnext]
  exact ⟨h.identified, fun _ => ⟨rfl, rfl, rfl, rfl⟩, fun hne => absurd hstate hne⟩

/-- Every event goes to the value of one of the sandboxes, also where it is not the right one. -/
theorem Inv.event (h : e.Inv) (hmem : sandbox_id ∈ e.initialized) {type : BatchSandboxEventType}
    {time : UInt64} {made : Bool} (hstep : e.step (.event sandbox_id type time made) = some e') :
    e'.Inv := by
  have hready := (h.ready_of_mem hmem).1
  cases type with
  | EVT_HEART_BEAT =>
    obtain ⟨target, htarget, hkept, hnone⟩ := hready.exists_target hmem
    obtain ⟨t, ht, hready', hsame, -⟩ := heartbeat_step hready hmem htarget hkept hnone time made
    cases ht.symm.trans hstep
    exact h.of_ready hmem hready' hsame
  | EVT_RUN =>
    obtain ⟨hready', hsame, -⟩ := run_step hready hstep
    exact h.of_ready hmem hready' hsame

theorem mem_of_step {type : BatchSandboxEventType} {time : UInt64} {made : Bool}
    (hstep : e.step (.event sandbox_id type time made) = some e') :
    sandbox_id ∈ e.initialized := by
  by_contra hmem
  have hnone : e.step (.event sandbox_id type time made) = none := if_neg hmem
  cases hnone.symm.trans hstep

theorem Inv.step (h : e.Inv) {a : Label} (hroom : e.RoomIsLeft a) (hstep : e.step a = some e') :
    e'.Inv := by
  cases a with
  | addExecutionChannels n =>
    cases hstep
    have hservice : (e.addSandboxInstance n).service = e.service := by
      unfold SandboxExecutor.addSandboxInstance
      induction n.toNat with
      | zero => rfl
      | succ n ih =>
        rw [Function.iterate_succ_apply']
        exact ih
    refine ⟨h.identified.addSandboxInstance n, ?_, ?_⟩
    · intro hdeinit
      have hcleared := h.cleared (hservice ▸ hdeinit)
      exact ⟨hcleared.initialized, hcleared.system_set, hcleared.runUnit, hcleared.kept⟩
    · intro hne
      have hready := h.ready (hservice ▸ hne)
      exact ⟨hready.attributes, hready.runUnit, hready.kept⟩
  | init attributes =>
    unfold SlowCommandExecutor.step at hstep
    dsimp only at hstep
    split at hstep
    · rename_i hsome
      obtain ⟨state, hnext⟩ := Option.isSome_iff_exists.mp hsome
      obtain ⟨t, ht, hinv⟩ := init_spec h (hroom hsome) (process_event_init hnext).1 attributes
      rw [ht] at hstep
      cases hstep
      exact hinv
    · cases hstep
      exact h
  | deinit =>
    unfold SlowCommandExecutor.step at hstep
    dsimp only at hstep
    split at hstep
    · rename_i hsome
      cases hstep
      exact h.deinit hsome
    · cases hstep
      exact h
  | event sandbox_id type time made => exact h.event (mem_of_step hstep) hstep

/-! ## The law -/

theorem heartbeatName_ne_runUnit (sandbox_id : String) :
    heartbeatName sandbox_id ≠ DP_SYS_RUN_UNIT_ID := by
  intro heq
  exact heartbeatName_not_base sandbox_id (heq ▸ by decide)

/-- A heartbeat that finds no value of another sandbox is separate. -/
theorem separate_of_ownsSlot (h : e.Inv) (hown : e.OwnsSlot sandbox_id) (time : UInt64)
    (made : Bool) : e.Separate (.event sandbox_id .EVT_HEART_BEAT time made) := by
  intro hmem
  obtain ⟨e', hstep, -, -, hself, hothers⟩ :=
    heartbeat_step (h.ready_of_mem hmem).1 hmem hmem hown (fun _ => rfl) time made
  refine ⟨e', hstep, hself, ?_, hothers⟩
  intro other _ hne
  exact hothers _ (fun heq => hne (heartbeatName_injective heq)) (heartbeatName_ne_runUnit other)

/-- A heartbeat that finds the value of another sandbox leaves its own as it was. -/
theorem ownsSlot_of_separate (h : e.Inv) (hmem : sandbox_id ∈ e.initialized)
    (hsep : ∀ time made, e.Separate (.event sandbox_id .EVT_HEART_BEAT time made)) :
    e.OwnsSlot sandbox_id := by
  have hready := (h.ready_of_mem hmem).1
  obtain ⟨target, htarget, hkept, hnone⟩ := hready.exists_target hmem
  by_cases htgt : target = sandbox_id
  · exact htgt ▸ hkept
  · have hold : ∀ time : UInt64, e.system_set.namedValue (heartbeatName sandbox_id) =
        some (toBytes 8 time.toNat) := by
      intro time
      obtain ⟨e', hstep, hupdates⟩ := hsep time true hmem
      obtain ⟨t, ht, -, -, -, hothers⟩ :=
        heartbeat_step hready hmem htarget hkept hnone time true
      cases ht.symm.trans hstep
      rw [← hothers _ (fun heq => htgt (heartbeatName_injective heq.symm))
        (heartbeatName_ne_runUnit sandbox_id)]
      exact hupdates.own
    -- it would have to hold every time before it comes
    cases (hold 0).symm.trans (hold 1)

/-- In every run in which there is room for the attributes and no heartbeat finds a value that was
kept from another sandbox, the heartbeats are separate. At the end of a run with room, the
heartbeats of a sandbox are separate just when what was kept is its own value. -/
theorem heartbeats_are_separate (executorID : String) :
    (∀ as, RunOk step SlotIsOwn (.create executorID) as →
      RunOk step Separate (.create executorID) as) ∧
    ∀ as e sandbox_id, RunOk step RoomIsLeft (.create executorID) as →
      run step (.create executorID) as = some e → sandbox_id ∈ e.initialized →
      ((∀ time made, e.Separate (.event sandbox_id .EVT_HEART_BEAT time made)) ↔
        e.OwnsSlot sandbox_id) := by
  constructor
  · intro as hok
    refine RunOk.of_keeps Inv ?_ (Inv.create executorID) hok
    intro e a h hown
    have hroom : e.RoomIsLeft a := by
      cases a with
      | init attributes => exact hown
      | addExecutionChannels n | deinit | event sandbox_id type time made => trivial
    refine ⟨?_, fun e' hstep => h.step hroom hstep⟩
    cases a with
    | init attributes | addExecutionChannels n | deinit => trivial
    | event sandbox_id type time made =>
      cases type with
      | EVT_HEART_BEAT => exact separate_of_ownsSlot h hown time made
      | EVT_RUN =>
        intro e' hstep
        exact (run_step (h.ready_of_mem (mem_of_step hstep)).1 hstep).2.2
  · intro as e sandbox_id hok hrun hmem
    have h := run_keeps_of_ok Inv (fun e a t h hroom hstep => h.step hroom hstep)
      (Inv.create executorID) hok hrun
    exact ⟨ownsSlot_of_separate h hmem, fun hown time made =>
      separate_of_ownsSlot h hown time made⟩

/-- The default sandbox of a unit beats twice, and runs in between. -/
def oneSandbox : List Label :=
  [.init .create, .event "cu-sandbox-1" .EVT_HEART_BEAT 1 true,
    .event "cu-sandbox-1" .EVT_RUN 2 true, .event "cu-sandbox-1" .EVT_HEART_BEAT 3 true]

theorem one_sandbox_is_separate : RunOk step Separate (.create "cu") oneSandbox ∧
    ∃ e, run step (.create "cu") oneSandbox = some e ∧
      ∀ time made, e.Separate (.event "cu-sandbox-1" .EVT_HEART_BEAT time made) := by
  have hown : RunOk step SlotIsOwn (.create "cu") oneSandbox := by decide +kernel
  have hroom : RunOk step RoomIsLeft (.create "cu") oneSandbox := by decide +kernel
  have hrun : (run step (.create "cu") oneSandbox).map (fun e =>
      (e.initialized, decide (e.OwnsSlot "cu-sandbox-1"))) = some (["cu-sandbox-1"], true) := by
    decide +kernel
  obtain ⟨e, he, heq⟩ := Option.map_eq_some_iff.mp hrun
  obtain ⟨hinitialized, hslot⟩ := Prod.mk.inj heq
  refine ⟨(heartbeats_are_separate "cu").1 _ hown, e, he, ?_⟩
  exact ((heartbeats_are_separate "cu").2 _ e _ hroom he (by simp [hinitialized])).mpr
    (of_decide_eq_true hslot)

/-- The heartbeat of the second sandbox goes to the attribute of the first one. -/
theorem second_sandbox_is_lost :
    ¬ ∀ executorID as, RunOk step Separate (.create executorID) as := by
  intro h
  have hok := h "cu" ([.addExecutionChannels 2, .init .create,
    .event "cu-sandbox-1" .EVT_HEART_BEAT 1 true] ++
      [.event "cu-sandbox-2" .EVT_HEART_BEAT 2 true])
  have hfirst : (run step (.create "cu") [.addExecutionChannels 2, .init .create,
      .event "cu-sandbox-1" .EVT_HEART_BEAT 1 true]).map (fun e => (e.initialized,
        (e.step (.event "cu-sandbox-2" .EVT_HEART_BEAT 2 true)).bind fun e' =>
          e'.system_set.namedValue "cu-sandbox-2_hb")) =
        some (["cu-sandbox-1", "cu-sandbox-2"], some [0, 0, 0, 0, 0, 0, 0, 0]) := by
    decide +kernel
  obtain ⟨e, he, heq⟩ := Option.map_eq_some_iff.mp hfirst
  obtain ⟨hinitialized, hvalue⟩ := Prod.mk.inj heq
  obtain ⟨e', hstep, hupdates⟩ := ((runOk_append.mp hok).2 e he).1 (by simp [hinitialized])
  rw [hstep, Option.bind_some] at hvalue
  cases hvalue.symm.trans hupdates.own

end SlowCommandExecutor

end chaos.cu.control_manager.slow_command
