-- The registration of the control units. A submitted unit gets a manager with a state machine, which
-- is in the map of those that register or unregister until it is stable. A published one is in the
-- other map. Requests and acknowledgements come from other threads between the steps.
import Chaos.DriverInstances
import Chaos.Exception
import Mathlib.Data.List.AList

namespace chaos.cu.control_manager

open runs driver_manager

/-! ## The state machine of a unit -/

inductive UnitState where
  | Unpublished
  | StartPublishing
  | Publishing
  | Published
  | StartUnpublishing
  | Unpublishing
  | PublishingFailure
  deriving DecidableEq, Repr

inductive UnitEventType where
  | Unpublished
  | Publish
  | Publishing
  | Published
  | Unpublish
  | Unpublishing
  | Failure
  deriving DecidableEq, Repr

/-- An event without a row is not handled. -/
def transition_table : UnitState → UnitEventType → Option UnitState
  | .Unpublished, .Publish => some .StartPublishing
  | .StartPublishing, .Publishing => some .Publishing
  | .Publishing, .Published => some .Published
  | .Published, .Unpublish => some .StartUnpublishing
  | .StartUnpublishing, .Unpublishing => some .Unpublishing
  | .Unpublishing, .Unpublished => some .Unpublished
  | .Publishing, .Failure => some .PublishingFailure
  | _, _ => none

def EC_MDS_UNIT_SERV_REGISTRATION_OK : Int := 5

def EC_MDS_UNIT_SERV_BAD_US_SM_STATE : Int := 8

/-- A unit with its identifier, and the number of the objects that declare its actions. -/
structure AbstractControlUnit where
  control_unit_id : List Char
  declareActions : Nat
  control_key : List Char := []
  deriving DecidableEq, Repr

structure WorkUnitManagement where
  work_unit_instance : AbstractControlUnit
  wu_instance_sm : UnitState := .Unpublished
  active : Bool := true
  deriving DecidableEq, Repr

namespace WorkUnitManagement

def getCUID (w : WorkUnitManagement) : List Char := w.work_unit_instance.control_unit_id

def process_event (w : WorkUnitManagement) (event : UnitEventType) : Option WorkUnitManagement :=
  (transition_table w.wu_instance_sm event).map fun state => { w with wu_instance_sm := state }

/-- The event that a call cannot do without. -/
def mustProcess (function name : String) (w : WorkUnitManagement) (event : UnitEventType) :
    Except CException WorkUnitManagement :=
  match w.process_event event with
  | some w' => .ok w'
  | none =>
    .error ⟨EC_MDS_UNIT_SERV_BAD_US_SM_STATE, "Bad state of the sm for " ++ name ++ " event",
      function⟩

def turnOn (w : WorkUnitManagement) : Except CException WorkUnitManagement :=
  w.mustProcess "WorkUnitManagement::turnOn" "UnitEventTypePublish" .Publish

def turnOFF (w : WorkUnitManagement) : Except CException WorkUnitManagement :=
  w.mustProcess "WorkUnitManagement::turnOFF" "UnitEventTypeUnpublish" .Unpublish

def smNeedToSchedule (w : WorkUnitManagement) : Bool :=
  w.active || (w.wu_instance_sm ≠ .Published && w.wu_instance_sm ≠ .Unpublished &&
    w.wu_instance_sm ≠ .PublishingFailure)

end WorkUnitManagement

/-- The acknowledgement of the metadata server. Its two keys for the device are the same text. -/
structure AckPack where
  device_id : Option (List Char)
  reg_unit_serv_result : Option Int
  deriving DecidableEq, Repr

/-- A result other than a good one is a failure. -/
def WorkUnitManagement.manageACKPack (w : WorkUnitManagement) (ack_pack : AckPack) :
    Except CException WorkUnitManagement :=
  let function := "WorkUnitManagement::manageACKPack"
  match ack_pack.device_id with
  | none => .error ⟨-1, "No device id found", function⟩
  | some device_id =>
    if device_id ≠ w.getCUID then
      .error ⟨-2, "received id not equal to work unit instance id", function⟩
    else
      match ack_pack.reg_unit_serv_result with
      | none => .error ⟨-3, "No result received", function⟩
      | some ack_val =>
        if ack_val = EC_MDS_UNIT_SERV_REGISTRATION_OK then
          w.mustProcess function "UnitEventTypePublished" .Published
        else w.mustProcess function "UnitEventTypeFailure" .Failure

/-! ## The manager -/

abbrev UnitMap := AList fun _ : List Char => Nat

/-- The managers of units are named by numbers, and `units` are those that are allocated.
`actions` is what the command manager has registered: the manager, and which of the objects that
declare actions. -/
structure ControlManager where
  map_cu_alias_instancer : List (List Char) := []
  queue_submitted_cu : List AbstractControlUnit := []
  map_cuid_reg_unreg_instance : UnitMap := ∅
  map_cuid_registered_instance : UnitMap := ∅
  units : Nat → Option WorkUnitManagement := fun _ => none
  next : Nat := 0
  actions : List (Nat × Nat) := []

/-- `insert` of a map leaves an entry that is there. -/
def UnitMap.insertNew (m : UnitMap) (cuid : List Char) (o : Nat) : UnitMap :=
  if cuid ∈ m then m else m.insert cuid o

namespace ControlManager

def new (aliases : List (List Char)) : ControlManager := { map_cu_alias_instancer := aliases }

def set (s : ControlManager) (o : Nat) (w : WorkUnitManagement) : ControlManager :=
  { s with units := Function.update s.units o (some w) }

/-- A manager that no map holds any more is deleted. -/
def release (s : ControlManager) (o : Nat) : ControlManager :=
  if o ∈ s.map_cuid_reg_unreg_instance.entries.map (·.2) ∨
      o ∈ s.map_cuid_registered_instance.entries.map (·.2) then s
  else { s with units := Function.update s.units o none }

/-- What `_getDeclareActionInstance` gives. -/
def declared (o : Nat) (w : WorkUnitManagement) : List (Nat × Nat) :=
  (List.range w.work_unit_instance.declareActions).map fun i => (o, i)

/-- One step of the state machine of a unit. -/
def scheduleSM (s : ControlManager) (o : Nat) (w : WorkUnitManagement) :
    Except CException ControlManager :=
  let function := "WorkUnitManagement::scheduleSM"
  match w.wu_instance_sm with
  | .Unpublished => .ok (s.set o { w with active := false })
  | .StartPublishing => do
    let w' ← { w with active := true }.mustProcess function "publishing" .Publishing
    .ok (s.set o w')
  -- the registration is sent, again at each step until the answer comes
  | .Publishing => .ok s
  | .Published =>
    .ok { s.set o { w with active := false } with actions := s.actions ++ declared o w }
  | .StartUnpublishing => do
    let w' ← { w with active := true }.mustProcess function "unpublish" .Unpublishing
    .ok { s.set o w' with actions := s.actions.diff (declared o w) }
  | .PublishingFailure => .ok (s.set o { w with active := false })
  | .Unpublishing => do
    let w' ← w.mustProcess function "unpublishing" .Unpublished
    .ok (s.set o w')

/-! ## The thread of the manager -/

/-- The turn of `manageControlUnit` that takes a unit from the queue. The manager of a unit whose
identifier is in use is deleted again at the end of the turn. An exception ends the program. -/
def manageSubmitted (s : ControlManager) : Option ControlManager :=
  match s.queue_submitted_cu with
  | [] => some s
  | cu :: rest =>
    let o := s.next
    let wui : WorkUnitManagement := { work_unit_instance := cu }
    let s₁ := { s.set o wui with queue_submitted_cu := rest, next := o + 1 }
    match s₁.scheduleSM o wui with
    | .error _ => none
    | .ok s₂ =>
      (s₂.units o).bind fun wui =>
        match wui.turnOn with
        | .error _ => none
        | .ok wui =>
          let s₃ := s₂.set o wui
          if wui.getCUID ∈ s₃.map_cuid_reg_unreg_instance ∨
              wui.getCUID ∈ s₃.map_cuid_registered_instance then
            some (s₃.release o)
          else
            some { s₃ with
              map_cuid_reg_unreg_instance :=
                UnitMap.insertNew s₃.map_cuid_reg_unreg_instance wui.getCUID o }

/-- A unit that is not published is only erased. -/
def migrated (m : UnitMap) (cuid : List Char) (o : Nat) : UnitState → UnitMap
  | .Published => UnitMap.insertNew m cuid o
  | _ => m

/-- The turn of `migrateStableAndUnstableSMCUInstance` for one entry. -/
def migrateStableAndUnstable (s : ControlManager) (cuid : List Char) : Option ControlManager :=
  match s.map_cuid_reg_unreg_instance.lookup cuid with
  | none => some s
  | some o =>
    (s.units o).map fun w =>
      if w.smNeedToSchedule then s
      else
        { s with
          map_cuid_registered_instance :=
            migrated s.map_cuid_registered_instance cuid o w.wu_instance_sm
          map_cuid_reg_unreg_instance := s.map_cuid_reg_unreg_instance.erase cuid }.release o

/-- The turn of `makeSMSteps` for one entry. -/
def makeSMStep (s : ControlManager) (cuid : List Char) : Option ControlManager :=
  match s.map_cuid_reg_unreg_instance.lookup cuid with
  | none => some s
  | some o =>
    (s.units o).bind fun w =>
      if w.smNeedToSchedule then (s.scheduleSM o w).toOption else some s

/-! ## The requests -/

def submitControlUnit (s : ControlManager) (data : AbstractControlUnit) : ControlManager :=
  { s with queue_submitted_cu := s.queue_submitted_cu ++ [data] }

def inActionParamCheck (function : String) (x : Bool) (e : Int) (m : String) :
    Except CException Unit :=
  if x then .error ⟨e, m, function⟩ else .ok ()

structure DriverDescription where
  DriverDescriptionName : Option (List Char)
  DriverDescriptionVersion : Option (List Char)
  DriverDescriptionInitParam : Option (List Char)
  deriving DecidableEq, Repr

structure LoadMessage where
  controlUnitTypeAlias : Option (List Char)
  device_id : Option (List Char)
  loadControlUnitParam : Option (List Char)
  DriverDescription : Option (List DriverDescription)
  deriving DecidableEq, Repr

def driverParams (function : String) :
    List DriverDescription → Except CException (List DrvRequestInfo)
  | [] => .ok []
  | driver_desc :: rest =>
    match driver_desc.DriverDescriptionName, driver_desc.DriverDescriptionVersion,
      driver_desc.DriverDescriptionInitParam with
    | none, _, _ => .error ⟨-4, "No driver name found", function⟩
    | some _, none, _ => .error ⟨-5, "No driver version found", function⟩
    | some _, some _, none => .error ⟨-6, "No driver init param name found", function⟩
    | some name, some version, some init_param => do
      let drivers ← driverParams function rest
      .ok (⟨name, version, init_param⟩ :: drivers)

/-- The unit that a request to load makes, with the instancer of its type. -/
def unitToLoad (s : ControlManager) (message_data : Option LoadMessage)
    (getInstance : List Char → List Char → List DrvRequestInfo → Option AbstractControlUnit) :
    Except CException AbstractControlUnit :=
  let function := "ControlManager::loadControlUnit"
  match message_data with
  | none => .error ⟨-1, "No param found", function⟩
  | some message =>
    match message.controlUnitTypeAlias, message.device_id with
    | none, _ => .error ⟨-2, "No instancer alias", function⟩
    | some _, none => .error ⟨-3, "No id for the work unit instance found", function⟩
    | some work_unit_type, some work_unit_id => do
      inActionParamCheck function (!s.map_cu_alias_instancer.contains work_unit_type) (-2)
        "No work unit instancer's found for the alias"
      inActionParamCheck function (work_unit_id ∈ s.map_cuid_reg_unreg_instance) (-3)
        "Another work unit use the same id"
      inActionParamCheck function (work_unit_id ∈ s.map_cuid_registered_instance) (-4)
        "Another work unit use the same id"
      let driver_params ← driverParams function (message.DriverDescription.getD [])
      match getInstance work_unit_id (message.loadControlUnitParam.getD []) driver_params with
      | none => .error ⟨-7, "Error creating work unit instance", function⟩
      | some instance_ => .ok { instance_ with control_key := ['m', 'd', 's'] }

def loadControlUnit (s : ControlManager) (message_data : Option LoadMessage)
    (getInstance : List Char → List Char → List DrvRequestInfo → Option AbstractControlUnit) :
    ControlManager × Except CException Unit :=
  match s.unitToLoad message_data getInstance with
  | .error ex => (s, .error ex)
  | .ok instance_ => (s.submitControlUnit instance_, .ok ())

/-- The entry is added to the one map before the machine is turned off, and erased from the other
one after it. -/
def unloadControlUnit (s : ControlManager) (message_data : Option LoadMessage) :
    ControlManager × Except CException Unit :=
  let function := "ControlManager::unloadControlUnit"
  match message_data with
  | none => (s, .error ⟨-1, "No param found", function⟩)
  | some message =>
    match message.controlUnitTypeAlias, message.device_id with
    | none, _ => (s, .error ⟨-2, "No instancer alias", function⟩)
    | some _, none => (s, .error ⟨-3, "No id for the work unit instance found", function⟩)
    | some _, some work_unit_id =>
      match s.map_cuid_registered_instance.lookup work_unit_id with
      | none => (s, .error ⟨-2, "Work unit not found on registered's map", function⟩)
      | some o =>
        let s₁ := { s with
          map_cuid_reg_unreg_instance :=
            UnitMap.insertNew s.map_cuid_reg_unreg_instance work_unit_id o }
        match s₁.units o with
        | none => (s₁, .ok ())
        | some w =>
          match w.turnOFF with
          | .error ex => (s₁, .error ex)
          | .ok w' =>
            ({ s₁.set o w' with
              map_cuid_registered_instance :=
                s₁.map_cuid_registered_instance.erase work_unit_id }.release o, .ok ())

def workUnitRegistrationACK (s : ControlManager) (message_data : Option AckPack) :
    ControlManager × Except CException Unit :=
  let function := "ControlManager::workUnitRegistrationACK"
  match message_data with
  | none => (s, .error ⟨-1, "No param found", function⟩)
  | some message =>
    match message.device_id with
    | none => (s, .error ⟨-2, "No device id found", function⟩)
    | some device_id =>
      match s.map_cuid_reg_unreg_instance.lookup device_id with
      | none => (s, .error ⟨-3, "No registering work unit found with the device id", function⟩)
      | some o =>
        match s.units o with
        | none => (s, .ok ())
        | some w =>
          match w.manageACKPack message with
          | .error ex => (s, .error ex)
          | .ok w' => (s.set o w', .ok ())

/-! ## The steps -/

/-- The steps of the manager's thread may come in any order, and its loop is one of these orders. -/
inductive Label where
  | submitControlUnit (data : AbstractControlUnit)
  | loadControlUnit (message_data : Option LoadMessage)
      (getInstance : List Char → List Char → List DrvRequestInfo → Option AbstractControlUnit)
  | unloadControlUnit (message_data : Option LoadMessage)
  | workUnitRegistrationACK (message_data : Option AckPack)
  | manageSubmitted
  | migrateStableAndUnstable (cuid : List Char)
  | makeSMStep (cuid : List Char)

def step (s : ControlManager) : Label → Option ControlManager
  | .submitControlUnit data => some (s.submitControlUnit data)
  | .loadControlUnit message_data getInstance =>
    some (s.loadControlUnit message_data getInstance).1
  | .unloadControlUnit message_data => some (s.unloadControlUnit message_data).1
  | .workUnitRegistrationACK message_data => some (s.workUnitRegistrationACK message_data).1
  | .manageSubmitted => s.manageSubmitted
  | .migrateStableAndUnstable cuid => s.migrateStableAndUnstable cuid
  | .makeSMStep cuid => s.makeSMStep cuid

end ControlManager

end chaos.cu.control_manager
