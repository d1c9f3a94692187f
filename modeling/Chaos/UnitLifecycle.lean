-- The four calls that move a control unit through its life, with the accessors that it obtains from
-- the driver manager on the way and gives back.
import Chaos.DriverInstances
import Chaos.ServiceLifecycle

namespace chaos.cu.control_manager.lifecycle

open chaos.cu.driver_manager chaos.utility

/-- `keyDataStorage` says whether the pointer is not NULL. The last two lists are not in the code:
the accessors that were obtained, and those that were given to `releaseAccessor`. -/
structure AbstractControlUnit where
  service : StartableService
  keyDataStorage : Bool
  accessorInstances : List Nat
  driverManager : DriverManager
  obtained : List Nat
  releases : List Nat

/-- What an initialization finds: the shared cache, what is thrown before the accessors of an
earlier one are dropped, the requests of the unit with what becomes of a new instance, what the
three steps behind them throw, and what the block with `unitInit` throws. -/
structure InitAnswers where
  sharedCache : Bool
  before : Option CException
  drivers : List (DrvRequestInfo × Instantiation)
  dataset : Option CException
  creation : Option CException
  storageInit : Option CException
  unitInit : Option CException

/-- What `unitDeinit` and the `deinit` of the storage throw. -/
structure DeinitAnswers where
  unitDeinit : Option CException
  storageDeinit : Option CException

namespace AbstractControlUnit

def create (m : DriverManager) : AbstractControlUnit where
  service := .create
  keyDataStorage := false
  accessorInstances := []
  driverManager := m
  obtained := []
  releases := []

variable (u : AbstractControlUnit)

/-! ## The hooks of the service -/

def noDriver : CException :=
  ⟨1, "Driver not found", "DriverManager::getNewAccessorForDriverInstance"⟩

/-- The loop over the requests. It ends with the first one that throws. -/
def getAccessors (u : AbstractControlUnit) : List (DrvRequestInfo × Instantiation) →
    Option (AbstractControlUnit × Option CException)
  | [] => some (u, none)
  | (request, outcome) :: rest =>
    match u.driverManager.getNewAccessorForDriverInstance request outcome with
    | none => none
    | some (m, none) => some ({ u with driverManager := m }, some noDriver)
    | some (m, some accessorInstance) =>
      getAccessors { u with
        driverManager := m
        accessorInstances := u.accessorInstances ++ [accessorInstance]
        obtained := u.obtained ++ [accessorInstance] } rest

def init (answers : InitAnswers) : Option (AbstractControlUnit × Except CException Unit) :=
  match answers.before with
  | some ex => some (u, .error ex)
  | none =>
    (getAccessors { u with accessorInstances := [] } answers.drivers).map fun
      | (u, some ex) => (u, .error ex)
      | (u, none) =>
        match answers.dataset.or answers.creation with
        | some ex => (u, .error ex)
        | none => ({ u with keyDataStorage := true }, answers.storageInit.elim (.ok ()) .error)

/-- Whether `releaseAccessor` of the driver that the manager finds answers false. -/
def releaseThrows (m : DriverManager) (accessor : Nat) : Bool :=
  ((m.accessors accessor).bind fun a =>
    (m.mapDriverUUIDHashLiveInstance a.driver_uuid).bind fun d =>
      (m.drivers d).map fun dInstance => decide (a.driver_uuid ≠ dInstance.driverUUID)).getD false

/-- The loop over the accessors. -/
def releaseAccessors (u : AbstractControlUnit) :
    List Nat → Option (AbstractControlUnit × Option CException)
  | [] => some (u, none)
  | accessor :: rest =>
    if releaseThrows u.driverManager accessor then
      some (u, some ⟨1, "This errore never have to appen", "DriverManager::releaseAccessor"⟩)
    else
      (u.driverManager.releaseAccessor accessor).bind fun m =>
        releaseAccessors { u with driverManager := m, releases := u.releases ++ [accessor] } rest

def deinit (storageDeinit : Option CException) :
    Option (AbstractControlUnit × Except CException Unit) :=
  match if u.keyDataStorage then storageDeinit else none with
  | some ex => some (u, .error ex)
  | none =>
    (releaseAccessors { u with keyDataStorage := false } u.accessorInstances).map fun
      | (u, some ex) => (u, .error ex)
      | (u, none) => ({ u with accessorInstances := [] }, .ok ())

/-! ## The calls -/

/-- A driver of the service calls the hook where the state machine handles the event. -/
def drive (event : ServiceEvent)
    (implementation : StartableService → Except CException Unit → String →
      StartableService × Except CException Bool)
    (hook : AbstractControlUnit → Option (AbstractControlUnit × Except CException Unit)) :
    Option (AbstractControlUnit × Except CException Bool) :=
  if (process_event u.service.state_machine event).isSome then
    (hook u).map fun (t, result) =>
      let (service, answer) := implementation t.service result "AbstractControlUnit"
      ({ t with service := service }, answer)
  else
    let (service, answer) := implementation u.service (.ok ()) "AbstractControlUnit"
    some ({ u with service := service }, answer)

/-- What `unitDeinit` throws is caught, and so is what the service throws. -/
def _deinit (answers : DeinitAnswers) : Option AbstractControlUnit :=
  match answers.unitDeinit with
  | some _ => some u
  | none =>
    (u.drive .deinit StartableService.deinitImplementation
      fun t => t.deinit answers.storageDeinit).map Prod.fst

/-- The call with what it throws. The answers of a `_deinit` are for the one that is called when the
block with `unitInit` throws. -/
def _init (answers : InitAnswers) (deinitAnswers : DeinitAnswers) :
    Option (AbstractControlUnit × Option CException) :=
  if !answers.sharedCache then
    some (u, some ⟨-1, "No Shared cache implementation found", "AbstractControlUnit::_init"⟩)
  else
    (u.drive .init StartableService.initImplementation fun t => t.init answers).bind fun
      | (t, .error ex) => some (t, some ex)
      | (t, .ok _) =>
        match answers.unitInit with
        | none => some (t, none)
        | some ex => (t._deinit deinitAnswers).map fun t => (t, some ex)

/-- What `unitStop` throws is caught. -/
def _stop (stop : Except CException Unit) :
    Option (AbstractControlUnit × Except CException Bool) :=
  u.drive .stop StartableService.stopImplementation fun t => some (t, stop)

/-- `start` and `stop` are what the hooks do; the second is for the `_stop` that is called when
`unitStart` throws. -/
def _start (start : Except CException Unit) (unitStart : Option CException)
    (stop : Except CException Unit) : Option (AbstractControlUnit × Option CException) :=
  (u.drive .start StartableService.startImplementation fun t => some (t, start)).bind fun
    | (t, .error ex) => some (t, some ex)
    | (t, .ok _) =>
      match unitStart with
      | none => some (t, none)
      | some ex => (t._stop stop).map fun (t, _) => (t, some ex)

end AbstractControlUnit

inductive UnitCall
  | _init (answers : InitAnswers) (deinitAnswers : DeinitAnswers)
  | _start (start : Except CException Unit) (unitStart : Option CException)
    (stop : Except CException Unit)
  | _stop (stop : Except CException Unit)
  | _deinit (answers : DeinitAnswers)

def AbstractControlUnit.step (u : AbstractControlUnit) : UnitCall → Option AbstractControlUnit
  | ._init answers deinitAnswers => (u._init answers deinitAnswers).map Prod.fst
  | ._start start unitStart stop => (u._start start unitStart stop).map Prod.fst
  | ._stop stop => (u._stop stop).map Prod.fst
  | ._deinit answers => u._deinit answers

end chaos.cu.control_manager.lifecycle
