-- The driver manager. A request is found by the text of its alias, version and init parameter, one
-- after the other. A new driver gets a uuid, which is the first part of a random one, and an
-- accessor is given back by the uuid that it has from its driver.
import Chaos.Runs
import Mathlib.Logic.Function.Basic

namespace chaos.cu.driver_manager

open runs

structure DrvRequestInfo where
  «alias» : List Char
  version : List Char
  init_parameter : List Char
  deriving DecidableEq, Repr

structure AbstractDriver where
  driverUUID : List Char
  identificationString : List Char
  accessorCount : UInt32 := 0
  accessors : List Nat := []
  deriving DecidableEq, Repr

/-- The command queue is the one of a driver, and is named by it. The last field is not in the
code: the request that the accessor was obtained for. -/
structure DriverAccessor where
  driver_uuid : List Char
  accessor_index : UInt32
  command_queue : Nat
  request : DrvRequestInfo
  deriving DecidableEq, Repr

/-- What becomes of a new instance: the instancer throws or gives `NULL`, the initialization throws,
or it comes to its end. -/
inductive Instantiation where
  | throws
  | null
  | initThrows (driverUUID : List Char)
  | initialized (driverUUID : List Char)
  deriving DecidableEq, Repr

/-- The drivers and the accessors that are allocated, by their addresses, and the next of these. -/
structure DriverManager where
  mapDriverAliasVersionInstancer : List (List Char)
  mapParameterLiveInstance : List Char → Option Nat := fun _ => none
  mapDriverUUIDHashLiveInstance : List Char → Option Nat := fun _ => none
  drivers : Nat → Option AbstractDriver := fun _ => none
  accessors : Nat → Option DriverAccessor := fun _ => none
  nextDriver : Nat := 0
  nextAccessor : Nat := 0

def DrvRequestInfo.composedDriverName (request : DrvRequestInfo) : List Char :=
  request.«alias» ++ request.version

def DrvRequestInfo.stringForMap (request : DrvRequestInfo) : List Char :=
  request.composedDriverName ++ request.init_parameter

namespace DriverManager

/-- The manager with the drivers that were registered. -/
def new (registered : List (List Char)) : DriverManager :=
  { mapDriverAliasVersionInstancer := registered }

/-- `insert` of a map leaves an entry that is there. -/
def insert (map : List Char → Option Nat) (key : List Char) (d : Nat) : List Char → Option Nat :=
  if (map key).isSome then map else Function.update map key (some d)

/-- `AbstractDriver::getNewAccessor`. -/
def getNewAccessor (s : DriverManager) (d : Nat) (request : DrvRequestInfo) :
    Option DriverManager :=
  (s.drivers d).map fun driver =>
    { s with
      drivers := Function.update s.drivers d (some
        { driver with
          accessorCount := driver.accessorCount + 1
          accessors := driver.accessors ++ [s.nextAccessor] })
      accessors := Function.update s.accessors s.nextAccessor
        (some ⟨driver.driverUUID, driver.accessorCount, d, request⟩)
      nextAccessor := s.nextAccessor + 1 }

/-- A new instance, before its initialization. -/
def instantiate (s : DriverManager) (driverUUID identificationString : List Char) :
    DriverManager :=
  { s with
    drivers := Function.update s.drivers s.nextDriver
      (some { driverUUID := driverUUID, identificationString := identificationString })
    nextDriver := s.nextDriver + 1 }

/-- The accessor that the call gives, if it does not throw. -/
def getNewAccessorForDriverInstance (s : DriverManager) (request_info : DrvRequestInfo)
    (outcome : Instantiation) : Option (DriverManager × Option Nat) :=
  let stringForMap := request_info.stringForMap
  match s.mapParameterLiveInstance stringForMap with
  | some d => (s.getNewAccessor d request_info).map fun t => (t, some s.nextAccessor)
  | none =>
    if request_info.composedDriverName ∈ s.mapDriverAliasVersionInstancer then
      match outcome with
      | .throws => some (s, none)
      -- the instance is written to
      | .null => none
      -- nobody deletes the instance
      | .initThrows driverUUID => some (s.instantiate driverUUID stringForMap, none)
      | .initialized driverUUID =>
        let t := s.instantiate driverUUID stringForMap
        let t := { t with
          mapParameterLiveInstance :=
            insert t.mapParameterLiveInstance stringForMap s.nextDriver
          mapDriverUUIDHashLiveInstance :=
            insert t.mapDriverUUIDHashLiveInstance driverUUID s.nextDriver }
        (t.getNewAccessor s.nextDriver request_info).map fun u => (u, some s.nextAccessor)
    else some (s, none)

/-- `AbstractDriver::releaseAccessor`, for an accessor with the uuid of the driver. The erasure of
the end of the list is undefined. -/
def AbstractDriver.releaseAccessor (driver : AbstractDriver) (accessor : Nat) :
    Option AbstractDriver :=
  if accessor ∈ driver.accessors then
    some { driver with accessors := driver.accessors.erase accessor }
  else none

/-- The accessor is read, and has to be there. A driver without accessors is deinitialized, whether
that throws or not, and deleted. -/
def releaseAccessor (s : DriverManager) (accessor : Nat) : Option DriverManager :=
  (s.accessors accessor).bind fun a =>
    match s.mapDriverUUIDHashLiveInstance a.driver_uuid with
    | none => some s
    | some d =>
      (s.drivers d).bind fun dInstance =>
        -- the exception of a foreign accessor
        if a.driver_uuid ≠ dInstance.driverUUID then some s
        else
          (AbstractDriver.releaseAccessor dInstance accessor).map fun left =>
            let t := { s with accessors := Function.update s.accessors accessor none }
            if left.accessors = [] then
              { t with
                mapParameterLiveInstance :=
                  Function.update s.mapParameterLiveInstance left.identificationString none
                mapDriverUUIDHashLiveInstance :=
                  Function.update s.mapDriverUUIDHashLiveInstance left.driverUUID none
                drivers := Function.update s.drivers d none }
            else { t with drivers := Function.update s.drivers d (some left) }

inductive Label where
  | getNewAccessorForDriverInstance (request_info : DrvRequestInfo) (outcome : Instantiation)
  | releaseAccessor (accessor : Nat)
  deriving DecidableEq, Repr

def step (s : DriverManager) : Label → Option DriverManager
  | .getNewAccessorForDriverInstance request_info outcome =>
    (s.getNewAccessorForDriverInstance request_info outcome).map Prod.fst
  | .releaseAccessor accessor => s.releaseAccessor accessor

end DriverManager

end chaos.cu.driver_manager
