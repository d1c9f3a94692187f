-- The cache of one channel: a slab that is written, a slab that is read, and a queue of the slabs
-- that were read before. Readers hold slabs by a count in the slab, and the collector gives back
-- the slabs of the queue that nobody holds.
import Mathlib.Logic.Function.Basic
import Mathlib.Tactic.Common

namespace chaos.common.data.cache

/-- Slabs are numbered in the order in which the memory pool hands them out. -/
abbrev SlabRef := Nat

/-- `false` and `true` are the two indexes 0 and 1 of `rwPtr`. `accessors` are the slabs of the
live accessors, `returned` those that were given back, and `dropped` those that the collector
took from the queue while they were held. -/
structure LFDataCache where
  writeIndex : Bool
  readIndex : Bool
  rwPtr : Bool → Option SlabRef
  maxLength : UInt32
  garbageableSlab : List (Option SlabRef)
  references : SlabRef → UInt32
  allocated : Nat
  returned : List SlabRef
  accessors : List SlabRef
  dropped : List SlabRef

/-- How a call ends: it returns, it goes through a NULL slab, or it does something else that the
language leaves undefined. -/
inductive CallEnd
  | returned
  | nullSlab
  | undefined
  deriving DecidableEq, Repr

namespace LFDataCache

variable (s : LFDataCache)

/-- `makeNewChachedInfoPtr` for one of the two pointers. `given` says whether the pool has a
slab. -/
def makeNewChachedInfoPtr (index given : Bool) : LFDataCache :=
  if given then
    { s with
      rwPtr := Function.update s.rwPtr index (some s.allocated)
      references := Function.update s.references s.allocated 1
      allocated := s.allocated + 1 }
  else { s with rwPtr := Function.update s.rwPtr index none }

/-- The constructor and `init`. -/
def init (maxLength : UInt32) (references : SlabRef → UInt32) (first second : Bool) : LFDataCache :=
  ({ writeIndex := false
     readIndex := true
     rwPtr := fun _ => none
     maxLength := maxLength
     garbageableSlab := []
     references := references
     allocated := 0
     returned := []
     accessors := []
     dropped := [] : LFDataCache }.makeNewChachedInfoPtr false first).makeNewChachedInfoPtr true
      second

/-- The written slab becomes the one that is read, and the one that was read before goes into the
queue. -/
def swapRWIndex (given : Bool) : LFDataCache :=
  let s := { s with readIndex := s.writeIndex, writeIndex := !s.writeIndex }
  let s := { s with garbageableSlab := s.garbageableSlab ++ [s.rwPtr s.writeIndex] }
  s.makeNewChachedInfoPtr s.writeIndex given

/-- The copy is not compared with the size of the slab. -/
def updateValue (legth : UInt32) (given : Bool) : LFDataCache × CallEnd :=
  match s.rwPtr s.writeIndex with
  | none => (s, .nullSlab)
  | some _ =>
    if s.maxLength < (if legth = 0 then s.maxLength else legth) then (s, .undefined)
    else (s.swapRWIndex given, .returned)

/-- With a count of 0 the loop compares a variable that was not written. -/
def getCurrentCachedPtr : LFDataCache × CallEnd :=
  match s.rwPtr s.readIndex with
  | none => (s, .nullSlab)
  | some slab =>
    if s.references slab = 0 then (s, .undefined)
    else
      ({ s with
          references := Function.update s.references slab (s.references slab + 1)
          accessors := s.accessors ++ [slab] },
        .returned)

/-- `reset(NULL)` of an accessor. -/
def release (slab : SlabRef) : LFDataCache :=
  if slab ∈ s.accessors then
    { s with
      references := Function.update s.references slab (s.references slab - 1)
      accessors := s.accessors.erase slab }
  else s

/-- One round of the collector, for a slab that it took from the queue. -/
def collect (slab : SlabRef) : LFDataCache :=
  if s.references slab = 1 then
    { s with
      references := Function.update s.references slab 0
      returned := s.returned ++ [slab] }
  else { s with dropped := s.dropped ++ [slab] }

/-- The loop of `garbageCache`. -/
def garbageLoop (s : LFDataCache) : List (Option SlabRef) → LFDataCache × CallEnd
  | [] => ({ s with garbageableSlab := [] }, .returned)
  | none :: rest => ({ s with garbageableSlab := rest }, .nullSlab)
  | some slab :: rest => garbageLoop (s.collect slab) rest

def garbageCache : LFDataCache × CallEnd := s.garbageLoop s.garbageableSlab

end LFDataCache

/-- Whole operations. A release names the slab of the accessor. -/
inductive CacheCall
  | updateValue (legth : UInt32) (given : Bool)
  | getCurrentCachedPtr
  | release (slab : SlabRef)
  | garbageCache
  deriving DecidableEq, Repr

namespace LFDataCache

def call (s : LFDataCache) : CacheCall → LFDataCache × CallEnd
  | .updateValue legth given => s.updateValue legth given
  | .getCurrentCachedPtr => s.getCurrentCachedPtr
  | .release slab => (s.release slab, .returned)
  | .garbageCache => s.garbageCache

def step (s : LFDataCache) (c : CacheCall) : Option LFDataCache :=
  match s.call c with
  | (t, .returned) => some t
  | _ => none

end LFDataCache

end chaos.common.data.cache
