-- The cache of a group of keys. Each key gets a channel with an index of its own, which is the number
-- of the keys that were there, and a cache for its values. Beside the keys stand the smallest and the
-- largest length of a channel, for which the memory pool is made.
import Chaos.AttributesSetting
import Chaos.LFDataCache
import Chaos.Service

namespace chaos.common.data.cache

open chaos.utility

/-! ## Channels with their bytes -/

/-- The size of the head of a slab: its count and the pointer to its value. -/
def sizeof_SlbCachedInfo : UInt32 := 16

/-- A cache with what its slabs hold. `bytes` are what lies behind `valPtr`, from the first byte on,
and for a slab that the pool has not handed out yet what the pool will find there. -/
structure Channel where
  slabs : LFDataCache
  slabRequiredSize : UInt32
  bytes : SlabRef → Nat → UInt8

/-- What the pool answers when a channel is made: whether it has the two slabs, and what lies in
its memory. -/
structure PoolAnswers where
  first : Bool
  second : Bool
  found : SlabRef → Nat → UInt8

namespace Channel

/-- The head is written to each slab that the pool gives. -/
def init (maxLength : UInt32) (a : PoolAnswers) : Option Channel :=
  let slabRequiredSize := sizeof_SlbCachedInfo + maxLength
  if (a.first || a.second) ∧ slabRequiredSize < sizeof_SlbCachedInfo then none
  else
    some
      { slabs := LFDataCache.init maxLength (fun _ => 0) a.first a.second
        slabRequiredSize := slabRequiredSize
        bytes := a.found }

/-- How many bytes `updateValue` copies. -/
def copied (ch : Channel) (legth : UInt32) : Nat :=
  (if legth = 0 then ch.slabs.maxLength else legth).toNat

/-- Past the end of the slab the copy is undefined. `value` is what lies in memory from the pointer
on. -/
def updateValue (ch : Channel) (value : Nat → UInt8) (legth : UInt32) (given : Bool) :
    Option Channel :=
  match ch.slabs.rwPtr ch.slabs.writeIndex with
  | none => none
  | some slab =>
    if sizeof_SlbCachedInfo.toNat + ch.copied legth ≤ ch.slabRequiredSize.toNat then
      match ch.slabs.updateValue legth given with
      | (cache, .returned) =>
        some
          { ch with
            slabs := cache
            bytes := Function.update ch.bytes slab fun i =>
              if i < ch.copied legth then value i else ch.bytes slab i }
      | _ => none
    else none

/-- The slab that is read, which is held from now on. -/
def getCurrentCachedPtr (ch : Channel) : Option (Channel × SlabRef) :=
  match ch.slabs.rwPtr ch.slabs.readIndex with
  | none => none
  | some slab =>
    match ch.slabs.getCurrentCachedPtr with
    | (cache, .returned) => some ({ ch with slabs := cache }, slab)
    | _ => none

end Channel

/-! ## The group -/

structure ChannelInfo where
  index : UInt8
  maxLength : UInt32
  type : DataType
  deriving DecidableEq, Repr

/-- The length of a channel of the type. -/
def channelLength (channelMaxLength : UInt32) : DataType → UInt32
  | .TYPE_BOOLEAN => 1
  | .TYPE_DOUBLE => 8
  | .TYPE_INT32 => 4
  | .TYPE_INT64 => 8
  | .TYPE_STRING | .TYPE_BYTEARRAY => channelMaxLength

/-- The caches are named by numbers, in the order in which they are made. -/
structure KeyGroupCache where
  serviceState : ServiceState
  minimumChannelSize : UInt32
  maximumChannelSize : UInt32
  channelInfoMap : Std.TreeMap String ChannelInfo
  chCachePtrArray : List (Option Nat)
  caches : Nat → Option Channel
  next : Nat

namespace KeyGroupCache

/-- The constructor does not set the two sizes, so that they are what the memory held. -/
def new (minimum maximum : UInt32) : KeyGroupCache where
  serviceState := .IS_DEINTIATED
  minimumChannelSize := minimum
  maximumChannelSize := maximum
  channelInfoMap := ∅
  chCachePtrArray := []
  caches := fun _ => none
  next := 0

variable (s : KeyGroupCache)

def addKeyInfo (key : String) (type : DataType) (channelMaxLength : UInt32) :
    KeyGroupCache × Except CException Int32 :=
  if s.serviceState ≠ .IS_DEINTIATED then
    (s, .error ⟨1, "Operation not permited, the cache is not initialized",
      "KeyGroupCache::addChannel"⟩)
  else if key ∈ s.channelInfoMap then (s, .ok 1)
  else
    let chInfo : ChannelInfo :=
      { index := .ofNat s.channelInfoMap.size
        maxLength := channelLength channelMaxLength type
        type := type }
    let maximumChannelSize := max chInfo.maxLength s.maximumChannelSize
    ({ s with
        channelInfoMap := s.channelInfoMap.insertIfNew key chInfo
        maximumChannelSize := maximumChannelSize
        minimumChannelSize := min chInfo.maxLength
          (if s.minimumChannelSize = 0 then maximumChannelSize else s.minimumChannelSize) },
      .ok 0)

/-- One turn of the loop of `init`. -/
def makeCache (answers : String → PoolAnswers) (e : String × ChannelInfo) :
    Option KeyGroupCache :=
  (Channel.init e.2.maxLength (answers e.1)).map fun ch =>
    { s with
      chCachePtrArray := s.chCachePtrArray.set e.2.index.toNat (some s.next)
      caches := Function.update s.caches s.next (some ch)
      next := s.next + 1 }

/-- `init`, after the pool was made. The map is walked in the order of its keys. -/
def init (answers : String → PoolAnswers) : Option KeyGroupCache :=
  s.channelInfoMap.toList.foldlM (fun s e => s.makeCache answers e)
    { s with chCachePtrArray := List.replicate s.channelInfoMap.size none }

/-- `updateKeyValue` of an index. Past the end of the array it is undefined. -/
def updateKeyIndex (keyIndex : UInt16) (value : Nat → UInt8) (legth : UInt32) (given : Bool) :
    Option KeyGroupCache :=
  match s.chCachePtrArray[keyIndex.toNat]? with
  | none => none
  | some none => some s
  | some (some c) =>
    (s.caches c).bind fun ch => (ch.updateValue value legth given).map fun ch =>
      { s with caches := Function.update s.caches c (some ch) }

def updateKeyValue (key : String) (value : Nat → UInt8) (legth : UInt32) (given : Bool) :
    Option KeyGroupCache :=
  match s.channelInfoMap[key]? with
  | none => some s
  | some chInfo => s.updateKeyIndex chInfo.index.toUInt16 value legth given

/-- `getCurrentKeyValue` of an index: the cache and its slab, or NULL. -/
def getCurrentKeyIndex (keyIndex : UInt16) : Option (KeyGroupCache × Option (Nat × SlabRef)) :=
  match s.chCachePtrArray[keyIndex.toNat]? with
  | none => none
  | some none => some (s, none)
  | some (some c) =>
    (s.caches c).bind fun ch => ch.getCurrentCachedPtr.map fun r =>
      ({ s with caches := Function.update s.caches c (some r.1) }, some (c, r.2))

def getCurrentKeyValue (key : String) : Option (KeyGroupCache × Option (Nat × SlabRef)) :=
  match s.channelInfoMap[key]? with
  | none => some (s, none)
  | some chInfo => s.getCurrentKeyIndex chInfo.index.toUInt16

end KeyGroupCache

/-- The calls after `init`, each with what the pool answers. -/
inductive KeyCall
  | updateKeyValue (key : String) (value : Nat → UInt8) (legth : UInt32) (given : Bool)
  | updateKeyIndex (keyIndex : UInt16) (value : Nat → UInt8) (legth : UInt32) (given : Bool)
  | getCurrentKeyValue (key : String)
  | getCurrentKeyIndex (keyIndex : UInt16)

def KeyGroupCache.step (s : KeyGroupCache) : KeyCall → Option KeyGroupCache
  | .updateKeyValue key value legth given => s.updateKeyValue key value legth given
  | .updateKeyIndex keyIndex value legth given => s.updateKeyIndex keyIndex value legth given
  | .getCurrentKeyValue key => (s.getCurrentKeyValue key).map Prod.fst
  | .getCurrentKeyIndex keyIndex => (s.getCurrentKeyIndex keyIndex).map Prod.fst

end chaos.common.data.cache
