-- The cache of the data blocks that are open for reading. All queries share one fetcher for the
-- block of a path. It counts its users, and a timer closes those that nobody uses.
import Mathlib.Tactic.Common

namespace chaos.data_service.vfs.query

/-! ## The storage driver -/

inductive FileType where
  | directory
  | symlink
  | other
  deriving DecidableEq, Repr

/-- What the file system answers for a path: what `status` says, whether a stream can be opened and
what `file_size` says. `none` is an exception. -/
structure FileAnswers where
  status : Option FileType
  opens : Bool
  file_size : Option UInt64
  deriving DecidableEq, Repr

/-- The block cannot be opened. -/
def FileAnswers.Fails (file : FileAnswers) : Prop :=
  file.status ≠ some .other ∨ file.opens = false ∨ file.file_size = none

structure DataBlock where
  vfs_path : String
  vfs_domain : String
  flags : UInt32
  invalidation_timestamp : UInt64 := 0
  max_reacheable_size : UInt64
  creation_time : UInt64
  deriving DecidableEq, Repr

def BlockFlagReadeable : UInt32 := 0x2

/-- `openBlock` of the `PosixStorageDriver`: the error and the block. When the stream is in its
fail state, the driver writes to the block before there is one. -/
def openBlock (domain_name : String) (now : UInt64) (file : FileAnswers) (vfs_path : String)
    (flags : UInt32) : Option (Int × Option DataBlock) :=
  match file.status with
  | none => some (-5, none)
  | some .directory => some (-1, none)
  | some .symlink => some (-2, none)
  | some .other =>
    if file.opens = false then none
    else
      match file.file_size with
      | none => some (-5, none)
      | some size => some (0, some
          { vfs_path := vfs_path
            vfs_domain := domain_name
            flags := flags
            max_reacheable_size := size
            creation_time := now })

/-! ## The fetchers -/

structure DataBlockFetcher where
  use_count : UInt32 := 0
  datablock_path : String
  datablock : Option DataBlock := none
  deriving DecidableEq, Repr

def DataBlockFetcher.openFile (domain_name : String) (now : UInt64) (file : FileAnswers)
    (f : DataBlockFetcher) : Option (Int × DataBlockFetcher) :=
  (openBlock domain_name now file f.datablock_path BlockFlagReadeable).map fun (err, datablock) =>
    (err, { f with datablock := datablock })

/-! ## The cache -/

/-- A pointer to a fetcher is its number among those that were allocated. The last three are not in
the code: the fetchers that were deleted, and those that were handed out and released, once for
each time. -/
structure DataBlockCache where
  fetchers : List DataBlockFetcher := []
  map_path_datablock : List (String × Nat) := []
  deleted : List Nat := []
  handed_out : List Nat := []
  released : List Nat := []
  deriving DecidableEq, Repr

namespace DataBlockCache

def use_count (s : DataBlockCache) (n : Nat) : UInt32 := (s.fetchers[n]?.map (·.use_count)).getD 0

/-- The count of a fetcher changes. -/
def count (s : DataBlockCache) (n : Nat) (f : UInt32 → UInt32) : DataBlockCache :=
  { s with fetchers := s.fetchers.modify n fun fetcher =>
      { fetcher with use_count := f fetcher.use_count } }

/-- The error, the fetcher and the cache. A fetcher whose block could not be opened is returned,
too, and nobody deletes it. -/
def getFetcherForBlockWithPath (domain_name : String) (s : DataBlockCache)
    (datablock_path : String) (now : UInt64) (file : FileAnswers) :
    Option (Int × Nat × DataBlockCache) :=
  match s.map_path_datablock.lookup datablock_path with
  | some n => some (0, n, { s.count n (· + 1) with handed_out := s.handed_out ++ [n] })
  | none =>
    let n := s.fetchers.length
    (DataBlockFetcher.openFile domain_name now file { datablock_path }).map fun (err, fetcher) =>
      let s := { s with fetchers := s.fetchers ++ [fetcher] }
      if err ≠ 0 then (err, n, s)
      else (0, n, { s.count n (· + 1) with
        map_path_datablock := (datablock_path, n) :: s.map_path_datablock
        handed_out := s.handed_out ++ [n] })

/-- A fetcher that was deleted must not be released. -/
def releaseFetcher (s : DataBlockCache) : Option Nat → Option DataBlockCache
  | none => some s
  | some n =>
    if n ∈ s.deleted ∨ s.fetchers.length ≤ n then none
    else some { s.count n (· - 1) with released := s.released ++ [n] }

/-- The entries that `clean` deletes. -/
def isCleaned (s : DataBlockCache) (all_unused : Bool) (e : String × Nat) : Bool :=
  s.use_count e.2 = 0 ∨ all_unused

def clean (s : DataBlockCache) (all_unused : Bool) : DataBlockCache :=
  { s with
    map_path_datablock := s.map_path_datablock.filter fun e => !s.isCleaned all_unused e
    deleted := s.deleted ++ (s.map_path_datablock.filter (s.isCleaned all_unused)).map (·.2) }

inductive Label where
  | getFetcherForBlockWithPath (datablock_path : String) (now : UInt64) (file : FileAnswers)
  | releaseFetcher (datablock_fetcher : Option Nat)
  | clean (all_unused : Bool)
  deriving DecidableEq, Repr

def step (domain_name : String) (s : DataBlockCache) : Label → Option DataBlockCache
  | .getFetcherForBlockWithPath datablock_path now file =>
    (s.getFetcherForBlockWithPath domain_name datablock_path now file).map (·.2.2)
  | .releaseFetcher datablock_fetcher => s.releaseFetcher datablock_fetcher
  | .clean all_unused => some (s.clean all_unused)

end DataBlockCache

end chaos.data_service.vfs.query
