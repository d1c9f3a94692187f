-- The states of the index entries that the scanner adds. An entry is added as created. When its
-- data block is released by the data file, it becomes querable. The destructor of a file releases
-- the open block without that.
import Chaos.StageScanner

namespace chaos.data_service.indexer

open vfs VFSDataWriteableFile

/-! ## The state -/

inductive DataPackIndexQueryState where
  | created
  | querable
  deriving DecidableEq, Repr

/-- An entry is named by its number in `indexes`. The last is not in the code: whether the file
that received the pack of an entry was released. -/
structure IndexedScanner where
  scanner : StageDataVFileScanner
  state : Nat → DataPackIndexQueryState
  file_released : Nat → Bool

namespace IndexedScanner

/-! ## The operations -/

/-- `idxSetDataPackIndexStateByDataBlock` updates all entries of the block. The database makes
every update that it is asked for. -/
def idxSetDataPackIndexStateByDataBlock (s : IndexedScanner) (vfs_datablock_path : String)
    (dp_index_state : DataPackIndexQueryState) : IndexedScanner :=
  { s with state := fun n =>
      if s.scanner.indexes[n]?.any (·.block_vfs_path = vfs_datablock_path) then dp_index_state
      else s.state n }

/-- `VFSDataWriteableFile::releaseDataBlock`, where there is a block to release. -/
def releaseDataBlock (s : IndexedScanner) : Option DataBlock → IndexedScanner
  | none => s
  | some b => s.idxSetDataPackIndexStateByDataBlock b.vfs_path .querable

/-- The block that a file gives up because it is not valid any more. -/
def invalidBlock (f : VFSDataWriteableFile) (now : UInt64) : Option DataBlock :=
  match f.current_data_block with
  | .live b => if isDataBlockValid now (.live b) = some true then none else some b
  | _ => none

/-- The file that `processDataPack` writes the pack to, where it comes to the write. -/
def writtenFile (s : StageDataVFileScanner) (pack : DataPack) (env : PackEnv) :
    Option VFSDataWriteableFile :=
  if env.hasFields = false ∨ env.gdf ≠ 0 ∨ env.gloc ≠ 0 ∨ (env.idx ≠ 0 ∧ env.idx ≠ 11000) ∨
      env.widx ≠ 0 then none
  else (s.getWriteableFileForDID pack.did env).map Prod.snd

/-- The index is added before the write, so that the release of a block in the write finds it. -/
def processDataPack (s : IndexedScanner) (pack : DataPack) (env : PackEnv) :
    Option IndexedScanner :=
  (s.scanner.processDataPack pack env).map fun (scanner, _) =>
    { s with scanner := scanner }.releaseDataBlock
      ((writtenFile s.scanner pack env).bind (invalidBlock · env.write.now))

def mantain (s : IndexedScanner) (did : String) (now : UInt64) : Option IndexedScanner :=
  (s.scanner.mantain did now 0).map fun scanner =>
    { s with scanner := scanner }.releaseDataBlock
      ((s.scanner.map_did_data_file did).bind (invalidBlock · now))

/-- `releaseFile` deletes one file. The destructor of `VFSFile` calls its own `releaseDataBlock`,
which leaves the entries as they are. -/
def releaseFile (s : IndexedScanner) (did : String) : IndexedScanner :=
  { s with
    scanner := { s.scanner with
      map_did_data_file := Function.update s.scanner.map_did_data_file did none }
    file_released := fun n =>
      s.file_released n || s.scanner.indexes[n]?.any (·.did = did) }

/-- All files are released. -/
def closeAllDatafile (s : IndexedScanner) : IndexedScanner :=
  { s with
    scanner := s.scanner.closeAllDatafile
    file_released := fun n => s.file_released n || decide (n < s.scanner.indexes.length) }

def create (max_block_size max_block_lifetime : UInt32) : IndexedScanner where
  scanner := .create max_block_size max_block_lifetime
  state := fun _ => .created
  file_released := fun _ => false

inductive Label
  | processDataPack (pack : DataPack) (env : PackEnv)
  | mantain (did : String) (now : UInt64)
  | releaseFile (did : String)
  | closeAllDatafile

def step (s : IndexedScanner) : Label → Option IndexedScanner
  | .processDataPack pack env => s.processDataPack pack env
  | .mantain did now => s.mantain did now
  | .releaseFile did => some (s.releaseFile did)
  | .closeAllDatafile => some s.closeAllDatafile

end IndexedScanner

end chaos.data_service.indexer
