-- A stage block on its way from the writer of a stage file to an indexer. The writers, the recovery
-- of the blocks that timed out and the indexers run on several machines and share the database;
-- each of its commands is one step, and so is each use of a stream. Every step that asks for the
-- time is given the clock of its machine, so any time may pass between two steps.
import Chaos.StageBlocks

namespace chaos.data_service.vfs.stage

open runs DataBlockState

/-! ## The blocks -/

/-- The document and the file of a block. A block whose document was deleted has no state. The path
of a block ends in a new UUID, so that blocks are named by their number. The last two are not in
the code: the block was set to processing and its scan has not ended, and the size of the file when
the block was set to processing first. -/
structure StageBlock where
  writer : Nat
  state : Option DataBlockState := some DataBlockStateAquiringData
  valid_until_ts : Nat
  creation_ts : Nat
  size : Nat := 0
  handed_over : Bool := false
  size_at_handover : Option Nat := none
  deriving DecidableEq

/-- `vfsSetStateOnDataBlock` with a new state only. There is no upsert. -/
def StageBlock.setState (new_state : DataBlockState) (x : StageBlock) : StageBlock :=
  { x with state := x.state.map fun _ => new_state }

/-- The query of `vfsChangeStateToOutdatedChunck`, for a machine with this clock. -/
def StageBlock.timedOut (clock : Nat) (x : StageBlock) : Bool :=
  x.state = some DataBlockStateAquiringData && decide (x.valid_until_ts + 60 * 1000 < clock)

/-- The scan of the block has ended. -/
def StageBlock.scanned (x : StageBlock) : StageBlock := { x with handed_over := false }

/-- `findAndModify` from the unprocessed state to processing. -/
def StageBlock.compareAndSet (x : StageBlock) : StageBlock :=
  if x.state = some DataBlockStateNone then
    { x with
      state := some DataBlockStateProcessing
      handed_over := true
      size_at_handover := some (x.size_at_handover.getD x.size) }
  else x

/-! ## The writers -/

/-- A block that is open for writing. `buffered` are the bytes in the stream that are not in the
file yet. -/
structure OpenBlock where
  number : Nat
  invalidation_timestamp : Nat
  max_reacheable_size : Nat
  current_work_position : Nat := 0
  buffered : Nat := 0
  deriving DecidableEq

/-- The pointer to the current block. A block that was closed is deleted, also where the pointer
to it stays. -/
inductive CurrentBlock where
  | null
  | opened (b : OpenBlock)
  | deleted
  deriving DecidableEq

/-- What comes after the release of a block: the rest of a write, nothing, or the end of the
file. -/
inductive AfterRelease where
  | write (data_len : Nat)
  | mantained
  | destroyed
  deriving DecidableEq

/-- Where a writer is: between two calls, before the write to its stream, before the change of the
state in `releaseDataBlock`, before the close of the block, before the new block of a write, or
gone. -/
inductive WriterPhase where
  | idle
  | writing (data_len : Nat)
  | releasing (k : AfterRelease)
  | closing (k : AfterRelease)
  | opening (data_len : Nat)
  | gone
  deriving DecidableEq

structure VFSStageWriteableFile where
  max_block_size : UInt32
  max_block_lifetime : UInt32
  -- the constructor does not set the counter
  check_validity_counter : UInt32
  current_data_block : CurrentBlock := .null
  phase : WriterPhase := .idle
  deriving DecidableEq

/-- `VFSFile::isDataBlockValid`. -/
def OpenBlock.isDataBlockValid (b : OpenBlock) (clock : Nat) : Bool :=
  decide (clock < b.invalidation_timestamp) &&
    decide (b.current_work_position < b.max_reacheable_size)

namespace VFSStageWriteableFile

/-- The block that the writer still sets to unprocessed, or adds bytes to. -/
def unfinished (f : VFSStageWriteableFile) : Option OpenBlock :=
  match f.phase, f.current_data_block with
  | .gone, _ | _, .null | _, .deleted => none
  | .closing _, .opened b => if b.buffered = 0 then none else some b
  | _, .opened b => some b

/-- `write` up to its first use of the block: it is checked every sixteenth time only. -/
def write (f : VFSStageWriteableFile) (data_len clock : Nat) : Option VFSStageWriteableFile :=
  let f := { f with check_validity_counter := f.check_validity_counter + 1 }
  match f.phase, f.current_data_block with
  | .idle, .null => some { f with phase := .opening data_len }
  | .idle, .opened b =>
    if f.check_validity_counter % 16 ≠ 0 || b.isDataBlockValid clock then
      some { f with phase := .writing data_len }
    else some { f with phase := .releasing (.write data_len) }
  | _, _ => none

/-- `mantain`. The check is the one of `VFSFile`, which is not virtual. -/
def mantain (f : VFSStageWriteableFile) (clock : Nat) : Option VFSStageWriteableFile :=
  match f.phase, f.current_data_block with
  | .idle, .null => some f
  | .idle, .opened b =>
    if b.isDataBlockValid clock then some f else some { f with phase := .releasing .mantained }
  | _, _ => none

/-- The release of the file. -/
def destroy (f : VFSStageWriteableFile) : Option VFSStageWriteableFile :=
  match f.phase, f.current_data_block with
  | .idle, .null => some { f with phase := .gone }
  | .idle, .opened _ => some { f with phase := .releasing .destroyed }
  | _, _ => none

/-- After `closeBlock` and its result. -/
def closed (f : VFSStageWriteableFile) (k : AfterRelease) (err : Bool) : VFSStageWriteableFile :=
  match k with
  | .write data_len =>
    { f with
      current_data_block := .deleted
      phase := if err then .idle else .opening data_len }
  | .mantained =>
    { f with current_data_block := if err then .deleted else .null, phase := .idle }
  | .destroyed => { f with current_data_block := .null, phase := .gone }

end VFSStageWriteableFile

/-! ## The indexers -/

/-- The block of an indexer: none, one that was found, one that is scanned, one whose scan has
ended without the end of the block, and one that was read to its end. -/
inductive IndexerBlock where
  | none
  | found (block : Nat)
  | scanning (block : Nat)
  | broken (block : Nat)
  | processed (block : Nat)
  deriving DecidableEq

def IndexerBlock.holds : IndexerBlock → Option Nat
  | .scanning block | .broken block | .processed block => some block
  | .none | .found _ => Option.none

/-- The readable stage file of one indexer. Each scan has a file of its own. -/
structure VFSStageReadableFile where
  current_block_creation_ts : Nat := 0
  current_data_block : IndexerBlock := .none
  deriving DecidableEq

/-! ## The system -/

structure StageArea where
  blocks : List StageBlock := []
  writers : List VFSStageWriteableFile
  indexers : List VFSStageReadableFile
  deriving DecidableEq

namespace StageArea

def setWriter (s : StageArea) (w : Nat) (f : VFSStageWriteableFile) : StageArea :=
  { s with writers := s.writers.set w f }

def setIndexer (s : StageArea) (i : Nat) (g : VFSStageReadableFile) : StageArea :=
  { s with indexers := s.indexers.set i g }

def modifyBlock (s : StageArea) (n : Nat) (f : StageBlock → StageBlock) : StageArea :=
  { s with blocks := s.blocks.modify n f }

/-- The bytes go into the stream, which gives some of its bytes to the file and keeps `kept`. -/
def append (s : StageArea) (w kept : Nat) : Option StageArea :=
  match s.writers[w]? with
  | some f =>
    match f.phase, f.current_data_block with
    | .writing data_len, .opened b =>
      if b.buffered + data_len < kept then none
      else
        some ((s.modifyBlock b.number fun x =>
          { x with size := x.size + (b.buffered + data_len - kept) }).setWriter w { f with
            current_data_block := .opened { b with
              buffered := kept
              current_work_position := b.current_work_position + data_len }
            phase := .idle })
    | _, _ => none
  | none => none

/-- One try of the update to the unprocessed state in `releaseDataBlock`: the database runs it or
not, and the driver tries again on another connection or not. An error is only logged. -/
def setStateNone (s : StageArea) (w : Nat) (ran again : Bool) : Option StageArea :=
  match s.writers[w]? with
  | some f =>
    match f.phase, f.current_data_block with
    | .releasing k, .opened b =>
      let t := s.setWriter w { f with phase := if again then .releasing k else .closing k }
      some (if ran then t.modifyBlock b.number (.setState DataBlockStateNone) else t)
    | _, _ => none
  | none => none

/-- `closeBlock` flushes the stream. -/
def close (s : StageArea) (w : Nat) (err : Bool) : Option StageArea :=
  match s.writers[w]? with
  | some f =>
    match f.phase, f.current_data_block with
    | .closing k, .opened b =>
      some ((s.modifyBlock b.number fun x => { x with size := x.size + b.buffered }).setWriter w
        (f.closed k err))
    | _, _ => none
  | none => none

/-- `getNewDataBlock` of a write, at the time when the block is made and at the time when its
lifetime is set; or it fails, and the write with it. -/
def getNewDataBlock (s : StageArea) (w : Nat) (made : Option (Nat × Nat)) : Option StageArea :=
  match s.writers[w]? with
  | some f =>
    match f.phase, made with
    | .opening data_len, some (created, clock) =>
      let valid_until := clock + f.max_block_lifetime.toNat
      let block : StageBlock :=
        { writer := w, valid_until_ts := valid_until, creation_ts := created }
      let t : StageArea := { s with blocks := s.blocks ++ [block] }
      some (t.setWriter w { f with
        current_data_block := .opened
          { number := s.blocks.length
            invalidation_timestamp := valid_until
            max_reacheable_size := f.max_block_size.toNat }
        phase := .writing data_len })
    | .opening _, none => some (s.setWriter w { f with phase := .idle })
    | _, _ => none
  | none => none

/-- A call of a writer that only moves the writer. -/
def call (s : StageArea) (w : Nat)
    (op : VFSStageWriteableFile → Option VFSStageWriteableFile) : Option StageArea :=
  s.writers[w]?.bind fun f => (op f).map (s.setWriter w)

/-- `changeStateToTimeoutedDatablock` of a machine with this clock: one update of all documents. -/
def recover (s : StageArea) (clock : Nat) : StageArea :=
  { s with blocks := s.blocks.map fun x =>
      if x.timedOut clock then x.setState DataBlockStateNone else x }

/-- `vfsFindSinceTimeDataBlock` gives an unprocessed block. -/
def find (s : StageArea) (i n : Nat) : Option StageArea :=
  match s.indexers[i]?, s.blocks[n]? with
  | some g, some x =>
    if g.current_data_block = .none ∧ x.state = some DataBlockStateNone ∧
        g.current_block_creation_ts < x.creation_ts then
      some (s.setIndexer i { g with current_data_block := .found n })
    else none
  | _, _ => none

/-- The compare and set of the block that was found. The database runs the command or not. The
indexer goes on with the block when the call is answered without error, also where the command
finds no document, and the block can be opened. -/
def compareAndSet (s : StageArea) (i : Nat) (ran answered opened : Bool) : Option StageArea :=
  match s.indexers[i]? with
  | some g =>
    match g.current_data_block with
    | .found n =>
      match s.blocks[n]? with
      | some x =>
        if answered && !ran then none
        else
          let t := if ran then s.modifyBlock n .compareAndSet else s
          some (t.setIndexer i (if answered && opened then
              { current_block_creation_ts := x.creation_ts, current_data_block := .scanning n }
            else {}))
      | none => none
    | _ => none
  | none => none

/-- The block is read to its end, and its state is set to processed. An error is only logged. -/
def process (s : StageArea) (i : Nat) (ran : Bool) : Option StageArea :=
  match s.indexers[i]? with
  | some g =>
    match g.current_data_block with
    | .scanning n =>
      let change := fun x : StageBlock => if ran then x.setState DataBlockStateProcessed else x
      some ((s.modifyBlock n fun x => (change x).scanned).setIndexer i
        { g with current_data_block := .processed n })
    | _ => none
  | none => none

/-- The scan ends before the end of the block. -/
def breakOff (s : StageArea) (i : Nat) : Option StageArea :=
  match s.indexers[i]? with
  | some g =>
    match g.current_data_block with
    | .scanning n =>
      some ((s.modifyBlock n .scanned).setIndexer i { g with current_data_block := .broken n })
    | _ => none
  | none => none

/-- `vfsDeleteDataBlock` of a processed block, and the close and the delete of its file. -/
def deleteBlock (s : StageArea) (i : Nat) : Option StageArea :=
  match s.indexers[i]? with
  | some g =>
    match g.current_data_block with
    | .processed n =>
      some ((s.setIndexer i { g with current_data_block := .none }).modifyBlock n fun x =>
        { x with state := none })
    | _ => none
  | none => none

/-- One try of the update when the file of the indexer is released after the scan. The block that
the file still has goes back to unprocessed. -/
def releaseFile (s : StageArea) (i : Nat) (ran again : Bool) : Option StageArea :=
  match s.indexers[i]? with
  | some g =>
    match g.current_data_block with
    | .broken n | .processed n =>
      let t := s.setIndexer i (if again then g else {})
      some (if ran then t.modifyBlock n (.setState DataBlockStateNone) else t)
    | .none => some (s.setIndexer i {})
    | _ => none
  | none => none

inductive Label where
  | write (w data_len clock : Nat)
  | append (w kept : Nat)
  | mantain (w clock : Nat)
  | destroy (w : Nat)
  | crash (w : Nat)
  | setStateNone (w : Nat) (ran again : Bool)
  | close (w : Nat) (err : Bool)
  | getNewDataBlock (w : Nat) (made : Option (Nat × Nat))
  | recover (clock : Nat)
  | find (i n : Nat)
  | compareAndSet (i : Nat) (ran answered opened : Bool)
  | process (i : Nat) (ran : Bool)
  | breakOff (i : Nat)
  | deleteBlock (i : Nat)
  | releaseFile (i : Nat) (ran again : Bool)
  deriving DecidableEq

/-- A use of a block that was deleted is undefined. A writer may also crash at any time. -/
def step (s : StageArea) : Label → Option StageArea
  | .write w data_len clock => s.call w (·.write data_len clock)
  | .append w kept => s.append w kept
  | .mantain w clock => s.call w (·.mantain clock)
  | .destroy w => s.call w (·.destroy)
  | .crash w => s.call w fun f => some { f with phase := .gone }
  | .setStateNone w ran again => s.setStateNone w ran again
  | .close w err => s.close w err
  | .getNewDataBlock w made => s.getNewDataBlock w made
  | .recover clock => some (s.recover clock)
  | .find i n => s.find i n
  | .compareAndSet i ran answered opened => s.compareAndSet i ran answered opened
  | .process i ran => s.process i ran
  | .breakOff i => s.breakOff i
  | .deleteBlock i => s.deleteBlock i
  | .releaseFile i ran again => s.releaseFile i ran again

/-- Writeable files with no block yet, any number of indexers, and no blocks. -/
structure Initial (s : StageArea) : Prop where
  blocks : s.blocks = []
  writers : ∀ f ∈ s.writers, f.current_data_block = .null ∧ f.phase = .idle
  indexers : ∀ g ∈ s.indexers, g = {}

/-! ## What is promised -/

/-- The block is not unprocessed before its scan has ended, and its file does not grow any more. -/
structure Kept (x : StageBlock) : Prop where
  not_back : x.handed_over = true → x.state ≠ some DataBlockStateNone
  not_grown : ∀ n, x.size_at_handover = some n → x.size = n

/-- Every block that was set to processing stays handed over. -/
structure StaysHandedOver (s : StageArea) : Prop where
  kept : ∀ x ∈ s.blocks, Kept x
  scanned : ∀ g ∈ s.indexers, ∀ n, g.current_data_block = .scanning n → ∀ x,
    s.blocks[n]? = some x → x.state ≠ some DataBlockStateNone

/-- The step does not take a block from a writer that is not done with it, a writer gives its block
away with nothing left in the stream, no update of the state to unprocessed is run and then tried
again, and an indexer does not get a block that another one still has. -/
def Safe (s : StageArea) : Label → Prop
  | .recover clock => ∀ f ∈ s.writers, ∀ b ∈ f.unfinished, ∀ x ∈ s.blocks[b.number]?,
      x.timedOut clock = false
  | .setStateNone w ran again => ran = true → again = false ∧
      ∀ f ∈ s.writers[w]?, ∀ b ∈ f.unfinished, b.buffered = 0
  | .compareAndSet i _ answered opened => answered = true → opened = true →
      ∀ g ∈ s.indexers[i]?, ∀ n, g.current_data_block = .found n →
        ∀ e ∈ s.indexers, e.current_data_block.holds ≠ some n
  | .releaseFile _ ran again => ran = true → again = false
  | _ => True

end StageArea

end chaos.data_service.vfs.stage
