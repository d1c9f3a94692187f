-- The data block that a writeable virtual file has open. A block is made by the storage driver
-- and deleted when it is closed. The operations below change the pointer to the current block in
-- only some of their exits; what any driver call answers is part of each label.
import Chaos.DataFile
import Chaos.NumberedList
import Chaos.Runs

namespace chaos.data_service.vfs

open runs

/-! ## The files -/

/-- The two writeable files: the data file of a device, and the stage file of a worker. -/
inductive FileKind
  | data
  | stage
  deriving DecidableEq, Repr

/-- A writeable file with every block it has opened so far. A block is named by its number, and
the memory of a closed one stays as it was, so that what the code does with it can be told.
`closed` lists the blocks in the order they were closed, a block closed twice being in it twice.
The pointer to the journal block is left out: only the readable stage file sets it. -/
structure VFSFile where
  kind : FileKind
  max_block_size : UInt32
  max_block_lifetime : UInt32
  check_validity_counter : UInt32
  blocks : List DataBlock := []
  closed : List Nat := []
  current_data_block : Option Nat := none

/-- What the drivers answer to the release of a block: the close of the storage, and the update
of the index that the data file makes. The errors of the state, the position and the heartbeat
are only logged. -/
structure ReleaseEnv where
  closeBlock : Int
  idxSetDataPackIndexState : Int
  deriving DecidableEq, Repr

structure VFSFile.WriteEnv where
  now : UInt64
  release : ReleaseEnv
  new : NewDataBlock
  err : Int
  deriving DecidableEq

namespace VFSFile

/-- `closeBlock` deletes the block in any case. -/
def closeBlock (f : VFSFile) (b : Nat) : VFSFile := { f with closed := f.closed ++ [b] }

def openBlock (f : VFSFile) (path : String) (now : UInt64) : VFSFile :=
  { f with blocks := f.blocks ++
      [{ vfs_path := path
         invalidation_timestamp := now + f.max_block_lifetime.toUInt64
         max_reacheable_size := f.max_block_size.toUInt64
         current_work_position := 0 }] }

/-- `getNewDataBlock(&current_data_block)`: the pointer is set on success only. A block that the
database does not take is closed at once. -/
def getNewDataBlock (f : VFSFile) : NewDataBlock → VFSFile × Int
  | .notOpened => (f, -1)
  | .notAdded path => ((f.openBlock path 0).closeBlock f.blocks.length, -2)
  | .made path now => ({ f.openBlock path now with current_data_block := some f.blocks.length }, 0)

/-- The error that `releaseDataBlock` reports. The data file overwrites the one of the close with
the one of the index. -/
def releaseError (f : VFSFile) (env : ReleaseEnv) : Int :=
  match f.kind with
  | .data => env.idxSetDataPackIndexState
  | .stage => env.closeBlock

def releaseDataBlock (f : VFSFile) (b : Nat) (env : ReleaseEnv) : VFSFile × Int :=
  (f.closeBlock b, f.releaseError env)

/-- `VFSFile::isDataBlockValid`. -/
def isDataBlockValid (f : VFSFile) (now : UInt64) : Bool :=
  match f.current_data_block.bind (f.blocks[·]?) with
  | none => false
  | some b => now < b.invalidation_timestamp && b.current_work_position < b.max_reacheable_size

/-- The check before a write. The stage file looks at the block every sixteenth time only. -/
def checkDataBlock (f : VFSFile) (now : UInt64) : VFSFile × Bool :=
  match f.kind with
  | .data => (f, f.isDataBlockValid now)
  | .stage =>
    let f := { f with check_validity_counter := f.check_validity_counter + 1 }
    if f.current_data_block = none then (f, false)
    else if f.check_validity_counter % 16 ≠ 0 then (f, true)
    else (f, f.isDataBlockValid now)

def switchDataBlock (f : VFSFile) (close_only : Bool) (release : ReleaseEnv)
    (new : NewDataBlock) : VFSFile × Int :=
  let (f, err) := match f.current_data_block with
    | none => (f, 0)
    | some b => f.releaseDataBlock b release
  if close_only then (f, err) else f.getNewDataBlock new

def prefetchData (f : VFSFile) (release : ReleaseEnv) (new : NewDataBlock) : VFSFile × Int :=
  if f.current_data_block = none then f.switchDataBlock false release new else (f, 0)

/-- `VFSFile::write`. The storage driver asserts that there is a block. -/
def writeToBlock (f : VFSFile) (data_len : UInt32) (err : Int) : Option (VFSFile × Int) :=
  f.current_data_block.map fun b =>
    if err = 0 then
      ({ f with blocks := f.blocks.modify b fun block =>
          { block with current_work_position :=
              block.current_work_position + data_len.toUInt64 } }, 0)
    else (f, err)

/-- `VFSStageWriteableFile::write` releases a block that is not valid and asks for a new one only
when the release reports no error. A NULL block is released without error. -/
def renewStageBlock (f : VFSFile) (release : ReleaseEnv) (new : NewDataBlock) : VFSFile × Int :=
  let (f, err) := match f.current_data_block with
    | none => (f, 0)
    | some b => f.releaseDataBlock b release
  if err ≠ 0 then (f, err) else f.getNewDataBlock new

def write (f : VFSFile) (data_len : UInt32) (env : WriteEnv) : Option (VFSFile × Int) :=
  match f.kind, f.checkDataBlock env.now with
  | _, (f, true) => f.writeToBlock data_len env.err
  -- the data file goes on with the write after a switch that failed
  | .data, (f, false) =>
    (f.switchDataBlock false env.release env.new).1.writeToBlock data_len env.err
  | .stage, (f, false) =>
    let (f, err) := f.renewStageBlock env.release env.new
    if err ≠ 0 then some (f, err) else f.writeToBlock data_len env.err

/-- `closeCurrentDataBlock`: the pointer is set to NULL only when the release reports no error. -/
def closeCurrentDataBlock (f : VFSFile) (release : ReleaseEnv) : VFSFile × Int :=
  match f.current_data_block with
  | none => (f, 0)
  | some b =>
    let (f, err) := f.releaseDataBlock b release
    if err ≠ 0 then (f, err) else ({ f with current_data_block := none }, err)

/-- `mantain`. The check is the one of `VFSFile`, for the stage file too: it is not virtual. -/
def mantain (f : VFSFile) (now : UInt64) (release : ReleaseEnv) : VFSFile × Int :=
  if f.isDataBlockValid now then (f, 0) else f.closeCurrentDataBlock release

/-- `read`. A writeable file is not open for reading: nothing is read and only a log line is
written. -/
def read (f : VFSFile) : VFSFile × Int :=
  if f.current_data_block = none then (f, -1) else (f, 0)

inductive Label
  | write (data_len : UInt32) (env : WriteEnv)
  | read
  | switchDataBlock (close_only : Bool) (release : ReleaseEnv) (new : NewDataBlock)
  | prefetchData (release : ReleaseEnv) (new : NewDataBlock)
  | mantain (now : UInt64) (release : ReleaseEnv)
  | closeCurrentDataBlock (release : ReleaseEnv)
  | isDataBlockValid (now : UInt64)
  deriving DecidableEq

/-- The operations of a file. Only the data file has `switchDataBlock` and its own
`prefetchData`. -/
def step (f : VFSFile) : Label → Option VFSFile
  | .write data_len env => (f.write data_len env).map Prod.fst
  | .read => some f.read.1
  | .switchDataBlock close_only release new =>
    if f.kind = .data then some (f.switchDataBlock close_only release new).1 else none
  | .prefetchData release new =>
    if f.kind = .data then some (f.prefetchData release new).1 else some f
  | .mantain now release => some (f.mantain now release).1
  | .closeCurrentDataBlock release => some (f.closeCurrentDataBlock release).1
  | .isDataBlockValid now => some (f.checkDataBlock now).1

/-! ## The invariant -/

/-- The current block is NULL or open, and no block is closed twice. -/
structure BlocksOk (f : VFSFile) : Prop where
  current_open : ∀ b, f.current_data_block = some b → b < f.blocks.length ∧ b ∉ f.closed
  closed_once : f.closed.Nodup
  closed_opened : ∀ b ∈ f.closed, b < f.blocks.length

/-- A new block is there. -/
def Made : NewDataBlock → Prop
  | .made _ _ => True
  | _ => False

/-- The step closes the current block, if there is one. -/
def Closes (f : VFSFile) : Label → Prop
  | .write _ env => f.current_data_block ≠ none ∧ (f.checkDataBlock env.now).2 = false
  | .switchDataBlock _ _ _ => f.kind = .data ∧ f.current_data_block ≠ none
  | .mantain now _ => f.current_data_block ≠ none ∧ f.isDataBlockValid now = false
  | .closeCurrentDataBlock _ => f.current_data_block ≠ none
  | _ => False

/-- The step that closes the current block sets the pointer to something else: the calls that come
after the close, up to the one that sets the pointer, do not fail. -/
def Replaces (f : VFSFile) : Label → Prop
  | .write _ env => (f.kind = .stage → env.release.closeBlock = 0) ∧ Made env.new
  | .switchDataBlock close_only _ new => close_only = false ∧ Made new
  | .mantain _ release => f.releaseError release = 0
  | .closeCurrentDataBlock release => f.releaseError release = 0
  | _ => True

def Safe (f : VFSFile) (a : Label) : Prop := Closes f a → Replaces f a

instance : DecidablePred Made
  | .notOpened => isFalse id
  | .notAdded _ => isFalse id
  | .made _ _ => isTrue trivial

instance (f : VFSFile) : ∀ a, Decidable (Closes f a)
  | .write _ _ => inferInstanceAs (Decidable (_ ∧ _))
  | .read => isFalse id
  | .switchDataBlock _ _ _ => inferInstanceAs (Decidable (_ ∧ _))
  | .prefetchData _ _ => isFalse id
  | .mantain _ _ => inferInstanceAs (Decidable (_ ∧ _))
  | .closeCurrentDataBlock _ => inferInstanceAs (Decidable (_ ≠ _))
  | .isDataBlockValid _ => isFalse id

instance (f : VFSFile) : ∀ a, Decidable (Replaces f a)
  | .write _ _ => inferInstanceAs (Decidable (_ ∧ _))
  | .read => isTrue trivial
  | .switchDataBlock _ _ _ => inferInstanceAs (Decidable (_ ∧ _))
  | .prefetchData _ _ => isTrue trivial
  | .mantain _ _ => inferInstanceAs (Decidable (_ = _))
  | .closeCurrentDataBlock _ => inferInstanceAs (Decidable (_ = _))
  | .isDataBlockValid _ => isTrue trivial

instance (f : VFSFile) (a : Label) : Decidable (Safe f a) :=
  inferInstanceAs (Decidable (_ → _))

variable {f t : VFSFile} {b : Nat}

/-- The current block was closed, and the pointer still holds it. -/
def Dangling (f : VFSFile) : Prop := ∃ b, f.current_data_block = some b ∧ b ∈ f.closed

theorem Dangling.not_blocksOk (h : Dangling f) : ¬ BlocksOk f := by
  obtain ⟨b, hb, hclosed⟩ := h
  intro hok
  exact (hok.current_open b hb).2 hclosed

/-- What holds of the closed blocks whatever the pointer holds. -/
structure ClosedOk (f : VFSFile) : Prop where
  once : f.closed.Nodup
  opened : ∀ b ∈ f.closed, b < f.blocks.length

theorem BlocksOk.closedOk (h : BlocksOk f) : ClosedOk f := ⟨h.closed_once, h.closed_opened⟩

/-- The same blocks are open and closed, and the pointer is the same. -/
structure Same (f t : VFSFile) : Prop where
  current : t.current_data_block = f.current_data_block
  closed : t.closed = f.closed
  length : t.blocks.length = f.blocks.length

theorem Same.blocksOk (h : Same f t) (hf : BlocksOk f) : BlocksOk t := by
  constructor
  · intro b hb
    rw [h.closed, h.length]
    exact hf.current_open b (h.current ▸ hb)
  · rw [h.closed]
    exact hf.closed_once
  · rw [h.closed, h.length]
    exact hf.closed_opened

theorem Same.dangling (h : Same f t) (hf : Dangling f) : Dangling t := by
  obtain ⟨b, hb, hclosed⟩ := hf
  exact ⟨b, h.current.trans hb, h.closed ▸ hclosed⟩

/-! ## What the operations do -/

theorem same_checkDataBlock (f : VFSFile) (now : UInt64) : Same f (f.checkDataBlock now).1 := by
  unfold checkDataBlock
  cases f.kind with
  | data => exact ⟨rfl, rfl, rfl⟩
  | stage =>
    simp only
    split_ifs <;> exact ⟨rfl, rfl, rfl⟩

theorem same_writeToBlock {data_len : UInt32} {err r : Int}
    (h : f.writeToBlock data_len err = some (t, r)) : Same f t := by
  unfold writeToBlock at h
  obtain ⟨b, -, hb⟩ := Option.map_eq_some_iff.mp h
  split_ifs at hb
  · cases hb
    exact ⟨rfl, rfl, List.length_modify ..⟩
  · cases hb
    exact ⟨rfl, rfl, rfl⟩

theorem writeToBlock_isSome (hb : f.current_data_block = some b) (data_len : UInt32) (err : Int) :
    ∃ r, f.writeToBlock data_len err = some r := by
  unfold writeToBlock
  rw [hb]
  exact ⟨_, rfl⟩

/-- A block that is open can be closed; the pointer to it is left dangling. -/
theorem closedOk_closeBlock (hf : BlocksOk f) (hb : f.current_data_block = some b) :
    ClosedOk (f.closeBlock b) := by
  obtain ⟨hlt, hnot⟩ := hf.current_open b hb
  constructor
  · exact numbered_list.nodup_snoc hf.closed_once hnot
  · intro c hc
    rcases List.mem_append.mp hc with hc | hc
    · exact hf.closed_opened c hc
    · rw [List.mem_singleton] at hc
      exact hc ▸ hlt

theorem dangling_closeBlock (hb : f.current_data_block = some b) : Dangling (f.closeBlock b) :=
  ⟨b, hb, List.mem_append_right _ (List.mem_singleton_self b)⟩

theorem length_openBlock (f : VFSFile) (path : String) (now : UInt64) :
    (f.openBlock path now).blocks.length = f.blocks.length + 1 := by
  simp [openBlock]

/-- A new block is open, whatever the pointer held before. -/
theorem blocksOk_getNewDataBlock (hf : ClosedOk f) {new : NewDataBlock} (hnew : Made new) :
    BlocksOk (f.getNewDataBlock new).1 := by
  cases new with
  | notOpened => cases hnew
  | notAdded path => cases hnew
  | made path now =>
    constructor
    · rintro b ⟨⟩
      refine ⟨by simp [getNewDataBlock, openBlock], ?_⟩
      intro hmem
      exact Nat.lt_irrefl _ (hf.opened _ hmem)
    · exact hf.once
    · intro b hb
      have hlt := hf.opened b hb
      simp only [getNewDataBlock, length_openBlock]
      omega

/-- Without a new block the pointer stays, and the block that was opened in vain is closed. -/
theorem getNewDataBlock_not_made (f : VFSFile) {new : NewDataBlock} (hnew : ¬ Made new) :
    (f.getNewDataBlock new).1.current_data_block = f.current_data_block ∧
      f.closed ⊆ (f.getNewDataBlock new).1.closed ∧ (f.getNewDataBlock new).2 ≠ 0 := by
  cases new with
  | notOpened => exact ⟨rfl, List.Subset.refl _, by simp [getNewDataBlock]⟩
  | notAdded path => exact ⟨rfl, List.subset_append_left .., by simp [getNewDataBlock]⟩
  | made path now => exact absurd trivial hnew

theorem blocksOk_getNewDataBlock_of_null (hf : BlocksOk f) (hnull : f.current_data_block = none)
    (new : NewDataBlock) : BlocksOk (f.getNewDataBlock new).1 := by
  cases new with
  | notOpened => exact hf
  | notAdded path =>
    constructor
    · intro b hb
      have : f.current_data_block = some b := hb
      rw [hnull] at this
      cases this
    · exact numbered_list.nodup_snoc hf.closed_once fun hmem =>
        Nat.lt_irrefl _ (hf.closed_opened _ hmem)
    · intro b hb
      have hlen : ((f.openBlock path 0).closeBlock f.blocks.length).blocks.length
          = f.blocks.length + 1 := length_openBlock f path 0
      rw [getNewDataBlock, hlen]
      rcases List.mem_append.mp hb with hb | hb
      · exact Nat.lt_succ_of_lt (hf.closed_opened b hb)
      · rw [List.mem_singleton] at hb
        omega
  | made path now => exact blocksOk_getNewDataBlock hf.closedOk trivial

theorem Dangling.getNewDataBlock (h : Dangling f) {new : NewDataBlock} (hnew : ¬ Made new) :
    Dangling (f.getNewDataBlock new).1 := by
  obtain ⟨b, hb, hclosed⟩ := h
  obtain ⟨hcur, hsub, -⟩ := f.getNewDataBlock_not_made hnew
  exact ⟨b, hcur.trans hb, hsub hclosed⟩

theorem blocksOk_closeCurrentDataBlock (hf : BlocksOk f) {release : ReleaseEnv}
    (hrel : f.current_data_block ≠ none → f.releaseError release = 0) :
    BlocksOk (f.closeCurrentDataBlock release).1 := by
  unfold closeCurrentDataBlock releaseDataBlock
  cases hb : f.current_data_block with
  | none => exact hf
  | some b =>
    have hclosed := closedOk_closeBlock hf hb
    have herr : f.releaseError release = 0 := hrel (by simp [hb])
    simp only [herr, ne_eq, not_true_eq_false, if_false]
    exact ⟨nofun, hclosed.once, hclosed.opened⟩

theorem dangling_closeCurrentDataBlock {release : ReleaseEnv}
    (hb : f.current_data_block = some b) (hrel : f.releaseError release ≠ 0) :
    Dangling (f.closeCurrentDataBlock release).1 := by
  have hclose : (f.closeCurrentDataBlock release).1 = f.closeBlock b := by
    simp [closeCurrentDataBlock, releaseDataBlock, hb, hrel]
  rw [hclose]
  exact dangling_closeBlock hb

theorem blocksOk_switchDataBlock (hf : BlocksOk f) {close_only : Bool} {release : ReleaseEnv}
    {new : NewDataBlock} (hnew : f.current_data_block ≠ none → close_only = false ∧ Made new) :
    BlocksOk (f.switchDataBlock close_only release new).1 := by
  unfold switchDataBlock releaseDataBlock
  cases hb : f.current_data_block with
  | none =>
    cases close_only with
    | true => exact hf
    | false => exact blocksOk_getNewDataBlock_of_null hf hb new
  | some b =>
    obtain ⟨rfl, hmade⟩ := hnew (by simp [hb])
    exact blocksOk_getNewDataBlock (closedOk_closeBlock hf hb) hmade

theorem dangling_switchDataBlock (close_only : Bool) (release : ReleaseEnv) (new : NewDataBlock)
    (hb : f.current_data_block = some b) (hnew : ¬ (close_only = false ∧ Made new)) :
    Dangling (f.switchDataBlock close_only release new).1 := by
  simp only [switchDataBlock, releaseDataBlock, hb]
  cases close_only with
  | true => exact dangling_closeBlock hb
  | false =>
    have hnot : ¬ Made new := fun h => hnew ⟨rfl, h⟩
    exact (dangling_closeBlock hb).getNewDataBlock hnot

theorem blocksOk_renewStageBlock (hf : BlocksOk f) {release : ReleaseEnv} {new : NewDataBlock}
    (hnew : f.current_data_block ≠ none → f.releaseError release = 0 ∧ Made new) :
    BlocksOk (f.renewStageBlock release new).1 := by
  unfold renewStageBlock releaseDataBlock
  cases hb : f.current_data_block with
  | none => exact blocksOk_getNewDataBlock_of_null hf hb new
  | some b =>
    obtain ⟨herr, hmade⟩ := hnew (by simp [hb])
    simp only [herr, ne_eq, not_true_eq_false, if_false]
    exact blocksOk_getNewDataBlock (closedOk_closeBlock hf hb) hmade

/-- The stage file reports the error too, and does not write to the block it has lost. -/
theorem dangling_renewStageBlock (release : ReleaseEnv) (new : NewDataBlock)
    (hb : f.current_data_block = some b) (hnew : ¬ (f.releaseError release = 0 ∧ Made new)) :
    Dangling (f.renewStageBlock release new).1 ∧ (f.renewStageBlock release new).2 ≠ 0 := by
  simp only [renewStageBlock, releaseDataBlock, hb]
  split_ifs with herr
  · exact ⟨dangling_closeBlock hb, herr⟩
  · have hnot : ¬ Made new := fun h => hnew ⟨not_not.mp herr, h⟩
    exact ⟨(dangling_closeBlock hb).getNewDataBlock hnot,
      ((f.closeBlock b).getNewDataBlock_not_made hnot).2.2⟩

theorem checkDataBlock_kind (f : VFSFile) (now : UInt64) :
    (f.checkDataBlock now).1.kind = f.kind := by
  unfold checkDataBlock
  split
  · rfl
  · simp only
    split_ifs <;> rfl

theorem releaseError_checkDataBlock (f : VFSFile) (now : UInt64) (release : ReleaseEnv) :
    (f.checkDataBlock now).1.releaseError release = f.releaseError release := by
  simp only [releaseError, checkDataBlock_kind]

theorem write_of_valid {data_len : UInt32} {env : WriteEnv}
    (hv : (f.checkDataBlock env.now).2 = true) :
    f.write data_len env = (f.checkDataBlock env.now).1.writeToBlock data_len env.err := by
  unfold write
  generalize f.checkDataBlock env.now = checked at hv ⊢
  obtain ⟨g, valid⟩ := checked
  cases hv
  rfl

theorem write_of_data {data_len : UInt32} {env : WriteEnv} (hk : f.kind = .data)
    (hv : (f.checkDataBlock env.now).2 = false) :
    f.write data_len env = ((f.checkDataBlock env.now).1.switchDataBlock false env.release
      env.new).1.writeToBlock data_len env.err := by
  unfold write
  generalize f.checkDataBlock env.now = checked at hv ⊢
  obtain ⟨g, valid⟩ := checked
  cases hv
  rw [hk]

theorem write_of_stage {data_len : UInt32} {env : WriteEnv} (hk : f.kind = .stage)
    (hv : (f.checkDataBlock env.now).2 = false) :
    f.write data_len env =
      if ((f.checkDataBlock env.now).1.renewStageBlock env.release env.new).2 ≠ 0 then
        some ((f.checkDataBlock env.now).1.renewStageBlock env.release env.new)
      else ((f.checkDataBlock env.now).1.renewStageBlock env.release env.new).1.writeToBlock
        data_len env.err := by
  unfold write
  generalize f.checkDataBlock env.now = checked at hv ⊢
  obtain ⟨g, valid⟩ := checked
  cases hv
  rw [hk]

theorem blocksOk_write (hf : BlocksOk f) {data_len : UInt32} {env : WriteEnv}
    (hsafe : Safe f (.write data_len env)) {r : Int} (ht : f.write data_len env = some (t, r)) :
    BlocksOk t := by
  have hsame := f.same_checkDataBlock env.now
  have hcheck := hsame.blocksOk hf
  cases hv : (f.checkDataBlock env.now).2 with
  | true =>
    rw [write_of_valid hv] at ht
    exact (same_writeToBlock ht).blocksOk hcheck
  | false =>
    have hmade : (f.checkDataBlock env.now).1.current_data_block ≠ none →
        (f.kind = .stage → env.release.closeBlock = 0) ∧ Made env.new := by
      rw [hsame.current]
      exact fun hne => hsafe ⟨hne, hv⟩
    cases hk : f.kind with
    | data =>
      rw [write_of_data hk hv] at ht
      exact (same_writeToBlock ht).blocksOk
        (blocksOk_switchDataBlock hcheck fun hne => ⟨rfl, (hmade hne).2⟩)
    | stage =>
      have hrenew :
          BlocksOk ((f.checkDataBlock env.now).1.renewStageBlock env.release env.new).1 := by
        apply blocksOk_renewStageBlock hcheck
        intro hne
        refine ⟨?_, (hmade hne).2⟩
        rw [releaseError_checkDataBlock, releaseError, hk]
        exact (hmade hne).1 hk
      rw [write_of_stage hk hv] at ht
      split_ifs at ht
      · rw [Option.some.injEq] at ht
        rw [ht] at hrenew
        exact hrenew
      · exact (same_writeToBlock ht).blocksOk hrenew

/-- A write that closes the block and gets no new one leaves the pointer dangling. -/
theorem dangling_write (data_len : UInt32) {env : WriteEnv} (hb : f.current_data_block = some b)
    (hv : (f.checkDataBlock env.now).2 = false)
    (hnew : ¬ ((f.kind = .stage → env.release.closeBlock = 0) ∧ Made env.new)) :
    ∃ r, f.write data_len env = some r ∧ Dangling r.1 := by
  have hcur : (f.checkDataBlock env.now).1.current_data_block = some b := by
    rw [(f.same_checkDataBlock env.now).current, hb]
  cases hk : f.kind with
  | data =>
    have hswitch := dangling_switchDataBlock false env.release env.new hcur
      (by simpa [hk] using hnew)
    obtain ⟨c, hc, -⟩ := id hswitch
    obtain ⟨r, hr⟩ := writeToBlock_isSome hc data_len env.err
    rw [write_of_data hk hv]
    exact ⟨r, hr, (same_writeToBlock hr).dangling hswitch⟩
  | stage =>
    have hrenew := dangling_renewStageBlock env.release env.new hcur (by
      rw [releaseError_checkDataBlock, releaseError, hk]
      simpa [hk] using hnew)
    rw [write_of_stage hk hv, if_pos hrenew.2]
    exact ⟨_, rfl, hrenew.1⟩

/-! ## The laws -/

/-- A safe step keeps the invariant. -/
theorem blocksOk_step (hf : BlocksOk f) {a : Label} (hsafe : Safe f a) (ht : f.step a = some t) :
    BlocksOk t := by
  cases a with
  | write data_len env =>
    obtain ⟨⟨g, r⟩, hg, rfl⟩ := Option.map_eq_some_iff.mp ht
    exact blocksOk_write hf hsafe hg
  | read =>
    unfold step read at ht
    split_ifs at ht <;> cases ht <;> exact hf
  | switchDataBlock close_only release new =>
    unfold step at ht
    split_ifs at ht with hk
    cases ht
    exact blocksOk_switchDataBlock hf fun hne => hsafe ⟨hk, hne⟩
  | prefetchData release new =>
    unfold step prefetchData at ht
    split_ifs at ht with hk hnull <;> cases ht
    · exact blocksOk_switchDataBlock hf fun hne => absurd hnull hne
    · exact hf
    · exact hf
  | mantain now release =>
    cases ht
    unfold mantain
    split_ifs with hv
    · exact hf
    · exact blocksOk_closeCurrentDataBlock hf fun hne => hsafe ⟨hne, by simpa using hv⟩
  | closeCurrentDataBlock release =>
    cases ht
    exact blocksOk_closeCurrentDataBlock hf hsafe
  | isDataBlockValid now =>
    cases ht
    exact (f.same_checkDataBlock now).blocksOk hf

/-- A step that is not safe leaves a pointer to a closed block. -/
theorem dangling_step {a : Label} (hclose : Closes f a) (hnot : ¬ Replaces f a) :
    ∃ t, f.step a = some t ∧ Dangling t := by
  cases a with
  | write data_len env =>
    obtain ⟨hne, hv⟩ := hclose
    obtain ⟨b, hb⟩ := Option.ne_none_iff_exists'.mp hne
    obtain ⟨r, hr, hd⟩ := dangling_write data_len hb hv hnot
    exact ⟨r.1, by simp [step, hr], hd⟩
  | read => cases hclose
  | switchDataBlock close_only release new =>
    obtain ⟨hk, hne⟩ := hclose
    obtain ⟨b, hb⟩ := Option.ne_none_iff_exists'.mp hne
    exact ⟨_, if_pos hk, dangling_switchDataBlock close_only release new hb hnot⟩
  | prefetchData release new => cases hclose
  | mantain now release =>
    obtain ⟨hne, hv⟩ := hclose
    obtain ⟨b, hb⟩ := Option.ne_none_iff_exists'.mp hne
    refine ⟨_, rfl, ?_⟩
    rw [mantain, hv]
    exact dangling_closeCurrentDataBlock hb hnot
  | closeCurrentDataBlock release =>
    obtain ⟨b, hb⟩ := Option.ne_none_iff_exists'.mp hclose
    exact ⟨_, rfl, dangling_closeCurrentDataBlock hb hnot⟩
  | isDataBlockValid now => cases hclose

theorem safe_iff (hf : BlocksOk f) (a : Label) :
    Safe f a ↔ ∀ t, f.step a = some t → BlocksOk t := by
  constructor
  · intro hsafe t ht
    exact blocksOk_step hf hsafe ht
  · intro hall hclose
    by_contra hnot
    obtain ⟨t, ht, hd⟩ := dangling_step hclose hnot
    exact hd.not_blocksOk (hall t ht)

/-- A file as its constructor leaves it. The stage file does not set its counter, so that it
starts with any value. -/
def new (kind : FileKind) (max_block_size max_block_lifetime counter : UInt32) : VFSFile :=
  { kind := kind, max_block_size := max_block_size, max_block_lifetime := max_block_lifetime,
    check_validity_counter := counter }

/-- In every state that a file reaches its current block is NULL or open and no block was closed
twice, just when every step that closes the current block also replaces the pointer. -/
theorem current_block_is_open_iff (kind : FileKind)
    (max_block_size max_block_lifetime counter : UInt32) (labels : List Label) :
    (∀ n t, run step (new kind max_block_size max_block_lifetime counter) (labels.take n) = some t →
        BlocksOk t) ↔
      RunOk step Safe (new kind max_block_size max_block_lifetime counter) labels := by
  have hnew : BlocksOk (new kind max_block_size max_block_lifetime counter) :=
    ⟨nofun, List.nodup_nil, nofun⟩
  exact (runOk_iff_reached BlocksOk (fun f a hf => safe_iff hf a) hnew).symm

/-- The block of a data file is too old for the second write, and the storage opens no new one:
the file goes on with the block it has just closed. -/
theorem write_after_failed_switch : ¬ ∀ n t, run step (new .data 100 10 0)
    ([.write 4 ⟨0, ⟨0, 0⟩, .made "a" 0, 0⟩, .write 4 ⟨20, ⟨0, 0⟩, .notOpened, 0⟩].take n) = some t →
      BlocksOk t := by
  intro hall
  have hok := hall 2 _ rfl
  exact (hok.current_open 0 rfl).2 (List.mem_singleton_self 0)

end VFSFile

end chaos.data_service.vfs
