-- How large the blocks of a writeable stage file get. The file looks at its block every sixteenth
-- write only, and the counter of the writes is one for all its blocks, so that what a block holds
-- is bounded along with the place of the counter between two looks.
import Chaos.OpenBlocks

namespace chaos.data_service.vfs

open runs

/-! ## The writes of a stage file -/

/-- 10 megabyte. -/
def VFSManager_MAX_BLOCK_SIZE : UInt32 := 1024 * 1024 * 10

/-- `VFSManager::init` puts the default in the place of a size that is not set. -/
def initBlockSize (max_block_size : UInt32) : UInt32 :=
  if max_block_size = 0 then VFSManager_MAX_BLOCK_SIZE else max_block_size

/-- A write with no error of a driver: the time of its check, and the path and the time of the block
that is made for it if it needs one. -/
structure StageWrite where
  data_len : UInt32
  now : UInt64
  block_unique_path : String
  made : UInt64
  deriving DecidableEq

def StageWrite.label (w : StageWrite) : VFSFile.Label :=
  .write w.data_len
    { now := w.now
      release := { closeBlock := 0, idxSetDataPackIndexState := 0 }
      new := .made w.block_unique_path w.made
      err := 0 }

namespace VFSFile

/-- A stage file of a manager with these settings. -/
def newStageFile (max_block_size max_block_lifetime counter : UInt32) : VFSFile :=
  new .stage (initBlockSize max_block_size) max_block_lifetime counter

/-- The write looks at the block, and finds it not valid. -/
def FindsInvalid (f : VFSFile) (now : UInt64) : Prop :=
  (f.check_validity_counter + 1) % 16 = 0 ∧ f.isDataBlockValid now = false

/-- The bytes of the write are the first ones of a block that is added. -/
structure GoesToNewBlock (f : VFSFile) (data_len : UInt32) (t : VFSFile) : Prop where
  current : t.current_data_block = some f.blocks.length
  blocks : ∃ b, t.blocks = f.blocks ++ [b] ∧ b.current_work_position = data_len.toUInt64

/-- A write that finds its block not valid goes to a new one. -/
def RenewsInvalid (f : VFSFile) : Label → Prop
  | .write data_len env =>
    f.FindsInvalid env.now → ∀ t, f.step (.write data_len env) = some t →
      f.GoesToNewBlock data_len t
  | _ => True

/-! ## One write -/

variable {f t : VFSFile} {b : Nat} {max L : Nat}

/-- The current block, after more bytes. -/
def grow (data_len : UInt32) (block : DataBlock) : DataBlock :=
  { block with current_work_position := block.current_work_position + data_len.toUInt64 }

/-- The check of the block is passed unless there is none or it was looked at and is not valid. -/
theorem checkDataBlock_stage (hk : f.kind = .stage) (now : UInt64) :
    (f.checkDataBlock now).1 =
        { f with check_validity_counter := f.check_validity_counter + 1 } ∧
      ((f.checkDataBlock now).2 = true ↔ f.current_data_block ≠ none ∧ ¬ f.FindsInvalid now) := by
  unfold checkDataBlock FindsInvalid
  simp only [hk]
  split_ifs with hnone hcounter
  · exact ⟨rfl, by simp [hnone]⟩
  · exact ⟨rfl, by simp [hnone, hcounter]⟩
  · refine ⟨rfl, ?_⟩
    rw [not_not] at hcounter
    change f.isDataBlockValid now = true ↔ _
    simp [hnone, hcounter]

/-- A block that is kept gets the bytes. -/
theorem step_of_kept (hk : f.kind = .stage) (w : StageWrite)
    (hb : f.current_data_block = some b) (hvalid : ¬ f.FindsInvalid w.now) :
    f.step w.label = some { f with
      check_validity_counter := f.check_validity_counter + 1
      blocks := f.blocks.modify b (grow w.data_len) } := by
  obtain ⟨hcounted, hpassed⟩ := checkDataBlock_stage hk w.now
  have hpass := hpassed.mpr ⟨by simp [hb], hvalid⟩
  simp only [step, StageWrite.label]
  rw [write_of_valid, hcounted]
  · simp only [writeToBlock, hb, Option.map_some, if_true]
    rfl
  · exact hpass

/-- Otherwise a block that there is gets closed, and a new one gets the bytes. -/
theorem step_of_renewed (hk : f.kind = .stage) (w : StageWrite)
    (hrenew : f.current_data_block = none ∨ f.FindsInvalid w.now) :
    f.step w.label = some { f with
      check_validity_counter := f.check_validity_counter + 1
      closed := f.closed ++ f.current_data_block.toList
      current_data_block := some f.blocks.length
      blocks := f.blocks ++ [grow w.data_len
        { vfs_path := w.block_unique_path
          invalidation_timestamp := w.made + f.max_block_lifetime.toUInt64
          max_reacheable_size := f.max_block_size.toUInt64
          current_work_position := 0 }] } := by
  obtain ⟨hcounted, hpassed⟩ := checkDataBlock_stage hk w.now
  have hfail : (f.checkDataBlock w.now).2 = false := by
    rw [← Bool.not_eq_true, hpassed]
    rintro ⟨hsome, hvalid⟩
    exact hrenew.elim hsome hvalid
  have hrest : renewStageBlock { f with check_validity_counter := f.check_validity_counter + 1 }
      { closeBlock := 0, idxSetDataPackIndexState := 0 } (.made w.block_unique_path w.made) =
      ({ f with
        check_validity_counter := f.check_validity_counter + 1
        closed := f.closed ++ f.current_data_block.toList
        current_data_block := some f.blocks.length
        blocks := f.blocks ++ [
          { vfs_path := w.block_unique_path
            invalidation_timestamp := w.made + f.max_block_lifetime.toUInt64
            max_reacheable_size := f.max_block_size.toUInt64
            current_work_position := 0 }] }, 0) := by
    unfold renewStageBlock
    cases hcur : f.current_data_block with
    | none => simp [getNewDataBlock, openBlock]
    | some b => simp [releaseDataBlock, releaseError, hk, closeBlock, getNewDataBlock, openBlock]
  simp only [step, StageWrite.label]
  rw [write_of_stage hk, hcounted, hrest, if_neg (not_not.mpr rfl)]
  · simp only [writeToBlock, Option.map_some, if_true, numbered_list.modify_concat]
    rfl
  · exact hfail

/-! ## The invariant -/

/-- With `L` bytes a write at most, the current block is bounded by how many writes ago the file
could have looked at it, and the others by sixteen. -/
structure Sized (max L : Nat) (f : VFSFile) : Prop where
  kind : f.kind = .stage
  size : f.max_block_size.toNat = max
  current : ∀ b, f.current_data_block = some b → b < f.blocks.length
  reacheable : ∀ block ∈ f.blocks, block.max_reacheable_size.toNat = max
  bounded : ∀ block ∈ f.blocks, block.current_work_position.toNat < max + 16 * L
  phase : ∀ b block, f.current_data_block = some b → f.blocks[b]? = some block →
    block.current_work_position.toNat < max + (f.check_validity_counter.toNat % 16 + 1) * L

/-- The place of the counter between two looks goes on over the wrap of the counter. -/
theorem counter_mod (counter : UInt32) :
    (counter + 1).toNat % 16 = (counter.toNat % 16 + 1) % 16 := by
  rw [UInt32.toNat_add]
  have hone : (1 : UInt32).toNat = 1 := rfl
  omega

theorem looks_iff (counter : UInt32) :
    (counter + 1) % 16 = 0 ↔ (counter + 1).toNat % 16 = 0 := by
  rw [← UInt32.toNat_inj, UInt32.toNat_mod]
  rfl

theorem grow_le (data_len : UInt32) (block : DataBlock) :
    (grow data_len block).current_work_position.toNat ≤
      block.current_work_position.toNat + data_len.toNat := by
  simp only [grow, UInt64.toNat_add, UInt32.toNat_toUInt64]
  exact Nat.mod_le _ _

/-- A block that passes the look holds less than the size. -/
theorem position_lt_of_valid (h : Sized max L f) {block : DataBlock} {now : UInt64}
    (hb : f.current_data_block = some b) (hblock : f.blocks[b]? = some block)
    (hvalid : f.isDataBlockValid now = true) : block.current_work_position.toNat < max := by
  unfold isDataBlockValid at hvalid
  rw [hb, Option.bind_some, hblock] at hvalid
  simp only [Bool.and_eq_true, decide_eq_true_eq] at hvalid
  rw [← h.reacheable block (List.mem_of_getElem? hblock)]
  exact UInt64.lt_iff_toNat_lt.mp hvalid.2

/-- The bound of the place of the counter is within the bound of sixteen writes. -/
theorem phase_le (counter : UInt32) (L : Nat) : (counter.toNat % 16 + 1) * L ≤ 16 * L := by
  apply Nat.mul_le_mul_right
  have := Nat.mod_lt counter.toNat (show 0 < 16 by decide)
  omega

theorem Sized.kept (h : Sized max L f) (w : StageWrite) (hL : w.data_len.toNat ≤ L)
    (hb : f.current_data_block = some b) (hvalid : ¬ f.FindsInvalid w.now)
    (ht : f.step w.label = some t) : Sized max L t := by
  rw [step_of_kept h.kind w hb hvalid, Option.some.injEq] at ht
  subst ht
  -- the bytes that the block holds now, by the place of the counter
  have hgrown : ∀ block, f.blocks[b]? = some block →
      (grow w.data_len block).current_work_position.toNat <
        max + ((f.check_validity_counter + 1).toNat % 16 + 1) * L := by
    intro block hblock
    have hle := grow_le w.data_len block
    by_cases hlook : (f.check_validity_counter + 1) % 16 = 0
    · have hpassed : f.isDataBlockValid w.now = true := by
        rw [← Bool.not_eq_false]
        exact fun hfalse => hvalid ⟨hlook, hfalse⟩
      have hlt := position_lt_of_valid h hb hblock hpassed
      rw [(looks_iff _).mp hlook, Nat.zero_add, Nat.one_mul]
      omega
    · have hlt := h.phase b block hb hblock
      have hnext : (f.check_validity_counter + 1).toNat % 16 =
          f.check_validity_counter.toNat % 16 + 1 := by
        have hmod := counter_mod f.check_validity_counter
        rw [looks_iff] at hlook
        omega
      rw [hnext, Nat.add_mul _ 1, Nat.one_mul]
      omega
  have hmem : ∀ block ∈ f.blocks.modify b (grow w.data_len), block ∈ f.blocks ∨
      ∃ old, f.blocks[b]? = some old ∧ block = grow w.data_len old := by
    intro block hblock
    obtain ⟨i, hi⟩ := List.mem_iff_getElem?.mp hblock
    rcases numbered_list.of_getElem?_modify hi with ⟨-, old⟩ | ⟨-, hold⟩
    · exact Or.inr old
    · exact Or.inl (List.mem_of_getElem? hold)
  constructor
  case kind => exact h.kind
  case size => exact h.size
  case current =>
    intro c hc
    rw [List.length_modify]
    exact h.current c hc
  case reacheable =>
    intro block hblock
    rcases hmem block hblock with hold | ⟨old, hold, rfl⟩
    · exact h.reacheable block hold
    · exact h.reacheable old (List.mem_of_getElem? hold)
  case bounded =>
    intro block hblock
    rcases hmem block hblock with hold | ⟨old, hold, rfl⟩
    · exact h.bounded block hold
    · exact (hgrown old hold).trans_le (Nat.add_le_add_left (phase_le _ L) max)
  case phase =>
    intro c block hc hblock
    rw [hb, Option.some.injEq] at hc
    subst hc
    rw [List.getElem?_modify_eq] at hblock
    obtain ⟨old, hold, rfl⟩ := Option.map_eq_some_iff.mp hblock
    exact hgrown old hold

theorem Sized.renewed (h : Sized max L f) (hmax : 0 < max) (w : StageWrite)
    (hL : w.data_len.toNat ≤ L) (hrenew : f.current_data_block = none ∨ f.FindsInvalid w.now)
    (ht : f.step w.label = some t) : Sized max L t := by
  rw [step_of_renewed h.kind w hrenew, Option.some.injEq] at ht
  subst ht
  have hfirst : ∀ path until_ts size,
      (grow w.data_len ⟨path, until_ts, size, 0⟩).current_work_position.toNat <
        max + ((f.check_validity_counter + 1).toNat % 16 + 1) * L := by
    intro path until_ts size
    have hle := grow_le w.data_len ⟨path, until_ts, size, 0⟩
    have hzero : (0 : UInt64).toNat = 0 := rfl
    rw [Nat.add_mul _ 1, Nat.one_mul]
    dsimp only at hle
    omega
  constructor
  case kind => exact h.kind
  case size => exact h.size
  case current =>
    intro c hc
    cases hc
    simp
  case reacheable =>
    intro block hblock
    rcases List.mem_append.mp hblock with hold | hnew
    · exact h.reacheable block hold
    · rw [List.mem_singleton.mp hnew]
      exact (UInt32.toNat_toUInt64 _).trans h.size
  case bounded =>
    intro block hblock
    rcases List.mem_append.mp hblock with hold | hnew
    · exact h.bounded block hold
    · rw [List.mem_singleton.mp hnew]
      exact (hfirst _ _ _).trans_le (Nat.add_le_add_left (phase_le _ L) max)
  case phase =>
    intro c block hc hblock
    cases hc
    rw [List.getElem?_concat_length] at hblock
    cases hblock
    exact hfirst _ _ _

/-- Every write can be made, keeps the bounds, and renews a block that it finds not valid. -/
theorem Sized.step (h : Sized max L f) (hmax : 0 < max) (w : StageWrite)
    (hL : w.data_len.toNat ≤ L) :
    RenewsInvalid f w.label ∧ ∃ t, f.step w.label = some t ∧ Sized max L t := by
  constructor
  · intro hinvalid t ht
    change f.step w.label = some t at ht
    rw [step_of_renewed h.kind w (Or.inr hinvalid), Option.some.injEq] at ht
    subst ht
    exact ⟨rfl, _, rfl, UInt64.zero_add _⟩
  · by_cases hrenew : f.current_data_block = none ∨ f.FindsInvalid w.now
    · have ht := step_of_renewed h.kind w hrenew
      exact ⟨_, ht, h.renewed hmax w hL hrenew ht⟩
    · rw [not_or] at hrenew
      obtain ⟨b, hb⟩ := Option.ne_none_iff_exists'.mp hrenew.1
      have ht := step_of_kept h.kind w hb hrenew.2
      exact ⟨_, ht, h.kept w hL hb hrenew.2 ht⟩

/-! ## The runs -/

theorem initBlockSize_pos (max_block_size : UInt32) : 0 < (initBlockSize max_block_size).toNat := by
  unfold initBlockSize
  split
  case isTrue => decide
  case isFalse hne =>
    rw [Nat.pos_iff_ne_zero]
    exact fun hzero => hne (UInt32.toNat_inj.mp hzero)

/-- With writes of at most `L` bytes, whatever value the counter starts from and whatever the clock
says, no block gets to the size of a block and sixteen writes more, and each write that finds its
block not valid goes to a new one. -/
theorem stage_blocks_are_bounded (max_block_size max_block_lifetime counter : UInt32) (L : Nat)
    (writes : List StageWrite) (hL : ∀ w ∈ writes, w.data_len.toNat ≤ L) :
    RunOk VFSFile.step RenewsInvalid (newStageFile max_block_size max_block_lifetime counter)
        (writes.map StageWrite.label) ∧
      ∃ t, run VFSFile.step (newStageFile max_block_size max_block_lifetime counter)
          (writes.map StageWrite.label) = some t ∧
        ∀ block ∈ t.blocks, block.current_work_position.toNat <
          (initBlockSize max_block_size).toNat + 16 * L := by
  have hmax := initBlockSize_pos max_block_size
  have hstart : Sized (initBlockSize max_block_size).toNat L
      (newStageFile max_block_size max_block_lifetime counter) :=
    ⟨rfl, rfl, nofun, nofun, nofun, nofun⟩
  generalize newStageFile max_block_size max_block_lifetime counter = f at hstart
  induction writes generalizing f with
  | nil => exact ⟨trivial, f, rfl, hstart.bounded⟩
  | cons w writes ih =>
    obtain ⟨hrenews, u, hu, hsized⟩ := hstart.step hmax w (hL w List.mem_cons_self)
    obtain ⟨hok, t, hr, hbounded⟩ :=
      ih (fun x hx => hL x (List.mem_cons_of_mem w hx)) u hsized
    refine ⟨⟨hrenews, ?_⟩, t, run_cons_some.mpr ⟨u, hu, hr⟩, hbounded⟩
    intro v hv
    rw [hu, Option.some.injEq] at hv
    exact hv ▸ hok

/-- Two writes of four bytes. The second one is looked at, and its block is full. -/
theorem second_write_goes_to_new_block :
    RunOk VFSFile.step RenewsInvalid (newStageFile 4 100 14)
        ([⟨4, 1, "a", 1⟩, ⟨4, 2, "b", 2⟩].map StageWrite.label) ∧
      ∃ t, run VFSFile.step (newStageFile 4 100 14)
          ([⟨4, 1, "a", 1⟩, ⟨4, 2, "b", 2⟩].map StageWrite.label) = some t ∧
        ∀ block ∈ t.blocks, block.current_work_position.toNat <
          (initBlockSize 4).toNat + 16 * 4 :=
  stage_blocks_are_bounded 4 100 14 4 [⟨4, 1, "a", 1⟩, ⟨4, 2, "b", 2⟩] (by decide)

end VFSFile

end chaos.data_service.vfs
