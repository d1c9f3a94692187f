-- The virtual data file of one device: a file of the storage for each data block, and the
-- block that new packs are written to. A block that is too old or too large is closed, and a
-- new one takes its place.
import Chaos.AppendStore

namespace chaos.data_service.vfs

open append_store

/-! ## The state -/

/-- The bytes of the data blocks, by their path. -/
abbrev Storage := Store String UInt8

structure DataBlock where
  vfs_path : String
  invalidation_timestamp : UInt64
  max_reacheable_size : UInt64
  current_work_position : UInt64
  deriving DecidableEq

/-- The pointer to the current data block. A block that was closed is deleted; a pointer that
still holds it is `released`, and every use of it is undefined. -/
inductive BlockPtr
  | null
  | live (block : DataBlock)
  | released
  deriving DecidableEq

structure VFSDataWriteableFile where
  max_block_size : UInt32
  max_block_lifetime : UInt32
  current_data_block : BlockPtr
  deriving DecidableEq

/-- What happens when a new data block is made: the storage does not open it, the database
does not take it, or it is there, at a path that ends in a new UUID and at a time. -/
inductive NewDataBlock
  | notOpened
  | notAdded (block_unique_path : String)
  | made (block_unique_path : String) (now : UInt64)
  deriving DecidableEq

/-! ## The operations -/

namespace VFSDataWriteableFile

/-- `getNewDataBlock`. The storage opens the path to append to it, and the block starts at
position 0. -/
def getNewDataBlock (f : VFSDataWriteableFile) (st : Storage) :
    NewDataBlock → Storage × Except Int DataBlock
  | .notOpened => (st, .error (-1))
  | .notAdded path => (openFile st path, .error (-2))
  | .made path now =>
    (openFile st path, .ok
      { vfs_path := path
        invalidation_timestamp := now + f.max_block_lifetime.toUInt64
        max_reacheable_size := f.max_block_size.toUInt64
        current_work_position := 0 })

/-- `isDataBlockValid`: the block is neither too old nor too large. -/
def isDataBlockValid (now : UInt64) : BlockPtr → Option Bool
  | .null => some false
  | .live b => some (decide (now < b.invalidation_timestamp ∧
      b.current_work_position < b.max_reacheable_size))
  | .released => none

/-- `switchDataBlock`. The old block is closed first, and its pointer stays as it is when no
new block is made. -/
def switchDataBlock (f : VFSDataWriteableFile) (st : Storage) (new : NewDataBlock) :
    Option (Storage × VFSDataWriteableFile × Int) :=
  let closed : Option BlockPtr := match f.current_data_block with
    | .null => some .null
    | .live _ => some .released
    | .released => none
  closed.map fun p =>
    match f.getNewDataBlock st new with
    | (st, .error err) => (st, { f with current_data_block := p }, err)
    | (st, .ok b) => (st, { f with current_data_block := .live b }, 0)

/-- `prefetchData` makes the first data block. -/
def prefetchData (f : VFSDataWriteableFile) (st : Storage) (new : NewDataBlock) :
    Option (Storage × VFSDataWriteableFile × Int) :=
  if f.current_data_block = .null then f.switchDataBlock st new else some (st, f, 0)

/-- What a write gets from outside: the time of the check, the new block when the current one
is not valid any more, how many bytes reach the file, and the error of the storage. -/
structure WriteEnv where
  now : UInt64
  new : NewDataBlock
  stored : Nat
  err : Int
  deriving DecidableEq

/-- The write to the block that the file has after a possible switch. The position moves on
when the storage reports no error. -/
def writeToBlock (f : VFSDataWriteableFile) (st : Storage) (data : List UInt8) (env : WriteEnv) :
    Option (Storage × VFSDataWriteableFile × Int) :=
  match f.current_data_block with
  | .live b =>
    let st := append st b.vfs_path (data.take env.stored)
    if env.err = 0 then
      some (st, { f with current_data_block := .live { b with
        current_work_position := b.current_work_position + UInt64.ofNat data.length } }, 0)
    else some (st, f, env.err)
  | _ => none

/-- `write`, with the check of the current data block before it. -/
def write (f : VFSDataWriteableFile) (st : Storage) (data : List UInt8) (env : WriteEnv) :
    Option (Storage × VFSDataWriteableFile × Int) :=
  match isDataBlockValid env.now f.current_data_block with
  | none => none
  | some true => f.writeToBlock st data env
  | some false =>
    (f.switchDataBlock st env.new).bind fun (st, f, _) => f.writeToBlock st data env

/-- `mantain`: a block that is not valid any more is closed. The pointer is set to NULL only
when the close reports no error. -/
def mantain (f : VFSDataWriteableFile) (now : UInt64) (closeErr : Int) :
    Option VFSDataWriteableFile :=
  (isDataBlockValid now f.current_data_block).map fun valid =>
    if valid || f.current_data_block = .null then f
    else { f with current_data_block := if closeErr = 0 then .null else .released }

/-! ## What an operation does to the storage -/

/-- The position of the current block is the end of its file. -/
structure Synced (st : Storage) (b : DataBlock) : Prop where
  opened : (st b.vfs_path).isSome = true
  position : b.current_work_position.toNat = (content st b.vfs_path).length
  bound : b.max_reacheable_size.toNat < 2 ^ 32

/-- A new block gets a path that no file of the storage has: the UUID is unique. -/
def FreshPath (st : Storage) : NewDataBlock → Prop
  | .notOpened => True
  | .notAdded path => st path = none
  | .made path _ => st path = none

instance FreshPath.decidable (st : Storage) : ∀ new, Decidable (FreshPath st new)
  | .notOpened => isTrue trivial
  | .notAdded path => inferInstanceAs (Decidable (st path = none))
  | .made path _ => inferInstanceAs (Decidable (st path = none))

/-- The storage takes all the bytes of a write, or it takes none of them and says so. -/
def WriteEnv.Faithful (env : WriteEnv) (data : List UInt8) : Prop :=
  env.stored = if env.err = 0 then data.length else 0

instance WriteEnv.Faithful.decidable (env : WriteEnv) (data : List UInt8) :
    Decidable (env.Faithful data) :=
  inferInstanceAs (Decidable (_ = _))

/-- One operation on a file, from `st` and `f` to `st'` and `f'`: it appends to the current
block or to a new one only, and the block that is current after it is in sync. -/
structure Moves (st : Storage) (f : VFSDataWriteableFile) (st' : Storage)
    (f' : VFSDataWriteableFile) : Prop where
  grows : Grows st st'
  exist : ∀ k, (st k).isSome = true → (st' k).isSome = true
  others : ∀ k, (st k).isSome = true →
    (∀ b, f.current_data_block = .live b → k ≠ b.vfs_path) → content st' k = content st k
  synced : ∀ b', f'.current_data_block = .live b' → Synced st' b'
  path : ∀ b', f'.current_data_block = .live b' →
    (∃ b, f.current_data_block = .live b ∧ b.vfs_path = b'.vfs_path) ∨ st b'.vfs_path = none

variable {st st' st'' : Storage} {f f' f'' : VFSDataWriteableFile} {err : Int}

theorem Moves.refl (h : ∀ b, f.current_data_block = .live b → Synced st b) :
    Moves st f st f where
  grows := .refl st
  exist _ hk := hk
  others _ _ _ := rfl
  synced := h
  path b hb := Or.inl ⟨b, hb, rfl⟩

theorem Moves.trans (h : Moves st f st' f') (h' : Moves st' f' st'' f'') :
    Moves st f st'' f'' where
  grows := h.grows.trans h'.grows
  exist k hk := h'.exist k (h.exist k hk)
  others k hk hne := by
    rw [h'.others k (h.exist k hk) ?_, h.others k hk hne]
    -- the block in the middle is the old one, or its file is new
    intro b hb heq
    rcases h.path b hb with ⟨b₀, hb₀, hpath⟩ | hnone
    · exact hne b₀ hb₀ (heq.trans hpath.symm)
    · rw [← heq] at hnone
      simp [hnone] at hk
  synced := h'.synced
  path b'' hb'' := by
    rcases h'.path b'' hb'' with ⟨b', hb', hpath⟩ | hnone
    · rcases h.path b' hb' with ⟨b, hb, hpath'⟩ | hnone'
      · exact Or.inl ⟨b, hb, hpath'.trans hpath⟩
      · exact Or.inr (hpath ▸ hnone')
    · right
      by_contra hsome
      have := h.exist b''.vfs_path (Option.isSome_iff_ne_none.mpr hsome)
      simp [hnone] at this

theorem freshPath_content {path : String} (h : st path = none) : content st path = [] := by
  simp [content, h]

/-- A switch of the block opens a new file, and appends to none. -/
theorem moves_switchDataBlock {new : NewDataBlock} (hfresh : FreshPath st new)
    (h : f.switchDataBlock st new = some (st', f', err)) : Moves st f st' f' := by
  unfold switchDataBlock at h
  obtain ⟨p, hp, hres⟩ := Option.map_eq_some_iff.mp h
  have hclosed : ∀ b, p ≠ .live b := by
    rintro b rfl
    split at hp <;> simp at hp
  cases new with
  | notOpened =>
    cases hres
    exact ⟨.refl _, fun _ hk => hk, fun _ _ _ => rfl, fun b hb => absurd hb (hclosed b),
      fun b hb => absurd hb (hclosed b)⟩
  | notAdded path =>
    cases hres
    exact ⟨grows_openFile _ _, fun k hk => openFile_isSome.mpr (Or.inr hk),
      fun _ _ _ => content_openFile, fun b hb => absurd hb (hclosed b),
      fun b hb => absurd hb (hclosed b)⟩
  | made path now =>
    cases hres
    refine ⟨grows_openFile _ _, fun k hk => openFile_isSome.mpr (Or.inr hk),
      fun _ _ _ => content_openFile, ?_, ?_⟩
    · intro b hb
      cases hb
      refine ⟨openFile_isSome.mpr (Or.inl rfl), ?_, ?_⟩
      · simp [freshPath_content hfresh]
      · simpa using UInt32.toNat_lt f.max_block_size
    · intro b hb
      cases hb
      exact Or.inr hfresh

theorem switchDataBlock_position {new : NewDataBlock} {b : DataBlock}
    (h : f.switchDataBlock st new = some (st', f', err))
    (hb : f'.current_data_block = .live b) : b.current_work_position = 0 := by
  unfold switchDataBlock at h
  obtain ⟨p, hp, hres⟩ := Option.map_eq_some_iff.mp h
  cases new with
  | notOpened =>
    cases hres
    subst hb
    split at hp <;> simp at hp
  | notAdded path =>
    cases hres
    subst hb
    split at hp <;> simp at hp
  | made path now =>
    cases hres
    cases hb
    rfl

theorem moves_prefetchData {new : NewDataBlock} (hfresh : FreshPath st new)
    (hsync : ∀ b, f.current_data_block = .live b → Synced st b)
    (h : f.prefetchData st new = some (st', f', err)) : Moves st f st' f' := by
  unfold prefetchData at h
  split at h
  · exact moves_switchDataBlock hfresh h
  · cases h
    exact .refl hsync

/-- A write to a block whose position is far below the largest `uint64_t` keeps it in sync. -/
theorem moves_writeToBlock {data : List UInt8} {env : WriteEnv} (hlen : data.length < 2 ^ 31)
    (hfaithful : env.Faithful data)
    (hsync : ∀ b, f.current_data_block = .live b →
      Synced st b ∧ b.current_work_position.toNat < 2 ^ 32)
    (h : f.writeToBlock st data env = some (st', f', err)) : Moves st f st' f' := by
  unfold writeToBlock at h
  split at h
  · rename_i b hb
    obtain ⟨hs, hpos⟩ := hsync b hb
    have hothers : ∀ bytes k, (st k).isSome = true →
        (∀ b, f.current_data_block = .live b → k ≠ b.vfs_path) →
        content (append st b.vfs_path bytes) k = content st k :=
      fun bytes k _ hne => content_append_of_ne (hne b hb)
    have hexist : ∀ bytes k, (st k).isSome = true →
        (append st b.vfs_path bytes k).isSome = true :=
      fun bytes k hk => append_isSome.mpr (Or.inr hk)
    simp only at h
    split at h
    · rename_i herr
      cases h
      have hstored : env.stored = data.length := by simpa [WriteEnv.Faithful, herr] using hfaithful
      refine ⟨grows_append _ _ _, hexist _, hothers _, ?_, ?_⟩
      · intro b' hb'
        cases hb'
        refine ⟨append_isSome.mpr (Or.inl rfl), ?_, hs.bound⟩
        simp only [content_append_self, hstored, List.take_length, List.length_append,
          UInt64.toNat_add, UInt64.toNat_ofNat', ← hs.position]
        omega
      · intro b' hb'
        cases hb'
        exact Or.inl ⟨b, hb, rfl⟩
    · rename_i herr
      cases h
      have hstored : env.stored = 0 := by simpa [WriteEnv.Faithful, herr] using hfaithful
      refine ⟨grows_append _ _ _, hexist _, hothers _, ?_, ?_⟩
      · intro b' hb'
        rw [hb] at hb'
        cases hb'
        refine ⟨append_isSome.mpr (Or.inl rfl), ?_, hs.bound⟩
        simp [hstored, hs.position]
      · intro b' hb'
        exact Or.inl ⟨b', hb', rfl⟩
  · cases h

theorem moves_write {data : List UInt8} {env : WriteEnv} (hlen : data.length < 2 ^ 31)
    (hfaithful : env.Faithful data) (hfresh : FreshPath st env.new)
    (hsync : ∀ b, f.current_data_block = .live b → Synced st b)
    (h : f.write st data env = some (st', f', err)) : Moves st f st' f' := by
  unfold write at h
  split at h
  · cases h
  · rename_i hvalid
    refine moves_writeToBlock hlen hfaithful ?_ h
    intro b hb
    refine ⟨hsync b hb, ?_⟩
    rw [hb] at hvalid
    simp only [isDataBlockValid, Option.some.injEq, decide_eq_true_eq] at hvalid
    have hlt := UInt64.lt_iff_toNat_lt.mp hvalid.2
    have := (hsync b hb).bound
    omega
  · obtain ⟨⟨st₁, f₁, err₁⟩, hswitch, hwrite⟩ := Option.bind_eq_some_iff.mp h
    have hm := moves_switchDataBlock hfresh hswitch
    refine hm.trans (moves_writeToBlock hlen hfaithful ?_ hwrite)
    intro b hb
    refine ⟨hm.synced b hb, ?_⟩
    rw [switchDataBlock_position hswitch hb]
    decide

/-- A pack that goes to a valid block is read back at the position that the block had. -/
theorem slice_write {data : List UInt8} {env : WriteEnv} {b : DataBlock}
    (hb : f.current_data_block = .live b) (hsync : Synced st b)
    (hvalid : isDataBlockValid env.now (.live b) = some true) (hok : env.err = 0)
    (hfaithful : env.Faithful data) (h : f.write st data env = some (st', f', err)) :
    slice st' b.vfs_path b.current_work_position.toNat data.length = data := by
  have hstored : env.stored = data.length := by simpa [WriteEnv.Faithful, hok] using hfaithful
  unfold write writeToBlock at h
  rw [hb, hvalid] at h
  simp only [hok, if_true, Option.some.injEq, Prod.mk.injEq] at h
  rw [← h.1, hstored, List.take_length, hsync.position]
  exact slice_append_end

end VFSDataWriteableFile

end chaos.data_service.vfs
