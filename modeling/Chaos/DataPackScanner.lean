-- The scan of a block of a stage file. The packs of the block are read one after the other into a
-- buffer that grows: first the length, and then what the length says. The number of bytes that were
-- read is also the error of the read.
import Chaos.BlockReads
import Chaos.LittleEndian
import Chaos.Runs

namespace chaos.data_service.indexer

open filestream vfs

/-! ## The block -/

/-- A data block of a stage file that is open for reading. A file has fewer than 2^63 bytes. -/
structure StageBlock where
  stream : FileStream UInt8
  current_work_position : Nat
  max_reacheable_size : Nat
  deriving DecidableEq

/-- An error of the storage driver, none of which is positive. -/
structure DriverError where
  err : Int
  not_positive : err ≤ 0
  deriving DecidableEq

/-- What happens when a block is at its end: the errors of the storage, and whether the database
deletes the block. -/
structure BlockEnd where
  closeJournal : DriverError
  vfsDeleteDataBlock : Bool
  closeBlock : DriverError
  deletePath : DriverError
  deriving DecidableEq

/-- The block stays open although it is at its end, and no error tells. -/
def BlockEnd.Stays (e : BlockEnd) : Prop :=
  e.closeJournal.err = 0 ∧ e.vfsDeleteDataBlock = false

instance (e : BlockEnd) : Decidable e.Stays := inferInstanceAs (Decidable (_ ∧ _))

/-- The result of a read: the current block after it, the bytes that the storage put into the
buffer, if it was asked, and the number that is returned. -/
structure BlockRead where
  current_data_block : Option StageBlock
  bytes : Option (List UInt8)
  ret : Int

namespace StageBlock

/-- `openBlock` takes the size from the file. -/
def openBlock (content : List UInt8) : StageBlock :=
  { stream := { content := content }
    current_work_position := 0
    max_reacheable_size := content.length }

/-- `checkForBlockChange`, for a block that is there. The error of the new state is only logged, and
so is the one of the database. -/
def checkForBlockChange (b : StageBlock) (e : BlockEnd) : Option StageBlock × Int :=
  if b.current_work_position = b.max_reacheable_size then
    if e.closeJournal.err ≠ 0 then (some b, e.closeJournal.err)
    else if e.vfsDeleteDataBlock = false then (some b, 0)
    else if e.closeBlock.err ≠ 0 then (some b, e.closeBlock.err)
    else (none, e.deletePath.err)
  else (some b, 0)

/-- `VFSFile::read`: the bytes in the buffer and the number of those that were read, which is 0 when
the storage reports an error. -/
def readStorage (b : StageBlock) (buffer_len : UInt32) : StageBlock × List UInt8 × UInt32 :=
  let r := PosixStorageDriver.read b.stream buffer_len
  match r.2.2 with
  | .error _ => ({ b with stream := r.1 }, r.2.1, 0)
  | .ok readed_byte =>
    ({ b with
        stream := r.1
        current_work_position := b.current_work_position + readed_byte.toNat }, r.2.1, readed_byte)

/-- `VFSStageReadableFile::read`, with no overlapping of the blocks: the flag is never set. -/
def read (b : StageBlock) (data_len : UInt32) (e : BlockEnd) : BlockRead :=
  match b.checkForBlockChange e with
  | (none, err) => ⟨none, none, err⟩
  | (some b, err) =>
    if err ≠ 0 then ⟨some b, none, err⟩
    else
      let r := b.readStorage data_len
      ⟨some r.1, some r.2.1, r.2.2.toInt32.toInt⟩

end StageBlock

/-! ## The buffer -/

/-- The bytes are written over the ones of the buffer. What goes over its end hits other memory. -/
def overwrite (data : List UInt8) (offset : Nat) (bytes : List UInt8) : List UInt8 :=
  (data.take offset ++ bytes ++ data.drop (offset + bytes.length)).take data.length

@[simp] theorem length_overwrite (data : List UInt8) (offset : Nat) (bytes : List UInt8) :
    (overwrite data offset bytes).length = data.length := by
  simp only [overwrite, List.length_take, List.length_append, List.length_drop]
  omega

/-- Bytes that fit are in the buffer behind the ones before them. -/
theorem take_overwrite {data bytes : List UInt8} {offset : Nat}
    (hfits : offset + bytes.length ≤ data.length) :
    (overwrite data offset bytes).take (offset + bytes.length) = data.take offset ++ bytes := by
  have hlen : (data.take offset ++ bytes).length = offset + bytes.length := by
    rw [List.length_append, List.length_take, Nat.min_eq_left (by omega)]
  unfold overwrite
  rw [List.take_take, Nat.min_eq_left hfits, List.take_append_of_le_length (Nat.le_of_eq hlen.symm),
    List.take_of_length_le (Nat.le_of_eq hlen)]

theorem take_overwrite_offset {data bytes : List UInt8} {offset : Nat}
    (hfits : offset + bytes.length ≤ data.length) :
    (overwrite data offset bytes).take offset = data.take offset := by
  have htake := congrArg (List.take offset) (take_overwrite hfits)
  rwa [List.take_take, Nat.min_eq_left (by omega), List.take_append_of_le_length
    (by rw [List.length_take]; omega), List.take_take, Nat.min_self] at htake

/-- The buffer of the scanner; `none` is NULL. -/
structure DataPackScanner where
  data_buffer : Option (List UInt8)
  curret_data_buffer_len : UInt32
  sized : ∀ data, data_buffer = some data → data.length = curret_data_buffer_len.toNat
  header : 4 ≤ curret_data_buffer_len.toNat

namespace DataPackScanner

/-- The constructor makes place for the length of a pack. -/
def create (memory : Bool) : DataPackScanner where
  data_buffer := if memory then some (List.replicate 4 0) else none
  curret_data_buffer_len := 4
  sized := by
    intro data h
    split_ifs at h
    cases h
    rfl
  header := by decide

/-- `grow`. The bytes that `realloc` adds have no value yet. -/
def grow (s : DataPackScanner) (new_size : UInt32) (memory : Bool) : DataPackScanner :=
  if hless : s.curret_data_buffer_len < new_size then
    { data_buffer :=
        if memory then s.data_buffer.map fun data =>
          data ++ List.replicate (new_size.toNat - data.length) 0
        else none
      curret_data_buffer_len := new_size
      sized := by
        intro data h
        split_ifs at h
        obtain ⟨old, hold, rfl⟩ := Option.map_eq_some_iff.mp h
        have hlen := s.sized old hold
        have hlt := UInt32.lt_iff_toNat_lt.mp hless
        simp only [List.length_append, List.length_replicate]
        omega
      header := by
        have hlt := UInt32.lt_iff_toNat_lt.mp hless
        have hheader := s.header
        omega }
  else s

/-- The storage writes bytes into the buffer. -/
def put (s : DataPackScanner) (offset : Nat) (bytes : List UInt8) : DataPackScanner :=
  { s with
    data_buffer := s.data_buffer.map fun data => overwrite data offset bytes
    sized := by
      intro data h
      obtain ⟨old, hold, rfl⟩ := Option.map_eq_some_iff.mp h
      rw [length_overwrite]
      exact s.sized old hold }

/-- The length in the first four bytes of the buffer. -/
def bsonSize (s : DataPackScanner) : UInt32 :=
  UInt32.ofNat (little_endian.ofBytes ((s.data_buffer.getD []).take 4))

def BSONObjMaxInternalSize : Nat := 16 * 1024 * 1024 + 16 * 1024

/-- The `BSONObj` on the buffer. Its constructor throws when the size is not in its range. -/
def bsonObj (s : DataPackScanner) : Option (List UInt8) :=
  let x := s.bsonSize.toInt32.toInt
  if 0 < x ∧ x ≤ BSONObjMaxInternalSize then some ((s.data_buffer.getD []).take x.toNat) else none

end DataPackScanner

/-! ## The scan -/

/-- What a read of the storage did to the buffer. -/
structure Access where
  null : Bool
  offset : Nat
  written : Nat
  curret_data_buffer_len : UInt32
  deriving DecidableEq

def Access.Safe (a : Access) : Prop :=
  a.null = false ∧ a.offset + a.written ≤ a.curret_data_buffer_len.toNat

instance (a : Access) : Decidable a.Safe := inferInstanceAs (Decidable (_ ∧ _))

/-- How a scan ends: with an error for `endScanHandler`, with an exception, or with an access that
the language leaves undefined. -/
inductive ScanEnd
  | ended (err : Int)
  | thrown
  | undefined
  deriving DecidableEq

/-- A scan in its loop. `calls` keeps the packs that `processDataPack` was called with, and
`accesses` what the reads did. -/
structure Scan where
  scanner : DataPackScanner
  current_data_block : Option StageBlock
  calls : List (List UInt8) := []
  accesses : List Access := []
  result : Option ScanEnd := none

/-- What one turn of the loop gets from outside: what happens when the block is at its end at each
of the two reads, whether there is memory for a buffer, and the error of `processDataPack`. -/
structure TurnEnv where
  header : BlockEnd
  memory : UInt32 → Bool
  body : BlockEnd
  process : Int

/-- `scan` up to its loop, or what it returns. `next` is what `getNextAvailbaleBlock` gives where
the file has no block: an error, and the content of the block. -/
def DataPackScanner.scan (s : DataPackScanner) (current_data_block : Option StageBlock)
    (next : Int × Option (List UInt8)) : Except Int Scan :=
  if s.data_buffer = none then .error (-1)
  else
    let prefetched := match current_data_block with
      | some b => (0, some b)
      | none => (next.1, next.2.map StageBlock.openBlock)
    -- after an error of the prefetch, `has_data` keeps its first value
    if prefetched.1 ≠ 0 then .error 0
    else
      match prefetched.2 with
      | none => .error 0
      | some b => .ok { scanner := s, current_data_block := some b }

namespace Scan

def finish (s : Scan) (result : ScanEnd) : Scan := { s with result := some result }

/-- A read into the buffer. There is a block as long as the loop goes on. -/
def readInto (s : Scan) (offset : Nat) (data_len : UInt32) (e : BlockEnd) : Scan × Int :=
  match s.current_data_block with
  | none => (s, 0)
  | some b =>
    let r := b.read data_len e
    match r.bytes with
    | none => ({ s with current_data_block := r.current_data_block }, r.ret)
    | some bytes =>
      ({ s with
          current_data_block := r.current_data_block
          scanner := s.scanner.put offset bytes
          accesses := s.accesses ++ [{
            null := s.scanner.data_buffer.isNone
            offset := offset
            written := bytes.length
            curret_data_buffer_len := s.scanner.curret_data_buffer_len }] }, r.ret)

/-- All that the reads wrote is in the buffer. -/
def AllSafe (s : Scan) : Prop := ∀ a ∈ s.accesses, a.Safe

instance (s : Scan) : Decidable s.AllSafe := inferInstanceAs (Decidable (∀ a ∈ s.accesses, a.Safe))

/-- The scan with the buffer for the pack whose length was read. -/
def grown (s : Scan) (memory : Bool) : Scan :=
  { s with scanner := s.scanner.grow s.scanner.bsonSize memory }

/-- The call of `processDataPack`. -/
def deliver (s : Scan) (process : Int) : Scan :=
  match s.scanner.bsonObj with
  | none => s.finish .thrown
  | some data_pack =>
    let s := { s with calls := s.calls ++ [data_pack] }
    if process = 0 then s else s.finish (.ended process)

/-- The part of a turn that comes after the length of the pack. -/
def readPack (s : Scan) (env : TurnEnv) : Scan :=
  let read := (s.grown (env.memory s.scanner.bsonSize)).readInto 4 (s.scanner.bsonSize - 4) env.body
  if ¬ read.1.AllSafe then read.1.finish .undefined
  else if read.2 ≤ 0 then read.1.finish (.ended read.2)
  else read.1.deliver env.process

/-- One turn of the loop. The calls that write the journal change nothing here, and
`syncCurrentOffsetToJournal` reports no error. -/
def turn (s : Scan) (env : TurnEnv) : Option Scan :=
  if s.result.isSome then none
  else
    let read := s.readInto 0 4 env.header
    let s := read.1
    if ¬ s.AllSafe then some (s.finish .undefined)
    else if read.2 ≤ 0 then some (s.finish (.ended read.2))
    else some (s.readPack env)

end Scan

/-! ## The reads of a block -/

namespace StageBlock

/-- The bytes of the block that are left. -/
def rest (b : StageBlock) : List UInt8 := b.stream.content.drop b.stream.pos

/-- The block after a read of `n` bytes. -/
def advance (b : StageBlock) (n : Nat) : StageBlock :=
  { b with
    stream := { b.stream with pos := b.stream.pos + n }
    current_work_position := b.current_work_position + n }

/-- A block whose reads have not failed. -/
structure Sound (b : StageBlock) : Prop where
  good : b.stream.good = true
  position : b.current_work_position = b.stream.pos
  size : b.max_reacheable_size = b.stream.content.length
  inside : b.stream.pos ≤ b.stream.content.length

variable {b : StageBlock} {data_len : UInt32} {e : BlockEnd} {n : Nat}

theorem sound_openBlock (content : List UInt8) : (openBlock content).Sound :=
  ⟨rfl, rfl, rfl, Nat.zero_le _⟩

@[simp] theorem length_rest : b.rest.length = b.stream.remaining := List.length_drop ..

@[simp] theorem rest_advance : (b.advance n).rest = b.rest.drop n := by
  simp [rest, advance, List.drop_drop]

theorem Sound.advance (h : b.Sound) (hn : n ≤ b.rest.length) : (b.advance n).Sound := by
  have hinside := h.inside
  rw [length_rest, FileStream.remaining] at hn
  refine ⟨h.good, congrArg (· + n) h.position, h.size, ?_⟩
  simp only [StageBlock.advance]
  omega

theorem Sound.at_end_iff (h : b.Sound) :
    b.current_work_position = b.max_reacheable_size ↔ b.rest = [] := by
  have hinside := h.inside
  rw [h.position, h.size, ← List.length_eq_zero_iff, length_rest, FileStream.remaining]
  omega

theorem Sound.checkForBlockChange (h : b.Sound) (hrest : b.rest ≠ []) :
    b.checkForBlockChange e = (some b, 0) :=
  if_neg (mt h.at_end_iff.mp hrest)

theorem read_of_stays (hcheck : b.checkForBlockChange e = (some b, 0)) :
    b.read data_len e = ⟨some (b.readStorage data_len).1, some (b.readStorage data_len).2.1,
      (b.readStorage data_len).2.2.toInt32.toInt⟩ := by
  unfold read
  rw [hcheck]
  rfl

theorem readStorage_of_lt (h : b.Sound) (hlt : b.rest.length < data_len.toNat) :
    (b.readStorage data_len).2 = (b.rest, 0) := by
  rw [length_rest] at hlt
  unfold readStorage
  rw [PosixStorageDriver.read_of_lt h.good hlt]
  rfl

theorem readStorage_of_le (h : b.Sound) (hle : data_len.toNat ≤ b.rest.length) :
    b.readStorage data_len = (b.advance data_len.toNat, b.rest.take data_len.toNat, data_len) := by
  rw [length_rest] at hle
  unfold readStorage
  rw [PosixStorageDriver.read_of_le h.good hle]
  rfl

/-- At the end of the block nothing is read. The storage is asked only where the block stays. -/
theorem Sound.read_end (h : b.Sound) (hend : b.rest = []) :
    (b.read data_len e).ret ≤ 0 ∧
      (b.read data_len e).bytes = if e.Stays then some [] else none := by
  have hat := h.at_end_iff.mpr hend
  by_cases hstays : e.Stays
  · have hcheck : b.checkForBlockChange e = (some b, 0) := by
      unfold StageBlock.checkForBlockChange
      rw [if_pos hat, if_neg (not_not.mpr hstays.1), if_pos hstays.2]
    rw [read_of_stays hcheck, if_pos hstays]
    rcases Nat.eq_zero_or_pos data_len.toNat with hzero | hpos
    · have hle : data_len.toNat ≤ b.rest.length := by omega
      rw [readStorage_of_le h hle, hend]
      obtain rfl : data_len = 0 := UInt32.toNat_inj.mp hzero
      exact ⟨Int.le_refl 0, rfl⟩
    · have hlt : b.rest.length < data_len.toNat := by
        rw [hend]
        exact hpos
      rw [readStorage_of_lt h hlt, hend]
      exact ⟨Int.le_refl 0, rfl⟩
  · rw [if_neg hstays]
    unfold read StageBlock.checkForBlockChange
    rw [if_pos hat]
    by_cases hjournal : e.closeJournal.err = 0
    · have hdelete : e.vfsDeleteDataBlock ≠ false := fun hdelete => hstays ⟨hjournal, hdelete⟩
      rw [if_neg (not_not.mpr hjournal), if_neg hdelete]
      by_cases hclose : e.closeBlock.err = 0
      · rw [if_neg (not_not.mpr hclose)]
        exact ⟨e.deletePath.not_positive, rfl⟩
      · rw [if_pos hclose]
        dsimp only
        rw [if_pos hclose]
        exact ⟨e.closeBlock.not_positive, rfl⟩
    · rw [if_pos hjournal]
      dsimp only
      rw [if_pos hjournal]
      exact ⟨e.closeJournal.not_positive, rfl⟩

/-- A read that finds too few bytes puts them into the buffer and returns 0. -/
theorem Sound.read_short (h : b.Sound) (hrest : b.rest ≠ [])
    (hlt : b.rest.length < data_len.toNat) :
    (b.read data_len e).ret = 0 ∧ (b.read data_len e).bytes = some b.rest := by
  rw [read_of_stays (h.checkForBlockChange hrest), readStorage_of_lt h hlt]
  exact ⟨rfl, rfl⟩

theorem Sound.read_whole (h : b.Sound) (hrest : b.rest ≠ [])
    (hle : data_len.toNat ≤ b.rest.length) :
    b.read data_len e =
      ⟨some (b.advance data_len.toNat), some (b.rest.take data_len.toNat),
        data_len.toInt32.toInt⟩ := by
  rw [read_of_stays (h.checkForBlockChange hrest), readStorage_of_le h hle]

/-- The bytes that a read puts into the buffer, whatever it returns. -/
theorem Sound.bytes_read (h : b.Sound) (data_len : UInt32) (e : BlockEnd) :
    (b.read data_len e).bytes =
    if b.rest = [] ∧ ¬ e.Stays then none else some (b.rest.take data_len.toNat) := by
  by_cases hrest : b.rest = []
  · rw [(h.read_end hrest).2]
    by_cases hstays : e.Stays <;> simp [hrest, hstays]
  · rw [if_neg fun hend => hrest hend.1]
    rcases Nat.lt_or_ge b.rest.length data_len.toNat with hlt | hle
    · rw [(h.read_short hrest hlt).2, List.take_of_length_le hlt.le]
    · rw [h.read_whole hrest hle]

/-- A read that returns a positive number has found all its bytes. -/
theorem Sound.whole_of_ret_pos (h : b.Sound) (hret : 0 < (b.read data_len e).ret) :
    b.rest ≠ [] ∧ data_len.toNat ≤ b.rest.length := by
  by_cases hrest : b.rest = []
  · have hend : (b.read data_len e).ret ≤ 0 := (h.read_end hrest).1
    omega
  · refine ⟨hrest, ?_⟩
    by_contra hlt
    rw [(h.read_short hrest (Nat.lt_of_not_le hlt)).1] at hret
    cases hret

end StageBlock

/-! ## The buffer of a scan -/

namespace DataPackScanner

variable {s : DataPackScanner} {data : List UInt8} {memory : Bool} {new_size : UInt32}

/-- The number in the first four bytes. -/
def sizeField (bytes : List UInt8) : Nat := little_endian.ofBytes (bytes.take 4)

theorem sizeField_lt (bytes : List UInt8) : sizeField bytes < 2 ^ 32 := by
  refine (little_endian.ofBytes_lt _).trans_le ?_
  rw [List.length_take]
  exact Nat.pow_le_pow_right (by decide) (Nat.min_le_left 4 _)

theorem toNat_bsonSize (hbuffer : s.data_buffer = some data) :
    s.bsonSize.toNat = sizeField data := by
  unfold bsonSize
  rw [hbuffer, Option.getD_some, UInt32.toNat_ofNat']
  exact Nat.mod_eq_of_lt (sizeField_lt data)

theorem sizeField_append {bytes more : List UInt8} (hlen : 4 ≤ bytes.length) :
    sizeField (bytes ++ more) = sizeField bytes := by
  unfold sizeField
  rw [List.take_append_of_le_length hlen]

/-- What `grow` makes of the buffer. -/
theorem grow_cases (hbuffer : s.data_buffer = some data) (new_size : UInt32) (memory : Bool) :
    (new_size.toNat ≤ s.curret_data_buffer_len.toNat ∧ s.grow new_size memory = s) ∨
    (s.curret_data_buffer_len.toNat < new_size.toNat ∧
      (s.grow new_size memory).curret_data_buffer_len = new_size ∧
      (s.grow new_size memory).data_buffer =
        if memory then some (data ++ List.replicate (new_size.toNat - data.length) 0)
        else none) := by
  by_cases hless : s.curret_data_buffer_len < new_size
  · rw [grow, dif_pos hless]
    refine .inr ⟨UInt32.lt_iff_toNat_lt.mp hless, rfl, ?_⟩
    dsimp only
    rw [hbuffer]
    rfl
  · rw [grow, dif_neg hless]
    rw [UInt32.lt_iff_toNat_lt] at hless
    exact .inl ⟨Nat.le_of_not_lt hless, rfl⟩

theorem bsonObj_eq (hbuffer : s.data_buffer = some data) :
    s.bsonObj = if 0 < sizeField data ∧ sizeField data ≤ BSONObjMaxInternalSize then
      some (data.take (sizeField data)) else none := by
  have hlt := sizeField_lt data
  unfold bsonObj BSONObjMaxInternalSize
  rw [little_endian.toInt_toInt32, toNat_bsonSize hbuffer, hbuffer, Option.getD_some]
  dsimp only
  by_cases hlow : sizeField data < 2 ^ 31
  · rw [if_pos hlow, Int.toNat_natCast]
    by_cases hrange : 0 < sizeField data ∧ sizeField data ≤ 16 * 1024 * 1024 + 16 * 1024
    · rw [if_pos hrange, if_pos (by omega)]
    · rw [if_neg hrange, if_neg (by omega)]
  · rw [if_neg hlow, if_neg (by omega), if_neg (by omega)]

end DataPackScanner

end chaos.data_service.indexer
