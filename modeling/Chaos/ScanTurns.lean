-- One turn of the scan of a stage block: when it delivers a pack, when the scan ends, and when the
-- bytes that it reads stay in the buffer.
import Chaos.DataPackScanner

namespace chaos.data_service.indexer

open filestream vfs

/-! ## The turns -/

namespace Scan

open DataPackScanner

variable {s t : Scan} {b : StageBlock} {data : List UInt8} {env : TurnEnv} {offset : Nat}
  {data_len : UInt32} {e : BlockEnd}

/-- The scan is in its loop. -/
structure InLoop (s : Scan) (b : StageBlock) (data : List UInt8) : Prop where
  running : s.result = none
  block : s.current_data_block = some b
  sound : b.Sound
  buffer : s.scanner.data_buffer = some data
  safe : s.AllSafe

/-- A finished scan makes no further turn. -/
theorem turn_of_end (hend : s.result.isSome) : s.turn env = none := by
  unfold turn
  rw [if_pos hend]

/-- A read where the storage is not asked leaves the buffer alone. -/
theorem readInto_of_none (hblock : s.current_data_block = some b)
    (hbytes : (b.read data_len e).bytes = none) :
    s.readInto offset data_len e =
      ({ s with current_data_block := (b.read data_len e).current_data_block },
        (b.read data_len e).ret) := by
  unfold readInto
  rw [hblock]
  dsimp only
  rw [hbytes]

theorem readInto_of_some {bytes : List UInt8} (hblock : s.current_data_block = some b)
    (hbytes : (b.read data_len e).bytes = some bytes) :
    s.readInto offset data_len e =
      ({ s with
          current_data_block := (b.read data_len e).current_data_block
          scanner := s.scanner.put offset bytes
          accesses := s.accesses ++ [⟨s.scanner.data_buffer.isNone, offset, bytes.length,
            s.scanner.curret_data_buffer_len⟩] }, (b.read data_len e).ret) := by
  unfold readInto
  rw [hblock]
  dsimp only
  rw [hbytes]

/-- When all accesses of a read are in the buffer. -/
theorem allSafe_readInto (hsafe : s.AllSafe) (hblock : s.current_data_block = some b)
    (hsound : b.Sound) : (s.readInto offset data_len e).1.AllSafe ↔
      (b.rest = [] ∧ ¬ e.Stays) ∨ (s.scanner.data_buffer.isNone = false ∧
        offset + min data_len.toNat b.rest.length ≤ s.scanner.curret_data_buffer_len.toNat) := by
  have hbytes := hsound.bytes_read data_len e
  split_ifs at hbytes with hend
  · rw [readInto_of_none hblock hbytes]
    exact iff_of_true hsafe (.inl hend)
  · rw [readInto_of_some hblock hbytes, or_iff_right hend]
    simp only [AllSafe, List.forall_mem_append, List.forall_mem_singleton, Access.Safe,
      List.length_take]
    exact and_iff_right hsafe

/-- The scan after the length of a pack was read. -/
def afterHeader (s : Scan) (b : StageBlock) : Scan :=
  { s with
    current_data_block := some (b.advance 4)
    scanner := s.scanner.put 0 (b.rest.take 4)
    accesses := s.accesses ++ [⟨false, 0, 4, s.scanner.curret_data_buffer_len⟩] }

@[simp] theorem calls_readInto : (s.readInto offset data_len e).1.calls = s.calls := by
  unfold readInto
  split
  · rfl
  · dsimp only
    split <;> rfl

theorem ret_readInto (hblock : s.current_data_block = some b) :
    (s.readInto offset data_len e).2 = (b.read data_len e).ret := by
  unfold readInto
  rw [hblock]
  dsimp only
  split <;> rfl

/-- The four bytes of the length always fit. -/
theorem InLoop.allSafe_header (h : InLoop s b data) : (s.readInto 0 4 e).1.AllSafe := by
  have hheader := s.scanner.header
  refine (allSafe_readInto h.safe h.block h.sound).mpr (.inr ⟨?_, ?_⟩)
  · rw [h.buffer]
    rfl
  · rw [Nat.zero_add]
    exact (Nat.min_le_left 4 _).trans hheader

/-- With fewer than four bytes left the scan ends, and no byte went outside the buffer. -/
theorem InLoop.turn_end (h : InLoop s b data) (env : TurnEnv) (hrest : b.rest.length < 4) :
    ∃ t, s.turn env = some t ∧ t.result.isSome ∧ t.calls = s.calls ∧ t.AllSafe := by
  have hsafe : (s.readInto 0 4 env.header).1.AllSafe := h.allSafe_header
  have hret : (s.readInto 0 4 env.header).2 ≤ 0 := by
    rw [ret_readInto h.block]
    by_contra hpos
    have := (h.sound.whole_of_ret_pos (Int.not_le.mp hpos)).2
    exact absurd this (Nat.not_le.mpr hrest)
  unfold turn
  rw [h.running, if_neg (by simp)]
  dsimp only
  rw [if_neg (not_not.mpr hsafe), if_pos hret]
  exact ⟨_, rfl, rfl, calls_readInto, hsafe⟩

/-- With four bytes left the length of a pack is read. -/
theorem InLoop.turn_header (h : InLoop s b data) (env : TurnEnv) (hrest : 4 ≤ b.rest.length) :
    s.turn env = some ((s.afterHeader b).readPack env) ∧
      InLoop (s.afterHeader b) (b.advance 4) (overwrite data 0 (b.rest.take 4)) ∧
      (overwrite data 0 (b.rest.take 4)).take 4 = b.rest.take 4 := by
  have hne : b.rest ≠ [] := by
    intro hnil
    rw [hnil] at hrest
    cases hrest
  have hread : b.read 4 env.header = ⟨some (b.advance 4), some (b.rest.take 4), 4⟩ :=
    h.sound.read_whole hne hrest
  have hlen : (b.rest.take 4).length = 4 := by
    rw [List.length_take]
    exact Nat.min_eq_left hrest
  have hinto : s.readInto 0 4 env.header = (s.afterHeader b, 4) := by
    rw [readInto_of_some h.block (congrArg BlockRead.bytes hread), hread, hlen, h.buffer]
    rfl
  have hsafe : (s.afterHeader b).AllSafe := by
    have hheader : (s.readInto 0 4 env.header).1.AllSafe := h.allSafe_header
    rwa [hinto] at hheader
  have hbuffer : (s.afterHeader b).scanner.data_buffer =
      some (overwrite data 0 (b.rest.take 4)) := by
    change s.scanner.data_buffer.map _ = _
    rw [h.buffer]
    rfl
  refine ⟨?_, ⟨h.running, rfl, h.sound.advance hrest, hbuffer, hsafe⟩, ?_⟩
  · unfold turn
    rw [h.running, if_neg (by simp)]
    dsimp only
    rw [hinto, if_neg (not_not.mpr hsafe), if_neg (show ¬ (4 : Int) ≤ 0 by decide)]
  · have hdata := s.scanner.sized data h.buffer
    have hheader := s.scanner.header
    have htake : (overwrite data 0 (b.rest.take 4)).take (0 + (b.rest.take 4).length) =
        b.rest.take 4 := take_overwrite (by omega)
    rwa [hlen] at htake

theorem accesses_deliver (s : Scan) (process : Int) :
    (s.deliver process).accesses = s.accesses := by
  unfold deliver
  split
  · rfl
  · dsimp only
    split_ifs <;> rfl

theorem accesses_readPack : (s.readPack env).accesses =
    ((s.grown (env.memory s.scanner.bsonSize)).readInto 4 (s.scanner.bsonSize - 4)
      env.body).1.accesses := by
  unfold readPack
  dsimp only
  split_ifs <;> first | rfl | exact accesses_deliver _ _

/-- A pack whose length is less than its own four bytes fits when the rest of the block does. A
longer one fits when there is memory for it, or when the block is over and nothing is read. -/
def PackFits (len size left : Nat) (memory : Bool) (e : BlockEnd) : Prop :=
  (size < 4 → 4 + left ≤ len) ∧ (len < size → memory = true ∨ left = 0 ∧ ¬ e.Stays)

instance (len size left : Nat) (memory : Bool) (e : BlockEnd) :
    Decidable (PackFits len size left memory e) := inferInstanceAs (Decidable (_ ∧ _))

theorem PackFits.memory {len size left : Nat} {memory : Bool} (h : PackFits len size left memory e)
    (hleft : 0 < left) (hless : len < size) : memory = true := by
  rcases h.2 hless with hmemory | ⟨hnil, -⟩
  · exact hmemory
  · exact absurd hnil (Nat.ne_of_gt hleft)

/-- How many bytes are asked for. -/
theorem InLoop.toNat_asked (h : InLoop s b data) : (s.scanner.bsonSize - 4).toNat =
    if sizeField data < 4 then 2 ^ 32 + sizeField data - 4 else sizeField data - 4 := by
  have hlt := sizeField_lt data
  rw [UInt32.toNat_sub, toNat_bsonSize h.buffer, show (4 : UInt32).toNat = 4 from rfl]
  split_ifs <;> omega

/-- The bytes of a pack go into the buffer just when the pack fits. -/
theorem InLoop.allSafe_body (h : InLoop s b data) :
    ((s.grown (env.memory s.scanner.bsonSize)).readInto 4 (s.scanner.bsonSize - 4)
      env.body).1.AllSafe ↔ PackFits s.scanner.curret_data_buffer_len.toNat (sizeField data)
        b.rest.length (env.memory s.scanner.bsonSize) env.body := by
  have hheader := s.scanner.header
  have hsize := toNat_bsonSize h.buffer
  have hlt := sizeField_lt data
  have hlen := s.scanner.curret_data_buffer_len.toNat_lt
  rw [allSafe_readInto (s := s.grown (env.memory s.scanner.bsonSize)) h.safe h.block h.sound,
    h.toNat_asked]
  unfold PackFits grown
  rw [List.length_eq_zero_iff]
  generalize env.memory s.scanner.bsonSize = memory
  rcases grow_cases h.buffer s.scanner.bsonSize memory with
    ⟨hle, hsame⟩ | ⟨hless, hnew, hbuffer⟩
  · -- the buffer stays as it is
    rw [hsame, h.buffer]
    rw [hsize] at hle
    simp only [Option.isNone_some, true_and]
    by_cases hend : b.rest = [] ∧ ¬ env.body.Stays
    · refine iff_of_true (.inl hend) ⟨fun _ => ?_, fun _ => .inr hend⟩
      rw [hend.1]
      exact hheader
    · rw [or_iff_right hend]
      split_ifs with hsmall
      · constructor
        · intro hfits
          exact ⟨fun _ => by omega, fun hless => by omega⟩
        · rintro ⟨hfits, -⟩
          have := hfits hsmall
          omega
      · refine iff_of_true (by omega) ⟨fun hless => absurd hless hsmall, fun hless => by omega⟩
  · -- a new buffer, or none
    rw [hsize] at hless
    rw [hnew, hbuffer, hsize, if_neg (show ¬ sizeField data < 4 by omega)]
    by_cases hend : b.rest = [] ∧ ¬ env.body.Stays
    · exact iff_of_true (.inl hend) ⟨fun hsmall => by omega, fun _ => .inr hend⟩
    · rw [or_iff_right hend]
      cases memory with
      | true => exact iff_of_true ⟨rfl, by omega⟩ ⟨fun hsmall => by omega, fun _ => .inl rfl⟩
      | false =>
        refine iff_of_false (fun hfits => by simp at hfits) ?_
        rintro ⟨-, hfits⟩
        rcases hfits hless with hmemory | hend'
        · cases hmemory
        · exact hend hend'

theorem InLoop.allSafe_readPack (h : InLoop s b data) (env : TurnEnv) : (s.readPack env).AllSafe ↔
    PackFits s.scanner.curret_data_buffer_len.toNat (sizeField data) b.rest.length
      (env.memory s.scanner.bsonSize) env.body := by
  rw [← h.allSafe_body]
  unfold AllSafe
  rw [accesses_readPack]

/-- Where there is memory, the buffer holds the whole pack. -/
theorem InLoop.grown_buffer (h : InLoop s b data) {memory : Bool}
    (hmemory : s.scanner.curret_data_buffer_len.toNat < sizeField data → memory = true) :
    ∃ grown, (s.grown memory).scanner.data_buffer = some grown ∧
      sizeField data ≤ grown.length ∧ grown.take 4 = data.take 4 := by
  have hsize := toNat_bsonSize h.buffer
  have hdata := s.scanner.sized data h.buffer
  have hheader := s.scanner.header
  unfold Scan.grown
  rcases grow_cases h.buffer s.scanner.bsonSize memory with
    ⟨hle, hsame⟩ | ⟨hless, -, hbuffer⟩
  · rw [hsame]
    exact ⟨data, h.buffer, by omega, rfl⟩
  · rw [hbuffer, if_pos (hmemory (by omega))]
    refine ⟨_, rfl, ?_, List.take_append_of_le_length (by omega)⟩
    rw [List.length_append, List.length_replicate]
    omega

/-- The scan after the bytes of a pack were read. -/
def afterBody (s : Scan) (b : StageBlock) (memory : Bool) (size : Nat) : Scan :=
  { s.grown memory with
    current_data_block := some (b.advance (size - 4))
    scanner := (s.grown memory).scanner.put 4 (b.rest.take (size - 4))
    accesses := s.accesses ++ [⟨(s.grown memory).scanner.data_buffer.isNone, 4,
      (b.rest.take (size - 4)).length, (s.grown memory).scanner.curret_data_buffer_len⟩] }

/-- The bytes of a whole pack are read. -/
theorem InLoop.readInto_body (h : InLoop s b data) (env : TurnEnv) (hfive : 5 ≤ sizeField data)
    (hwhole : sizeField data ≤ 4 + b.rest.length) :
    (s.grown (env.memory s.scanner.bsonSize)).readInto 4 (s.scanner.bsonSize - 4) env.body =
      (s.afterBody b (env.memory s.scanner.bsonSize) (sizeField data),
        (s.scanner.bsonSize - 4).toInt32.toInt) := by
  have hasked := h.toNat_asked
  rw [if_neg (by omega)] at hasked
  have hne : b.rest ≠ [] := by
    intro hnil
    rw [hnil, List.length_nil] at hwhole
    omega
  have hread : b.read (s.scanner.bsonSize - 4) env.body = _ := h.sound.read_whole hne (by omega)
  rw [hasked] at hread
  have hblock : (s.grown (env.memory s.scanner.bsonSize)).current_data_block = some b := h.block
  rw [readInto_of_some hblock (congrArg BlockRead.bytes hread), hread]
  rfl

/-- The buffer holds the four bytes of the length and the bytes that come after them. -/
theorem InLoop.buffer_afterBody (h : InLoop s b data) {memory : Bool} (hfive : 5 ≤ sizeField data)
    (hwhole : sizeField data ≤ 4 + b.rest.length)
    (hmemory : s.scanner.curret_data_buffer_len.toNat < sizeField data → memory = true) :
    (∃ data', (s.afterBody b memory (sizeField data)).scanner.data_buffer = some data') ∧
      (s.afterBody b memory (sizeField data)).scanner.bsonObj =
        if sizeField data ≤ BSONObjMaxInternalSize then
          some (data.take 4 ++ b.rest.take (sizeField data - 4)) else none := by
  obtain ⟨grown, hgrown, hlen, hfirst⟩ := h.grown_buffer hmemory
  have hbytes : (b.rest.take (sizeField data - 4)).length = sizeField data - 4 := by
    rw [List.length_take]
    exact Nat.min_eq_left (by omega)
  have hfit : 4 + (b.rest.take (sizeField data - 4)).length ≤ grown.length := by
    rw [hbytes]
    omega
  have hbuffer : (s.afterBody b memory (sizeField data)).scanner.data_buffer =
      some (overwrite grown 4 (b.rest.take (sizeField data - 4))) := by
    change (s.grown memory).scanner.data_buffer.map _ = _
    rw [hgrown]
    rfl
  have hsize : sizeField (overwrite grown 4 (b.rest.take (sizeField data - 4))) =
      sizeField data :=
    congrArg little_endian.ofBytes ((take_overwrite_offset hfit).trans hfirst)
  refine ⟨⟨_, hbuffer⟩, ?_⟩
  rw [bsonObj_eq hbuffer, hsize]
  by_cases hmax : sizeField data ≤ BSONObjMaxInternalSize
  · rw [if_pos ⟨by omega, hmax⟩, if_pos hmax, ← hfirst, ← take_overwrite hfit, hbytes]
    exact congrArg (fun n => some (List.take n _)) (by omega)
  · rw [if_neg fun hrange => hmax hrange.2, if_neg hmax]

/-- A pack whose length is in the buffer is delivered when it is whole and its size is allowed. -/
theorem InLoop.readPack_whole (h : InLoop s b data) (hfive : 5 ≤ sizeField data)
    (hwhole : sizeField data ≤ 4 + b.rest.length)
    (hmax : sizeField data ≤ BSONObjMaxInternalSize)
    (hmemory : s.scanner.curret_data_buffer_len.toNat < sizeField data →
      env.memory s.scanner.bsonSize = true) :
    ∃ s' data', s.readPack env =
        (if env.process = 0 then s' else s'.finish (.ended env.process)) ∧
      InLoop s' (b.advance (sizeField data - 4)) data' ∧
      s'.calls = s.calls ++ [data.take 4 ++ b.rest.take (sizeField data - 4)] := by
  have hbody := h.readInto_body env hfive hwhole
  have hsafe : (s.afterBody b (env.memory s.scanner.bsonSize) (sizeField data)).AllSafe := by
    have hfits := h.allSafe_body.mpr ⟨fun hsmall => by omega, fun hless => .inl (hmemory hless)⟩
    rwa [hbody] at hfits
  have hret : ¬ (s.scanner.bsonSize - 4).toInt32.toInt ≤ 0 := by
    unfold BSONObjMaxInternalSize at hmax
    rw [little_endian.toInt_toInt32, h.toNat_asked]
    split_ifs <;> omega
  obtain ⟨⟨data', hbuffer⟩, hpack⟩ := h.buffer_afterBody hfive hwhole hmemory
  rw [if_pos hmax] at hpack
  refine ⟨{ s.afterBody b (env.memory s.scanner.bsonSize) (sizeField data) with
      calls := s.calls ++ [data.take 4 ++ b.rest.take (sizeField data - 4)] }, data', ?_,
    ⟨h.running, rfl, h.sound.advance (by omega), hbuffer, hsafe⟩, rfl⟩
  unfold readPack deliver
  rw [hbody]
  dsimp only
  rw [if_neg (not_not.mpr hsafe), if_neg hret, hpack]
  rfl

/-- A read that does not stay in the buffer is the last one. -/
theorem readPack_of_unsafe (hout : ¬ ((s.grown (env.memory s.scanner.bsonSize)).readInto 4
    (s.scanner.bsonSize - 4) env.body).1.AllSafe) :
    (s.readPack env).result.isSome ∧ (s.readPack env).calls = s.calls := by
  unfold readPack
  dsimp only
  rw [if_pos hout]
  exact ⟨rfl, calls_readInto⟩

/-- Otherwise the scan ends with no further pack. -/
theorem InLoop.readPack_rest (h : InLoop s b data)
    (hnot : ¬ (5 ≤ sizeField data ∧ sizeField data ≤ 4 + b.rest.length ∧
      sizeField data ≤ BSONObjMaxInternalSize)) :
    (s.readPack env).result.isSome ∧ (s.readPack env).calls = s.calls := by
  by_cases hsafe : ((s.grown (env.memory s.scanner.bsonSize)).readInto 4 (s.scanner.bsonSize - 4)
      env.body).1.AllSafe
  · unfold readPack
    dsimp only
    rw [if_neg (not_not.mpr hsafe)]
    by_cases hret : ((s.grown (env.memory s.scanner.bsonSize)).readInto 4
        (s.scanner.bsonSize - 4) env.body).2 ≤ 0
    · rw [if_pos hret]
      exact ⟨rfl, calls_readInto⟩
    · -- all bytes are there, and the size is not allowed
      have hblock : (s.grown (env.memory s.scanner.bsonSize)).current_data_block = some b := h.block
      have hpos := hret
      rw [ret_readInto hblock, Int.not_le] at hpos
      obtain ⟨hne, hle⟩ := h.sound.whole_of_ret_pos hpos
      have hasked := h.toNat_asked
      rw [h.sound.read_whole hne hle] at hpos
      dsimp only at hpos
      rw [little_endian.toInt_toInt32] at hpos
      have hlt := sizeField_lt data
      have hfive : 5 ≤ sizeField data := by
        by_contra hsmall
        split_ifs at hasked hpos <;> omega
      rw [if_neg (by omega)] at hasked
      have hwhole : sizeField data ≤ 4 + b.rest.length := by omega
      have hmax : ¬ sizeField data ≤ BSONObjMaxInternalSize := fun hmax =>
        hnot ⟨hfive, hwhole, hmax⟩
      have hmemory : s.scanner.curret_data_buffer_len.toNat < sizeField data →
          env.memory s.scanner.bsonSize = true :=
        (h.allSafe_body.mp hsafe).memory (List.length_pos_iff.mpr hne)
      have hpack := (h.buffer_afterBody hfive hwhole hmemory).2
      rw [if_neg hmax] at hpack
      rw [if_neg hret, h.readInto_body env hfive hwhole]
      unfold deliver
      rw [hpack]
      exact ⟨rfl, rfl⟩
  · exact readPack_of_unsafe hsafe

end Scan

end chaos.data_service.indexer
