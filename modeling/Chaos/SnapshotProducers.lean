-- The producers of a new snapshot. The client joins their keys with commas and sends the text as
-- the data of a pack, with its size in 32 bits, and the job of the server splits it again. Without
-- data the job takes all producers.
import Chaos.DeviceChannel
import Chaos.Tokens

namespace chaos.common.direct_io.channel.system_api

open little_endian ZMQDirectIOServer

/-! ## The client -/

def DIOSystemAPI_Channel_Index : UInt8 := 4

def SystemAPIChannelOpcodeNewSnapshotDataset : UInt8 := 1

def SYSTEM_API_CHANNEL_NEW_Snapshot : UInt32 := 256 + 4 + 4

/-- The byte `,`. -/
def comma : UInt8 := 44

/-- The keys in a row, with a comma after each but the last. -/
def producerKeyConcatenation : List (List UInt8) → List UInt8
  | [] => []
  | [key] => key
  | key :: next :: keys => key ++ comma :: producerKeyConcatenation (next :: keys)

/-- The header has room for 256 bytes of the name, and for the type of the channel, which is not
set here. -/
def newSnapshotHeader (snapshot_name : List UInt8) (producer_key_set_len : UInt32) : List UInt8 :=
  snapshot_name ++ (List.replicate (256 - snapshot_name.length) 0 ++
    (toBytes 4 0 ++ toBytes 4 producer_key_set_len.toNat))

def newSnapshotPack (snapshot_name : List UInt8) (producer_key_set_len : UInt32) :
    DirectIODataPack :=
  { DirectIODataPack.zero with
    dispatcher_header := { DirectIODataPack.zero.dispatcher_header with
      channel_opcode := SystemAPIChannelOpcodeNewSnapshotDataset } }.setChannelHeader
    (newSnapshotHeader snapshot_name producer_key_set_len) SYSTEM_API_CHANNEL_NEW_Snapshot

/-- `makeNewDatasetSnapshot`, up to the pack that the connection to `endpoint` writes to its
socket, or its error. -/
def makeNewDatasetSnapshot (endpoint : UInt16) (snapshot_name : List UInt8)
    (producer_keys : List (List UInt8)) : Except Int DirectIODataPack :=
  if 255 < snapshot_name.length then .error (-1000)
  else
    .ok (completeDataPack endpoint DIOSystemAPI_Channel_Index true
      (if producer_keys ≠ [] then
        let concatenation := producerKeyConcatenation producer_keys
        let size := UInt32.ofNat concatenation.length
        (newSnapshotPack snapshot_name size).setChannelData concatenation size
      else newSnapshotPack snapshot_name 0))

/-! ## The server -/

/-- The job of a new snapshot. Its memory is null and its size 0 as long as they are not set. -/
structure SnapshotCreationJob where
  snapshot_name : List UInt8
  concatenated_unique_id_memory : Option (List UInt8) := none
  concatenated_unique_id_memory_size : UInt32 := 0
  deriving DecidableEq

/-- `consumeNewSnapshotEvent` of a server that is not in cache only mode, up to the job that it
submits. -/
def consumeNewSnapshotEvent (header : List UInt8) (concatenated_unique_id_memory : Option
    (List UInt8)) (concatenated_unique_id_memory_size : UInt32) : SnapshotCreationJob :=
  let job : SnapshotCreationJob := { snapshot_name := (header.take 256).takeWhile (· ≠ 0) }
  if concatenated_unique_id_memory_size ≠ 0 ∧ concatenated_unique_id_memory.isSome then
    { job with concatenated_unique_id_memory, concatenated_unique_id_memory_size }
  else job

/-- The branch of `consumeDataPack` for a new snapshot. The header is read, which is undefined
where there is none. -/
def consumeNewSnapshotDataset (pack : DirectIODataPack) : Option SnapshotCreationJob :=
  if pack.dispatcher_header.channel_opcode = SystemAPIChannelOpcodeNewSnapshotDataset then
    pack.channel_header_data.map fun header =>
      consumeNewSnapshotEvent header pack.channel_data pack.channel_data_size
  else none

/-- What a job makes its snapshot on. -/
inductive SnappedProducers where
  | given (snapped_producer_keys : List (List UInt8))
  | all
  deriving DecidableEq

/-- The start of `executeJob`: the keys of the job, or the ones of `getAllDeviceID`. -/
def executeJobKeys (job : SnapshotCreationJob) : SnappedProducers :=
  let snapped_producer_keys :=
    if job.concatenated_unique_id_memory_size ≠ 0 then
      tokens.split (· == comma) ((job.concatenated_unique_id_memory.getD []).take
        job.concatenated_unique_id_memory_size.toNat)
    else []
  if snapped_producer_keys.length ≠ 0 then .given snapped_producer_keys else .all

/-! ## The round trip -/

/-- What the jobs are made on that come of the packs of a server. -/
def snappedProducers (w : ZMQDirectIOServer) : List (Option SnappedProducers) :=
  (dispatchedPacks w).map fun pack => (consumeNewSnapshotDataset pack).map executeJobKeys

/-- The request that a client sends on a socket with an identity makes one job on the producers
that were given, in their order. -/
def ProducersArrive (delegate : DirectIODataPack → Handled) (identity : List UInt8)
    (pack : DirectIODataPack) (producer_keys : List (List UInt8)) : Prop :=
  snappedProducers (worker delegate ((identity :: pack.writeToSocket).map Recv.part)) =
    [some (.given producer_keys)]

/-- A key is not empty, and has no comma. -/
structure ProducerKey where
  key : List UInt8
  not_empty : key ≠ []
  no_comma : comma ∉ key

/-! ## The text of the keys -/

variable {keys : List ProducerKey}

theorem key_free (k : ProducerKey) : ∀ c ∈ k.key, (c == comma) = false := by
  intro c hc
  rw [beq_eq_false_iff_ne]
  rintro rfl
  exact k.no_comma hc

/-- The text does not start with a comma. -/
theorem head_concatenation (k : ProducerKey) (keys : List ProducerKey) :
    (producerKeyConcatenation ((k :: keys).map (·.key))).head?.any (· == comma) = false := by
  obtain ⟨c, cs, hkey⟩ := List.exists_cons_of_ne_nil k.not_empty
  have hc := key_free k c (hkey ▸ List.mem_cons_self)
  cases keys <;> simpa [producerKeyConcatenation, hkey] using hc

/-- The keys are the tokens of their text. -/
theorem split_concatenation (hkeys : keys ≠ []) :
    tokens.split (· == comma) (producerKeyConcatenation (keys.map (·.key))) =
      keys.map (·.key) := by
  induction keys with
  | nil => exact absurd rfl hkeys
  | cons k keys ih =>
    cases keys with
    | nil => exact tokens.split_of_free (key_free k)
    | cons next keys =>
      have hrest := ih (List.cons_ne_nil next keys)
      refine Eq.trans ?_ (congrArg (k.key :: ·) hrest)
      exact tokens.split_append_cons (key_free k) (beq_self_eq_true comma)
        (head_concatenation next keys)

/-- The keys and the commas between them make up the text. -/
theorem length_concatenation (hkeys : keys ≠ []) :
    ((keys.map (·.key)).map List.length).sum + (keys.map (·.key)).length =
      (producerKeyConcatenation (keys.map (·.key))).length + 1 := by
  induction keys with
  | nil => exact absurd rfl hkeys
  | cons k keys ih =>
    cases keys with
    | nil => simp [producerKeyConcatenation]
    | cons next keys =>
      have hrest := ih (List.cons_ne_nil next keys)
      simp only [List.map_cons, List.sum_cons, List.length_cons, producerKeyConcatenation,
        List.length_append] at hrest ⊢
      omega

theorem length_concatenation_pos (hkeys : keys ≠ []) :
    0 < (producerKeyConcatenation (keys.map (·.key))).length := by
  obtain ⟨k, keys, rfl⟩ := List.exists_cons_of_ne_nil hkeys
  have hkey := List.length_pos_of_ne_nil k.not_empty
  cases keys with
  | nil => exact hkey
  | cons next keys =>
    simp only [List.map_cons, producerKeyConcatenation, List.length_append]
    omega

/-- Of a text that is cut, the keys do not come back. -/
theorem split_take_ne (hkeys : keys ≠ []) {size : Nat}
    (hsize : size < (producerKeyConcatenation (keys.map (·.key))).length) :
    tokens.split (· == comma) ((producerKeyConcatenation (keys.map (·.key))).take size) ≠
      keys.map (·.key) := by
  intro heq
  have hle := tokens.sum_length_split_le (· == comma)
    ((producerKeyConcatenation (keys.map (·.key))).take size)
  rw [heq, length_concatenation hkeys, List.length_take] at hle
  omega

/-! ## The round trip of a pack -/

/-- The job takes the keys of the data, as far as the size goes. -/
theorem snapped_of_data (delegate : DirectIODataPack → Handled) (identity : List UInt8)
    (endpoint : UInt16) (snapshot_name : List UInt8) (concatenation : List UInt8)
    (size : UInt32) :
    snappedProducers (worker delegate ((identity ::
      (completeDataPack endpoint DIOSystemAPI_Channel_Index true
        ((newSnapshotPack snapshot_name size).setChannelData concatenation size)).writeToSocket).map
          Recv.part)) =
      [some (if size = 0 then .all
        else .given (tokens.split (· == comma) (concatenation.take size.toNat)))] := by
  have hcomplete : Complete (completeDataPack endpoint DIOSystemAPI_Channel_Index true
      ((newSnapshotPack snapshot_name size).setChannelData concatenation size)) :=
    ⟨rfl, nofun, nofun⟩
  unfold snappedProducers
  rw [hcomplete.worker, dispatchedPacks_dispatch]
  have hconsume : consumeNewSnapshotDataset (cutToSize (completeDataPack endpoint
      DIOSystemAPI_Channel_Index true
        ((newSnapshotPack snapshot_name size).setChannelData concatenation size))) =
      some (consumeNewSnapshotEvent ((newSnapshotHeader snapshot_name size).take
        SYSTEM_API_CHANNEL_NEW_Snapshot.toNat) (some (concatenation.take size.toNat)) size) := rfl
  rw [List.map_singleton, hconsume, Option.map_some]
  by_cases hzero : size = 0
  · simp [hzero, consumeNewSnapshotEvent, executeJobKeys]
  · have hsome := tokens.split_ne_nil (· == comma) (concatenation.take size.toNat)
    simp [hzero, consumeNewSnapshotEvent, executeJobKeys, List.take_take, hsome]

/-- What the client sends for some keys. -/
theorem makeNewDatasetSnapshot_eq {endpoint : UInt16} {snapshot_name : List UInt8}
    {producer_keys : List (List UInt8)} {pack : DirectIODataPack} (hkeys : producer_keys ≠ [])
    (hpack : makeNewDatasetSnapshot endpoint snapshot_name producer_keys = .ok pack) :
    ∃ size, size = UInt32.ofNat (producerKeyConcatenation producer_keys).length ∧
      pack = completeDataPack endpoint DIOSystemAPI_Channel_Index true
        ((newSnapshotPack snapshot_name size).setChannelData
          (producerKeyConcatenation producer_keys) size) := by
  unfold makeNewDatasetSnapshot at hpack
  split at hpack
  · cases hpack
  cases hpack
  exact ⟨_, rfl, rfl⟩

/-- The keys of every request come back in their order, and are never taken as a request for all
producers, just when their text has less than 2^32 bytes. -/
theorem producers_arrive_iff (delegate : DirectIODataPack → Handled) (identity : List UInt8)
    (endpoint : UInt16) (snapshot_name : List UInt8) (keys : List ProducerKey) (hkeys : keys ≠ [])
    (pack : DirectIODataPack)
    (hpack : makeNewDatasetSnapshot endpoint snapshot_name (keys.map (·.key)) = .ok pack) :
    ProducersArrive delegate identity pack (keys.map (·.key)) ↔
      (producerKeyConcatenation (keys.map (·.key))).length < 2 ^ 32 := by
  have hpos := length_concatenation_pos hkeys
  obtain ⟨size, hsize, rfl⟩ := makeNewDatasetSnapshot_eq (by simpa using hkeys) hpack
  have htoNat : size.toNat = (producerKeyConcatenation (keys.map (·.key))).length % 2 ^ 32 := by
    rw [hsize, UInt32.toNat_ofNat']
  unfold ProducersArrive
  rw [snapped_of_data]
  constructor
  · intro harrive
    by_contra hlen
    split at harrive
    · cases harrive
    · injection harrive with harrive
      injection harrive with harrive
      injection harrive with harrive
      have hcut := Nat.mod_lt (producerKeyConcatenation (keys.map (·.key))).length
        (by decide : 0 < 2 ^ 32)
      exact split_take_ne hkeys (by omega) harrive
  · intro hlen
    rw [Nat.mod_eq_of_lt hlen] at htoNat
    have hzero : size ≠ 0 := by
      rintro rfl
      exact hpos.ne htoNat
    rw [if_neg hzero, htoNat, List.take_length, split_concatenation hkeys]

/-- Two keys come back. -/
theorem two_producers_arrive :
    ∃ pack, makeNewDatasetSnapshot 1 [97] [[98, 99], [100]] = .ok pack ∧
      ProducersArrive (fun _ => .threw) [65] pack [[98, 99], [100]] :=
  ⟨_, rfl, (producers_arrive_iff (fun _ => .threw) [65] 1 [97]
    [⟨[98, 99], by decide, by decide⟩, ⟨[100], by decide, by decide⟩] (by decide) _ rfl).mpr
      (by decide)⟩

/-- A key of 2^32 bytes is sent with the size 0, and the job takes all producers. -/
theorem long_key_asks_for_all : ¬∀ (keys : List ProducerKey) (pack : DirectIODataPack),
    keys ≠ [] → makeNewDatasetSnapshot 1 [97] (keys.map (·.key)) = .ok pack →
      ProducersArrive (fun _ => .threw) [65] pack (keys.map (·.key)) := by
  intro hall
  obtain ⟨n, hn, hsize⟩ : ∃ n : Nat, n ≠ 0 ∧ UInt32.ofNat n = 0 := ⟨2 ^ 32, by decide, by decide⟩
  let key : ProducerKey := ⟨List.replicate n 98, by simpa using hn, by simp [comma]⟩
  have hlen : UInt32.ofNat (producerKeyConcatenation ([key].map (·.key))).length = 0 := by
    change UInt32.ofNat (List.replicate n (98 : UInt8)).length = 0
    rw [List.length_replicate, hsize]
  have hmake : makeNewDatasetSnapshot 1 [97] ([key].map (·.key)) =
      .ok (completeDataPack 1 DIOSystemAPI_Channel_Index true
        ((newSnapshotPack [97] 0).setChannelData
          (producerKeyConcatenation ([key].map (·.key))) 0)) := by
    rw [← hlen]
    rfl
  have harrive := hall [key] _ (List.cons_ne_nil _ _) hmake
  unfold ProducersArrive at harrive
  rw [snapped_of_data, if_pos rfl] at harrive
  cases harrive

end chaos.common.direct_io.channel.system_api
