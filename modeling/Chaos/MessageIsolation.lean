-- The laws of the loop of the direct io server. Each message is dispatched and answered as if it
-- were the only one, as long as every message has just the parts that its header asks for and no
-- message without the flag for an answer comes after one with it. The loop never looks for the
-- end of a message, and never sets its answer pointer back to NULL.
import Chaos.DirectIOWire

namespace chaos.common.direct_io

open ZMQDirectIOServer little_endian

/-! ## Messages -/

/-- What comes to the socket: an error while the loop waits, or the parts of a message. -/
inductive Arrival
  | interrupted
  | message (parts : List (List UInt8))
  deriving DecidableEq

def Arrival.recvs : Arrival → List Recv
  | .interrupted => [.error]
  | .message parts => parts.map .part

/-- The channel part that a header names. -/
def channelPart (header : List UInt8) : UInt8 :=
  (DispatcherHeader.ofRaw (getDispatcherData header)).channel_part

/-- The number of parts that the loop reads after a header. -/
def partsAsked (header : List UInt8) : Nat :=
  if header.length ≠ DIRECT_IO_HEADER_SIZE then 0
  else if channelPart header = DIRECT_IO_CHANNEL_PART_HEADER_ONLY then 1
  else if channelPart header = DIRECT_IO_CHANNEL_PART_DATA_ONLY then 1
  else if channelPart header = DIRECT_IO_CHANNEL_PART_HEADER_DATA then 2
  else 0

/-- The message has the parts that its header asks for, and no others. -/
def Aligned : Arrival → Prop
  | .message (_ :: _ :: header :: rest) => rest.length = partsAsked header
  | .message _ => False
  | .interrupted => True

instance : ∀ a, Decidable (Aligned a)
  | .message (_ :: _ :: header :: rest) =>
    inferInstanceAs (Decidable (rest.length = partsAsked header))
  | .message [] | .message [_] | .message [_, _] => isFalse id
  | .interrupted => isTrue trivial

/-- The sizes of the parts that follow a header, as the header gives them. -/
def partSizes (header : List UInt8) : List Nat :=
  if channelPart header = DIRECT_IO_CHANNEL_PART_HEADER_ONLY then
    [(getChannelHeaderSize header).toNat]
  else if channelPart header = DIRECT_IO_CHANNEL_PART_DATA_ONLY then
    [(getChannelDataSize header).toNat]
  else if channelPart header = DIRECT_IO_CHANNEL_PART_HEADER_DATA then
    [(getChannelHeaderSize header).toNat, (getChannelDataSize header).toNat]
  else []

/-- A message as a client sends it: a header of the right size with a known part, and the parts
that it names, each as long as the header says. -/
def WellFormed : Arrival → Prop
  | .message (_ :: _ :: header :: rest) =>
    header.length = DIRECT_IO_HEADER_SIZE ∧
    channelPart header ≤ DIRECT_IO_CHANNEL_PART_HEADER_DATA ∧
    rest.map List.length = partSizes header
  | _ => False

instance : ∀ a, Decidable (WellFormed a)
  | .message (_ :: _ :: header :: rest) =>
    inferInstanceAs (Decidable (_ ∧ _ ∧ rest.map List.length = partSizes header))
  | .message [] | .message [_] | .message [_, _] | .interrupted => isFalse id

/-- The header of a message that is dispatched. -/
def dispatchedHeader : Arrival → Option DispatcherHeader
  | .message (_ :: _ :: header :: _) =>
    if header.length = DIRECT_IO_HEADER_SIZE then some (.ofRaw (getDispatcherData header))
    else none
  | _ => none

variable (delegate : DirectIODataPack → Handled)

/-- What the loop does for a message that is the only one. -/
def alone (a : Arrival) : List WorkerEvent := (worker delegate a.recvs).events

/-- What the loop does for the messages is one piece for each message, and the piece of a well
formed one is what the loop does for that message alone. -/
def Isolated (arrivals : List Arrival) : Prop :=
  ∃ pieces : List (List WorkerEvent),
    (worker delegate (arrivals.flatMap Arrival.recvs)).events = pieces.flatten ∧
    List.Forall₂ (fun a piece => WellFormed a → piece = alone delegate a) arrivals pieces

/-! ## One message -/

/-- The pack of a header and the parts after it. -/
def packOf (header : List UInt8) (rest : List (List UInt8)) : DirectIODataPack :=
  let pack := { DirectIODataPack.zero with
    dispatcher_header := .ofRaw (getDispatcherData header) }
  let headerPart := (rest.headD []).take (getChannelHeaderSize header).toNat
  let dataPart := (rest.getLastD []).take (getChannelDataSize header).toNat
  if channelPart header = DIRECT_IO_CHANNEL_PART_HEADER_ONLY then
    { pack with
      channel_header_size := getChannelHeaderSize header
      channel_header_data := some headerPart }
  else if channelPart header = DIRECT_IO_CHANNEL_PART_DATA_ONLY then
    { pack with
      channel_data_size := getChannelDataSize header
      channel_data := some dataPart }
  else if channelPart header = DIRECT_IO_CHANNEL_PART_HEADER_DATA then
    { pack with
      channel_header_size := getChannelHeaderSize header
      channel_data_size := getChannelDataSize header
      channel_header_data := some headerPart
      channel_data := some dataPart }
  else pack

variable {delegate} {w : ZMQDirectIOServer}

/-- The parts after a header that has the right size. -/
theorem foldl_headerReceived {identity header : List UInt8} {rest : List (List UInt8)}
    (hsize : header.length = DIRECT_IO_HEADER_SIZE) (hrest : rest.length = partsAsked header) :
    (rest.map Recv.part).foldl (recv delegate) (w.headerReceived delegate identity header) =
      w.dispatch delegate identity (packOf header rest) := by
  unfold partsAsked at hrest
  unfold headerReceived packOf
  simp only [channelPart] at hrest ⊢
  by_cases h1 : (DispatcherHeader.ofRaw (getDispatcherData header)).channel_part =
      DIRECT_IO_CHANNEL_PART_HEADER_ONLY
  · simp [hsize, h1] at hrest
    obtain ⟨a, rfl⟩ := List.length_eq_one_iff.mp hrest
    simp [h1, recv, DIRECT_IO_CHANNEL_PART_HEADER_ONLY, DIRECT_IO_CHANNEL_PART_HEADER_DATA]
  · by_cases h2 : (DispatcherHeader.ofRaw (getDispatcherData header)).channel_part =
        DIRECT_IO_CHANNEL_PART_DATA_ONLY
    · simp [hsize, h2] at hrest
      obtain ⟨a, rfl⟩ := List.length_eq_one_iff.mp hrest
      simp [h2, recv, DIRECT_IO_CHANNEL_PART_HEADER_ONLY, DIRECT_IO_CHANNEL_PART_DATA_ONLY]
    · by_cases h3 : (DispatcherHeader.ofRaw (getDispatcherData header)).channel_part =
          DIRECT_IO_CHANNEL_PART_HEADER_DATA
      · simp [hsize, h3] at hrest
        obtain ⟨a, b, rfl⟩ := List.length_eq_two.mp hrest
        simp [h3, recv, DIRECT_IO_CHANNEL_PART_HEADER_ONLY, DIRECT_IO_CHANNEL_PART_DATA_ONLY,
          DIRECT_IO_CHANNEL_PART_HEADER_DATA]
      · simp [hsize, h1, h2, h3] at hrest
        subst hrest
        simp [h1, h2, h3]

/-- A message that is aligned is dispatched as a whole, or dropped as a whole. -/
theorem foldl_message {identity delimiter header : List UInt8} {rest : List (List UInt8)}
    (hw : w.phase = .identity) (hrest : rest.length = partsAsked header) :
    ((identity :: delimiter :: header :: rest).map Recv.part).foldl (recv delegate) w =
      if header.length = DIRECT_IO_HEADER_SIZE then
        w.dispatch delegate (stringReceive identity) (packOf header rest)
      else w := by
  simp only [List.map_cons, List.foldl_cons]
  by_cases hsize : header.length = DIRECT_IO_HEADER_SIZE
  · rw [if_pos hsize, ← foldl_headerReceived hsize hrest]
    congr 1
    simp only [recv, hw, hsize, if_true]
    simp [headerReceived]
  · rw [if_neg hsize]
    unfold partsAsked at hrest
    simp [hsize] at hrest
    subst hrest
    obtain ⟨phase, answer, events⟩ := w
    simp only at hw
    simp [recv, hw, hsize]

/-- What is dispatched with no pointer to an earlier answer does not depend on what was
dispatched before. -/
theorem events_dispatch {identity : List UInt8} {pack : DirectIODataPack}
    (h : w.synchronous_answer = .null ∨ pack.dispatcher_header.synchronous_answer = true) :
    (w.dispatch delegate identity pack).events =
      w.events ++ (start.dispatch delegate identity pack).events := by
  unfold dispatch
  rcases h with h | h
  · simp [h, start]
  · simp [h, start]

theorem packOf_dispatcher_header (header : List UInt8) (rest : List (List UInt8)) :
    (packOf header rest).dispatcher_header = .ofRaw (getDispatcherData header) := by
  unfold packOf
  dsimp only
  split
  · rfl
  · split
    · rfl
    · split <;> rfl

/-! ## A pack that is sent -/

theorem length_header (pack : DirectIODataPack) : pack.header.length = DIRECT_IO_HEADER_SIZE := by
  simp [DirectIODataPack.header, DIRECT_IO_HEADER_SIZE]

theorem getDispatcherData_header (pack : DirectIODataPack) :
    getDispatcherData pack.header = pack.dispatcher_header.raw_data := by
  unfold getDispatcherData DirectIODataPack.header
  rw [List.append_assoc, List.take_left' (length_toBytes 8 _), ofBytes_toBytes]
  · exact UInt64.ofNat_toNat
  · exact UInt64.toNat_lt _

theorem getChannelHeaderSize_header (pack : DirectIODataPack) :
    getChannelHeaderSize pack.header = pack.channel_header_size := by
  unfold getChannelHeaderSize DirectIODataPack.header
  rw [List.append_assoc, List.drop_left' (length_toBytes 8 _), List.take_left' (length_toBytes 4 _),
    ofBytes_toBytes]
  · exact UInt32.ofNat_toNat
  · exact UInt32.toNat_lt _

theorem getChannelDataSize_header (pack : DirectIODataPack) :
    getChannelDataSize pack.header = pack.channel_data_size := by
  have hlen : (toBytes 8 pack.dispatcher_header.raw_data.toNat ++
      toBytes 4 pack.channel_header_size.toNat).length = 12 := by simp
  unfold getChannelDataSize DirectIODataPack.header
  rw [List.drop_left' hlen, List.take_of_length_le (by simp), ofBytes_toBytes]
  · exact UInt32.ofNat_toNat
  · exact UInt32.toNat_lt _

theorem channelPart_header (pack : DirectIODataPack) :
    channelPart pack.header = pack.dispatcher_header.channel_part := by
  simp [channelPart, getDispatcherData_header]

/-- A pack whose header names the buffers that it has. -/
structure Complete (pack : DirectIODataPack) : Prop where
  part : pack.dispatcher_header.channel_part =
    (if pack.channel_header_data.isSome then DIRECT_IO_CHANNEL_PART_HEADER_ONLY else 0) +
      if pack.channel_data.isSome then DIRECT_IO_CHANNEL_PART_DATA_ONLY else 0
  no_header : pack.channel_header_data = none → pack.channel_header_size = 0
  no_data : pack.channel_data = none → pack.channel_data_size = 0

/-- The pack with its buffers cut to their sizes. -/
def cutToSize (pack : DirectIODataPack) : DirectIODataPack :=
  { pack with
    channel_header_data := pack.channel_header_data.map (·.take pack.channel_header_size.toNat)
    channel_data := pack.channel_data.map (·.take pack.channel_data_size.toNat) }

/-- The parts of a complete pack, and the pack that the server makes of them. -/
theorem Complete.writeToSocket {pack : DirectIODataPack} (h : Complete pack) :
    ∃ rest, pack.writeToSocket = [] :: pack.header :: rest ∧
      rest.length = partsAsked pack.header ∧ packOf pack.header rest = cutToSize pack := by
  obtain ⟨hpart, hheader, hdata⟩ := h
  unfold DirectIODataPack.writeToSocket partsAsked packOf cutToSize
  simp only [length_header, getDispatcherData_header, getChannelHeaderSize_header,
    getChannelDataSize_header, channelPart_header, DispatcherHeader.ofRaw_raw_data]
  obtain ⟨dh, hsize, dsize, hd, d⟩ := pack
  cases hd with
  | none =>
    cases d with
    | none =>
      simp at hpart hheader hdata
      subst hheader hdata
      exact ⟨[], by simp [hpart, DIRECT_IO_CHANNEL_PART_EMPTY],
        by simp [hpart, DIRECT_IO_CHANNEL_PART_HEADER_ONLY, DIRECT_IO_CHANNEL_PART_DATA_ONLY,
          DIRECT_IO_CHANNEL_PART_HEADER_DATA],
        by simp [hpart, DIRECT_IO_CHANNEL_PART_HEADER_ONLY, DIRECT_IO_CHANNEL_PART_DATA_ONLY,
          DIRECT_IO_CHANNEL_PART_HEADER_DATA, DirectIODataPack.zero]⟩
    | some d =>
      simp at hpart hheader
      subst hheader
      refine ⟨[d.take dsize.toNat], ?_, ?_, ?_⟩ <;>
        simp [hpart, DIRECT_IO_CHANNEL_PART_HEADER_ONLY, DIRECT_IO_CHANNEL_PART_DATA_ONLY,
          DIRECT_IO_CHANNEL_PART_EMPTY, DirectIODataPack.zero, List.take_take]
  | some hd =>
    cases d with
    | none =>
      simp at hpart hdata
      subst hdata
      refine ⟨[hd.take hsize.toNat], ?_, ?_, ?_⟩ <;>
        simp [hpart, DIRECT_IO_CHANNEL_PART_HEADER_ONLY, DIRECT_IO_CHANNEL_PART_EMPTY,
          DirectIODataPack.zero, List.take_take]
    | some d =>
      simp at hpart
      refine ⟨[hd.take hsize.toNat, d.take dsize.toNat], ?_, ?_, ?_⟩ <;>
        simp [hpart, DIRECT_IO_CHANNEL_PART_HEADER_ONLY, DIRECT_IO_CHANNEL_PART_DATA_ONLY,
          DIRECT_IO_CHANNEL_PART_EMPTY, DIRECT_IO_CHANNEL_PART_HEADER_DATA, List.take_take]

/-- A complete pack that is sent reaches the delegate of the server, with its buffers cut to
their sizes. -/
theorem Complete.worker {pack : DirectIODataPack} (h : Complete pack) (identity : List UInt8) :
    worker delegate ((identity :: pack.writeToSocket).map Recv.part) =
      start.dispatch delegate (stringReceive identity) (cutToSize pack) := by
  obtain ⟨rest, hparts, hlen, hpack⟩ := h.writeToSocket
  rw [hparts, ZMQDirectIOServer.worker, foldl_message rfl hlen, if_pos (length_header pack), hpack]

/-- What is seen of a message that is dispatched, by one who does not look at the answers. -/
theorem filterMap_dispatch {β : Type} {f : WorkerEvent → Option β}
    (hanswers : ∀ identity answer, f (.answered identity answer) = none)
    (delegate : DirectIODataPack → Handled) (w : ZMQDirectIOServer) (identity : List UInt8)
    (pack : DirectIODataPack) :
    ((w.dispatch delegate identity pack).events.drop w.events.length).filterMap f =
      (f (.dispatched pack (if pack.dispatcher_header.synchronous_answer then .fresh
        else w.synchronous_answer))).toList := by
  have hevents : ∀ answers : List WorkerEvent, answers.filterMap f = [] →
      ((w.events ++ .dispatched pack (if pack.dispatcher_header.synchronous_answer then .fresh
        else w.synchronous_answer) :: answers).drop w.events.length).filterMap f =
        (f (.dispatched pack (if pack.dispatcher_header.synchronous_answer then .fresh
          else w.synchronous_answer))).toList := by
    intro answers hnone
    rw [List.drop_left, List.filterMap_cons, hnone]
    cases f _ <;> rfl
  unfold dispatch
  refine hevents _ ?_
  cases delegate pack with
  | threw => rfl
  | returned answer =>
    dsimp only
    split
    · rw [List.filterMap_cons_none (hanswers _ _)]
      rfl
    · rfl

/-- The packs that the loop has dispatched. -/
def dispatchedPacks (w : ZMQDirectIOServer) : List DirectIODataPack :=
  w.events.filterMap fun
    | .dispatched pack _ => some pack
    | .answered _ _ => none

/-- A message is dispatched once. -/
theorem dispatchedPacks_dispatch (delegate : DirectIODataPack → Handled) (identity : List UInt8)
    (pack : DirectIODataPack) :
    dispatchedPacks (start.dispatch delegate identity pack) = [pack] :=
  filterMap_dispatch (fun _ _ => rfl) delegate start identity pack

/-! ## Every sequence of messages -/

/-- The message is dispatched, with the flag for an answer or without it. -/
def Dispatches (flag : Bool) (a : Arrival) : Prop :=
  ∃ h ∈ dispatchedHeader a, h.synchronous_answer = flag

instance (flag : Bool) (a : Arrival) : Decidable (Dispatches flag a) :=
  inferInstanceAs (Decidable (∃ h ∈ dispatchedHeader a, h.synchronous_answer = flag))

/-- The loop between two messages. -/
structure Between (w : ZMQDirectIOServer) (left : List Arrival) : Prop where
  phase : w.phase = .identity
  answer : w.synchronous_answer = .null ∨ ∀ a ∈ left, ¬ Dispatches false a

/-- One message takes the loop to the next one, and adds what it does alone. -/
theorem Between.arrival {a : Arrival} {left : List Arrival} (h : Between w (a :: left))
    (ha : Aligned a) (hleft : ∀ b ∈ left, Dispatches true a → ¬ Dispatches false b) :
    Between (a.recvs.foldl (recv delegate) w) left ∧
      (a.recvs.foldl (recv delegate) w).events = w.events ++ alone delegate a := by
  have hrest : w.synchronous_answer = .null ∨ ∀ b ∈ left, ¬ Dispatches false b :=
    h.answer.imp id fun hall b hb => hall b (List.mem_cons_of_mem _ hb)
  match a with
  | .interrupted =>
    refine ⟨⟨rfl, hrest⟩, ?_⟩
    simp [Arrival.recvs, recv, alone, worker, start]
  | .message [] | .message [_] | .message [_, _] => exact absurd ha id
  | .message (identity :: delimiter :: header :: rest) =>
    simp only [alone, worker, Arrival.recvs]
    rw [foldl_message h.phase ha, foldl_message rfl ha]
    by_cases hsize : header.length = DIRECT_IO_HEADER_SIZE
    · simp only [hsize, if_true]
      have hheader := packOf_dispatcher_header header rest
      have hdisp : ∀ flag, Dispatches flag (.message (identity :: delimiter :: header :: rest)) ↔
          (packOf header rest).dispatcher_header.synchronous_answer = flag := by
        intro flag
        simp [Dispatches, dispatchedHeader, hsize, hheader]
      have hflag : w.synchronous_answer = .null ∨
          (packOf header rest).dispatcher_header.synchronous_answer = true := by
        refine h.answer.imp id fun hall => ?_
        have := hall _ List.mem_cons_self
        rw [hdisp] at this
        simpa using this
      refine ⟨⟨rfl, ?_⟩, events_dispatch hflag⟩
      by_cases hsync : (packOf header rest).dispatcher_header.synchronous_answer = true
      · right
        intro b hb
        exact hleft b hb ((hdisp true).mpr hsync)
      · rcases hrest with hnull | hplain
        · left
          simp [dispatch, hsync, hnull]
        · exact Or.inr hplain
    · simp only [hsize, if_false]
      exact ⟨⟨h.phase, hrest⟩, by simp [start]⟩

/-- Each message is aligned, and after a message that is dispatched with the flag no message is
dispatched without it. -/
structure Orderly (arrivals : List Arrival) : Prop where
  aligned : ∀ a ∈ arrivals, Aligned a
  flags : arrivals.Pairwise fun a b => Dispatches true a → ¬ Dispatches false b

theorem Between.arrivals {arrivals : List Arrival} (h : Between w arrivals)
    (hord : Orderly arrivals) :
    ((arrivals.flatMap Arrival.recvs).foldl (recv delegate) w).events =
      w.events ++ (arrivals.map (alone delegate)).flatten := by
  induction arrivals generalizing w with
  | nil => simp
  | cons a left ih =>
    obtain ⟨halone, hpairs⟩ := List.pairwise_cons.mp hord.flags
    obtain ⟨hnext, hevents⟩ : Between (a.recvs.foldl (recv delegate) w) left ∧ _ :=
      h.arrival (hord.aligned a List.mem_cons_self) halone
    rw [List.flatMap_cons, List.foldl_append,
      ih hnext ⟨fun b hb => hord.aligned b (List.mem_cons_of_mem _ hb), hpairs⟩, hevents]
    simp

/-- The delegate that answers with the data of the pack. -/
def echo (pack : DirectIODataPack) : Handled := .returned (pack.channel_data.getD [])

/-- A pack for the endpoint 1, with two bytes of data. -/
def dataPack (synchronous_answer : Bool) : DirectIODataPack :=
  DirectIODataPack.setChannelData { DirectIODataPack.zero with
    dispatcher_header := ⟨1, synchronous_answer, ⟨0, by decide⟩, 2, 0, 1, 0⟩ } [5, 6] 2

/-- The parts of a pack, after the identity that the socket adds. -/
def messageOf (pack : DirectIODataPack) : Arrival := .message ([65] :: pack.writeToSocket)

/-- The data part is missing, so that the loop takes the identity of the next message for it. -/
def truncatedMessage : Arrival := .message ([65] :: (dataPack false).writeToSocket.take 2)

end chaos.common.direct_io
