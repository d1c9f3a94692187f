-- The write of a pack to a socket, with every outcome of the calls of ZMQ. The buffers of the pack
-- go over to the messages one after the other, and all calls share one error variable.
import Chaos.MessageIsolation

namespace chaos.common.direct_io.ZMQDirectIOClientConnection

/-! ## The calls of ZMQ -/

inductive Buffer where
  | channelHeader
  | channelData
  deriving DecidableEq, Repr

structure DirectIOSynchronousAnswer where
  answer_data : Option (List UInt8)
  answer_size : UInt32
  deriving DecidableEq, Repr

/-- What a write does: a part is sent, a buffer is handed to its deallocation handler, the pack is
freed, and the caller gets an answer. -/
inductive WriteEvent where
  | sent (part : List UInt8)
  | freedBuffer (buffer : Buffer)
  | freedPack
  | answered (answer : DirectIOSynchronousAnswer)
  deriving DecidableEq, Repr

/-- Whether each call succeeds, in the order of the calls, and what the calls that receive get. -/
structure Outcomes where
  delimiter_sent : Bool
  header_sent : Bool
  msg_header_data_init : Bool
  msg_header_data_sent : Bool
  msg_data_init : Bool
  msg_data_sent : Bool
  delimiter_received : Option (List UInt8)
  msg_init : Bool
  msg_received : Option (List UInt8)
  deriving DecidableEq, Repr

/-- A message is not valid when its initialization has failed. A message that was sent is empty. -/
inductive Message where
  | invalid
  | holds (buffer : Buffer) (part : List UInt8)
  | empty

/-- The number of bytes, or -1. -/
def zmq_send (succeeds : Bool) (part : List UInt8) (w : List WriteEvent) :
    Int × List WriteEvent :=
  if succeeds then (part.length, w ++ [.sent part]) else (-1, w)

def zmq_msg_init_data (succeeds : Bool) (buffer : Buffer) (part : List UInt8) : Int × Message :=
  if succeeds then (0, .holds buffer part) else (-1, .invalid)

/-- A message that is sent frees its buffer. -/
def zmq_sendmsg (succeeds : Bool) (msg : Message) (w : List WriteEvent) :
    Int × Message × List WriteEvent :=
  match msg, succeeds with
  | .holds buffer part, true => (part.length, .empty, w ++ [.sent part, .freedBuffer buffer])
  | .empty, true => (0, .empty, w ++ [.sent []])
  | msg, _ => (-1, msg, w)

/-- A message that still holds its buffer frees it. -/
def zmq_msg_close (msg : Message) (w : List WriteEvent) : Int × List WriteEvent :=
  match msg with
  | .holds buffer _ => (0, w ++ [.freedBuffer buffer])
  | .empty => (0, w)
  | .invalid => (-1, w)

/-! ## The write -/

/-- How a write leaves the switch over the parts: it returns, or goes on with its error so far. -/
inductive Switch where
  | returns (err : Int) (w : List WriteEvent)
  | goesOn (err : Int) (w : List WriteEvent)

variable (pack : DirectIODataPack) (o : Outcomes) (w : List WriteEvent)

/-- The message of a buffer is as long as its size says. -/
def channelHeaderPart : List UInt8 :=
  (pack.channel_header_data.getD []).take pack.channel_header_size.toNat

def channelDataPart : List UInt8 :=
  (pack.channel_data.getD []).take pack.channel_data_size.toNat

/-- `DIRECT_IO_CHANNEL_PART_EMPTY`. -/
def writeEmpty : Switch :=
  let (err, w) := zmq_send o.header_sent pack.header w
  .goesOn err w

/-- `DIRECT_IO_CHANNEL_PART_HEADER_ONLY`. -/
def writeHeaderOnly : Switch :=
  let (err, w) := zmq_send o.header_sent pack.header w
  if err = -1 then .returns err (w ++ [.freedPack])
  else
    let (_, msg) := zmq_msg_init_data o.msg_header_data_init .channelHeader (channelHeaderPart pack)
    let (err, msg, w) := zmq_sendmsg o.msg_header_data_sent msg w
    let err := if 0 < err then 0 else err
    let (_, w) := zmq_msg_close msg w
    .goesOn err w

/-- `DIRECT_IO_CHANNEL_PART_DATA_ONLY`. -/
def writeDataOnly : Switch :=
  let (err, w) := zmq_send o.header_sent pack.header w
  if err = -1 then .returns err (w ++ [.freedBuffer .channelData, .freedPack])
  else
    let (_, msg) := zmq_msg_init_data o.msg_data_init .channelData (channelDataPart pack)
    let (err, msg, w) := zmq_sendmsg o.msg_data_sent msg w
    let err := if 0 < err then 0 else err
    let (_, w) := zmq_msg_close msg w
    .goesOn err w

/-- `DIRECT_IO_CHANNEL_PART_HEADER_DATA`. -/
def writeHeaderData : Switch :=
  let (err, w) := zmq_send o.header_sent pack.header w
  if err = -1 then .returns err (w ++ [.freedBuffer .channelData, .freedPack])
  else
    let (_, msg_header_data) :=
      zmq_msg_init_data o.msg_header_data_init .channelHeader (channelHeaderPart pack)
    let (err, msg_header_data, w) := zmq_sendmsg o.msg_header_data_sent msg_header_data w
    if err = -1 then
      let (_, w) := zmq_msg_close msg_header_data (w ++ [.freedBuffer .channelData, .freedPack])
      .returns err w
    else
      let (_, msg_data) := zmq_msg_init_data o.msg_data_init .channelData (channelDataPart pack)
      -- the error of this send is overwritten by the two calls after it
      let (_, msg_data, w) := zmq_sendmsg o.msg_data_sent msg_data w
      let (_, w) := zmq_msg_close msg_header_data w
      let (err, w) := zmq_msg_close msg_data w
      .goesOn err w

/-- What a write does with the synchronous flag after the parts. -/
def receiveAnswer : Int × List WriteEvent :=
  match o.delimiter_received with
  | none => (-1, w)
  | some _ =>
    if o.msg_init then
      -- the message is closed whether it was received or not, and only this sets the error
      match o.msg_received with
      | none => (0, w)
      | some bytes =>
        (0, w ++ [.answered ⟨if bytes = [] then none else some bytes, UInt32.ofNat bytes.length⟩])
    else (-1, w)

/-- What is after the switch. -/
def finish (err : Int) : Int × List WriteEvent :=
  let (err, w) :=
    if pack.dispatcher_header.synchronous_answer then receiveAnswer o w else (err, w)
  (err, w ++ [.freedPack])

/-- The switch over the parts. -/
def writeParts : Switch :=
  if pack.dispatcher_header.channel_part = DIRECT_IO_CHANNEL_PART_EMPTY then writeEmpty pack o w
  else if pack.dispatcher_header.channel_part = DIRECT_IO_CHANNEL_PART_HEADER_ONLY then
    writeHeaderOnly pack o w
  else if pack.dispatcher_header.channel_part = DIRECT_IO_CHANNEL_PART_DATA_ONLY then
    writeDataOnly pack o w
  else if pack.dispatcher_header.channel_part = DIRECT_IO_CHANNEL_PART_HEADER_DATA then
    writeHeaderData pack o w
  else .goesOn 0 w

/-- `writeToSocket`: what it returns, and what it does. The result of the send of the delimiter is
not looked at. -/
def writeToSocket : Int × List WriteEvent :=
  match writeParts pack o (zmq_send o.delimiter_sent [] []).2 with
  | .returns err w => (err, w)
  | .goesOn err w => finish pack o w err

/-! ## What the caller relies on -/

/-- The parts that were sent. -/
def sentParts (w : List WriteEvent) : List (List UInt8) :=
  w.filterMap fun
    | .sent part => some part
    | _ => none

def Answered (w : List WriteEvent) : Prop := ∃ answer, WriteEvent.answered answer ∈ w

def hasChannelHeader : Bool :=
  pack.dispatcher_header.channel_part = DIRECT_IO_CHANNEL_PART_HEADER_ONLY ∨
    pack.dispatcher_header.channel_part = DIRECT_IO_CHANNEL_PART_HEADER_DATA

def hasChannelData : Bool :=
  pack.dispatcher_header.channel_part = DIRECT_IO_CHANNEL_PART_DATA_ONLY ∨
    pack.dispatcher_header.channel_part = DIRECT_IO_CHANNEL_PART_HEADER_DATA

/-- The call returns 0 just when all parts were sent and an answer that was asked for has come, and
each buffer of the pack and the pack are freed once. -/
structure WriteIsRight : Prop where
  reports : (writeToSocket pack o).1 = 0 ↔
    sentParts (writeToSocket pack o).2 = pack.writeToSocket ∧
      (pack.dispatcher_header.synchronous_answer = true → Answered (writeToSocket pack o).2)
  header_freed : (writeToSocket pack o).2.count (.freedBuffer .channelHeader) =
    (hasChannelHeader pack).toNat
  data_freed : (writeToSocket pack o).2.count (.freedBuffer .channelData) =
    (hasChannelData pack).toNat
  pack_freed : (writeToSocket pack o).2.count .freedPack = 1

/-- Without the flag the error so far tells whether all parts were sent. With it the error comes
from the answer alone, so that no delimiter may be received for a message that was not sent or that
gets no answer. -/
def EndsRight (no_error all_sent : Prop) : Prop :=
  if pack.dispatcher_header.synchronous_answer then
    o.delimiter_received.isSome = true ∧ o.msg_init = true → all_sent ∧ o.msg_received.isSome = true
  else no_error ↔ all_sent

/-- The condition. A pack with a channel header must not fail with its first part, each message that
is made must be initialized, and the end must be right: a pack without parts never ends with 0, one
with both buffers always does, and the others do when their last part was sent. -/
def OutcomesReported : Prop :=
  if pack.dispatcher_header.channel_part = DIRECT_IO_CHANNEL_PART_EMPTY then
    EndsRight pack o False (o.delimiter_sent = true ∧ o.header_sent = true)
  else if pack.dispatcher_header.channel_part = DIRECT_IO_CHANNEL_PART_HEADER_ONLY then
    o.header_sent = true ∧ o.msg_header_data_init = true ∧
      EndsRight pack o (o.msg_header_data_sent = true)
        (o.delimiter_sent = true ∧ o.msg_header_data_sent = true)
  else if pack.dispatcher_header.channel_part = DIRECT_IO_CHANNEL_PART_DATA_ONLY then
    o.header_sent = true → o.msg_data_init = true ∧
      EndsRight pack o (o.msg_data_sent = true) (o.delimiter_sent = true ∧ o.msg_data_sent = true)
  else
    o.header_sent = true ∧ o.msg_header_data_init = true ∧
      (o.msg_header_data_sent = true → o.msg_data_init = true ∧
        EndsRight pack o True (o.delimiter_sent = true ∧ o.msg_data_sent = true))

/-! ## What is after the switch -/

variable {pack o w}

theorem sentParts_append (w w' : List WriteEvent) :
    sentParts (w ++ w') = sentParts w ++ sentParts w' := List.filterMap_append ..

/-- The end frees the pack, and leaves the buffers and the parts as they are. -/
theorem finish_frees (err : Int) : sentParts (finish pack o w err).2 = sentParts w ∧
    (∀ buffer, (finish pack o w err).2.count (.freedBuffer buffer) =
      w.count (.freedBuffer buffer)) ∧
    (finish pack o w err).2.count .freedPack = w.count .freedPack + 1 := by
  unfold finish receiveAnswer
  split_ifs <;> cases o.delimiter_received <;> cases o.msg_received <;>
    simp [sentParts]

theorem finish_reports (err : Int) : (finish pack o w err).1 = 0 ↔
    if pack.dispatcher_header.synchronous_answer then
      o.delimiter_received.isSome = true ∧ o.msg_init = true
    else err = 0 := by
  unfold finish receiveAnswer
  split_ifs <;> cases o.delimiter_received <;> cases o.msg_received <;> simp [*]

theorem finish_answers (err : Int) (hw : ¬Answered w)
    (hsync : pack.dispatcher_header.synchronous_answer = true) :
    Answered (finish pack o w err).2 ↔ o.delimiter_received.isSome = true ∧ o.msg_init = true ∧
      o.msg_received.isSome = true := by
  have hw' : ∀ answer, WriteEvent.answered answer ∉ w := fun answer h => hw ⟨answer, h⟩
  unfold Answered finish receiveAnswer
  rw [if_pos hsync]
  cases o.delimiter_received <;> cases o.msg_received <;> cases o.msg_init <;> simp [hw']

/-- A send adds its part to what was done, or nothing. -/
theorem zmq_send_eq (succeeds : Bool) (part : List UInt8) (w : List WriteEvent) :
    zmq_send succeeds part w = (if succeeds then (part.length : Int) else -1,
      w ++ if succeeds then [WriteEvent.sent part] else []) := by
  unfold zmq_send
  cases succeeds
  · simp
  · rfl

/-- Of the parts behind the delimiter none is empty at first, so that all parts are sent just when
the delimiter and the parts behind it are. -/
theorem sentParts_delimiter_iff {parts : List (List UInt8)}
    (hfirst : (sentParts w).head? ≠ some []) :
    sentParts ((zmq_send o.delimiter_sent [] []).2 ++ w) = [] :: parts ↔
      o.delimiter_sent = true ∧ sentParts w = parts := by
  rw [zmq_send_eq, sentParts_append]
  cases o.delimiter_sent with
  | true =>
    change [] :: sentParts w = [] :: parts ↔ _
    rw [List.cons.injEq, eq_self, true_and, eq_self, true_and]
  | false =>
    refine iff_of_false (fun h => hfirst ?_) fun h => Bool.false_ne_true h.1
    change sentParts w = [] :: parts at h
    rw [h]
    rfl

theorem count_delimiter {event : WriteEvent} (hevent : event ≠ .sent []) :
    ((zmq_send o.delimiter_sent [] []).2 ++ w).count event = w.count event := by
  rw [zmq_send_eq, List.count_append, Nat.add_eq_right, List.count_eq_zero]
  cases o.delimiter_sent
  · exact List.not_mem_nil
  · exact fun h => hevent (List.mem_singleton.mp h)

/-- The delimiter frees nothing. -/
theorem freed_delimiter (o : Outcomes) (w : List WriteEvent) :
    (∀ buffer, ((zmq_send o.delimiter_sent [] []).2 ++ w).count (.freedBuffer buffer) =
      w.count (.freedBuffer buffer)) ∧
    ((zmq_send o.delimiter_sent [] []).2 ++ w).count .freedPack = w.count .freedPack :=
  ⟨fun _ => count_delimiter nofun, count_delimiter nofun⟩

theorem not_answered_delimiter (o : Outcomes) (hanswer : ¬Answered w) :
    ¬Answered ((zmq_send o.delimiter_sent [] []).2 ++ w) := by
  rintro ⟨answer, hmem⟩
  rcases List.mem_append.mp hmem with hmem | hmem
  · rw [zmq_send_eq] at hmem
    cases hdelimiter : o.delimiter_sent
    all_goals
      rw [hdelimiter] at hmem
      cases hmem
    rename_i hmem
    cases hmem
  · exact hanswer ⟨answer, hmem⟩

/-- The end of a write is right just when its error tells whether all was sent, or its answer. -/
theorem finish_endsRight (pack : DirectIODataPack) (o : Outcomes) (err : Int)
    (hanswer : ¬Answered w) :
    ((finish pack o w err).1 = 0 ↔ sentParts (finish pack o w err).2 = pack.writeToSocket ∧
        (pack.dispatcher_header.synchronous_answer = true → Answered (finish pack o w err).2)) ↔
      EndsRight pack o (err = 0) (sentParts w = pack.writeToSocket) := by
  rw [finish_reports, (finish_frees err).1]
  unfold EndsRight
  by_cases hsync : pack.dispatcher_header.synchronous_answer = true
  · have hanswers := finish_answers (o := o) err hanswer hsync
    rw [if_pos hsync, if_pos hsync]
    constructor
    · intro h hready
      obtain ⟨hsent, hgot⟩ := h.mp hready
      exact ⟨hsent, (hanswers.mp (hgot hsync)).2.2⟩
    · intro h
      constructor
      · intro hready
        obtain ⟨hsent, hreceived⟩ := h hready
        exact ⟨hsent, fun _ => hanswers.mpr ⟨hready.1, hready.2, hreceived⟩⟩
      · rintro ⟨-, hgot⟩
        obtain ⟨hdelimiter, hinit, -⟩ := hanswers.mp (hgot hsync)
        exact ⟨hdelimiter, hinit⟩
  · rw [if_neg hsync, if_neg hsync, and_iff_left fun h => absurd h hsync]

/-- A write that leaves the switch at its end is right when it has freed the buffers, and when the
end is right. -/
theorem isRight_iff_of_goesOn {err : Int} {parts : List (List UInt8)}
    (hgoes : ∀ v, writeParts pack o v = .goesOn err (v ++ w))
    (hparts : pack.writeToSocket = [] :: parts) (hfirst : (sentParts w).head? ≠ some [])
    (hanswer : ¬Answered w) (hpack : WriteEvent.freedPack ∉ w) :
    WriteIsRight pack o ↔
      w.count (.freedBuffer .channelHeader) = (hasChannelHeader pack).toNat ∧
      w.count (.freedBuffer .channelData) = (hasChannelData pack).toNat ∧
      EndsRight pack o (err = 0) (o.delimiter_sent = true ∧ sentParts w = parts) := by
  have hswitch : writeToSocket pack o =
      finish pack o ((zmq_send o.delimiter_sent [] []).2 ++ w) err := by
    rw [writeToSocket, hgoes]
  have hfrees : ∀ v, (∀ buffer, (finish pack o v err).2.count (.freedBuffer buffer) =
      v.count (.freedBuffer buffer)) ∧
      (finish pack o v err).2.count .freedPack = v.count .freedPack + 1 :=
    fun v => (finish_frees err).2
  have hends := finish_endsRight pack o err (not_answered_delimiter o hanswer)
  have hcount : ∀ buffer, (writeToSocket pack o).2.count (.freedBuffer buffer) =
      w.count (.freedBuffer buffer) := by
    intro buffer
    rw [hswitch, (hfrees _).1, (freed_delimiter o w).1]
  rw [← hswitch, hparts, sentParts_delimiter_iff hfirst, ← hparts] at hends
  constructor
  · rintro ⟨hr, hh, hd, -⟩
    rw [hcount] at hh hd
    exact ⟨hh, hd, hends.mp hr⟩
  · rintro ⟨hh, hd, he⟩
    refine ⟨hends.mpr he, ?_, ?_, ?_⟩
    · rw [hcount, hh]
    · rw [hcount, hd]
    · rw [hswitch, (hfrees _).2, (freed_delimiter o w).2, List.count_eq_zero.mpr hpack]

/-- A write that returns from the switch has an error, and is right when it has freed everything
and not sent all parts. -/
theorem isRight_iff_of_returns {parts : List (List UInt8)}
    (hreturns : ∀ v, writeParts pack o v = .returns (-1) (v ++ w))
    (hparts : pack.writeToSocket = [] :: parts) (hfirst : (sentParts w).head? ≠ some [])
    (hless : sentParts w ≠ parts) :
    WriteIsRight pack o ↔
      w.count (.freedBuffer .channelHeader) = (hasChannelHeader pack).toNat ∧
      w.count (.freedBuffer .channelData) = (hasChannelData pack).toNat ∧
      w.count .freedPack = 1 := by
  have hswitch : writeToSocket pack o = (-1, (zmq_send o.delimiter_sent [] []).2 ++ w) := by
    rw [writeToSocket, hreturns]
  have hcount : ∀ buffer, (writeToSocket pack o).2.count (.freedBuffer buffer) =
      w.count (.freedBuffer buffer) := by
    intro buffer
    rw [hswitch, (freed_delimiter o w).1]
  have hfreed : (writeToSocket pack o).2.count .freedPack = w.count .freedPack := by
    rw [hswitch, (freed_delimiter o w).2]
  constructor
  · rintro ⟨-, hh, hd, hp⟩
    rw [hcount] at hh hd
    rw [hfreed] at hp
    exact ⟨hh, hd, hp⟩
  · rintro ⟨hh, hd, hp⟩
    refine ⟨?_, ?_, ?_, ?_⟩
    · rw [hswitch, hparts, sentParts_delimiter_iff hfirst]
      exact ⟨fun h => absurd (show (-1 : Int) = 0 from h) (by decide), fun h => absurd h.1.2 hless⟩
    · rw [hcount, hh]
    · rw [hcount, hd]
    · rw [hfreed, hp]

/-! ## The four layouts -/

section layouts

variable (pack o)

/-- The header of a pack is not empty, so that it is told from the delimiter. -/
theorem header_ne_nil : some pack.header ≠ some [] := by
  intro h
  have hlen := length_header pack
  rw [Option.some.inj h] at hlen
  exact absurd hlen (by decide)

theorem isRight_empty_iff
    (hpart : pack.dispatcher_header.channel_part = DIRECT_IO_CHANNEL_PART_EMPTY) :
    WriteIsRight pack o ↔
      EndsRight pack o False (o.delimiter_sent = true ∧ o.header_sent = true) := by
  have hparts : pack.writeToSocket = [[], pack.header] := by
    unfold DirectIODataPack.writeToSocket
    rw [if_pos hpart]
  have hheader : hasChannelHeader pack = false := by
    unfold hasChannelHeader
    rw [hpart]
    rfl
  have hdata : hasChannelData pack = false := by
    unfold hasChannelData
    rw [hpart]
    rfl
  have hgoes : ∀ w, writeParts pack o w =
      .goesOn (if o.header_sent then (pack.header.length : Int) else -1)
        (w ++ if o.header_sent then [WriteEvent.sent pack.header] else []) := by
    intro w
    rw [writeParts, if_pos hpart, writeEmpty, zmq_send_eq]
  have hne := header_ne_nil pack
  have hlen := length_header pack
  cases hsent : o.header_sent with
  | false =>
    simp only [hsent, Bool.false_eq_true, if_false] at hgoes
    rw [isRight_iff_of_goesOn hgoes hparts nofun (by rintro ⟨_, ⟨⟩⟩) nofun, hheader, hdata]
    have herr : ((-1 : Int) = 0) = False := eq_false (by decide)
    have hparts' : (sentParts [] = [pack.header]) = False := eq_false nofun
    rw [herr, hparts', eq_false Bool.false_ne_true]
    exact ⟨fun h => h.2.2, fun h => ⟨rfl, rfl, h⟩⟩
  | true =>
    simp only [hsent, if_true] at hgoes
    rw [isRight_iff_of_goesOn hgoes hparts hne (by rintro ⟨_, h⟩; simp at h) (by simp), hheader,
      hdata]
    have herr : ((pack.header.length : Int) = 0) = False := eq_false (by rw [hlen]; decide)
    have hparts' : (sentParts [.sent pack.header] = [pack.header]) = (true = true) :=
      propext (iff_of_true rfl rfl)
    rw [herr, hparts']
    exact ⟨fun h => h.2.2, fun h => ⟨rfl, rfl, h⟩⟩

/-- What is done for a message that is made for a buffer, sent and closed. -/
def messageEvents (init sent : Bool) (buffer : Buffer) (part : List UInt8) : List WriteEvent :=
  if init then (if sent then [.sent part] else []) ++ [.freedBuffer buffer] else []

/-- The error of a message alone, and what was done for it. -/
theorem sendmsg_close (init sent : Bool) (buffer : Buffer) (part : List UInt8)
    (w : List WriteEvent) :
    let msg := (zmq_msg_init_data init buffer part).2
    let sending := zmq_sendmsg sent msg w
    (if 0 < sending.1 then 0 else sending.1) = (if init = true ∧ sent = true then 0 else -1) ∧
      (zmq_msg_close sending.2.1 sending.2.2).2 = w ++ messageEvents init sent buffer part := by
  unfold zmq_msg_init_data messageEvents
  cases init
  · simp [zmq_sendmsg, zmq_msg_close]
  · cases sent
    · simp [zmq_sendmsg, zmq_msg_close]
    · have hzero : (if 0 < (part.length : Int) then 0 else (part.length : Int)) = 0 := by
        split <;> omega
      exact ⟨hzero, rfl⟩

section messages

variable {init sent : Bool} {buffer : Buffer} {part : List UInt8}

@[simp] theorem sentParts_messageEvents :
    sentParts (messageEvents init sent buffer part) =
      if init = true ∧ sent = true then [part] else [] := by
  cases init <;> cases sent <;> rfl

@[simp] theorem count_messageEvents (other : Buffer) :
    (messageEvents init sent buffer part).count (.freedBuffer other) =
      if init = true ∧ buffer = other then 1 else 0 := by
  cases init
  · rfl
  · cases sent <;> simp [messageEvents, List.count_cons]

theorem not_mem_messageEvents : (∀ answer, .answered answer ∉ messageEvents init sent buffer part) ∧
    .freedPack ∉ messageEvents init sent buffer part := by
  cases init
  · exact ⟨nofun, nofun⟩
  · cases sent <;> simp [messageEvents]

/-- What is sent behind the header starts with it. -/
theorem sentParts_header (w : List WriteEvent) :
    sentParts (.sent pack.header :: w) = pack.header :: sentParts w := rfl

end messages

/-- A write with one buffer, whose header was sent. -/
theorem isRight_oneBuffer_iff {init sent : Bool} {buffer : Buffer} {part : List UInt8}
    (hgoes : ∀ v, writeParts pack o v = .goesOn (if init = true ∧ sent = true then 0 else -1)
      (v ++ WriteEvent.sent pack.header :: messageEvents init sent buffer part))
    (hparts : pack.writeToSocket = [[], pack.header, part])
    (hheader : hasChannelHeader pack = decide (buffer = .channelHeader))
    (hdata : hasChannelData pack = decide (buffer = .channelData)) :
    WriteIsRight pack o ↔
      init = true ∧ EndsRight pack o (sent = true) (o.delimiter_sent = true ∧ sent = true) := by
  obtain ⟨hanswer, hpack⟩ : (∀ answer, .answered answer ∉ messageEvents init sent buffer part) ∧ _ :=
    not_mem_messageEvents
  rw [isRight_iff_of_goesOn hgoes hparts (header_ne_nil pack) (by simpa [Answered] using hanswer)
    (by simpa using hpack), hheader, hdata, sentParts_header, sentParts_messageEvents]
  cases init with
  | false => cases buffer <;> simp
  | true => cases buffer <;> cases sent <;> simp

theorem isRight_headerOnly_iff
    (hpart : pack.dispatcher_header.channel_part = DIRECT_IO_CHANNEL_PART_HEADER_ONLY) :
    WriteIsRight pack o ↔ o.header_sent = true ∧ o.msg_header_data_init = true ∧
      EndsRight pack o (o.msg_header_data_sent = true)
        (o.delimiter_sent = true ∧ o.msg_header_data_sent = true) := by
  have hparts : pack.writeToSocket = [[], pack.header, channelHeaderPart pack] := by
    unfold DirectIODataPack.writeToSocket
    rw [hpart]
    rfl
  have hheader : hasChannelHeader pack = true := by simp [hasChannelHeader, hpart]
  have hdata : hasChannelData pack = false := by
    unfold hasChannelData
    rw [hpart]
    rfl
  have hwrite : ∀ w, writeParts pack o w = writeHeaderOnly pack o w := by
    intro w
    unfold writeParts
    rw [hpart]
    rfl
  cases hsent : o.header_sent with
  | false =>
    have hreturns : ∀ w, writeParts pack o w = .returns (-1) (w ++ [WriteEvent.freedPack]) := by
      intro w
      simp only [hwrite, writeHeaderOnly, hsent, zmq_send, Bool.false_eq_true, if_false, if_true]
    rw [isRight_iff_of_returns hreturns hparts nofun nofun, hheader]
    exact iff_of_false (fun h => absurd h.1 (by decide)) fun h => Bool.false_ne_true h.1
  | true =>
    have hlen := length_header pack
    have hgoes : ∀ v, writeParts pack o v =
        .goesOn (if o.msg_header_data_init = true ∧ o.msg_header_data_sent = true then 0 else -1)
          (v ++ WriteEvent.sent pack.header :: messageEvents o.msg_header_data_init
            o.msg_header_data_sent .channelHeader (channelHeaderPart pack)) := by
      intro v
      obtain ⟨herr, hevents⟩ := sendmsg_close o.msg_header_data_init o.msg_header_data_sent
        .channelHeader (channelHeaderPart pack) (v ++ [WriteEvent.sent pack.header])
      rw [hwrite, writeHeaderOnly, hsent]
      simp only [zmq_send, if_true, hlen]
      rw [if_neg (by decide), herr, hevents, List.append_assoc]
      rfl
    rw [isRight_oneBuffer_iff pack o hgoes hparts hheader hdata, eq_self, true_and]

theorem isRight_dataOnly_iff
    (hpart : pack.dispatcher_header.channel_part = DIRECT_IO_CHANNEL_PART_DATA_ONLY) :
    WriteIsRight pack o ↔ (o.header_sent = true → o.msg_data_init = true ∧
      EndsRight pack o (o.msg_data_sent = true)
        (o.delimiter_sent = true ∧ o.msg_data_sent = true)) := by
  have hparts : pack.writeToSocket = [[], pack.header, channelDataPart pack] := by
    unfold DirectIODataPack.writeToSocket
    rw [hpart]
    rfl
  have hheader : hasChannelHeader pack = false := by
    unfold hasChannelHeader
    rw [hpart]
    rfl
  have hdata : hasChannelData pack = true := by simp [hasChannelData, hpart]
  have hwrite : ∀ w, writeParts pack o w = writeDataOnly pack o w := by
    intro w
    unfold writeParts
    rw [hpart]
    rfl
  cases hsent : o.header_sent with
  | false =>
    have hreturns : ∀ w, writeParts pack o w =
        .returns (-1) (w ++ [WriteEvent.freedBuffer .channelData, .freedPack]) := by
      intro w
      simp only [hwrite, writeDataOnly, hsent, zmq_send, Bool.false_eq_true, if_false, if_true]
    rw [isRight_iff_of_returns hreturns hparts nofun nofun, hheader, hdata]
    exact iff_of_true (by decide) fun h => absurd h Bool.false_ne_true
  | true =>
    have hlen := length_header pack
    have hgoes : ∀ v, writeParts pack o v =
        .goesOn (if o.msg_data_init = true ∧ o.msg_data_sent = true then 0 else -1)
          (v ++ WriteEvent.sent pack.header :: messageEvents o.msg_data_init o.msg_data_sent
            .channelData (channelDataPart pack)) := by
      intro v
      obtain ⟨herr, hevents⟩ := sendmsg_close o.msg_data_init o.msg_data_sent .channelData
        (channelDataPart pack) (v ++ [WriteEvent.sent pack.header])
      rw [hwrite, writeDataOnly, hsent]
      simp only [zmq_send, if_true, hlen]
      rw [if_neg (by decide), herr, hevents, List.append_assoc]
      rfl
    rw [isRight_oneBuffer_iff pack o hgoes hparts hheader hdata]
    exact ⟨fun h _ => h, fun h => h rfl⟩

theorem isRight_headerData_iff
    (hpart : pack.dispatcher_header.channel_part = DIRECT_IO_CHANNEL_PART_HEADER_DATA) :
    WriteIsRight pack o ↔ o.header_sent = true ∧ o.msg_header_data_init = true ∧
      (o.msg_header_data_sent = true → o.msg_data_init = true ∧
        EndsRight pack o True (o.delimiter_sent = true ∧ o.msg_data_sent = true)) := by
  have hparts : pack.writeToSocket =
      [[], pack.header, channelHeaderPart pack, channelDataPart pack] := by
    unfold DirectIODataPack.writeToSocket
    rw [hpart]
    rfl
  have hlen := length_header pack
  have hheader : hasChannelHeader pack = true := by simp [hasChannelHeader, hpart]
  have hdata : hasChannelData pack = true := by simp [hasChannelData, hpart]
  have hwrite : ∀ w, writeParts pack o w = writeHeaderData pack o w := by
    intro w
    unfold writeParts
    rw [hpart]
    rfl
  cases hsent : o.header_sent with
  | false =>
    have hreturns : ∀ w, writeParts pack o w =
        .returns (-1) (w ++ [WriteEvent.freedBuffer .channelData, .freedPack]) := by
      intro w
      simp only [hwrite, writeHeaderData, hsent, zmq_send, Bool.false_eq_true, if_false, if_true]
    rw [isRight_iff_of_returns hreturns hparts nofun nofun, hheader]
    exact iff_of_false (fun h => absurd h.1 (by decide)) fun h => Bool.false_ne_true h.1
  | true =>
    by_cases hfirst : o.msg_header_data_init = true ∧ o.msg_header_data_sent = true
    · -- the messages of both buffers were made, and only the second close sets the error
      obtain ⟨hinit, hsendmsg⟩ := hfirst
      have hgoes : ∀ w, writeParts pack o w = .goesOn (if o.msg_data_init then 0 else -1)
          (w ++ WriteEvent.sent pack.header :: .sent (channelHeaderPart pack) ::
            .freedBuffer .channelHeader ::
              messageEvents o.msg_data_init o.msg_data_sent .channelData (channelDataPart pack)) := by
        intro w
        have hcount : ¬((channelHeaderPart pack).length : Int) = -1 := by omega
        rw [hwrite, writeHeaderData, hsent]
        simp only [zmq_send, if_true, hlen]
        rw [if_neg (by decide), hinit, hsendmsg]
        simp only [zmq_msg_init_data, if_true, zmq_sendmsg, if_neg hcount, zmq_msg_close]
        unfold messageEvents
        cases o.msg_data_init <;> cases o.msg_data_sent <;> simp
      obtain ⟨hanswer, hpack⟩ : (∀ answer, .answered answer ∉ messageEvents o.msg_data_init
        o.msg_data_sent .channelData (channelDataPart pack)) ∧ _ := not_mem_messageEvents
      rw [isRight_iff_of_goesOn hgoes hparts (header_ne_nil pack) (by simpa [Answered] using hanswer)
        (by simpa using hpack), hheader, hdata, sentParts_header]
      have hsentParts : sentParts (.sent (channelHeaderPart pack) ::
          .freedBuffer .channelHeader :: messageEvents o.msg_data_init o.msg_data_sent .channelData
            (channelDataPart pack)) = channelHeaderPart pack ::
          if o.msg_data_init = true ∧ o.msg_data_sent = true then [channelDataPart pack] else [] :=
        congrArg (List.cons (channelHeaderPart pack)) sentParts_messageEvents
      rw [hsentParts]
      cases o.msg_data_init <;> cases o.msg_data_sent <;> simp [hinit, hsendmsg]
    · have hreturns : ∀ w, writeParts pack o w = .returns (-1)
          (w ++ WriteEvent.sent pack.header :: .freedBuffer .channelData :: .freedPack ::
            if o.msg_header_data_init then [.freedBuffer .channelHeader] else []) := by
        intro w
        rw [hwrite, writeHeaderData, hsent]
        simp only [zmq_send, if_true, hlen]
        rw [if_neg (by decide)]
        cases hi : o.msg_header_data_init <;> cases hs : o.msg_header_data_sent <;>
          simp [zmq_msg_init_data, zmq_sendmsg, zmq_msg_close, hi, hs] at hfirst ⊢
      have hless : sentParts (.sent pack.header :: .freedBuffer .channelData :: .freedPack ::
          if o.msg_header_data_init then [.freedBuffer .channelHeader] else []) ≠
          [pack.header, channelHeaderPart pack, channelDataPart pack] := by
        intro h
        rw [sentParts_header] at h
        cases hi : o.msg_header_data_init
        all_goals
          rw [hi] at h
          exact absurd (List.cons.inj h).2 nofun
      rw [isRight_iff_of_returns hreturns hparts (header_ne_nil pack) hless, hheader, hdata]
      cases hi : o.msg_header_data_init <;> cases hs : o.msg_header_data_sent <;>
        simp [hi, hs] at hfirst ⊢

end layouts

/-! ## The law -/

/-- For every pack with one of the four layouts and every outcome, the write is right just when the
outcome meets the condition. -/
theorem write_isRight_iff (pack : DirectIODataPack) (o : Outcomes)
    (hpart : pack.dispatcher_header.channel_part ≤ DIRECT_IO_CHANNEL_PART_HEADER_DATA) :
    WriteIsRight pack o ↔ OutcomesReported pack o := by
  unfold OutcomesReported
  split_ifs with hempty honly hdata
  · exact isRight_empty_iff pack o hempty
  · exact isRight_headerOnly_iff pack o honly
  · exact isRight_dataOnly_iff pack o hdata
  · refine isRight_headerData_iff pack o ?_
    have hle := UInt8.le_iff_toNat_le.mp hpart
    have hne : ∀ n : UInt8, ¬pack.dispatcher_header.channel_part = n →
        pack.dispatcher_header.channel_part.toNat ≠ n.toNat :=
      fun n hn h => hn (UInt8.toNat_inj.mp h)
    have h0 := hne _ hempty
    have h1 := hne _ honly
    have h2 := hne _ hdata
    apply UInt8.toNat_inj.mp
    simp only [DIRECT_IO_CHANNEL_PART_EMPTY, DIRECT_IO_CHANNEL_PART_HEADER_ONLY,
      DIRECT_IO_CHANNEL_PART_DATA_ONLY, DIRECT_IO_CHANNEL_PART_HEADER_DATA,
      UInt8.reduceToNat] at hle h0 h1 h2 ⊢
    omega

/-- A pack with both buffers. -/
def bothBuffers : DirectIODataPack :=
  (DirectIODataPack.zero.setChannelHeader [1] 1).setChannelData [2] 1

/-- Every call succeeds, but the one that sends the data. -/
def dataSent (sent : Bool) : Outcomes := ⟨true, true, true, true, true, sent, none, true, none⟩

theorem both_buffers_are_sent : WriteIsRight bothBuffers (dataSent true) :=
  (write_isRight_iff bothBuffers (dataSent true) (by decide)).mpr
    ⟨rfl, rfl, fun _ => ⟨rfl, iff_of_true trivial ⟨rfl, rfl⟩⟩⟩

/-- The data of a pack with both buffers is not sent, and the write returns 0. -/
theorem lost_data_is_not_reported : ¬WriteIsRight bothBuffers (dataSent false) := by
  intro h
  have hsent : sentParts (writeToSocket bothBuffers (dataSent false)).2 =
      bothBuffers.writeToSocket := (h.reports.mp rfl).1
  exact absurd hsent (by decide)

end chaos.common.direct_io.ZMQDirectIOClientConnection
