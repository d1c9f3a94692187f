-- When the server dispatches the messages that the client wrote: when each read brings just one of
-- them. A stream that is joined or split elsewhere loses messages or breaks the server.
import Chaos.Runs
import Chaos.TCPUVServer
import Mathlib.Data.List.Forall2

namespace chaos.common.rpc.tcpuv

open little_endian runs

/-! ## What is claimed -/

/-- The reads bring the bytes that the client wrote, in any pieces. -/
def Carries (reads : List ReadCallback) (messages : List Message) : Prop :=
  reads.flatMap ReadCallback.bytes = messages.foldl send_data []

/-- A new connection dispatches just the messages. -/
def Dispatches (dispatchCommand : List UInt8 → List UInt8) (reads : List ReadCallback)
    (messages : List Message) : Prop :=
  ∃ t, run (AcceptedConnection.on_read dispatchCommand) {} reads = some t ∧
    t.dispatched = messages.map Message.elements

/-! ## The condition -/

/-- The reads up to the one that closes the connection. -/
def arrived (reads : List ReadCallback) : List (List UInt8) :=
  (reads.map ReadCallback.bytes).takeWhile (· ≠ [])

/-- The piece is the message. The zero at its end is not read. -/
def Covers (piece : List UInt8) (message : Message) : Prop :=
  piece = message.getBSONData ∨ piece = message.getBSONData.dropLast

/-! ## One pack -/

theorem Message.length (m : Message) : m.getBSONData.length = m.elements.length + 5 :=
  bson.length_document m.elements

/-- The size of a message that can be written has a place in four bytes. -/
theorem Message.ofBytes_size (m : Message) :
    ofBytes (toBytes 4 (m.elements.length + 5)) = m.elements.length + 5 := by
  have := m.fits
  unfold BSONObjMaxInternalSize at this
  exact ofBytes_toBytes (by omega)

/-- What a pack says about the buffer that it is built from. -/
theorem newCDataWrapper_some {buffer pack : List UInt8} (h : newCDataWrapper buffer = some pack) :
    4 ≤ buffer.length ∧ ofBytes (buffer.take 4) ≠ 0 ∧ pack.length ≤ buffer.length - 4 ∧
      (ofBytes (buffer.take 4) ≤ 5 ∧ pack = [] ∨ ofBytes (buffer.take 4) = pack.length + 5) := by
  unfold newCDataWrapper at h
  split at h
  · cases h
  · next hlen =>
    dsimp only at h
    split at h
    · cases h
    · next hsize =>
      refine ⟨by omega, by omega, ?_⟩
      split at h
      · next hsmall =>
        cases h
        exact ⟨Nat.zero_le _, Or.inl ⟨hsmall, rfl⟩⟩
      · split at h
        · cases h
        · cases h
          simp only [List.length_take, List.length_drop]
          omega

/-- A buffer that starts with the size and the elements gives the elements. -/
theorem newCDataWrapper_of_prefix (m : Message) (rest : List UInt8) :
    newCDataWrapper (toBytes 4 (m.elements.length + 5) ++ (m.elements ++ rest)) =
      some m.elements := by
  have hfits := m.fits
  have htake : (toBytes 4 (m.elements.length + 5) ++ (m.elements ++ rest)).take 4 =
      toBytes 4 (m.elements.length + 5) := List.take_left' (length_toBytes _ _)
  have hdrop : (toBytes 4 (m.elements.length + 5) ++ (m.elements ++ rest)).drop 4 =
      m.elements ++ rest := List.drop_left' (length_toBytes _ _)
  unfold newCDataWrapper
  simp only [htake, hdrop, m.ofBytes_size, List.length_append, length_toBytes]
  rw [if_neg (by omega), if_neg (by omega)]
  split
  · next hsmall => rw [List.length_eq_zero_iff.mp (by omega : m.elements.length = 0)]
  · rw [if_neg (by omega), Nat.add_sub_cancel, List.take_left]

theorem getBSONData_dropLast (m : Message) :
    m.getBSONData.dropLast = toBytes 4 (m.elements.length + 5) ++ m.elements := by
  simp [Message.getBSONData, bson.document, ← List.append_assoc]

theorem Covers.pack {piece : List UInt8} {m : Message} (h : Covers piece m) :
    newCDataWrapper piece = some m.elements := by
  rcases h with rfl | rfl
  · exact newCDataWrapper_of_prefix m [0]
  · rw [getBSONData_dropLast]
    simpa using newCDataWrapper_of_prefix m []

/-! ## A stream out of step -/

/-- A byte is left of the message before: the size is read from it on. -/
theorem pack_after_zero {piece rest more : List UInt8} {m : Message}
    (h : piece ++ rest = 0 :: (m.getBSONData ++ more)) :
    newCDataWrapper piece ≠ some m.elements := by
  intro hpack
  obtain ⟨hlen, hsize, -, hn⟩ := newCDataWrapper_some hpack
  have htake : piece.take 4 = 0 :: toBytes 3 (m.elements.length + 5) := by
    rw [← List.take_append_of_le_length hlen, h]
    simp [Message.getBSONData, bson.document, toBytes]
  have hfits := m.fits
  rw [htake, ofBytes, ofBytes_toBytes_mod] at hsize hn
  unfold BSONObjMaxInternalSize at hfits
  simp only [UInt8.toNat_zero] at hsize hn
  omega

/-- A byte of the message went with the one before. -/
theorem pack_of_tail (m : Message) : newCDataWrapper m.getBSONData.tail ≠ some m.elements := by
  intro hpack
  obtain ⟨-, hsize, -, hn⟩ := newCDataWrapper_some hpack
  obtain ⟨x, hx⟩ : ∃ x : UInt8, (m.elements ++ [0]).take 1 = [x] := by
    cases m.elements with
    | nil => exact ⟨0, rfl⟩
    | cons x xs => exact ⟨x, rfl⟩
  have htake : m.getBSONData.tail.take 4 =
      toBytes 3 ((m.elements.length + 5) / 256) ++ [x] := by
    rw [← hx]
    simp [Message.getBSONData, bson.document, toBytes]
  have hfits := m.fits
  unfold BSONObjMaxInternalSize at hfits
  rw [htake, ofBytes_append, ofBytes_toBytes_mod, length_toBytes] at hsize hn
  simp only [ofBytes] at hsize hn
  rcases hn with ⟨hsmall, hempty⟩ | hn
  · rw [hempty] at hsize hsmall
    simp only [List.length_nil] at hsize hsmall
    omega
  · rcases Nat.eq_zero_or_pos x.toNat with hx | hx <;> omega

/-- Each piece gives the pack of its message. -/
def Unpack (pieces : List (List UInt8)) (messages : List Message) : Prop :=
  List.Forall₂ (fun piece m => newCDataWrapper piece = some m.elements) pieces messages

theorem length_le_of_pack {piece : List UInt8} {m : Message}
    (h : newCDataWrapper piece = some m.elements) :
    m.getBSONData.length ≤ piece.length + 1 := by
  obtain ⟨hlen, -, hn, -⟩ := newCDataWrapper_some h
  rw [m.length]
  omega

/-- A stream that is ahead of the messages stays ahead: a piece can make up one byte only, and the
last byte cannot be made up. -/
theorem not_unpack_of_ahead {pieces : List (List UInt8)} {messages : List Message}
    {extra left : List UInt8} (hextra : extra ≠ [])
    (h : extra ++ (pieces.flatten ++ left) = messages.flatMap Message.getBSONData) :
    ¬ Unpack pieces messages := by
  intro hun
  induction hun generalizing extra with
  | nil => simp [hextra] at h
  | @cons piece m pieces messages hpack hun ih =>
    have hlen := length_le_of_pack hpack
    rw [List.flatten_cons, List.append_assoc, List.flatMap_cons, ← List.append_assoc] at h
    have hpos : 0 < extra.length := List.length_pos_iff.mpr hextra
    have hle : m.getBSONData.length ≤ (extra ++ piece).length := by
      rw [List.length_append]
      omega
    obtain ⟨extra', hex⟩ := List.prefix_of_prefix_length_le ⟨_, h.symm⟩ (List.prefix_append _ _) hle
    rcases eq_or_ne extra' [] with rfl | hextra'
    · rw [List.append_nil] at hex
      have hone : extra.length = 1 := by
        have := congrArg List.length hex
        rw [List.length_append] at this
        omega
      obtain ⟨b, rfl⟩ := List.length_eq_one_iff.mp hone
      refine pack_of_tail m ?_
      rw [hex]
      exact hpack
    · refine ih hextra' ?_
      rw [← hex, List.append_assoc] at h
      exact List.append_cancel_left h

/-- The pieces of the stream give the packs just when they are the messages. -/
theorem unpack_iff {pieces : List (List UInt8)} {messages : List Message} {left : List UInt8}
    (h : pieces.flatten ++ left = messages.flatMap Message.getBSONData) :
    Unpack pieces messages ↔ List.Forall₂ Covers pieces messages := by
  refine ⟨fun hun => ?_, fun hcov => hcov.imp fun _ _ => Covers.pack⟩
  induction hun with
  | nil => exact List.Forall₂.nil
  | @cons piece m pieces messages hpack hun ih =>
    have hlen := length_le_of_pack hpack
    rw [List.flatten_cons, List.append_assoc, List.flatMap_cons] at h
    rcases Nat.lt_trichotomy piece.length m.getBSONData.length with hlt | heq | hgt
    · obtain ⟨zero, hzero⟩ :=
        List.prefix_of_prefix_length_le ⟨_, h⟩ (List.prefix_append _ _) hlt.le
      have hsplit : m.getBSONData = m.getBSONData.dropLast ++ [0] := by
        rw [getBSONData_dropLast]
        simp [Message.getBSONData, bson.document]
      have hpiece : piece = m.getBSONData.dropLast ∧ zero = [0] := by
        rw [hsplit] at hzero
        refine List.append_inj hzero ?_
        rw [List.length_dropLast]
        omega
      obtain ⟨hpiece, rfl⟩ := hpiece
      rw [← hzero, List.append_assoc] at h
      have hrest := List.append_cancel_left h
      refine List.Forall₂.cons (Or.inr hpiece) ?_
      cases hun with
      | nil => exact List.Forall₂.nil
      | @cons piece' m' pieces' messages' hpack' hun' =>
        rw [List.flatten_cons, List.append_assoc, List.flatMap_cons] at hrest
        exact absurd hpack' (pack_after_zero hrest)
    · obtain ⟨hpiece, hrest⟩ := List.append_inj h heq
      exact List.Forall₂.cons (Or.inl hpiece) (ih hrest)
    · obtain ⟨extra, hex⟩ :=
        List.prefix_of_prefix_length_le ⟨_, h.symm⟩ (List.prefix_append _ _) hgt.le
      have hextra : extra ≠ [] := by
        rintro rfl
        rw [← hex, List.append_nil] at hgt
        exact Nat.lt_irrefl _ hgt
      rw [← hex, List.append_assoc] at h
      exact absurd hun (not_unpack_of_ahead hextra (List.append_cancel_left h))

/-! ## The reads of a connection -/

theorem foldl_send_data (messages : List Message) (written : List UInt8) :
    messages.foldl send_data written = written ++ messages.flatMap Message.getBSONData := by
  induction messages generalizing written with
  | nil => simp
  | cons m messages ih => rw [List.foldl_cons, ih, send_data, List.append_assoc, List.flatMap_cons]

variable {dispatchCommand : List UInt8 → List UInt8} {reads : List ReadCallback}
  {messages : List Message} {s t : AcceptedConnection}

/-- A connection that is closed dispatches nothing. -/
theorem run_closing (hs : s.closing) :
    run (AcceptedConnection.on_read dispatchCommand) s reads = some s := by
  induction reads with
  | nil => rfl
  | cons r reads ih =>
    refine run_cons_some.mpr ⟨s, ?_, ih⟩
    rcases r with (_ | ⟨b, bs⟩) | nread <;> simp [AcceptedConnection.on_read, hs]

/-- An open connection dispatches the pack of each piece that arrives. -/
theorem run_dispatched (hs : s.receiving_phase = .Data) (hopen : s.closing = false)
    (packs : List (List UInt8)) :
    (∃ t, run (AcceptedConnection.on_read dispatchCommand) s reads = some t ∧
        t.dispatched = packs) ↔
      ∃ new,
        List.Forall₂ (fun piece pack => newCDataWrapper piece = some pack) (arrived reads) new ∧
        packs = s.dispatched ++ new := by
  induction reads generalizing s with
  | nil => simp [arrived, eq_comm]
  | cons r reads ih =>
    by_cases hr : r.bytes = []
    · have hstep : AcceptedConnection.on_read dispatchCommand s r = some s.uv_close := by
        rcases r with (_ | ⟨b, bs⟩) | nread
        · simp [AcceptedConnection.on_read, hopen]
        · cases hr
        · simp [AcceptedConnection.on_read, hopen]
      have hrun : run (AcceptedConnection.on_read dispatchCommand) s (r :: reads) =
          some s.uv_close := run_cons_some.mpr ⟨_, hstep, run_closing rfl⟩
      simp [hrun, arrived, hr, AcceptedConnection.uv_close, eq_comm]
    · obtain ⟨b, bs, rfl⟩ : ∃ b bs, r = .received (b :: bs) := by
        rcases r with (_ | ⟨b, bs⟩) | nread
        · exact absurd rfl hr
        · exact ⟨b, bs, rfl⟩
        · exact absurd rfl hr
      have harr : arrived (.received (b :: bs) :: reads) = (b :: bs) :: arrived reads := by
        simp [arrived, ReadCallback.bytes]
      have hstep : AcceptedConnection.on_read dispatchCommand s (.received (b :: bs)) =
          s.internal_read_data dispatchCommand (b :: bs) := by
        simp [AcceptedConnection.on_read, hopen, hs]
      simp only [harr, run_cons_some, hstep, AcceptedConnection.internal_read_data,
        Option.map_eq_some_iff]
      have hnext := fun pack => ih (s := { s with
        dispatched := s.dispatched ++ [pack]
        answers := s.answers ++ [bson.document (dispatchCommand pack)]
        receiving_phase := .Data }) rfl hopen
      constructor
      · rintro ⟨t, ⟨_, ⟨pack, hpack, rfl⟩, hrun⟩, ht⟩
        obtain ⟨new, hnew, rfl⟩ := (hnext pack).mp ⟨t, hrun, ht⟩
        exact ⟨pack :: new, List.Forall₂.cons hpack hnew, by simp⟩
      · rintro ⟨_, hnew, rfl⟩
        obtain ⟨pack, new, hpack, hrest, rfl⟩ := List.forall₂_cons_left_iff.mp hnew
        obtain ⟨t, hrun, ht⟩ := (hnext pack).mpr ⟨new, hrest, by simp⟩
        exact ⟨t, ⟨_, ⟨pack, hpack, rfl⟩, hrun⟩, ht⟩

/-- The pieces that arrive are the start of the stream. -/
theorem flatten_arrived (reads : List ReadCallback) :
    ∃ left, (arrived reads).flatten ++ left = reads.flatMap ReadCallback.bytes := by
  obtain ⟨left, hleft⟩ := List.takeWhile_prefix (l := reads.map ReadCallback.bytes) (· ≠ [])
  refine ⟨left.flatten, ?_⟩
  rw [arrived, ← List.flatten_append, hleft, List.flatMap_def]

/-- The server dispatches just the messages of the stream, in their order and with their bytes,
exactly when each piece that arrives is one message. -/
theorem stream_is_dispatched_iff (dispatchCommand : List UInt8 → List UInt8)
    (reads : List ReadCallback) (messages : List Message) (h : Carries reads messages) :
    Dispatches dispatchCommand reads messages ↔ List.Forall₂ Covers (arrived reads) messages := by
  obtain ⟨left, hleft⟩ := flatten_arrived reads
  have hstream : (arrived reads).flatten ++ left = messages.flatMap Message.getBSONData := by
    rw [hleft, h, foldl_send_data, List.nil_append]
  rw [← unpack_iff hstream, Dispatches, run_dispatched rfl rfl]
  simp only [List.nil_append]
  constructor
  · rintro ⟨new, hnew, rfl⟩
    rwa [List.forall₂_map_right_iff] at hnew
  · intro hun
    exact ⟨_, List.forall₂_map_right_iff.mpr hun, rfl⟩

/-- A message with one element, a null under the name `a`. -/
def nullMessage : Message := ⟨[10, 97, 0], by decide⟩

/-- Two messages come in two reads, and both are dispatched. -/
theorem stream_is_dispatched_whole :
    Dispatches id [.received nullMessage.getBSONData, .received nullMessage.getBSONData]
      [nullMessage, nullMessage] :=
  (stream_is_dispatched_iff id
    [.received nullMessage.getBSONData, .received nullMessage.getBSONData]
    [nullMessage, nullMessage] rfl).mpr
    (List.Forall₂.cons (Or.inl rfl) (List.Forall₂.cons (Or.inl rfl) List.Forall₂.nil))

/-- One message comes in two reads, and the server takes the first four bytes for a message. -/
theorem stream_is_not_dispatched : ¬ ∀ reads, Carries reads [nullMessage] →
    Dispatches id reads [nullMessage] := by
  intro hall
  obtain ⟨t, hr, -⟩ := hall [.received (nullMessage.getBSONData.take 4),
    .received (nullMessage.getBSONData.drop 4)] rfl
  cases hr

end chaos.common.rpc.tcpuv
