-- The reading of a data block that all queries share. The block is open once, and the stream keeps
-- the bits of a read that failed: what a query gets depends on what others asked for before.
import Chaos.FileStream

namespace chaos.data_service.vfs

open filestream

/-! ## The storage driver -/

namespace PosixStorageDriver

/-- The stream after the call, the bytes that are in the buffer, and the number of the bytes that
were read or the error. -/
def read (s : FileStream UInt8) (buffer_len : UInt32) :
    FileStream UInt8 × List UInt8 × Except Int UInt32 :=
  let r := s.read buffer_len.toNat
  (r.1, r.2, if r.1.good then .ok (UInt32.ofNat r.2.length) else .error (-1))

def seekg (s : FileStream UInt8) (offset : UInt64) : FileStream UInt8 × Int :=
  let s := s.seekg offset.toNat
  (s, if s.good then 0 else -1)

variable {s : FileStream UInt8} {buffer_len : UInt32} {offset : UInt64}

theorem read_of_le (h : s.good = true) (hn : buffer_len.toNat ≤ s.remaining) :
    read s buffer_len =
      ({ s with pos := s.pos + buffer_len.toNat }, s.next buffer_len.toNat, .ok buffer_len) := by
  unfold read
  rw [FileStream.read_of_le h hn]
  simp only [FileStream.length_next, Nat.min_eq_left hn, UInt32.ofNat_toNat]
  exact congrArg _ (congrArg _ (if_pos h))

theorem read_of_lt (h : s.good = true) (hn : s.remaining < buffer_len.toNat) :
    read s buffer_len =
      ({ s with pos := s.pos + s.remaining, failbit := true, eofbit := true },
        s.content.drop s.pos, .error (-1)) := by
  unfold read
  rw [FileStream.read_of_lt h hn]
  rfl

theorem seekg_of_fail (h : s.failbit = true) :
    seekg s offset = ({ s with eofbit := false }, -1) := by
  simp [seekg, FileStream.seekg, FileStream.good, h]

theorem seekg_of_not_fail (h : s.failbit = false) :
    seekg s offset = ({ s with pos := offset.toNat, eofbit := false }, 0) := by
  simp [seekg, FileStream.seekg, FileStream.good, h]

end PosixStorageDriver

/-! ## The fetcher -/

namespace query

/-- A data block that is open for reading. A file has fewer than 2^63 bytes. -/
structure ReadableBlock where
  stream : FileStream UInt8
  max_reacheable_size : Nat
  deriving DecidableEq

/-- `openBlock`, which takes the size from the file. -/
def openReadable (content : List UInt8) : ReadableBlock :=
  { stream := { content := content }, max_reacheable_size := content.length }

structure ReadCall where
  offset : UInt64
  data_len : UInt32
  deriving DecidableEq

/-- `readData` of the `DataBlockFetcher`: the block after the call, and the error or the data. -/
def readData (b : ReadableBlock) (c : ReadCall) : ReadableBlock × Except Int (List UInt8) :=
  if b.max_reacheable_size ≤ c.offset.toNat then (b, .error (-1000))
  else
    let sought := PosixStorageDriver.seekg b.stream c.offset
    if sought.2 ≠ 0 then ({ b with stream := sought.1 }, .error sought.2)
    else
      let r := PosixStorageDriver.read sought.1 c.data_len
      match r.2.2 with
      | .error err => ({ b with stream := r.1 }, .error err)
      | .ok _ => ({ b with stream := r.1 }, .ok r.2.1)

/-- The block after some calls. -/
def after (b : ReadableBlock) (calls : List ReadCall) : ReadableBlock :=
  calls.foldl (fun b c => (readData b c).1) b

/-- What a call gives on the block after a history of calls. -/
def resultAfter (content : List UInt8) (history : List ReadCall) (c : ReadCall) :
    Except Int (List UInt8) :=
  (readData (after (openReadable content) history) c).2

/-! ## What is claimed -/

/-- The bytes that are asked for are in the block. -/
def ReadCall.Fits (c : ReadCall) (size : Nat) : Prop := c.offset.toNat + c.data_len.toNat ≤ size

/-- The call starts inside the block and ends behind it. -/
def ReadCall.Overruns (c : ReadCall) (size : Nat) : Prop :=
  c.offset.toNat < size ∧ size < c.offset.toNat + c.data_len.toNat

/-- A call gives the same after two histories, and data just when the block has it. -/
def IndependentOfHistory (content : List UInt8) (history history' : List ReadCall)
    (c : ReadCall) : Prop :=
  resultAfter content history c = resultAfter content history' c ∧
    ∀ h ∈ [history, history'],
      ((∃ data, resultAfter content h c = .ok data) ↔ c.Fits content.length)

/-- The call does not ask for nothing at the end of the block, and no call before it ran over the
end when it asks for what is there. -/
def NotSpoiled (size : Nat) (history : List ReadCall) (c : ReadCall) : Prop :=
  ¬ (c.offset.toNat = size ∧ c.data_len = 0) ∧ (c.Fits size → ∀ e ∈ history, ¬ e.Overruns size)

instance (c : ReadCall) (size : Nat) : Decidable (c.Fits size) := inferInstanceAs (Decidable (_ ≤ _))

instance (c : ReadCall) (size : Nat) : Decidable (c.Overruns size) :=
  inferInstanceAs (Decidable (_ ∧ _))

instance (size : Nat) (history : List ReadCall) (c : ReadCall) :
    Decidable (NotSpoiled size history c) := inferInstanceAs (Decidable (_ ∧ (_ → _)))

/-! ## One call -/

/-- What a call gets, given whether a call before it ran over the end. -/
def answer (content : List UInt8) (spoiled : Bool) (c : ReadCall) : Except Int (List UInt8) :=
  if content.length ≤ c.offset.toNat then .error (-1000)
  else if spoiled ∨ ¬ c.Fits content.length then .error (-1)
  else .ok ((content.drop c.offset.toNat).take c.data_len.toNat)

/-- A block between two calls. -/
structure OnFile (content : List UInt8) (spoiled : Bool) (b : ReadableBlock) : Prop where
  bytes : b.stream.content = content
  size : b.max_reacheable_size = content.length
  failbit : b.stream.failbit = spoiled

variable {content : List UInt8} {spoiled : Bool} {b : ReadableBlock} {c : ReadCall}

/-- A call gets its answer, and spoils the stream when it runs over the end. -/
theorem OnFile.readData (h : OnFile content spoiled b) (c : ReadCall) :
    (readData b c).2 = answer content spoiled c ∧
      OnFile content (spoiled || decide (c.Overruns content.length)) (readData b c).1 := by
  obtain ⟨hcontent, hsize, hfail⟩ := h
  unfold query.readData answer
  rw [hsize]
  by_cases hbehind : content.length ≤ c.offset.toNat
  · have hover : ¬ c.Overruns content.length := fun hover => by
      have := hover.1
      omega
    rw [if_pos hbehind, if_pos hbehind]
    exact ⟨rfl, hcontent, hsize, by simp [hfail, hover]⟩
  · rw [if_neg hbehind, if_neg hbehind]
    cases spoiled with
    | true =>
      -- the position cannot be changed any more
      rw [PosixStorageDriver.seekg_of_fail hfail]
      exact ⟨rfl, hcontent, rfl, hfail⟩
    | false =>
      rw [PosixStorageDriver.seekg_of_not_fail hfail]
      dsimp only
      rw [if_neg (by decide)]
      have hgood : ({ b.stream with pos := c.offset.toNat, eofbit := false }).good = true := by
        simp [FileStream.good, hfail]
      have hremaining : ({ b.stream with pos := c.offset.toNat, eofbit := false }).remaining =
          content.length - c.offset.toNat := by
        simp [FileStream.remaining, hcontent]
      by_cases hfits : c.Fits content.length
      · have hover : ¬ c.Overruns content.length := fun hover => by
          have := hover.2
          unfold ReadCall.Fits at hfits
          omega
        rw [PosixStorageDriver.read_of_le hgood (by unfold ReadCall.Fits at hfits; omega)]
        refine ⟨?_, hcontent, rfl, by simp [hfail, hover]⟩
        rw [if_neg (by simp [hfits]), FileStream.next, hcontent]
      · have hover : c.Overruns content.length := by
          unfold ReadCall.Fits at hfits
          exact ⟨by omega, by omega⟩
        rw [PosixStorageDriver.read_of_lt hgood (by have := hover.2; omega)]
        refine ⟨?_, hcontent, rfl, by simp [hover]⟩
        rw [if_pos (.inr hfits)]

/-! ## Every history -/

/-- The answer after a history: a call of it that ran over the end spoils what comes after. -/
theorem resultAfter_eq (content : List UInt8) (history : List ReadCall) (c : ReadCall) :
    resultAfter content history c =
      answer content (history.any fun e => decide (e.Overruns content.length)) c := by
  have hafter : ∀ (history : List ReadCall) (spoiled : Bool) (b : ReadableBlock),
      OnFile content spoiled b →
      OnFile content (spoiled || history.any fun e => decide (e.Overruns content.length))
        (after b history) := by
    intro history
    induction history with
    | nil => exact fun spoiled b h => by simpa [after] using h
    | cons e history ih =>
      intro spoiled b h
      have hrest := ih _ _ (h.readData e).2
      rw [Bool.or_assoc] at hrest
      exact hrest
  have hopen : OnFile content false (openReadable content) := ⟨rfl, rfl, rfl⟩
  have hresult := (hafter history false _ hopen).readData c
  rw [Bool.false_or] at hresult
  exact hresult.1

theorem answer_ok_iff : (∃ data, answer content spoiled c = .ok data) ↔
    c.offset.toNat < content.length ∧ spoiled = false ∧ c.Fits content.length := by
  unfold answer
  split_ifs with hbehind hbad
  · simp [Nat.not_lt.mpr hbehind]
  · simp only [exists_false, false_iff]
    rintro ⟨-, hclean, hfits⟩
    rcases hbad with hspoiled | hnot
    · rw [hclean] at hspoiled
      cases hspoiled
    · exact hnot hfits
  · rw [not_or, not_not, Bool.not_eq_true] at hbad
    simp [Nat.lt_of_not_le hbehind, hbad.1, hbad.2]

/-- A call is independent of the two histories just when neither spoiled it, and it does not ask for
nothing at the end of the block. -/
theorem independent_of_history_iff (content : List UInt8) (history history' : List ReadCall)
    (c : ReadCall) :
    IndependentOfHistory content history history' c ↔
      NotSpoiled content.length (history ++ history') c := by
  have hclean : ∀ (l : List ReadCall), (l.any fun e => decide (e.Overruns content.length)) = false ↔
      ∀ e ∈ l, ¬ e.Overruns content.length := by
    intro l
    simp
  unfold IndependentOfHistory NotSpoiled
  simp only [resultAfter_eq, List.forall_mem_cons, List.not_mem_nil, false_imp_iff, implies_true,
    and_true, answer_ok_iff, hclean]
  constructor
  · rintro ⟨-, hfirst, hsecond⟩
    refine ⟨?_, ?_⟩
    · rintro ⟨hend, hzero⟩
      have hfits : c.Fits content.length := by
        unfold ReadCall.Fits
        rw [hend, hzero]
        exact Nat.le_refl _
      have := (hfirst.mpr hfits).1
      omega
    · intro hfits e he
      rcases List.mem_append.mp he with he | he
      · exact (hfirst.mpr hfits).2.1 e he
      · exact (hsecond.mpr hfits).2.1 e he
  · rintro ⟨hend, hnone⟩
    by_cases hfits : c.Fits content.length
    · have hall := hnone hfits
      have hleft : ∀ e ∈ history, ¬ e.Overruns content.length :=
        fun e he => hall e (List.mem_append_left _ he)
      have hright : ∀ e ∈ history', ¬ e.Overruns content.length :=
        fun e he => hall e (List.mem_append_right _ he)
      have hinside : c.offset.toNat < content.length := by
        unfold ReadCall.Fits at hfits
        by_contra hout
        refine hend ⟨by omega, ?_⟩
        rw [← UInt32.toNat_inj]
        change c.data_len.toNat = 0
        omega
      rw [(hclean history).mpr hleft, (hclean history').mpr hright]
      exact ⟨rfl, ⟨fun _ => hfits, fun _ => ⟨hinside, hleft, hfits⟩⟩,
        ⟨fun _ => hfits, fun _ => ⟨hinside, hright, hfits⟩⟩⟩
    · -- a call that does not fit fails after every history, with one error
      simp [answer, hfits]

/-- A read over the end of a block of one byte takes the byte from the query that comes next. -/
theorem failed_read_spoils_the_next : ¬ ∀ (content : List UInt8) (history history' : List ReadCall)
    (c : ReadCall), IndependentOfHistory content history history' c := by
  intro h
  have hsame := (h [1] [] [⟨0, 2⟩] ⟨0, 1⟩).1
  exact absurd hsame (by decide)

end query

end chaos.data_service.vfs
