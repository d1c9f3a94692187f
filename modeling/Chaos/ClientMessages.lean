-- What becomes of the messages of the TCP client. A connection goes from stage to stage, and a
-- message with it. A name that is not resolved leaves its destination waiting for nothing, and a
-- connection that breaks with no message waiting is closed twice.
import Chaos.Runs
import Chaos.TCPUVClient
import Chaos.TokenPlaces

namespace chaos.common.rpc.tcpuv

open runs token_places

inductive Place where
  | submission
  | queued (destinationAddr : String)
  | held (stream : Nat)
  | written
  | disposed
  deriving DecidableEq, Repr

/-- A connection holds its message until the write has ended. -/
def UVConnInfo.held (info : UVConnInfo) : List Nat :=
  if info.isWritten then [] else info.current_message_info.toList

/-- How far a connection of a destination has come. A connection that is closing points to no
destination. -/
inductive Stage where
  | resolving (destinationAddr : String)
  | connecting (destinationAddr : String)
  | writing (destinationAddr : String) (message : Nat) (reading : Bool)
  | acking (destinationAddr : String) (message : Nat)
  | closing (message : Option Nat) (isWritten : Bool)
  deriving DecidableEq, Repr

namespace Stage

def destinationAddr : Stage → Option String
  | .resolving a | .connecting a | .writing a _ _ | .acking a _ => some a
  | .closing _ _ => none

/-- The connection at a stage. -/
def info (stream : Nat) : Stage → UVConnInfo
  | .resolving _ => {}
  | .connecting a => { data := .connectionInfo a, connecting := true }
  | .writing a message reading =>
    { current_message_info := some message, data := .connectionInfo a, writes := [message],
      reading := reading }
  | .acking a message =>
    { current_message_info := some message, data := .connectionInfo a, reading := true,
      isWritten := true }
  | .closing message isWritten =>
    { current_message_info := message, data := .uvConnInfo (some stream), closes := 1,
      isWritten := isWritten }

end Stage

namespace TCPUVClient

variable {s t : TCPUVClient}

/-! ## What is claimed -/

/-- The messages at a place. -/
def holds (s : TCPUVClient) : Place → List Nat
  | .submission => s.queue_async_submission.map Prod.fst
  | .queued destinationAddr =>
    (s.map_addr_connection_info destinationAddr).elim [] ConnectionInfo.queued_message_info
  | .held stream => (s.handles stream).elim [] UVConnInfo.held
  | .written => s.written
  | .disposed => s.disposed

/-- The event loop will call back for the destination when a name is resolved, a connection is made
or a write has ended. -/
def Calls (s : TCPUVClient) (ci : ConnectionInfo) : Prop :=
  0 < ci.resolving ∨ ∃ h u, ci.uv_conn_info = some h ∧ s.handles h = some u ∧
    (u.connecting ∨ u.writes ≠ [])

/-- As above, or when an acknowledgement is read. -/
def CallsOrReads (s : TCPUVClient) (ci : ConnectionInfo) : Prop :=
  s.Calls ci ∨ ∃ h u, ci.uv_conn_info = some h ∧ s.handles h = some u ∧ u.reading

/-- Each message is at one place, a message that waits is waited for, and so is one that a
connection holds, and no handle is closed twice. -/
structure Accounted (calls : TCPUVClient → ConnectionInfo → Prop) (s : TCPUVClient) : Prop where
  once : Placed s.holds (· < s.submitted)
  waits : ∀ destinationAddr ci, s.map_addr_connection_info destinationAddr = some ci →
    ci.queued_message_info ≠ [] → ci.uv_conn_info = none ∨ calls s ci
  flies : ∀ h u, s.handles h = some u → u.held ≠ [] → u.writes ≠ [] ∨ 0 < u.closes
  closed : ∀ h u, s.handles h = some u → u.closes ≤ 1

/-! ## The condition -/

/-- The messages that wait for the destination that the handle points to. -/
def waiting (s : TCPUVClient) (u : UVConnInfo) : List Nat :=
  match u.data with
  | .connectionInfo destinationAddr => s.holds (.queued destinationAddr)
  | _ => []

/-- The callback is one that the event loop owes, and nothing goes wrong that the code does not
handle. -/
def Handled (s : TCPUVClient) : Label → Prop
  | .submitMessage destinationAddr message => Accepts destinationAddr message ∨ message = false
  | .processBufferElement _ => s.queue_async_submission ≠ []
  | .on_resolve destinationAddr status configure connect =>
    (∃ ci ∈ s.map_addr_connection_info destinationAddr, 0 < ci.resolving) ∧ status = 0 ∧
      (configure → connect)
  | .on_connect stream status write _ =>
    (∃ u ∈ s.handles stream, u.connecting) ∧ (status = 0 → write)
  | .on_write_end stream status start =>
    ∃ u ∈ s.handles stream, u.writes ≠ [] ∧ (status = 0 → start ∨ u.reading)
  | .on_ack_read stream nread write _ =>
    ∃ u ∈ s.handles stream, u.reading ∧ u.writes = [] ∧
      if s.waiting u = [] then 0 < nread else 0 < nread → write
  | .on_close stream => ∃ u ∈ s.handles stream, 0 < u.closes ∧ u.connecting = false ∧ u.writes = []

instance (s : TCPUVClient) : ∀ a, Decidable (Handled s a)
  | .submitMessage _ _ => inferInstanceAs (Decidable (_ ∨ _))
  | .processBufferElement _ => inferInstanceAs (Decidable (_ ≠ _))
  | .on_resolve _ _ _ _ => inferInstanceAs (Decidable ((∃ ci ∈ _, _) ∧ _))
  | .on_connect _ _ _ _ => inferInstanceAs (Decidable ((∃ u ∈ _, _) ∧ _))
  | .on_write_end _ _ _ => inferInstanceAs (Decidable (∃ u ∈ _, _))
  | .on_ack_read stream nread write _ =>
    inferInstanceAs (Decidable (∃ u ∈ s.handles stream, u.reading ∧ u.writes = [] ∧
      if s.waiting u = [] then 0 < nread else 0 < nread → write))
  | .on_close _ => inferInstanceAs (Decidable (∃ u ∈ _, _))

/-! ## The invariant -/

/-- What a destination points to. -/
def pointer (s : TCPUVClient) (destinationAddr : String) : Option Nat :=
  (s.map_addr_connection_info destinationAddr).bind ConnectionInfo.uv_conn_info

/-- The destinations point to the connections that are not closing, each at its stage. -/
structure Staged (s : TCPUVClient) (stage : Nat → Option Stage) : Prop where
  handles : ∀ h, s.handles h = (stage h).map (Stage.info h)
  pointer : ∀ a h, s.pointer a = some h ↔ (stage h).bind Stage.destinationAddr = some a
  resolving : ∀ a ci, s.map_addr_connection_info a = some ci →
    ci.resolving = if ∃ h ∈ ci.uv_conn_info, stage h = some (.resolving a) then 1 else 0
  queue : ∀ a ci, s.map_addr_connection_info a = some ci →
    (∃ h ∈ ci.uv_conn_info, stage h = some (.resolving a) ∨ stage h = some (.connecting a)) →
    ci.queued_message_info ≠ []
  fresh : ∀ h, s.nextHandle ≤ h → stage h = none

structure Good (s : TCPUVClient) : Prop where
  staged : ∃ stage, Staged s stage
  once : Placed s.holds (· < s.submitted)

theorem good_new : Good {} := by
  refine ⟨⟨fun _ => none, ?_⟩, ?_⟩
  · constructor <;> simp [pointer]
  · refine ⟨fun p => ?_, fun m p q hp => ?_, fun m => ?_⟩
    · cases p <;> simp [holds]
    · cases p <;> simp [holds] at hp
    · simp only [Nat.not_lt_zero, false_iff, not_exists]
      intro p
      cases p <;> simp [holds]

variable {stage : Nat → Option Stage} {a : String} {h : Nat} {ci : ConnectionInfo}

theorem Staged.handle (hs : Staged s stage) {st : Stage} (hst : stage h = some st) :
    s.handles h = some (st.info h) := by
  rw [hs.handles, hst, Option.map_some]

/-- A connection that is not closing is the one that its destination points to. -/
theorem Staged.points (hs : Staged s stage) {st : Stage} (hst : stage h = some st)
    (ha : st.destinationAddr = some a) :
    ∃ ci, s.map_addr_connection_info a = some ci ∧ ci.uv_conn_info = some h := by
  have hp : s.pointer a = some h := (hs.pointer a h).mpr (by rw [hst, Option.bind_some, ha])
  exact Option.bind_eq_some_iff.mp hp

theorem Staged.points_conn (hs : Staged s stage) {st : Stage} (hst : stage h = some st)
    (ha : st.destinationAddr = some a) (hci : s.map_addr_connection_info a = some ci) :
    ci.uv_conn_info = some h := by
  obtain ⟨ci', hci', hp⟩ := hs.points hst ha
  rw [hci] at hci'
  cases hci'
  exact hp

/-- The other way round. -/
theorem Staged.stage_of (hs : Staged s stage) (hci : s.map_addr_connection_info a = some ci)
    (hp : ci.uv_conn_info = some h) : ∃ st, stage h = some st ∧ st.destinationAddr = some a :=
  Option.bind_eq_some_iff.mp ((hs.pointer a h).mp (by rw [TCPUVClient.pointer, hci]; exact hp))

theorem Good.accounted (hg : Good s) : Accounted CallsOrReads s := by
  obtain ⟨⟨stage, hs⟩, honce⟩ := hg
  refine ⟨honce, ?_, ?_, ?_⟩
  · intro a ci hci _
    rcases hp : ci.uv_conn_info with _ | h
    · exact Or.inl rfl
    · obtain ⟨st, hst, ha⟩ := hs.stage_of hci hp
      have hh := hs.handle hst
      refine Or.inr ?_
      cases st with
      | resolving b =>
        cases ha
        refine Or.inl (Or.inl ?_)
        rw [hs.resolving a ci hci, if_pos ⟨h, hp, hst⟩]
        exact Nat.one_pos
      | connecting b => exact Or.inl (Or.inr ⟨h, _, hp, hh, Or.inl rfl⟩)
      | writing b m r => exact Or.inl (Or.inr ⟨h, _, hp, hh, Or.inr (by simp [Stage.info])⟩)
      | acking b m => exact Or.inr ⟨h, _, hp, hh, rfl⟩
      | closing m w => cases ha
  · intro h u hu hheld
    rw [hs.handles] at hu
    obtain ⟨st, -, rfl⟩ := Option.map_eq_some_iff.mp hu
    cases st <;> simp_all [Stage.info, UVConnInfo.held]
  · intro h u hu
    rw [hs.handles] at hu
    obtain ⟨st, -, rfl⟩ := Option.map_eq_some_iff.mp hu
    cases st <;> simp [Stage.info]

/-! ## One connection -/

/-- A connection comes to another stage. Only it and its destination change. -/
structure Advanced (s : TCPUVClient) (a : String) (h : Nat) (ci : ConnectionInfo)
    (st : Option Stage) (t : TCPUVClient) : Prop where
  handles : t.handles = Function.update s.handles h (st.map (Stage.info h))
  connections : t.map_addr_connection_info =
    Function.update s.map_addr_connection_info a (some ci)
  next : s.nextHandle ≤ t.nextHandle
  bound : h < t.nextHandle
  points : ci.uv_conn_info = some h ∧ st.bind Stage.destinationAddr = some a ∨
    ci.uv_conn_info = none ∧ st.bind Stage.destinationAddr = none
  resolving : ci.resolving = if st = some (.resolving a) then 1 else 0
  queue : st = some (.resolving a) ∨ st = some (.connecting a) → ci.queued_message_info ≠ []

/-- The connection was the one of the destination, or is a new one of a destination that points to
none. -/
theorem Staged.advance (hs : Staged s stage) {st : Option Stage} (ht : Advanced s a h ci st t)
    (hold : (stage h).bind Stage.destinationAddr = some a ∨ stage h = none ∧ s.pointer a = none) :
    Staged t (Function.update stage h st) := by
  have hone : ∀ h' ≠ h, (stage h').bind Stage.destinationAddr ≠ some a := by
    intro h' hne ha
    have hp := (hs.pointer a h').mpr ha
    rcases hold with hold | ⟨-, hold⟩
    · rw [(hs.pointer a h).mpr hold] at hp
      exact hne (Option.some.inj hp).symm
    · rw [hold] at hp
      cases hp
  have hother : ∀ a' ≠ a, s.pointer a' ≠ some h := by
    intro a' hne hp
    have ha := (hs.pointer a' h).mp hp
    rcases hold with hold | ⟨hold, -⟩
    · rw [hold] at ha
      exact hne (Option.some.inj ha).symm
    · rw [hold] at ha
      cases ha
  have hci : t.map_addr_connection_info a = some ci := by
    rw [ht.connections, Function.update_self]
  have hci' : ∀ a' ≠ a, t.map_addr_connection_info a' = s.map_addr_connection_info a' := by
    intro a' hne
    rw [ht.connections, Function.update_of_ne hne]
  have hsame : ∀ a' ≠ a, ∀ ci', s.map_addr_connection_info a' = some ci' →
      ∀ h' ∈ ci'.uv_conn_info, Function.update stage h st h' = stage h' := by
    intro a' hne ci' hci' h' hh'
    refine Function.update_of_ne ?_ _ _
    rintro rfl
    refine hother a' hne ?_
    rw [TCPUVClient.pointer, hci']
    exact hh'
  constructor
  · intro h'
    rw [ht.handles]
    rcases eq_or_ne h' h with rfl | hne
    · simp
    · rw [Function.update_of_ne hne, Function.update_of_ne hne, hs.handles]
  · intro a' h'
    rcases eq_or_ne a' a with rfl | hne
    · have hpt : t.pointer a' = ci.uv_conn_info := by rw [TCPUVClient.pointer, hci]; rfl
      rw [hpt]
      rcases eq_or_ne h' h with rfl | hne'
      · rw [Function.update_self]
        rcases ht.points with ⟨h1, h2⟩ | ⟨h1, h2⟩ <;> simp [h1, h2]
      · rw [Function.update_of_ne hne']
        refine iff_of_false ?_ (hone h' hne')
        rcases ht.points with ⟨h1, -⟩ | ⟨h1, -⟩ <;> simp [h1, hne'.symm]
    · have hpt : t.pointer a' = s.pointer a' := by
        rw [TCPUVClient.pointer, TCPUVClient.pointer, hci' a' hne]
      rw [hpt]
      rcases eq_or_ne h' h with rfl | hne'
      · rw [Function.update_self]
        refine iff_of_false (hother a' hne) ?_
        rcases ht.points with ⟨-, h2⟩ | ⟨-, h2⟩ <;> simp [h2, hne.symm]
      · rw [Function.update_of_ne hne', hs.pointer]
  · intro a' ci' hmap
    rcases eq_or_ne a' a with rfl | hne
    · rw [hci] at hmap
      cases hmap
      rw [ht.resolving]
      rcases ht.points with ⟨h1, -⟩ | ⟨h1, h2⟩
      · simp [h1]
      · rw [if_neg (by rintro rfl; simp [Stage.destinationAddr] at h2)]
        simp [h1]
    · rw [hci' a' hne] at hmap
      rw [hs.resolving a' ci' hmap]
      have hiff : ∀ h' ∈ ci'.uv_conn_info, (stage h' = some (.resolving a') ↔
          Function.update stage h st h' = some (.resolving a')) := by
        intro h' hh'
        rw [hsame a' hne ci' hmap h' hh']
      exact if_congr (exists_congr fun h' => and_congr_right (hiff h')) rfl rfl
  · intro a' ci' hmap hst
    rcases eq_or_ne a' a with rfl | hne
    · rw [hci] at hmap
      cases hmap
      obtain ⟨h', hh', hst⟩ := hst
      rcases ht.points with ⟨h1, -⟩ | ⟨h1, -⟩
      · rw [h1] at hh'
        cases hh'
        rw [Function.update_self] at hst
        exact ht.queue hst
      · rw [h1] at hh'
        cases hh'
    · rw [hci' a' hne] at hmap
      obtain ⟨h', hh', hst⟩ := hst
      rw [hsame a' hne ci' hmap h' hh'] at hst
      exact hs.queue a' ci' hmap ⟨h', hh', hst⟩
  · intro h' hh'
    have hlt := Nat.lt_of_lt_of_le ht.bound hh'
    rw [Function.update_of_ne hlt.ne']
    exact hs.fresh h' (Nat.le_trans ht.next hh')

/-- The new stage of a connection, with the new data of its destination. -/
def atStage (s : TCPUVClient) (a : String) (h : Nat) (ci : ConnectionInfo) (st : Option Stage) :
    TCPUVClient := (s.setHandle h (st.map (Stage.info h))).setConnection a ci

/-! ## Where the messages are -/

theorem holds_atStage_queued (s : TCPUVClient) (a : String) (h : Nat) (ci : ConnectionInfo)
    (st : Option Stage) (a' : String) : (s.atStage a h ci st).holds (.queued a') =
      if a' = a then ci.queued_message_info else s.holds (.queued a') := by
  by_cases ha : a' = a
  · simp [holds, atStage, setHandle, setConnection, ha]
  · simp [holds, atStage, setHandle, setConnection, ha]

theorem holds_atStage_held (s : TCPUVClient) (a : String) (h : Nat) (ci : ConnectionInfo)
    (st : Option Stage) (h' : Nat) : (s.atStage a h ci st).holds (.held h') =
      if h' = h then (st.map (Stage.info h)).elim [] UVConnInfo.held else s.holds (.held h') := by
  by_cases hh : h' = h
  · simp [holds, atStage, setHandle, setConnection, hh]
  · simp [holds, atStage, setHandle, setConnection, hh]

theorem Staged.holds_held (hs : Staged s stage) {st : Stage} (hst : stage h = some st) :
    s.holds (.held h) = (st.info h).held := by
  rw [holds, hs.handle hst, Option.elim_some]

theorem holds_queued (hci : s.map_addr_connection_info a = some ci) :
    s.holds (.queued a) = ci.queued_message_info := by
  rw [holds, hci, Option.elim_some]

/-- The connection holds the messages that it held, and the destination those that waited. -/
theorem holds_atStage_same {st : Option Stage} (hci : s.map_addr_connection_info a = some ci)
    (ci' : ConnectionInfo) (hqueue : ci'.queued_message_info = ci.queued_message_info)
    (hheld : (st.map (Stage.info h)).elim [] UVConnInfo.held = s.holds (.held h)) (p : Place) :
    (s.atStage a h ci' st).holds p = s.holds p := by
  cases p with
  | queued a' =>
    rw [holds_atStage_queued]
    split
    · next ha => rw [ha, holds_queued hci, hqueue]
    · rfl
  | held h' =>
    rw [holds_atStage_held]
    split
    · next hh => rw [hh, hheld]
    · rfl
  | _ => rfl

/-- The first message that waits goes to a connection that holds none. -/
theorem moved_to_held {st : Option Stage} {m : Nat} {left : List Nat} {ci' : ConnectionInfo}
    (hci : s.map_addr_connection_info a = some ci) (hqueue : ci.queued_message_info = m :: left)
    (hleft : ci'.queued_message_info = left) (hempty : s.holds (.held h) = [])
    (hheld : (st.map (Stage.info h)).elim [] UVConnInfo.held = [m]) :
    Moved s.holds (s.atStage a h ci' st).holds m (.queued a) (.held h) := by
  constructor
  · rw [holds_queued hci, hqueue, holds_atStage_queued, if_pos rfl, hleft]
  · rw [holds_atStage_held, if_pos rfl, hheld, hempty]
  · intro p hp hp'
    cases p with
    | queued a' => rw [holds_atStage_queued, if_neg (by rintro rfl; exact hp rfl)]
    | held h' => rw [holds_atStage_held, if_neg (by rintro rfl; exact hp' rfl)]
    | _ => rfl

/-! ## The pieces of the callbacks -/

theorem Staged.bound (hs : Staged s stage) {st : Stage} (hst : stage h = some st) :
    h < s.nextHandle := by
  by_contra hle
  rw [hs.fresh h (Nat.le_of_not_lt hle)] at hst
  cases hst

/-- The stages of one connection follow each other. -/
theorem Staged.advanced (hs : Staged s stage) {old : Stage} {st : Option Stage}
    (hst : stage h = some old) (hold : old.destinationAddr = some a)
    (hpoints : ci.uv_conn_info = some h ∧ st.bind Stage.destinationAddr = some a ∨
      ci.uv_conn_info = none ∧ st.bind Stage.destinationAddr = none)
    (hres : ci.resolving = if st = some (.resolving a) then 1 else 0)
    (hqueue : st = some (.resolving a) ∨ st = some (.connecting a) →
      ci.queued_message_info ≠ []) :
    Staged (s.atStage a h ci st) (Function.update stage h st) := by
  have ht : Advanced s a h ci st (s.atStage a h ci st) :=
    ⟨rfl, rfl, Nat.le_refl _, hs.bound hst, hpoints, hres, hqueue⟩
  refine hs.advance ht (Or.inl ?_)
  rw [hst, Option.bind_some, hold]

theorem Staged.resolving_idle (hs : Staged s stage) (hci : s.map_addr_connection_info a = some ci)
    (hp : ci.uv_conn_info = none) : ci.resolving = 0 := by
  rw [hs.resolving a ci hci, hp]
  simp

/-- A destination that points to no connection gets one when the event loop takes the request. -/
theorem Good.create_new_connection (hg : Good s) (hci : s.map_addr_connection_info a = some ci)
    (hp : ci.uv_conn_info = none) (hqueue : ci.queued_message_info ≠ []) (resolve : Bool) :
    ∃ t, s.create_new_connection_for_next_message a resolve = some t ∧ Good t := by
  obtain ⟨⟨stage, hs⟩, honce⟩ := hg
  have hres := hs.resolving_idle hci hp
  have hnew := hs.fresh s.nextHandle (Nat.le_refl _)
  cases resolve with
  | true =>
    let u : TCPUVClient := { s with nextHandle := s.nextHandle + 1 }
    let ci' : ConnectionInfo :=
      { ci with uv_conn_info := some s.nextHandle, resolving := ci.resolving + 1 }
    refine ⟨u.atStage a s.nextHandle ci' (some (.resolving a)), ?_,
      ⟨Function.update stage s.nextHandle (some (.resolving a)), ?_⟩, ?_⟩
    · simp only [create_new_connection_for_next_message, hci, Option.bind_some, if_neg hqueue,
        if_true]
      rfl
    · have ht : Advanced s a s.nextHandle ci' (some (.resolving a))
          (u.atStage a s.nextHandle ci' (some (.resolving a))) :=
        ⟨rfl, rfl, Nat.le_succ _, Nat.lt_succ_self _, Or.inl ⟨rfl, rfl⟩, by simp [ci', hres],
          fun _ => hqueue⟩
      refine hs.advance ht (Or.inr ⟨hnew, ?_⟩)
      rw [TCPUVClient.pointer, hci]
      exact hp
    · have hci' : u.map_addr_connection_info a = some ci := hci
      refine honce.congr fun p => (holds_atStage_same hci' ci' rfl ?_ p).trans ?_
      · simp [holds, u, hs.handles, hnew, Stage.info, UVConnInfo.held]
      · cases p <;> rfl
  | false =>
    refine ⟨s.setConnection a { ci with uv_conn_info := none }, ?_, ?_⟩
    · simp [create_new_connection_for_next_message, hci, hqueue]
    · have hsame : s.setConnection a { ci with uv_conn_info := none } = s := by
        rw [setConnection, ← hp, ← hci, Function.update_eq_self]
      rw [hsame]
      exact ⟨⟨stage, hs⟩, honce⟩

/-! ## Submission -/

theorem holds_submitMessage (ha : Accepts a true) :
    Entered s.holds (s.submitMessage a true).holds s.submitted .submission := by
  constructor
  · simp [submitMessage, ha, holds]
  · intro p hp
    cases p with
    | submission => exact absurd rfl hp
    | _ => simp [submitMessage, ha, holds]

theorem holds_submitMessage_refused (ha : ¬ Accepts a false) :
    Entered s.holds (s.submitMessage a false).holds s.submitted .disposed := by
  constructor
  · simp [submitMessage, ha, holds]
  · intro p hp
    cases p with
    | disposed => exact absurd rfl hp
    | _ => simp [submitMessage, ha, holds]

theorem Staged.congr (hs : Staged s stage) (hh : t.handles = s.handles)
    (hc : t.map_addr_connection_info = s.map_addr_connection_info)
    (hn : t.nextHandle = s.nextHandle) : Staged t stage := by
  have hp : ∀ a, t.pointer a = s.pointer a := fun a => by
    rw [TCPUVClient.pointer, TCPUVClient.pointer, hc]
  exact ⟨fun h => hh ▸ hs.handles h, fun a h => (hp a).symm ▸ hs.pointer a h,
    fun a ci hci => hs.resolving a ci (hc ▸ hci), fun a ci hci => hs.queue a ci (hc ▸ hci),
    fun h hle => hs.fresh h (hn ▸ hle)⟩

theorem Good.submitMessage (hg : Good s) {message : Bool}
    (ha : Accepts a message ∨ message = false) : Good (s.submitMessage a message) := by
  obtain ⟨⟨stage, hs⟩, honce⟩ := hg
  have hgiven : ∀ {t : TCPUVClient}, t.submitted = s.submitted + 1 →
      Placed t.holds (fun k => k < s.submitted ∨ k = s.submitted) →
      Placed t.holds (· < t.submitted) := by
    intro t ht hp
    have heq : (fun k => k < s.submitted ∨ k = s.submitted) = (· < t.submitted) := by
      funext k
      rw [ht]
      exact propext Nat.lt_succ_iff_lt_or_eq.symm
    rwa [heq] at hp
  by_cases hacc : Accepts a message
  · cases message with
    | false => exact absurd hacc.2.2 (by decide)
    | true =>
      refine ⟨⟨stage, hs.congr ?_ ?_ ?_⟩, hgiven ?_
        (honce.entered (holds_submitMessage hacc) (Nat.lt_irrefl _))⟩ <;>
        simp [TCPUVClient.submitMessage, hacc]
  · obtain rfl := ha.resolve_left hacc
    refine ⟨⟨stage, hs.congr ?_ ?_ ?_⟩, hgiven ?_
      (honce.entered (holds_submitMessage_refused hacc) (Nat.lt_irrefl _))⟩ <;>
      simp [TCPUVClient.submitMessage, hacc]

/-! ## The callbacks -/

section

variable {m : Nat} {left : List Nat} {reading write resolve start configure connect : Bool}
  {status nread : Int}

theorem Staged.on_resolve_eq (hs : Staged s stage) (hst : stage h = some (.resolving a))
    (hci : s.map_addr_connection_info a = some ci) (hconnect : configure → connect) :
    s.on_resolve a 0 configure connect =
      some (s.atStage a h { ci with
          resolving := 0
          uv_conn_info := if configure then some h else none }
        (if configure then some (.connecting a) else none)) := by
  have hp := hs.points_conn hst rfl hci
  have hres : ci.resolving = 1 := by
    rw [hs.resolving a ci hci, if_pos ⟨h, hp, hst⟩]
  cases configure with
  | true =>
    simp [on_resolve, hci, hres, hp, hs.handle hst, Stage.info, atStage, setHandle, setConnection,
      hconnect rfl]
  | false =>
    simp [on_resolve, hci, hres, hp, hs.handle hst, Stage.info, atStage, setHandle, setConnection,
      deleteMessage]

theorem Staged.on_connect_eq (hs : Staged s stage) (hst : stage h = some (.connecting a))
    (hci : s.map_addr_connection_info a = some ci) (hqueue : ci.queued_message_info = m :: left) :
    s.on_connect h 0 true resolve =
      some (s.atStage a h { ci with queued_message_info := left }
        (some (.writing a m false))) := by
  have hp := hs.points_conn hst rfl hci
  simp only [on_connect, hs.handle hst, Stage.info, setHandle, ne_eq, not_true_eq_false,
    ↓reduceIte, send_data, setConnection, Function.update_self, Option.bind_some, ite_not, hci, hp,
    hqueue, reduceCtorEq, List.head?_cons, List.tail_cons, Function.update_idem, Option.map_some,
    List.nil_append, atStage]

theorem Staged.on_connect_fails (hs : Staged s stage) (hst : stage h = some (.connecting a))
    (hci : s.map_addr_connection_info a = some ci) (hqueue : ci.queued_message_info = m :: left)
    (hstatus : status ≠ 0) :
    s.on_connect h status write resolve =
      let t := s.atStage a h { ci with queued_message_info := left, uv_conn_info := none }
        (some (.closing (some m) false))
      if left ≠ [] then t.create_new_connection_for_next_message a resolve else some t := by
  have hp := hs.points_conn hst rfl hci
  simp only [on_connect, hs.handle hst, Stage.info, setHandle, ne_eq, hstatus, not_false_eq_true,
    ↓reduceIte, detachAndClose, setConnection, Function.update_idem, Function.update_self,
    Option.map_some, ite_not, Option.bind_some, hci, hp, hqueue, List.head?_cons, List.tail_cons,
    zero_add, atStage]

theorem Staged.on_write_end_eq (hs : Staged s stage) (hst : stage h = some (.writing a m reading))
    (hci : s.map_addr_connection_info a = some ci) (hstart : start ∨ reading) :
    s.on_write_end h 0 start =
      some ({ s with written := s.written ++ [m] }.atStage a h ci (some (.acking a m))) := by
  have hor : (reading || start) = true := by
    rw [Bool.or_comm, Bool.or_eq_true]
    exact hstart
  have hsame : Function.update s.map_addr_connection_info a (some ci) =
      s.map_addr_connection_info := by rw [← hci, Function.update_eq_self]
  simp [on_write_end, hs.handle hst, Stage.info, atStage, setHandle, setConnection, hor, hsame]

theorem Staged.on_write_end_fails (hs : Staged s stage)
    (hst : stage h = some (.writing a m reading)) (hci : s.map_addr_connection_info a = some ci)
    (hstatus : status ≠ 0) :
    s.on_write_end h status start = some (s.atStage a h { ci with uv_conn_info := none }
      (some (.closing (some m) false))) := by
  have hp := hs.points_conn hst rfl hci
  simp [on_write_end, hci, hp, hs.handle hst, Stage.info, atStage, setHandle, setConnection,
    hstatus, detachAndClose]

theorem Staged.on_ack_read_next (hs : Staged s stage) {old : Nat}
    (hst : stage h = some (.acking a old)) (hci : s.map_addr_connection_info a = some ci)
    (hqueue : ci.queued_message_info = m :: left) (hnread : 0 < nread) :
    s.on_ack_read h nread true resolve =
      some (s.atStage a h { ci with queued_message_info := left }
        (some (.writing a m true))) := by
  have hp := hs.points_conn hst rfl hci
  simp only [on_ack_read, hs.handle hst, Stage.info, hnread, ↓reduceIte, send_data, setConnection,
    setHandle, deleteMessage, Function.update_self, Option.bind_some, hci, hqueue, hp,
    Function.update_idem, Option.map_some, List.nil_append, atStage]

theorem Staged.on_ack_read_last (hs : Staged s stage) (hst : stage h = some (.acking a m))
    (hci : s.map_addr_connection_info a = some ci) (hqueue : ci.queued_message_info = [])
    (hnread : 0 < nread) :
    s.on_ack_read h nread write resolve = some (s.atStage a h { ci with uv_conn_info := none }
      (some (.closing (some m) true))) := by
  have hp := hs.points_conn hst rfl hci
  simp [on_ack_read, hci, hp, hqueue, hs.handle hst, Stage.info, atStage, setHandle, setConnection,
    hnread, detachAndClose]

theorem Staged.on_ack_read_fails (hs : Staged s stage) (hst : stage h = some (.acking a m))
    (hci : s.map_addr_connection_info a = some ci) (hqueue : ci.queued_message_info ≠ [])
    (hnread : ¬ 0 < nread) :
    s.on_ack_read h nread write resolve =
      (s.atStage a h { ci with uv_conn_info := none }
        (some (.closing (some m) true))).create_new_connection_for_next_message a resolve := by
  have hp := hs.points_conn hst rfl hci
  obtain ⟨m', left, hqueue⟩ := List.exists_cons_of_ne_nil hqueue
  simp [on_ack_read, hci, hp, hqueue, hs.handle hst, Stage.info, atStage, setHandle, setConnection,
    hnread, detachAndClose]

theorem Staged.on_close_eq (hs : Staged s stage) {current : Option Nat} {isWritten : Bool}
    (hst : stage h = some (.closing current isWritten)) :
    s.on_close h = some ({ s with
      disposed := s.disposed ++ if isWritten then [] else current.toList }.setHandle h none) := by
  cases isWritten <;>
    simp [on_close, hs.handle hst, Stage.info, setHandle, deleteMessage]

end

/-! ## Each callback keeps the books -/

theorem Staged.not_resolving (hs : Staged s stage) {st : Stage} (hst : stage h = some st)
    (ha : st.destinationAddr = some a) (hne : st ≠ .resolving a)
    (hci : s.map_addr_connection_info a = some ci) : ci.resolving = 0 := by
  have hp := hs.points_conn hst ha hci
  rw [hs.resolving a ci hci, if_neg]
  rintro ⟨h', hh', hst'⟩
  rw [hp] at hh'
  cases hh'
  rw [hst] at hst'
  exact hne (Option.some.inj hst')

/-- The books of a connection that goes on, or that closes and is left by its destination, when no
message moves. -/
theorem Good.next (hs : Staged s stage) (honce : Placed s.holds (· < s.submitted)) {old : Stage}
    (st : Option Stage) (hst : stage h = some old) (hold : old.destinationAddr = some a)
    (hci : s.map_addr_connection_info a = some ci)
    (hheld : (st.map (Stage.info h)).elim [] UVConnInfo.held = (old.info h).held)
    (hpoints : st.bind Stage.destinationAddr = some a ∨ st.bind Stage.destinationAddr = none)
    (hres : st ≠ some (.resolving a))
    (hqueue : st = some (.connecting a) → ci.queued_message_info ≠ []) :
    Good (s.atStage a h { ci with
      resolving := 0
      uv_conn_info := if st.bind Stage.destinationAddr = some a then some h else none } st) := by
  refine ⟨⟨_, hs.advanced hst hold ?_ ?_ ?_⟩, ?_⟩
  · rcases hpoints with hp | hp
    · exact Or.inl ⟨if_pos hp, hp⟩
    · exact Or.inr ⟨if_neg (by simp [hp]), hp⟩
  · exact (if_neg hres).symm
  · rintro (he | he)
    · exact absurd he hres
    · exact hqueue he
  · refine honce.congr (holds_atStage_same hci _ rfl ?_)
    rw [hheld, hs.holds_held hst]

/-- The books of a connection that takes the next message. -/
theorem Good.takes (hs : Staged s stage) (honce : Placed s.holds (· < s.submitted)) {old : Stage}
    (st : Stage) {m : Nat} {left : List Nat} (hst : stage h = some old)
    (hold : old.destinationAddr = some a) (hci : s.map_addr_connection_info a = some ci)
    (hqueue : ci.queued_message_info = m :: left) (hempty : (old.info h).held = [])
    (hheld : (st.info h).held = [m])
    (hpoints : st.destinationAddr = some a ∨ st.destinationAddr = none)
    (hres : st ≠ .resolving a) (hconn : st ≠ .connecting a) :
    Good (s.atStage a h { ci with
      queued_message_info := left
      resolving := 0
      uv_conn_info := if st.destinationAddr = some a then some h else none } (some st)) := by
  refine ⟨⟨_, hs.advanced hst hold ?_ ?_ ?_⟩, ?_⟩
  · rcases hpoints with hp | hp
    · exact Or.inl ⟨if_pos hp, hp⟩
    · exact Or.inr ⟨if_neg (by simp [hp]), hp⟩
  · exact (if_neg fun he => hres (Option.some.inj he)).symm
  · rintro (he | he)
    · exact absurd (Option.some.inj he) hres
    · exact absurd (Option.some.inj he) hconn
  · refine honce.moved (moved_to_held hci hqueue rfl ?_ hheld) (by simp)
    rw [hs.holds_held hst, hempty]

/-- What the event loop owes tells the stage. -/
theorem Staged.stage_info (hs : Staged s stage) {u : UVConnInfo} (hu : s.handles h = some u) :
    ∃ st, stage h = some st ∧ u = st.info h := by
  rw [hs.handles] at hu
  obtain ⟨st, hst, rfl⟩ := Option.map_eq_some_iff.mp hu
  exact ⟨st, hst, rfl⟩

theorem good_on_resolve (hg : Good s) {status : Int} {configure connect : Bool}
    (hok : s.Handled (.on_resolve a status configure connect)) :
    ∃ t, s.on_resolve a status configure connect = some t ∧ Good t := by
  obtain ⟨⟨stage, hs⟩, honce⟩ := hg
  obtain ⟨⟨ci, hci, hpos⟩, rfl, hconnect⟩ := hok
  obtain ⟨h, hp, hst⟩ : ∃ h ∈ ci.uv_conn_info, stage h = some (.resolving a) := by
    rw [hs.resolving a ci hci] at hpos
    by_contra hno
    rw [if_neg hno] at hpos
    exact Nat.lt_irrefl 0 hpos
  have hqueue := hs.queue a ci hci ⟨h, hp, Or.inl hst⟩
  refine ⟨_, hs.on_resolve_eq hst hci hconnect, ?_⟩
  cases configure with
  | true =>
    have hnext := Good.next hs honce (some (.connecting a)) hst rfl hci rfl (Or.inl rfl) (by simp)
      (fun _ => hqueue)
    simpa [Stage.destinationAddr] using hnext
  | false =>
    have hnext := Good.next hs honce none hst rfl hci rfl (Or.inr rfl) (by simp) (by simp)
    simpa using hnext

theorem good_on_connect (hg : Good s) {status : Int} {write resolve : Bool}
    (hok : s.Handled (.on_connect h status write resolve)) :
    ∃ t, s.on_connect h status write resolve = some t ∧ Good t := by
  obtain ⟨⟨stage, hs⟩, honce⟩ := hg
  obtain ⟨⟨u, hu, hconn⟩, hwrite⟩ := hok
  obtain ⟨st, hst, rfl⟩ := hs.stage_info hu
  obtain ⟨a, rfl⟩ : ∃ a, st = .connecting a := by
    cases st <;> simp [Stage.info] at hconn ⊢
  obtain ⟨ci, hci, hp⟩ := hs.points hst rfl
  have hres := hs.not_resolving hst rfl (by simp) hci
  obtain ⟨m, left, hqueue⟩ :=
    List.exists_cons_of_ne_nil (hs.queue a ci hci ⟨h, hp, Or.inr hst⟩)
  by_cases hstatus : status = 0
  · rw [hstatus, hwrite hstatus]
    refine ⟨_, hs.on_connect_eq hst hci hqueue, ?_⟩
    have hnext := Good.takes hs honce (.writing a m false) hst rfl hci hqueue rfl rfl (Or.inl rfl)
      (by simp) (by simp)
    simpa [Stage.destinationAddr, hp, hres] using hnext
  · rw [hs.on_connect_fails hst hci hqueue hstatus]
    have hnext := Good.takes hs honce (.closing (some m) false) hst rfl hci hqueue rfl rfl
      (Or.inr rfl) (by simp) (by simp)
    have hgood : Good (s.atStage a h { ci with queued_message_info := left, uv_conn_info := none }
        (some (.closing (some m) false))) := by
      simpa [Stage.destinationAddr, hres] using hnext
    have hmap : (s.atStage a h { ci with queued_message_info := left, uv_conn_info := none }
        (some (.closing (some m) false))).map_addr_connection_info a =
          some { ci with queued_message_info := left, uv_conn_info := none } := by
      simp [atStage, setConnection]
    dsimp only
    split
    · next hleft => exact hgood.create_new_connection hmap rfl hleft resolve
    · exact ⟨_, rfl, hgood⟩

/-- The message of a write that has ended. -/
theorem moved_to_written (hs : Staged s stage) {m : Nat} {reading : Bool}
    (hst : stage h = some (.writing a m reading)) (hci : s.map_addr_connection_info a = some ci) :
    Moved s.holds
      ({ s with written := s.written ++ [m] }.atStage a h ci (some (.acking a m))).holds
      m (.held h) .written := by
  constructor
  · rw [hs.holds_held hst, holds_atStage_held, if_pos rfl]
    rfl
  · simp [holds, atStage, setHandle, setConnection]
  · intro p hp hp'
    cases p with
    | queued a' =>
      rw [holds_atStage_queued]
      split
      · next ha => rw [ha, holds_queued hci]
      · rfl
    | held h' => rw [holds_atStage_held, if_neg (by rintro rfl; exact hp rfl)]; rfl
    | written => exact absurd rfl hp'
    | _ => rfl

theorem good_on_write_end (hg : Good s) {status : Int} {start : Bool}
    (hok : s.Handled (.on_write_end h status start)) :
    ∃ t, s.on_write_end h status start = some t ∧ Good t := by
  obtain ⟨⟨stage, hs⟩, honce⟩ := hg
  obtain ⟨u, hu, hwrites, hstart⟩ := hok
  obtain ⟨st, hst, rfl⟩ := hs.stage_info hu
  obtain ⟨a, m, reading, rfl⟩ : ∃ a m reading, st = .writing a m reading := by
    cases st <;> simp [Stage.info] at hwrites ⊢
  obtain ⟨ci, hci, hp⟩ := hs.points hst rfl
  have hres := hs.not_resolving hst rfl (by simp) hci
  by_cases hstatus : status = 0
  · rw [hstatus]
    refine ⟨_, hs.on_write_end_eq hst hci (hstart hstatus), ?_⟩
    have hs' : Staged { s with written := s.written ++ [m] } stage := hs.congr rfl rfl rfl
    refine ⟨⟨_, hs'.advanced hst rfl (Or.inl ⟨hp, rfl⟩) ?_ ?_⟩,
      honce.moved (moved_to_written hs hst hci) (by simp)⟩
    · rw [hres, if_neg (by simp)]
    · simp
  · refine ⟨_, hs.on_write_end_fails hst hci hstatus, ?_⟩
    have hnext := Good.next hs honce (some (.closing (some m) false)) hst rfl hci rfl (Or.inr rfl)
      (by simp) (by simp)
    simpa [Stage.destinationAddr, hres] using hnext

theorem good_on_ack_read (hg : Good s) {nread : Int} {write resolve : Bool}
    (hok : s.Handled (.on_ack_read h nread write resolve)) :
    ∃ t, s.on_ack_read h nread write resolve = some t ∧ Good t := by
  obtain ⟨⟨stage, hs⟩, honce⟩ := hg
  obtain ⟨u, hu, hread, hwrites, hcase⟩ := hok
  obtain ⟨st, hst, rfl⟩ := hs.stage_info hu
  obtain ⟨a, m, rfl⟩ : ∃ a m, st = .acking a m := by
    cases st <;> simp [Stage.info] at hread hwrites ⊢
  obtain ⟨ci, hci, hp⟩ := hs.points hst rfl
  have hres := hs.not_resolving hst rfl (by simp) hci
  have hwait : s.waiting ((Stage.acking a m).info h) = ci.queued_message_info :=
    holds_queued hci
  rw [hwait] at hcase
  have hnext := Good.next hs honce (some (.closing (some m) true)) hst rfl hci rfl (Or.inr rfl)
    (by simp) (by simp)
  have hclosed : Good (s.atStage a h { ci with uv_conn_info := none }
      (some (.closing (some m) true))) := by
    simpa [Stage.destinationAddr, hres] using hnext
  split at hcase
  · next hempty => exact ⟨_, hs.on_ack_read_last hst hci hempty hcase, hclosed⟩
  · next hqueue =>
    by_cases hnread : 0 < nread
    · obtain ⟨m', left, hqueue⟩ := List.exists_cons_of_ne_nil hqueue
      rw [hcase hnread]
      refine ⟨_, hs.on_ack_read_next hst hci hqueue hnread, ?_⟩
      have htakes := Good.takes hs honce (.writing a m' true) hst rfl hci hqueue rfl rfl
        (Or.inl rfl) (by simp) (by simp)
      simpa [Stage.destinationAddr, hp, hres] using htakes
    · rw [hs.on_ack_read_fails hst hci hqueue hnread]
      have hmap : (s.atStage a h { ci with uv_conn_info := none }
          (some (.closing (some m) true))).map_addr_connection_info a =
            some { ci with uv_conn_info := none } := by
        simp [atStage, setConnection]
      exact hclosed.create_new_connection hmap rfl hqueue resolve

/-- A connection that is closed and freed. -/
theorem Staged.closed (hs : Staged s stage) {current : Option Nat} {isWritten : Bool}
    (hst : stage h = some (.closing current isWritten)) (disposed : List Nat) :
    Staged ({ s with disposed := disposed }.setHandle h none) (Function.update stage h none) := by
  have hnot : ∀ a ci, s.map_addr_connection_info a = some ci → ∀ h' ∈ ci.uv_conn_info,
      Function.update stage h none h' = stage h' := by
    intro a ci hci h' hh'
    refine Function.update_of_ne ?_ _ _
    rintro rfl
    obtain ⟨st, hst', ha⟩ := hs.stage_of hci hh'
    rw [hst] at hst'
    cases hst'
    cases ha
  constructor
  · intro h'
    rcases eq_or_ne h' h with rfl | hne
    · simp [setHandle]
    · rw [Function.update_of_ne hne, ← hs.handles]
      exact Function.update_of_ne hne _ _
  · intro a h'
    refine (hs.pointer a h').trans ?_
    rcases eq_or_ne h' h with rfl | hne
    · simp [hst, Stage.destinationAddr]
    · rw [Function.update_of_ne hne]
  · intro a ci hci
    rw [hs.resolving a ci hci]
    have hiff : ∀ h' ∈ ci.uv_conn_info, (stage h' = some (.resolving a) ↔
        Function.update stage h none h' = some (.resolving a)) := by
      intro h' hh'
      rw [hnot a ci hci h' hh']
    exact if_congr (exists_congr fun h' => and_congr_right (hiff h')) rfl rfl
  · rintro a ci hci ⟨h', hh', hst'⟩
    rw [hnot a ci hci h' hh'] at hst'
    exact hs.queue a ci hci ⟨h', hh', hst'⟩
  · intro h' hle
    rcases eq_or_ne h' h with rfl | hne
    · exact Function.update_self _ _ _
    · rw [Function.update_of_ne hne]
      exact hs.fresh h' hle

theorem good_on_close (hg : Good s) (hok : s.Handled (.on_close h)) :
    ∃ t, s.on_close h = some t ∧ Good t := by
  obtain ⟨⟨stage, hs⟩, honce⟩ := hg
  obtain ⟨u, hu, hcloses, -⟩ := hok
  obtain ⟨st, hst, rfl⟩ := hs.stage_info hu
  obtain ⟨current, isWritten, rfl⟩ : ∃ current isWritten, st = .closing current isWritten := by
    cases st <;> simp [Stage.info] at hcloses ⊢
  refine ⟨_, hs.on_close_eq hst, ⟨_, hs.closed hst _⟩, ?_⟩
  by_cases hheld : ((Stage.closing current isWritten).info h).held = []
  · refine honce.congr fun p => ?_
    have hnone : (if isWritten then [] else current.toList) = [] := hheld
    rw [hnone, List.append_nil]
    cases p with
    | held h' =>
      rcases eq_or_ne h' h with rfl | hne
      · rw [hs.holds_held hst, hheld]
        simp [holds, setHandle]
      · simp [holds, setHandle, hne]
    | _ => rfl
  · obtain ⟨m, hm⟩ : ∃ m, ((Stage.closing current isWritten).info h).held = [m] := by
      cases isWritten <;> cases current <;> simp [Stage.info, UVConnInfo.held] at hheld ⊢
    have hdisposed : (if isWritten then [] else current.toList) = [m] := hm
    rw [hdisposed]
    refine Placed.moved (m := m) (p := .held h) (q := .disposed) honce ⟨?_, ?_, ?_⟩ (by simp)
    · rw [hs.holds_held hst, hm]
      simp [holds, setHandle]
    · simp [holds, setHandle]
    · intro p hp hp'
      cases p with
      | held h' =>
        have hne : h' ≠ h := by
          rintro rfl
          exact hp rfl
        simp [holds, setHandle, hne]
      | disposed => exact absurd rfl hp'
      | _ => rfl

/-- A message that comes to its destination. -/
theorem Staged.push (hs : Staged s stage) (m : Nat) (rest : List (Nat × String))
    (hci : (s.map_addr_connection_info a).getD {} = ci) :
    Staged ({ s with queue_async_submission := rest }.setConnection a
      { ci with queued_message_info := ci.queued_message_info ++ [m] }) stage := by
  have hpointer : ci.uv_conn_info = s.pointer a := by
    rw [← hci, TCPUVClient.pointer]
    cases s.map_addr_connection_info a <;> rfl
  have hres : ci.resolving =
      if ∃ h ∈ ci.uv_conn_info, stage h = some (.resolving a) then 1 else 0 := by
    rcases hmap : s.map_addr_connection_info a with _ | ci'
    · rw [hmap] at hci
      simp [← hci]
    · rw [hmap] at hci
      cases hci
      exact hs.resolving a ci' hmap
  constructor
  · exact hs.handles
  · intro a' h
    rw [← hs.pointer a' h]
    rcases eq_or_ne a' a with rfl | hne
    · rw [← hpointer]
      simp [TCPUVClient.pointer, setConnection]
    · simp [TCPUVClient.pointer, setConnection, hne]
  · intro a' ci' hci'
    rcases eq_or_ne a' a with rfl | hne
    · simp only [setConnection, Function.update_self, Option.some.injEq] at hci'
      rw [← hci']
      exact hres
    · simp only [setConnection, Function.update_of_ne hne] at hci'
      exact hs.resolving a' ci' hci'
  · intro a' ci' hci' hst
    rcases eq_or_ne a' a with rfl | hne
    · simp only [setConnection, Function.update_self, Option.some.injEq] at hci'
      simp [← hci']
    · simp only [setConnection, Function.update_of_ne hne] at hci'
      exact hs.queue a' ci' hci' hst
  · exact hs.fresh

theorem good_processBufferElement (hg : Good s) {resolve : Bool}
    (hok : s.Handled (.processBufferElement resolve)) :
    ∃ t, s.processBufferElement resolve = some t ∧ Good t := by
  obtain ⟨⟨stage, hs⟩, honce⟩ := hg
  obtain ⟨⟨m, a⟩, rest, hsub⟩ := List.exists_cons_of_ne_nil hok
  let ci := (s.map_addr_connection_info a).getD {}
  let ci' : ConnectionInfo :=
    { ci with queued_message_info := ci.queued_message_info ++ [m] }
  let u := { s with queue_async_submission := rest }.setConnection a ci'
  have hqueue : s.holds (.queued a) = ci.queued_message_info := by
    simp only [holds, ci]
    cases s.map_addr_connection_info a <;> rfl
  have hmap : u.map_addr_connection_info a = some ci' := Function.update_self _ _ _
  have hmoved : Moved s.holds u.holds m .submission (.queued a) := by
    refine ⟨?_, ?_, fun p hp hp' => ?_⟩
    · simp [holds, hsub, u, setConnection]
    · rw [holds_queued hmap, hqueue]
      simp [ci']
    · cases p with
      | submission => exact absurd rfl hp
      | queued a' =>
        have hne : a' ≠ a := by
          rintro rfl
          exact hp' rfl
        simp [holds, u, setConnection, hne]
      | _ => rfl
  have hgood : Good u := ⟨⟨stage, hs.push m rest rfl⟩, honce.moved hmoved (by simp)⟩
  have hstep : s.processBufferElement resolve = if ci.uv_conn_info = none then
      u.create_new_connection_for_next_message a resolve else some u := by
    simp only [processBufferElement, hsub]
    rfl
  rw [hstep]
  split
  · next hp => exact hgood.create_new_connection hmap hp (by simp [ci']) resolve
  · exact ⟨u, rfl, hgood⟩

/-! ## Every run -/

theorem good_step (a : Label) (hg : Good s) (hok : s.Handled a) :
    ∃ t, step s a = some t ∧ Good t := by
  cases a with
  | submitMessage a message => exact ⟨_, rfl, hg.submitMessage hok⟩
  | processBufferElement resolve => exact good_processBufferElement hg hok
  | on_resolve a status configure connect => exact good_on_resolve hg hok
  | on_connect h status write resolve => exact good_on_connect hg hok
  | on_write_end h status start => exact good_on_write_end hg hok
  | on_ack_read h nread write resolve => exact good_on_ack_read hg hok
  | on_close h => exact good_on_close hg hok

/-- Two messages for one destination. The first is written, and its connection waits for the answer
when the second comes. -/
def twoMessages : List Label :=
  [.submitMessage "h:1" true, .processBufferElement true, .on_resolve "h:1" 0 true true,
    .on_connect 0 0 true true, .on_write_end 0 0 true, .submitMessage "h:1" true,
    .processBufferElement true]

end TCPUVClient

end chaos.common.rpc.tcpuv
