-- The connections to the mongo routers. The manager keeps the servers that answer in one queue and
-- those that did not in another. Each request tries the servers of the first queue in turn, and
-- from time to time it gives one server of the second queue a new chance.
import Chaos.Runs
import Mathlib.Data.List.Nodup
import Mathlib.Data.List.Perm.Basic

namespace chaos.data_service.db_system

open runs

/-! ## The manager -/

/-- A server of the queues. `pointer` tells apart the objects of two equal addresses. -/
structure ConnectionString where
  pointer : Nat
  address : String
  deriving DecidableEq, Repr

structure MongoDBHAConnectionManager where
  next_retrive_intervall : UInt64 := 0
  valid_connection_queue : List ConnectionString
  offline_connection_queue : List ConnectionString := []
  deriving DecidableEq

/-- What becomes of a connection to a server: its construction or its set up throws, or it can be
asked with `ok`. -/
inductive Attempt where
  | throws
  | constructed (ok : Bool)
  deriving DecidableEq, Repr

/-- What the world outside does during one call: the clock, the attempts in the order they are
made, and whether the connection for the caller can be constructed after all. -/
structure ConnectionCall where
  cur_ts : UInt64
  attempts : Nat → Attempt
  constructs : Bool

namespace MongoDBHAConnectionManager

def RETRIVE_MAX_TIME : UInt64 := 1500

/-- The server strings are made from the addresses of the list, in order. -/
def servers (monogs_routers_list : List String) : List ConnectionString :=
  monogs_routers_list.mapIdx fun pointer address => { pointer, address }

def new (monogs_routers_list : List String) : MongoDBHAConnectionManager :=
  { valid_connection_queue := servers monogs_routers_list }

def canRetry (s : MongoDBHAConnectionManager) (cur_ts : UInt64) :
    Bool × MongoDBHAConnectionManager :=
  if cur_ts > s.next_retrive_intervall then
    (true, { s with next_retrive_intervall := cur_ts + RETRIVE_MAX_TIME })
  else (false, s)

/-- The first offline server goes back to the end of the valid queue when it is time to. -/
def recover (s : MongoDBHAConnectionManager) (cur_ts : UInt64) : MongoDBHAConnectionManager :=
  match s.canRetry cur_ts, s.offline_connection_queue with
  | (true, s), front :: rest => { s with
      valid_connection_queue := s.valid_connection_queue ++ [front]
      offline_connection_queue := rest }
  | (_, s), _ => s

/-- One turn of the loop: `nextCS` at its end, and the manager. `front` of an empty queue is
undefined. -/
def tryNext (s : MongoDBHAConnectionManager) (attempt : Attempt) :
    Option (Option ConnectionString × MongoDBHAConnectionManager) :=
  match s.valid_connection_queue with
  | [] => none
  | nextCS :: rest =>
    match attempt with
    | .constructed true =>
      some (some nextCS, { s with valid_connection_queue := rest ++ [nextCS] })
    | .constructed false | .throws => some (none, { s with
        valid_connection_queue := rest
        offline_connection_queue := s.offline_connection_queue ++ [nextCS] })

/-- The loop, with the number of turns that `valid_server_num` leaves. -/
def search (attempts : Nat → Attempt) : Nat → Nat → MongoDBHAConnectionManager →
    Option (Option ConnectionString × MongoDBHAConnectionManager)
  | 0, _, s => some (none, s)
  | left + 1, cur_index, s =>
    (s.tryNext (attempts cur_index)).bind fun
      | (some nextCS, s) => some (some nextCS, s)
      | (none, s) => search attempts left (cur_index + 1) s

def valid_server_num (s : MongoDBHAConnectionManager) : UInt32 :=
  UInt32.ofNat s.valid_connection_queue.length

/-- The server of the connection that the caller gets. The connection that is handed out is
constructed after the loop and outside its `try`: an exception of it leaves the call. -/
def getConnection (s : MongoDBHAConnectionManager) (call : ConnectionCall) :
    Option (Option ConnectionString × MongoDBHAConnectionManager) :=
  let s := s.recover call.cur_ts
  (search call.attempts s.valid_server_num.toNat 0 s).map fun (nextCS, s) =>
    (if call.constructs then nextCS else none, s)

def step (s : MongoDBHAConnectionManager) (call : ConnectionCall) :
    Option MongoDBHAConnectionManager :=
  (s.getConnection call).map Prod.snd

/-! ## Every server is in one of the queues -/

/-- Every given server is in exactly one of the queues, exactly once, and nothing else is. -/
structure Accounts (given : List ConnectionString) (s : MongoDBHAConnectionManager) : Prop where
  in_one : ∀ server ∈ given, server ∈ s.valid_connection_queue ↔
    server ∉ s.offline_connection_queue
  valid_once : s.valid_connection_queue.Nodup
  offline_once : s.offline_connection_queue.Nodup
  nothing_else : ∀ server, server ∈ s.valid_connection_queue ∨
    server ∈ s.offline_connection_queue → server ∈ given

/-- The invariant of the calls and of the turns of their loops. -/
def Shares (given : List ConnectionString) (s : MongoDBHAConnectionManager) : Prop :=
  (s.valid_connection_queue ++ s.offline_connection_queue).Perm given

variable {given : List ConnectionString} {s t : MongoDBHAConnectionManager}

theorem Shares.accounts (h : s.Shares given) (hd : given.Nodup) : s.Accounts given := by
  have hboth := h.nodup_iff.mpr hd
  obtain ⟨hv, ho, hdis⟩ := List.nodup_append.mp hboth
  refine ⟨?_, hv, ho, ?_⟩
  · intro server hserver
    constructor
    · intro hin hout
      exact hdis server hin server hout rfl
    · intro hout
      exact (List.mem_append.mp (h.mem_iff.mpr hserver)).resolve_right hout
  · intro server hin
    exact h.mem_iff.mp (List.mem_append.mpr hin)

theorem servers_nodup (monogs_routers_list : List String) :
    (servers monogs_routers_list).Nodup := by
  have hpointers : (servers monogs_routers_list).map (·.pointer) =
      List.range monogs_routers_list.length := by
    apply List.ext_getElem
    · simp [servers]
    · simp [servers]
  apply List.Nodup.of_map (·.pointer)
  rw [hpointers]
  exact List.nodup_range

theorem new_shares (monogs_routers_list : List String) :
    (new monogs_routers_list).Shares (servers monogs_routers_list) := by
  unfold Shares new
  simp

theorem canRetry_queues (s : MongoDBHAConnectionManager) (cur_ts : UInt64) :
    (s.canRetry cur_ts).2.valid_connection_queue = s.valid_connection_queue ∧
      (s.canRetry cur_ts).2.offline_connection_queue = s.offline_connection_queue := by
  unfold canRetry
  split <;> simp

theorem Shares.recover (h : s.Shares given) (cur_ts : UInt64) :
    (s.recover cur_ts).Shares given := by
  obtain ⟨hv, ho⟩ := canRetry_queues s cur_ts
  unfold Shares at h ⊢
  unfold MongoDBHAConnectionManager.recover
  rcases hretry : s.canRetry cur_ts with ⟨retry, t⟩
  rw [hretry] at hv ho
  rw [← hv, ← ho] at h
  cases retry with
  | false => exact h
  | true =>
    cases hoff : s.offline_connection_queue with
    | nil => exact h
    | cons front rest =>
      rw [ho, hoff] at h
      simpa using h

/-- A turn moves the first server of the valid queue to one of the two ends. When it goes on with
the next one, the valid queue is one shorter. -/
theorem Shares.tryNext (h : s.Shares given) (hne : s.valid_connection_queue ≠ [])
    (attempt : Attempt) :
    ∃ nextCS t, s.tryNext attempt = some (nextCS, t) ∧ t.Shares given ∧
      (∀ server, nextCS = some server → server ∈ t.valid_connection_queue) ∧
      (nextCS = none →
        t.valid_connection_queue.length + 1 = s.valid_connection_queue.length) := by
  obtain ⟨front, rest, hs⟩ := List.exists_cons_of_ne_nil hne
  unfold Shares at h
  rw [hs] at h
  unfold MongoDBHAConnectionManager.tryNext
  rw [hs]
  have hmoved : (rest ++ (s.offline_connection_queue ++ [front])).Perm given := by
    rw [← List.append_assoc]
    exact (List.perm_append_singleton front _).trans h
  have hback : (rest ++ [front] ++ s.offline_connection_queue).Perm given :=
    ((List.perm_append_singleton front rest).append_right _).trans h
  match attempt with
  | .constructed true => exact ⟨_, _, rfl, hback, by simp, by simp⟩
  | .constructed false => exact ⟨_, _, rfl, hmoved, by simp, by simp⟩
  | .throws => exact ⟨_, _, rfl, hmoved, by simp, by simp⟩

/-- The loop, cut after any number of turns that the valid queue has servers for. -/
theorem Shares.search (attempts : Nat → Attempt) (left cur_index : Nat) (h : s.Shares given)
    (hle : left ≤ s.valid_connection_queue.length) :
    ∃ nextCS t, search attempts left cur_index s = some (nextCS, t) ∧ t.Shares given ∧
      ∀ server, nextCS = some server → server ∈ t.valid_connection_queue := by
  induction left generalizing s cur_index with
  | zero => exact ⟨none, s, rfl, h, by simp⟩
  | succ left ih =>
    have hne : s.valid_connection_queue ≠ [] := List.ne_nil_of_length_pos (by omega)
    obtain ⟨nextCS, t, ht, hshares, hin, hlen⟩ := h.tryNext hne (attempts cur_index)
    unfold MongoDBHAConnectionManager.search
    rw [ht]
    cases nextCS with
    | some server => exact ⟨_, _, rfl, hshares, hin⟩
    | none => exact ih (cur_index + 1) hshares (by have := hlen rfl; omega)

theorem valid_server_num_le (s : MongoDBHAConnectionManager) :
    s.valid_server_num.toNat ≤ s.valid_connection_queue.length := by
  unfold valid_server_num
  rw [UInt32.toNat_ofNat']
  exact Nat.mod_le _ _

theorem Shares.getConnection (h : s.Shares given) (call : ConnectionCall) :
    ∃ connection t, s.getConnection call = some (connection, t) ∧ t.Shares given ∧
      ∀ server, connection = some server → server ∈ t.valid_connection_queue := by
  obtain ⟨nextCS, t, ht, hshares, hin⟩ := (h.recover call.cur_ts).search call.attempts _ 0
    (valid_server_num_le _)
  unfold MongoDBHAConnectionManager.getConnection
  simp only [ht, Option.map_some]
  refine ⟨_, _, rfl, hshares, ?_⟩
  intro server hserver
  split at hserver
  · exact hin server hserver
  · cases hserver

/-- After any calls, whatever the servers answer and however the time goes, the next call ends;
every server is in exactly one queue before it, at the start and at every turn of its loop and
after it, and the connection that it returns is to a server of the valid queue. -/
theorem every_server_is_in_one_queue (monogs_routers_list : List String)
    (calls : List ConnectionCall) :
    ∃ s, run step (new monogs_routers_list) calls = some s ∧
      s.Accounts (servers monogs_routers_list) ∧
      ∀ call, (s.recover call.cur_ts).Accounts (servers monogs_routers_list) ∧
        (∀ turns ≤ (s.recover call.cur_ts).valid_server_num.toNat, ∃ nextCS u,
          search call.attempts turns 0 (s.recover call.cur_ts) = some (nextCS, u) ∧
            u.Accounts (servers monogs_routers_list)) ∧
        ∃ connection t, s.getConnection call = some (connection, t) ∧
          t.Accounts (servers monogs_routers_list) ∧
          ∀ server, connection = some server → server ∈ t.valid_connection_queue := by
  have hd := servers_nodup monogs_routers_list
  have hnew := new_shares monogs_routers_list
  have hstep : ∀ s call, s.Shares (servers monogs_routers_list) → True →
      ∃ t, step s call = some t ∧ t.Shares (servers monogs_routers_list) := by
    intro s call h _
    obtain ⟨connection, t, ht, hshares, -⟩ := h.getConnection call
    exact ⟨t, by simp [step, ht], hshares⟩
  have hok : RunOk step (fun _ _ => True) (new monogs_routers_list) calls :=
    RunOk.of_forall fun _ _ => trivial
  obtain ⟨s, hr, hs⟩ := run_ends_of_ok _ hstep hnew hok
  refine ⟨s, hr, hs.accounts hd, ?_⟩
  intro call
  have hrec := hs.recover call.cur_ts
  refine ⟨hrec.accounts hd, ?_, ?_⟩
  · intro turns hturns
    obtain ⟨nextCS, u, hu, hshares, -⟩ := hrec.search call.attempts turns 0
      (hturns.trans (valid_server_num_le _))
    exact ⟨nextCS, u, hu, hshares.accounts hd⟩
  · obtain ⟨connection, t, ht, hshares, hin⟩ := hs.getConnection call
    exact ⟨connection, t, ht, hshares.accounts hd, hin⟩

end MongoDBHAConnectionManager

end chaos.data_service.db_system
