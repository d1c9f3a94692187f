-- Code that works on a buffer of bytes: which bytes it touches, and what it leaves. Code that goes
-- past the end of the buffer is undefined from there on.
import Chaos.ByteBuffer

namespace buffer_access

open byte_buffer

/-- Some bytes that are read or written. -/
structure Access where
  offset : Nat
  count : Nat
  deriving DecidableEq, Repr

/-- The access is one of the first bytes only. -/
def Access.Within (limit : Nat) (a : Access) : Prop := a.offset + a.count ≤ limit

instance (limit : Nat) (a : Access) : Decidable (a.Within limit) :=
  inferInstanceAs (Decidable (a.offset + a.count ≤ limit))

/-- What is done after a load can depend on the bytes. -/
inductive Code (α : Type) where
  | done (a : α)
  | load (offset count : Nat) (next : List UInt8 → Code α)
  | store (offset : Nat) (bytes : List UInt8) (next : Code α)

namespace Code

variable {α β : Type}

def bind : Code α → (α → Code β) → Code β
  | done a, f => f a
  | load offset count next, f => load offset count fun bytes => (next bytes).bind f
  | store offset bytes next, f => store offset bytes (next.bind f)

instance : Monad Code where
  pure := done
  bind := bind

def readAt (offset count : Nat) : Code (List UInt8) := load offset count done

def writeAt (offset : Nat) (bytes : List UInt8) : Code Unit := store offset bytes (done ())

/-- The same code, without its result. -/
def discard (c : Code α) : Code Unit := c >>= fun _ => pure ()

/-- The result and the buffer afterwards. -/
def result : Code α → List UInt8 → Option (α × List UInt8)
  | done a, data => some (a, data)
  | load offset count next, data =>
    if offset + count ≤ data.length then (next (read data offset count)).result data else none
  | store offset bytes next, data =>
    if offset + bytes.length ≤ data.length then next.result (write data offset bytes) else none

/-- The accesses up to the first one that is undefined, which is the last. -/
def touched : Code α → List UInt8 → List Access
  | done _, _ => []
  | load offset count next, data =>
    ⟨offset, count⟩ ::
      if offset + count ≤ data.length then (next (read data offset count)).touched data else []
  | store offset bytes next, data =>
    ⟨offset, bytes.length⟩ ::
      if offset + bytes.length ≤ data.length then next.touched (write data offset bytes) else []

variable {c : Code α} {f : α → Code β} {data data' : List UInt8} {a : α} {limit offset count : Nat}
  {bytes : List UInt8}

/-! ## One step -/

@[simp] theorem result_pure : (pure a : Code α).result data = some (a, data) := rfl

@[simp] theorem touched_pure : (pure a : Code α).touched data = [] := rfl

/-- A load of bytes that are there. -/
theorem touched_readAt_bind {f : List UInt8 → Code β} (h : offset + count ≤ data.length) :
    (readAt offset count >>= f).touched data =
      ⟨offset, count⟩ :: (f (read data offset count)).touched data :=
  congrArg (List.cons (Access.mk offset count)) (if_pos h)

theorem result_readAt_bind {f : List UInt8 → Code β} (h : offset + count ≤ data.length) :
    (readAt offset count >>= f).result data = (f (read data offset count)).result data :=
  if_pos h

/-- Code that only loads some bytes touches these, also where they are not all there. -/
theorem touched_readAt_pure {g : List UInt8 → β} :
    (readAt offset count >>= fun bytes => pure (g bytes)).touched data = [⟨offset, count⟩] :=
  congrArg (List.cons (Access.mk offset count)) (ite_self [])

theorem touched_writeAt_bind {f : Unit → Code β} (h : offset + bytes.length ≤ data.length) :
    (writeAt offset bytes >>= f).touched data =
      ⟨offset, bytes.length⟩ :: (f ()).touched (write data offset bytes) :=
  congrArg (List.cons (Access.mk offset bytes.length)) (if_pos h)

theorem result_writeAt_bind {f : Unit → Code β} (h : offset + bytes.length ≤ data.length) :
    (writeAt offset bytes >>= f).result data = (f ()).result (write data offset bytes) :=
  if_pos h

/-- The first access of code that starts with a store. -/
theorem mem_touched_writeAt_bind {f : Unit → Code β} :
    ⟨offset, bytes.length⟩ ∈ (writeAt offset bytes >>= f).touched data :=
  List.mem_cons_self

theorem touched_writeAt : (writeAt offset bytes).touched data = [⟨offset, bytes.length⟩] := by
  unfold writeAt touched
  split <;> rfl

/-! ## One piece of code after the other -/

theorem touched_bind : (c >>= f).touched data =
    c.touched data ++ (c.result data).elim [] fun x => (f x.1).touched x.2 := by
  change (c.bind f).touched data = _
  induction c generalizing data with
  | done a => rfl
  | load offset count next ih =>
    rw [bind, result, touched, touched]
    split
    · rw [ih, List.cons_append]
    · rfl
  | store offset bytes next ih =>
    rw [bind, result, touched, touched]
    split
    · rw [ih, List.cons_append]
    · rfl

@[simp] theorem touched_discard : c.discard.touched data = c.touched data := by
  rw [discard, touched_bind]
  cases c.result data with
  | none => exact List.append_nil _
  | some x => exact List.append_nil _

/-! ## What every piece of code keeps -/

/-- The buffer keeps its length. -/
theorem length_of_result (h : c.result data = some (a, data')) : data'.length = data.length := by
  induction c generalizing data with
  | done b =>
    cases h
    rfl
  | load offset count next ih =>
    rw [result] at h
    split at h
    · exact ih _ h
    · cases h
  | store offset bytes next ih =>
    rw [result] at h
    split at h
    · rename_i hfit
      rw [ih h, length_write hfit]
    · cases h

end Code

end buffer_access
