-- The key value hash: a vector of lists. The elements whose keys fall in one slot of the vector
-- are a list of nodes that are linked both ways.
import Chaos.LinkedHeap
import Chaos.Runs

open Function runs linked_heap

namespace chaos.common.utility

variable {T : Type*}

/-- A node of a list. A null pointer is `none`, and the bytes of the key have its length. -/
structure KeyValueHashElement (T : Type*) where
  element : T
  key : List UInt8
  next : Option Nat
  prev : Option Nat
  deriving DecidableEq

structure HashHeadElementList where
  head : Option Nat
  deriving DecidableEq

def hashsize (n : Nat) : UInt32 := 1 <<< UInt32.ofNat n

def hashmask (n : Nat) : UInt32 := hashsize n - 1

/-- `hash_vector` gives the list of a slot, which is made when the slot is used for the first
time. `heap` holds the nodes that are allocated and not deleted. -/
structure TemplatedKeyValueHash (T : Type*) where
  hash_hashpower : Nat
  hash_vector : Nat → Option HashHeadElementList
  heap : Heap (KeyValueHashElement T)

namespace TemplatedKeyValueHash

def new (T : Type*) (hash_power : Nat) : TemplatedKeyValueHash T :=
  { hash_hashpower := hash_power
    hash_vector := fun _ => none
    heap := ∅ }

/-- The first node of a slot. -/
def head (t : TemplatedKeyValueHash T) (slot : Nat) : Option Nat :=
  (t.hash_vector slot).elim none HashHeadElementList.head

def setHead (t : TemplatedKeyValueHash T) (slot : Nat) (head : Option Nat) :
    TemplatedKeyValueHash T :=
  { t with hash_vector := update t.hash_vector slot (some ⟨head⟩) }

def getListByHash (t : TemplatedKeyValueHash T) (slot : Nat) :
    TemplatedKeyValueHash T × HashHeadElementList :=
  match t.hash_vector slot with
  | some list => (t, list)
  | none => (t.setHead slot none, ⟨none⟩)

/-- The loop that compares the length and the bytes of the keys. -/
def search (t : TemplatedKeyValueHash T) (list : HashHeadElementList) (key : List UInt8) :
    Option (Option (Nat × KeyValueHashElement T)) :=
  walk KeyValueHashElement.next t.heap (fun n => decide (n.key = key)) t.heap.keys.length list.head

section

variable (hash : List UInt8 → UInt32)

/-- The slot of a key. -/
def slot (t : TemplatedKeyValueHash T) (key : List UInt8) : Nat :=
  (hash key &&& hashmask t.hash_hashpower).toNat

/-- The element of a key, or the error code. The operations are `none` where they use a null
pointer or a node that is deleted, or do not end. -/
def getElement (t : TemplatedKeyValueHash T) (key : List UInt8) :
    Option (TemplatedKeyValueHash T × Except Int T) :=
  let r := t.getListByHash (t.slot hash key)
  if r.2.head = none then some (r.1, .error (-2))
  else
    (r.1.search r.2 key).map fun found =>
      match found with
      | some e => (r.1, .ok e.2.element)
      | none => (r.1, .error (-3))

/-- The new node before the first one of its list. -/
def pushFront (t : TemplatedKeyValueHash T) (slot : Nat) (list : HashHeadElementList)
    (key : List UInt8) (element : T) (ptr : Nat) : Option (TemplatedKeyValueHash T) :=
  let new_element : KeyValueHashElement T :=
    { element := element, key := key, next := list.head, prev := none }
  match list.head with
  | none => some { t.setHead slot (some ptr) with heap := t.heap.insert ptr new_element }
  | some p =>
    (t.heap.lookup p).map fun cur =>
      { t.setHead slot (some ptr) with
        heap := (t.heap.insert p { cur with prev := some ptr }).insert ptr new_element }

/-- The code looks for the key with a null pointer for its element, so that a key that is there
is written through the null pointer. `ptr` is the address of the new node. -/
def addElement (t : TemplatedKeyValueHash T) (key : List UInt8) (element : T) (ptr : Nat) :
    Option (TemplatedKeyValueHash T) :=
  match t.getElement hash key with
  | none => none
  | some (_, .ok _) => none
  | some (t, .error _) =>
    let r := t.getListByHash (t.slot hash key)
    r.1.pushFront (t.slot hash key) r.2 key element ptr

/-- Unlink and delete a node that was found in the slot. -/
def unlink (t : TemplatedKeyValueHash T) (slot : Nat) (e : Nat × KeyValueHashElement T) :
    Option (TemplatedKeyValueHash T) :=
  match e.2.prev with
  | some q =>
    -- the node before it keeps its pointer to the node, and so does the head
    e.2.next.bind fun r => (t.heap.lookup r).map fun after =>
      { t with heap := (t.heap.insert r { after with prev := some q }).erase e.1 }
  | none =>
    -- the node after it keeps its pointer to the node
    some { t.setHead slot e.2.next with heap := t.heap.erase e.1 }

def removeElement (t : TemplatedKeyValueHash T) (key : List UInt8) :
    Option (TemplatedKeyValueHash T) :=
  let r := t.getListByHash (t.slot hash key)
  (r.1.search r.2 key).bind fun found =>
    match found with
    | none => some r.1
    | some e => r.1.unlink (t.slot hash key) e

end

/-- Delete the nodes of a slot. -/
def clearSlot (t : TemplatedKeyValueHash T) (slot : Nat) : Option (TemplatedKeyValueHash T) :=
  match t.hash_vector slot with
  | none => some t
  | some list =>
    (release KeyValueHashElement.next t.heap.keys.length t.heap list.head).map fun heap =>
      { t.setHead slot none with heap := heap }

def clear (t : TemplatedKeyValueHash T) : Option (TemplatedKeyValueHash T) :=
  run clearSlot t (List.range (hashsize t.hash_hashpower).toNat)

end TemplatedKeyValueHash

/-! ## The runs -/

inductive HashEvent (T : Type*)
  | getElement (key : List UInt8)
  | addElement (key : List UInt8) (element : T) (ptr : Nat)
  | removeElement (key : List UInt8)
  | clear

/-- The call of an event. The address of a new node is not in use. -/
def hashStep (hash : List UInt8 → UInt32) (t : TemplatedKeyValueHash T) :
    HashEvent T → Option (TemplatedKeyValueHash T)
  | .getElement key => (t.getElement hash key).map Prod.fst
  | .addElement key element ptr =>
    if ptr ∈ t.heap then none else t.addElement hash key element ptr
  | .removeElement key => t.removeElement hash key
  | .clear => t.clear

/-! ## The finite map -/

/-- What an event does to a finite map. -/
def mapStep (map : List UInt8 → Option T) : HashEvent T → List UInt8 → Option T
  | .getElement _ => map
  | .addElement key element _ => update map key (some element)
  | .removeElement key => update map key none
  | .clear => fun _ => none

/-- The elements most recently added and not removed. -/
def mapAfter (es : List (HashEvent T)) : List UInt8 → Option T :=
  es.foldl mapStep fun _ => none

end chaos.common.utility
