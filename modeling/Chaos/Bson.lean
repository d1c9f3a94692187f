-- Documents of the binary json format, with elements that hold a string or a number of 64 bits.
-- Elements of other types are not read.
import Chaos.LittleEndian

namespace bson

open little_endian

/-! ## Writing -/

/-- A number is given by its bits. -/
inductive Value where
  | string (bytes : List UInt8)
  | numberLong (n : UInt64)
  deriving DecidableEq, Repr

structure Element where
  name : List UInt8
  value : Value
  deriving DecidableEq, Repr

def Value.type : Value → UInt8
  | .string _ => 2
  | .numberLong _ => 18

/-- The size of a string counts the zero at its end. -/
def Value.bytes : Value → List UInt8
  | .string bytes => toBytes 4 (bytes.length + 1) ++ (bytes ++ [0])
  | .numberLong n => toBytes 8 n.toNat

def Element.bytes (e : Element) : List UInt8 := e.value.type :: (e.name ++ 0 :: e.value.bytes)

/-- The size of a document counts its own four bytes and the zero at the end. -/
def document (elements : List UInt8) : List UInt8 :=
  toBytes 4 (elements.length + 5) ++ (elements ++ [0])

/-! ## Reading -/

/-- The value of the given type at the start of some bytes, and the bytes after it. -/
def Value.read (type : UInt8) (bytes : List UInt8) : Option (Value × List UInt8) :=
  if type = 2 then
    let size := ofBytes (bytes.take 4)
    let rest := bytes.drop 4
    if 0 < size ∧ size ≤ rest.length then
      some (.string (rest.take (size - 1)), rest.drop size)
    else none
  else if type = 18 then
    if 8 ≤ bytes.length then
      some (.numberLong (UInt64.ofNat (ofBytes (bytes.take 8))), bytes.drop 8)
    else none
  else none

/-- The name ends with its first zero. -/
def Element.read : List UInt8 → Option (Element × List UInt8)
  | [] => none
  | type :: bytes =>
    let name := bytes.takeWhile (· ≠ 0)
    (Value.read type (bytes.drop (name.length + 1))).map fun (value, rest) => (⟨name, value⟩, rest)

/-- The value of the first element with the name, and whether there is one. `left` bounds the
number of the elements. -/
def getField (name : List UInt8) : Nat → List UInt8 → Option (Option Value)
  | _, [] => some none
  | 0, _ => none
  | left + 1, bytes =>
    (Element.read bytes).bind fun (e, rest) =>
      if e.name = name then some (some e.value) else getField name left rest

/-! ## What is written is read -/

/-- Names without a zero, and strings whose size has a place. -/
structure Element.Fits (e : Element) : Prop where
  name : 0 ∉ e.name
  value : ∀ bytes, e.value = .string bytes → bytes.length + 1 < 2 ^ 32

variable {e : Element} {rest : List UInt8}

theorem length_document (elements : List UInt8) :
    (document elements).length = elements.length + 5 := by
  unfold document
  simp
  omega

theorem Value.read_bytes {v : Value} (h : ∀ bytes, v = .string bytes → bytes.length + 1 < 2 ^ 32)
    (rest : List UInt8) : Value.read v.type (v.bytes ++ rest) = some (v, rest) := by
  cases v with
  | string bytes =>
    have hsize : ofBytes (toBytes 4 (bytes.length + 1)) = bytes.length + 1 := by
      apply ofBytes_toBytes
      have := h bytes rfl
      omega
    have htake : (toBytes 4 (bytes.length + 1) ++ (bytes ++ [0] ++ rest)).take 4 =
        toBytes 4 (bytes.length + 1) := List.take_left' (length_toBytes _ _)
    have hdrop : (toBytes 4 (bytes.length + 1) ++ (bytes ++ [0] ++ rest)).drop 4 =
        bytes ++ [0] ++ rest := List.drop_left' (length_toBytes _ _)
    unfold Value.read Value.type Value.bytes
    rw [if_pos rfl, List.append_assoc]
    dsimp only
    rw [htake, hdrop, hsize, if_pos (by simp)]
    simp
  | numberLong n =>
    have hn : ofBytes (toBytes 8 n.toNat) = n.toNat := ofBytes_toBytes n.toNat_lt
    have htake : (toBytes 8 n.toNat ++ rest).take 8 = toBytes 8 n.toNat :=
      List.take_left' (length_toBytes _ _)
    have hdrop : (toBytes 8 n.toNat ++ rest).drop 8 = rest := List.drop_left' (length_toBytes _ _)
    unfold Value.read Value.type Value.bytes
    rw [if_neg (by simp), if_pos rfl, htake, hdrop, hn, if_pos (by simp)]
    simp

theorem takeWhile_name (h : 0 ∉ e.name) (rest : List UInt8) :
    (e.name ++ 0 :: rest).takeWhile (· ≠ 0) = e.name := by
  rw [List.takeWhile_append_of_pos]
  · simp
  · intro b hb
    simp only [ne_eq, decide_not, Bool.not_eq_eq_eq_not, Bool.not_true, decide_eq_false_iff_not]
    rintro rfl
    exact h hb

theorem Element.read_bytes (h : e.Fits) (rest : List UInt8) :
    Element.read (e.bytes ++ rest) = some (e, rest) := by
  have hname := takeWhile_name h.name (e.value.bytes ++ rest)
  have hdrop : (e.name ++ 0 :: (e.value.bytes ++ rest)).drop (e.name.length + 1) =
      e.value.bytes ++ rest := by
    rw [List.append_cons]
    exact List.drop_left' (by simp)
  unfold Element.read Element.bytes
  simp only [List.cons_append, List.append_assoc, hname, hdrop, Value.read_bytes h.value,
    Option.map_some]

theorem Element.bytes_ne_nil (e : Element) (rest : List UInt8) : e.bytes ++ rest ≠ [] := by
  simp [Element.bytes]

theorem getField_succ {name bytes : List UInt8} {left : Nat} (h : bytes ≠ []) :
    getField name (left + 1) bytes = (Element.read bytes).bind fun (e, rest) =>
      if e.name = name then some (some e.value) else getField name left rest := by
  cases bytes with
  | nil => exact absurd rfl h
  | cons b bytes => rfl

/-- The lookup among elements that were written finds the first one with the name. -/
theorem getField_elements (name : List UInt8) {elements : List Element} {left : Nat}
    (h : ∀ e ∈ elements, e.Fits) (hleft : elements.length ≤ left) :
    getField name left (elements.flatMap Element.bytes) =
      some ((elements.find? (·.name = name)).map (·.value)) := by
  induction elements generalizing left with
  | nil => cases left <;> rfl
  | cons e elements ih =>
    obtain ⟨left, rfl⟩ : ∃ n, left = n + 1 := ⟨left - 1, by simp at hleft; omega⟩
    have he := h e List.mem_cons_self
    rw [List.flatMap_cons, getField_succ (e.bytes_ne_nil _), Element.read_bytes he]
    simp only [Option.bind_some, List.find?_cons]
    by_cases hname : e.name = name
    · simp [hname]
    · simp only [hname, if_false, decide_false]
      exact ih (fun e he => h e (List.mem_cons_of_mem _ he)) (by simpa using hleft)

end bson
