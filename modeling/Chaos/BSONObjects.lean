-- Objects in the binary json format: what the builders leave in their buffers, and what the
-- iterator and its elements read from memory. Above it the values that a program puts in, and that
-- they are read back.
import Chaos.Decimals
import Chaos.LittleEndian
import Mathlib.Data.List.Basic

namespace chaos.bson_objects

open little_endian

/-! ## Types -/

inductive BSONType
  | MinKey | EOO | NumberDouble | String | Object | Array | BinData | Undefined | jstOID | Bool
  | Date | jstNULL | RegEx | DBRef | Code | Symbol | CodeWScope | NumberInt | Timestamp | NumberLong
  | MaxKey
  deriving DecidableEq, Repr

namespace BSONType

def code : BSONType → UInt8
  | MinKey => 255
  | EOO => 0
  | NumberDouble => 1
  | String => 2
  | Object => 3
  | Array => 4
  | BinData => 5
  | Undefined => 6
  | jstOID => 7
  | Bool => 8
  | Date => 9
  | jstNULL => 10
  | RegEx => 11
  | DBRef => 12
  | Code => 13
  | Symbol => 14
  | CodeWScope => 15
  | NumberInt => 16
  | Timestamp => 17
  | NumberLong => 18
  | MaxKey => 127

def all : List BSONType :=
  [MinKey, EOO, NumberDouble, String, Object, Array, BinData, Undefined, jstOID, Bool, Date, jstNULL,
    RegEx, DBRef, Code, Symbol, CodeWScope, NumberInt, Timestamp, NumberLong, MaxKey]

def ofCode (c : UInt8) : Option BSONType := all.find? (·.code = c)

@[simp] theorem ofCode_code (t : BSONType) : ofCode t.code = some t := by
  cases t <;> rfl

end BSONType

/-- A text of C, which ends at its first zero. -/
@[ext] structure CString where
  bytes : List UInt8
  no_zero : 0 ∉ bytes
  deriving DecidableEq

def EOO : UInt8 := 0

/-! ## Building -/

def BufferMaxSize : Nat := 64 * 1024 * 1024

def BSONObjMaxInternalSize : Nat := 16 * 1024 * 1024 + 16 * 1024

/-- The buffer of a builder behind the reference count and the size, which take eight bytes. -/
abbrev BufBuilder := List UInt8

namespace BufBuilder

/-- `grow` and the copy. A buffer past the limit is an exception, or a size that is none: both are
`none`, and so is every call that it happens in. -/
def appendBuf (b : BufBuilder) (src : List UInt8) : Option BufBuilder :=
  if 8 + b.length + src.length ≤ BufferMaxSize then some (b ++ src) else none

def appendChar (b : BufBuilder) (j : UInt8) : Option BufBuilder := b.appendBuf [j]

def appendInt (b : BufBuilder) (j : UInt32) : Option BufBuilder := b.appendBuf (toBytes 4 j.toNat)

/-- The numbers of eight bytes, given by their bits. -/
def appendLong (b : BufBuilder) (j : UInt64) : Option BufBuilder := b.appendBuf (toBytes 8 j.toNat)

def appendStr (b : BufBuilder) (str : List UInt8) : Option BufBuilder := b.appendBuf (str ++ [0])

end BufBuilder

/-- `BSONObj` of a pointer into a builder or an element, as the bytes of the object. -/
def BSONObj (data : List UInt8) : Option (List UInt8) :=
  let objsize := ofBytes (data.take 4)
  if objsize = 0 ∨ BSONObjMaxInternalSize < objsize then none
  else if data.length < objsize then none
  else some (data.take objsize)

/-- `BSONObj()`. -/
def emptyObj : List UInt8 := [5, 0, 0, 0, 0]

structure BSONObjBuilder where
  b : BufBuilder := []
  deriving DecidableEq, Repr

namespace BSONObjBuilder

def header (s : BSONObjBuilder) (type : BSONType) (fieldName : List UInt8) : Option BufBuilder := do
  let b ← BufBuilder.appendChar s.b type.code
  b.appendStr fieldName

def appendBool (s : BSONObjBuilder) (fieldName : List UInt8) (val : Bool) :
    Option BSONObjBuilder := do
  let b ← s.header .Bool fieldName
  let b ← b.appendChar (if val then 1 else 0)
  return ⟨b⟩

def appendNumberInt (s : BSONObjBuilder) (fieldName : List UInt8) (n : UInt32) :
    Option BSONObjBuilder := do
  let b ← s.header .NumberInt fieldName
  let b ← b.appendInt n
  return ⟨b⟩

def appendNumberLong (s : BSONObjBuilder) (fieldName : List UInt8) (n : UInt64) :
    Option BSONObjBuilder := do
  let b ← s.header .NumberLong fieldName
  let b ← b.appendLong n
  return ⟨b⟩

def appendNumberDouble (s : BSONObjBuilder) (fieldName : List UInt8) (n : UInt64) :
    Option BSONObjBuilder := do
  let b ← s.header .NumberDouble fieldName
  let b ← b.appendLong n
  return ⟨b⟩

/-- The size counts the zero at the end of the string. -/
def appendString (s : BSONObjBuilder) (fieldName str : List UInt8) : Option BSONObjBuilder := do
  let b ← s.header .String fieldName
  let b ← b.appendInt (UInt32.ofNat (str.length + 1))
  let b ← b.appendBuf (str ++ [0])
  return ⟨b⟩

/-- With the subtype `BinDataGeneral`. -/
def appendBinData (s : BSONObjBuilder) (fieldName data : List UInt8) : Option BSONObjBuilder := do
  let b ← s.header .BinData fieldName
  let b ← b.appendInt (UInt32.ofNat data.length)
  let b ← b.appendChar 0
  let b ← b.appendBuf data
  return ⟨b⟩

def appendObject (s : BSONObjBuilder) (fieldName subObj : List UInt8) : Option BSONObjBuilder := do
  let b ← s.header .Object fieldName
  let b ← b.appendBuf subObj
  return ⟨b⟩

def appendArray (s : BSONObjBuilder) (fieldName subObj : List UInt8) : Option BSONObjBuilder := do
  let b ← s.header .Array fieldName
  let b ← b.appendBuf subObj
  return ⟨b⟩

/-- The elements of an object, without its size and the zero at its end. -/
def appendElements (s : BSONObjBuilder) (x : List UInt8) : Option BSONObjBuilder :=
  if x.length ≤ 5 then some s
  else (BufBuilder.appendBuf s.b ((x.drop 4).take (x.length - 5))).map (⟨·⟩)

/-- `_done` and the object of it. `asTempObj` then takes the zero back. -/
def asTempObj (s : BSONObjBuilder) : Option (List UInt8) := do
  let b ← BufBuilder.appendChar s.b EOO
  BSONObj (toBytes 4 (b.length + 4) ++ b)

end BSONObjBuilder

/-- `numStr`. -/
def numStr (i : Nat) : List UInt8 := (Nat.toDigits 10 i).map fun c => UInt8.ofNat c.toNat

/-- The elements that were appended, and how many. -/
structure BSONArrayBuilder where
  i : Nat := 0
  b : BSONObjBuilder := {}
  deriving DecidableEq, Repr

/-- Each overload of `append` is the one of the builder, with the next number as the name. -/
def BSONArrayBuilder.append (s : BSONArrayBuilder)
    (add : BSONObjBuilder → List UInt8 → Option BSONObjBuilder) : Option BSONArrayBuilder := do
  let b ← add s.b (numStr s.i)
  return ⟨s.i + 1, b⟩

/-! ## Reading -/

/-- An element with the bytes of its value. -/
structure BSONElement where
  type : BSONType
  fieldName : List UInt8
  value : List UInt8
  deriving DecidableEq, Repr

/-- `BSONElement()`. -/
def BSONElement.eoo : BSONElement := ⟨.EOO, [], []⟩

/-- A size at the start of a value. With a negative one the iterator leaves the object. -/
def readSize (bytes : List UInt8) : Option Nat :=
  if 4 ≤ bytes.length ∧ ofBytes (bytes.take 4) < 2 ^ 31 then some (ofBytes (bytes.take 4)) else none

/-- A text up to its zero, with it. -/
def cstrlen (bytes : List UInt8) : Option Nat :=
  if 0 ∈ bytes then some ((bytes.takeWhile (· ≠ 0)).length + 1) else none

/-- `size` without the type and the name: how many of the bytes are the value. -/
def valuesize (bytes : List UInt8) : BSONType → Option Nat
  | .EOO | .Undefined | .jstNULL | .MaxKey | .MinKey => some 0
  | .Bool => some 1
  | .NumberInt => some 4
  | .Timestamp | .Date | .NumberDouble | .NumberLong => some 8
  | .jstOID => some 12
  | .Symbol | .Code | .String => (readSize bytes).map (· + 4)
  | .DBRef => (readSize bytes).map (· + 4 + 12)
  | .CodeWScope | .Object | .Array => readSize bytes
  | .BinData => (readSize bytes).map (· + 4 + 1)
  | .RegEx => do
    let len1 ← cstrlen bytes
    let len2 ← cstrlen (bytes.drop len1)
    return len1 + len2

/-- The element at the start of the bytes before the end of the object, and what is behind it.
`none` where it is of no type, or not all there. -/
def BSONObjIterator.next (bytes : List UInt8) : Option (BSONElement × List UInt8) := do
  let type ← BSONType.ofCode (← bytes.head?)
  if type = .EOO then return (.eoo, bytes.tail)
  let nameSize ← cstrlen bytes.tail
  let behind := bytes.tail.drop nameSize
  let size ← valuesize behind type
  if size ≤ behind.length then
    return (⟨type, bytes.tail.take (nameSize - 1), behind.take size⟩, behind.drop size)
  else none

/-- What an iterator over the object goes through. -/
def inside (obj : List UInt8) : List UInt8 := (obj.drop 4).dropLast

/-- The loop of `getField`. Each element takes a byte at least, so that the count of the bytes
bounds the turns. -/
def findField (name : List UInt8) : Nat → List UInt8 → Option BSONElement
  | _, [] => some .eoo
  | 0, _ :: _ => none
  | left + 1, b :: bytes =>
    (BSONObjIterator.next (b :: bytes)).bind fun (e, rest) =>
      if e.fieldName = name then some e else findField name left rest

def getField (obj name : List UInt8) : Option BSONElement :=
  findField name (inside obj).length (inside obj)

/-- The loops over all elements. -/
def elements : Nat → List UInt8 → Option (List BSONElement)
  | _, [] => some []
  | 0, _ :: _ => none
  | left + 1, b :: bytes =>
    (BSONObjIterator.next (b :: bytes)).bind fun (e, rest) => (elements left rest).map (e :: ·)

/-! ## Numbers as names -/

def digitValue (c : UInt8) : Nat :=
  if 48 ≤ c ∧ c ≤ 57 then c.toNat - 48
  else if 97 ≤ c ∧ c ≤ 122 then c.toNat - 97 + 10
  else if 65 ≤ c ∧ c ≤ 90 then c.toNat - 65 + 10
  else 36

/-- The string without its sign, and whether the sign is a minus. -/
def extractSign : List UInt8 → List UInt8 × Bool
  | 45 :: cs => (cs, true)
  | 43 :: cs => (cs, false)
  | cs => (cs, false)

/-- `_extractBase` for the base 0: by the prefix. -/
def extractBase (cs : List UInt8) : List UInt8 × Nat :=
  if 2 < cs.length ∧ (cs.take 2 = [48, 120] ∨ cs.take 2 = [48, 88]) then (cs.drop 2, 16)
  else if 1 < cs.length ∧ cs.head? = some 48 then (cs, 8)
  else (cs, 10)

/-- One turn of the loop, for a number of 32 bits without sign. -/
def parseDigit (base n : Nat) (c : UInt8) : Option Nat :=
  if base ≤ digitValue c then none
  else if (2 ^ 32 - 1) / base < n ∨ 2 ^ 32 - 1 - n * base < digitValue c then none
  else some (n * base + digitValue c)

/-- `parseNumberFromString` for an unsigned number, with `none` for the errors. -/
def parseNumberFromString (stringValue : List UInt8) : Option Nat :=
  let (str, isNegative) := extractSign stringValue
  let (str, base) := extractBase str
  if str = [] then none
  else if isNegative then none
  else str.foldlM (parseDigit base) 0

/-- One turn of the loop of `Array`. A place that is not in the vector is added, with the ones
before it; a name that is no number is left out. -/
def placeElement (v : List BSONElement) (e : BSONElement) : Option (List BSONElement) :=
  match parseNumberFromString e.fieldName with
  | none => some v
  | some u =>
    if 1000000 ≤ u then none
    else some ((v ++ List.replicate (u + 1 - v.length) BSONElement.eoo).set u e)

/-! ## Elements -/

/-- How the machine converts a double, given by its bits, to a number of 32 or 64 bits. -/
structure DoubleCasts where
  toInt : UInt64 → UInt32
  toLong : UInt64 → UInt64

def signExtend (n : UInt32) : UInt64 := n.toInt32.toInt64.toUInt64

section
variable (casts : DoubleCasts) (e : BSONElement)

def BSONElement.isABSONObj : Bool := decide (e.type = .Object ∨ e.type = .Array)

/-- `String` with its check of the type, as the other names with a capital letter. -/
def BSONElement.String : Option (List UInt8) :=
  if e.type = .String then some ((e.value.drop 4).take (ofBytes (e.value.take 4) - 1)) else none

def BSONElement.Double : Option UInt64 :=
  if e.type = .NumberDouble then some (UInt64.ofNat (ofBytes e.value)) else none

def BSONElement.Int : Option UInt32 :=
  if e.type = .NumberInt then some (UInt32.ofNat (ofBytes e.value)) else none

def BSONElement.Long : Option UInt64 :=
  if e.type = .NumberLong then some (UInt64.ofNat (ofBytes e.value)) else none

def BSONElement.Bool : Option Bool :=
  if e.type = .Bool then some (decide (ofBytes e.value ≠ 0)) else none

def BSONElement.numberInt : UInt32 :=
  match e.type with
  | .NumberDouble => casts.toInt (UInt64.ofNat (ofBytes e.value))
  | .NumberInt => UInt32.ofNat (ofBytes e.value)
  | .NumberLong => (UInt64.ofNat (ofBytes e.value)).toUInt32
  | _ => 0

def BSONElement.numberLong : UInt64 :=
  match e.type with
  | .NumberDouble => casts.toLong (UInt64.ofNat (ofBytes e.value))
  | .NumberInt => signExtend (UInt32.ofNat (ofBytes e.value))
  | .NumberLong => UInt64.ofNat (ofBytes e.value)
  | _ => 0

def BSONElement.binData : Option (List UInt8) :=
  if e.type = .BinData then some ((e.value.drop 5).take (ofBytes (e.value.take 4))) else none

/-- The vector of the elements of an array. -/
def BSONElement.Array : Option (List BSONElement) := do
  let obj ← BSONObj e.value
  (← elements (inside obj).length (inside obj)).foldlM placeElement []

end

/-! ## Values -/

/-- What a program puts into an object. A double is given by its bits, the other numbers by theirs;
the elements of an array have no names of their own. -/
inductive Value
  | numberDouble (bits : UInt64)
  | string (bytes : List UInt8)
  | object (elements : List (CString × Value))
  | array (values : List Value)
  | binData (bytes : List UInt8)
  | bool (b : Bool)
  | numberInt (n : UInt32)
  | numberLong (n : UInt64)

def Value.type : Value → BSONType
  | numberDouble _ => .NumberDouble
  | string _ => .String
  | object _ => .Object
  | array _ => .Array
  | binData _ => .BinData
  | bool _ => .Bool
  | numberInt _ => .NumberInt
  | numberLong _ => .NumberLong

/-- The size of an object counts its own four bytes and the zero at the end. -/
def document (elements : List UInt8) : List UInt8 :=
  toBytes 4 (elements.length + 5) ++ (elements ++ [0])

def elementBytes (type : BSONType) (name value : List UInt8) : List UInt8 :=
  type.code :: (name ++ 0 :: value)

mutual

def Value.bytes : Value → List UInt8
  | .numberDouble bits => toBytes 8 bits.toNat
  | .string bytes => toBytes 4 (bytes.length + 1) ++ (bytes ++ [0])
  | .object es => document (objectBytes es)
  | .array vs => document (arrayBytes 0 vs)
  | .binData bytes => toBytes 4 bytes.length ++ 0 :: bytes
  | .bool b => [if b then 1 else 0]
  | .numberInt n => toBytes 4 n.toNat
  | .numberLong n => toBytes 8 n.toNat

def objectBytes : List (CString × Value) → List UInt8
  | [] => []
  | (name, v) :: es => elementBytes v.type name.bytes v.bytes ++ objectBytes es

def arrayBytes : Nat → List Value → List UInt8
  | _, [] => []
  | i, v :: vs => elementBytes v.type (numStr i) v.bytes ++ arrayBytes (i + 1) vs

end

/-! ## Names that are numbers -/

variable {i n : Nat} {cs : List Char} {rest : List UInt8}

def charByte (c : Char) : UInt8 := UInt8.ofNat c.toNat

theorem toNat_charByte {c : Char} (hc : c.isDigit = true) : (charByte c).toNat = c.toNat := by
  obtain ⟨_, hle⟩ := Char.isDigit_iff_toNat.mp hc
  have h9 : '9'.toNat = 57 := rfl
  unfold charByte
  rw [UInt8.toNat_ofNat', Nat.mod_eq_of_lt (by omega)]

theorem digitValue_charByte {c : Char} (hc : c.isDigit = true) :
    digitValue (charByte c) = c.toNat - '0'.toNat := by
  obtain ⟨hge, hle⟩ := Char.isDigit_iff_toNat.mp hc
  have h0 : '0'.toNat = 48 := rfl
  have h9 : '9'.toNat = 57 := rfl
  have hrange : 48 ≤ charByte c ∧ charByte c ≤ 57 := by
    simp only [UInt8.le_iff_toNat_le, toNat_charByte hc]
    exact ⟨hge, hle⟩
  unfold digitValue
  rw [if_pos hrange, toNat_charByte hc, h0]

theorem le_ofDigitChars (cs : List Char) (n : Nat) : n ≤ Nat.ofDigitChars 10 cs n := by
  induction cs generalizing n with
  | nil => simp
  | cons c cs ih =>
    rw [Nat.ofDigitChars_cons]
    exact Nat.le_trans (by omega) (ih _)

/-- The loop reads the digits, as long as the number has a place. -/
theorem foldlM_parseDigit (hcs : ∀ c ∈ cs, c.isDigit = true)
    (h : Nat.ofDigitChars 10 cs n < 2 ^ 32) :
    (cs.map charByte).foldlM (parseDigit 10) n = some (Nat.ofDigitChars 10 cs n) := by
  induction cs generalizing n with
  | nil => simp
  | cons c cs ih =>
    obtain ⟨hc, hcs⟩ := List.forall_mem_cons.mp hcs
    have hdigit := decimals.sub_lt_ten hc
    rw [Nat.ofDigitChars_cons] at h ⊢
    have hle := le_ofDigitChars cs (10 * n + (c.toNat - '0'.toNat))
    have hstep : parseDigit 10 n (charByte c) = some (10 * n + (c.toNat - '0'.toNat)) := by
      unfold parseDigit
      rw [digitValue_charByte hc, if_neg (by omega), if_neg (by omega), Nat.mul_comm]
    rw [List.map_cons, List.foldlM_cons, hstep]
    exact ih hcs h

theorem isDigit_toDigits (n : Nat) : ∀ c ∈ Nat.toDigits 10 n, c.isDigit = true :=
  fun _ hc => Nat.isDigit_of_mem_toDigits (by decide) (by decide) hc

/-- A number of two digits or more does not start with a zero. -/
theorem head_toDigits (h : 1 < (Nat.toDigits 10 n).length) :
    (Nat.toDigits 10 n).head? ≠ some '0' := by
  induction n using Nat.strongRecOn with
  | ind n ih =>
    by_cases hlt : n < 10
    · rw [Nat.toDigits_of_lt_base hlt] at h
      simp at h
    · rw [Nat.toDigits_of_base_le (by decide) (by omega), List.head?_append_of_ne_nil _
        Nat.toDigits_ne_nil]
      by_cases hlen : 1 < (Nat.toDigits 10 (n / 10)).length
      · exact ih _ (by omega) hlen
      · have hone : n / 10 < 10 := by
          have hle := (Nat.length_toDigits_le_iff (n := n / 10) (b := 10) (k := 1) (by decide)
            (by decide)).mp (by omega)
          simpa using hle
        rw [Nat.toDigits_of_lt_base hone]
        intro hzero
        have hchar := Nat.toNat_digitChar_sub_48_of_lt_ten hone
        simp only [List.head?_cons, Option.some.injEq] at hzero
        rw [hzero] at hchar
        have h0 : '0'.toNat = 48 := rfl
        omega

theorem numStr_eq (i : Nat) : numStr i = (Nat.toDigits 10 i).map charByte := rfl

theorem extractSign_charByte {c : Char} (hc : c.isDigit = true) (bytes : List UInt8) :
    extractSign (charByte c :: bytes) = (charByte c :: bytes, false) := by
  have hge := (Char.isDigit_iff_toNat.mp hc).1
  have hbyte := toNat_charByte hc
  have h0 : '0'.toNat = 48 := rfl
  unfold extractSign
  split
  · rename_i heq
    rw [(List.cons.inj heq).1] at hbyte
    simp at hbyte
    omega
  · rename_i heq
    rw [(List.cons.inj heq).1] at hbyte
    simp at hbyte
    omega
  · rfl

/-- The digits of a number are not taken for another base. -/
theorem extractBase_numStr (i : Nat) : extractBase (numStr i) = (numStr i, 10) := by
  have hdigits : ∀ b ∈ numStr i, 48 ≤ b.toNat ∧ b.toNat ≤ 57 := by
    intro b hb
    obtain ⟨c, hc, rfl⟩ := List.mem_map.mp hb
    have hdigit := isDigit_toDigits i c hc
    rw [← charByte, toNat_charByte hdigit]
    exact Char.isDigit_iff_toNat.mp hdigit
  have hprefix : ∀ x : UInt8, 57 < x.toNat → (numStr i).take 2 ≠ [48, x] := by
    intro x hx htake
    have hmem : x ∈ numStr i := List.mem_of_mem_take (i := 2) (by rw [htake]; simp)
    have := hdigits x hmem
    omega
  have hzero : ¬ (1 < (numStr i).length ∧ (numStr i).head? = some 48) := by
    rintro ⟨hlen, hhead⟩
    rw [numStr_eq, List.length_map] at hlen
    refine head_toDigits hlen ?_
    rw [numStr_eq, List.head?_map] at hhead
    obtain ⟨c, hc, hbyte⟩ := Option.map_eq_some_iff.mp hhead
    have hdigit := isDigit_toDigits i c (List.mem_of_head? hc)
    have hchar := toNat_charByte hdigit
    rw [hbyte] at hchar
    rw [hc, Option.some_inj]
    exact Char.toNat_inj.mp hchar.symm
  unfold extractBase
  rw [if_neg, if_neg hzero]
  rintro ⟨-, h | h⟩
  · exact hprefix 120 (by decide) h
  · exact hprefix 88 (by decide) h

theorem parseNumberFromString_numStr (h : i < 2 ^ 32) :
    parseNumberFromString (numStr i) = some i := by
  obtain ⟨c, cs, hcs⟩ := List.exists_cons_of_ne_nil (Nat.toDigits_ne_nil (n := i) (b := 10))
  have hcons : numStr i = charByte c :: cs.map charByte := by rw [numStr_eq, hcs, List.map_cons]
  have hdigit : c.isDigit = true := isDigit_toDigits i c (by rw [hcs]; exact List.mem_cons_self)
  have hsign : extractSign (numStr i) = (numStr i, false) := by
    rw [hcons, extractSign_charByte hdigit]
  have hvalue := Nat.ofDigitChars_ten_toDigits (n := i)
  have hloop := foldlM_parseDigit (n := 0) (isDigit_toDigits i) (by omega)
  unfold parseNumberFromString
  rw [hsign]
  dsimp only
  rw [extractBase_numStr]
  dsimp only
  rw [if_neg (by simp [hcons]), if_neg (by simp), numStr_eq, hloop, hvalue]

theorem zero_not_mem_numStr (i : Nat) : 0 ∉ numStr i := by
  intro hzero
  obtain ⟨c, hc, hbyte⟩ := List.mem_map.mp hzero
  have hdigit := isDigit_toDigits i c hc
  have hge := (Char.isDigit_iff_toNat.mp hdigit).1
  have hchar := toNat_charByte hdigit
  rw [charByte, hbyte] at hchar
  have h0 : '0'.toNat = 48 := rfl
  simp at hchar
  omega

/-! ## What is written is read -/

/-- The element of a value under a name. -/
def Value.element (v : Value) (name : List UInt8) : BSONElement := ⟨v.type, name, v.bytes⟩

/-- The elements of an array under their names. -/
def numbered : Nat → List Value → List (CString × Value)
  | _, [] => []
  | i, v :: vs => (⟨numStr i, zero_not_mem_numStr i⟩, v) :: numbered (i + 1) vs

/-- The elements of an object; those of an array are under their numbers. -/
def Value.embedded : Value → Option (List (CString × Value))
  | .object es => some es
  | .array vs => some (numbered 0 vs)
  | _ => none

theorem arrayBytes_eq (i : Nat) (vs : List Value) : arrayBytes i vs = objectBytes (numbered i vs) := by
  induction vs generalizing i with
  | nil => simp [arrayBytes, numbered, objectBytes]
  | cons v vs ih => simp [arrayBytes, numbered, objectBytes, ih]

theorem arrayBytes_append (i : Nat) (vs : List Value) (v : Value) :
    arrayBytes i (vs ++ [v]) =
      arrayBytes i vs ++ elementBytes v.type (numStr (i + vs.length)) v.bytes := by
  induction vs generalizing i with
  | nil => simp [arrayBytes]
  | cons u vs ih =>
    simp only [List.cons_append, arrayBytes, ih, List.append_assoc, List.length_cons]
    rw [Nat.add_assoc, Nat.add_comm 1]

theorem objectBytes_append (es fs : List (CString × Value)) :
    objectBytes (es ++ fs) = objectBytes es ++ objectBytes fs := by
  induction es with
  | nil => simp [objectBytes]
  | cons e es ih => simp [objectBytes, ih]

theorem length_document (bytes : List UInt8) : (document bytes).length = bytes.length + 5 := by
  unfold document
  simp
  omega

theorem readSize_toBytes (h : n < 2 ^ 31) : readSize (toBytes 4 n ++ rest) = some n := by
  have htake : (toBytes 4 n ++ rest).take 4 = toBytes 4 n := List.take_left' (length_toBytes _ _)
  unfold readSize
  rw [htake, ofBytes_toBytes (by omega), if_pos ⟨by simp, h⟩]

theorem valuesize_bytes (v : Value) (h : v.bytes.length < 2 ^ 31) (rest : List UInt8) :
    valuesize (v.bytes ++ rest) v.type = some v.bytes.length := by
  cases v with
  | numberDouble bits => simp [Value.bytes, Value.type, valuesize]
  | numberInt n => simp [Value.bytes, Value.type, valuesize]
  | numberLong n => simp [Value.bytes, Value.type, valuesize]
  | bool b => simp [Value.bytes, Value.type, valuesize]
  | string bytes =>
    simp only [Value.bytes, List.length_append, length_toBytes, List.length_singleton] at h ⊢
    simp only [Value.type, valuesize, List.append_assoc]
    rw [readSize_toBytes (by omega), Option.map_some, Nat.add_comm]
  | binData bytes =>
    simp only [Value.bytes, List.length_append, length_toBytes, List.length_cons] at h ⊢
    simp only [Value.type, valuesize, List.append_assoc]
    rw [readSize_toBytes (by omega), Option.map_some, Nat.add_assoc, Nat.add_comm,
      Nat.add_comm 4 1, Nat.add_assoc, Nat.add_comm 1, ← Nat.add_assoc, Nat.add_comm 4]
  | object es =>
    simp only [Value.bytes, length_document] at h ⊢
    simp only [Value.type, valuesize, document, List.append_assoc]
    rw [readSize_toBytes (by omega)]
  | array vs =>
    simp only [Value.bytes, length_document] at h ⊢
    simp only [Value.type, valuesize, document, List.append_assoc]
    rw [readSize_toBytes (by omega)]

variable {name : List UInt8} {v : Value}

theorem cstrlen_append (h : 0 ∉ name) (rest : List UInt8) :
    cstrlen (name ++ 0 :: rest) = some (name.length + 1) := by
  have hwhile : (name ++ 0 :: rest).takeWhile (· ≠ 0) = name := by
    rw [List.takeWhile_append_of_pos]
    · simp
    · intro b hb
      have hne : b ≠ 0 := fun hz => h (hz ▸ hb)
      simpa using hne
  unfold cstrlen
  rw [if_pos (by simp), hwhile]

theorem type_ne_EOO (v : Value) : v.type ≠ .EOO := by
  cases v <;> simp [Value.type]

theorem next_elementBytes (hname : 0 ∉ name) (hv : v.bytes.length < 2 ^ 31) (rest : List UInt8) :
    BSONObjIterator.next (elementBytes v.type name v.bytes ++ rest) =
      some (v.element name, rest) := by
  have hcons : elementBytes v.type name v.bytes ++ rest =
      v.type.code :: (name ++ 0 :: (v.bytes ++ rest)) := by
    simp [elementBytes]
  have hdrop : (name ++ 0 :: (v.bytes ++ rest)).drop (name.length + 1) = v.bytes ++ rest := by
    rw [List.append_cons]
    exact List.drop_left' (by simp)
  have htake : (name ++ 0 :: (v.bytes ++ rest)).take (name.length + 1 - 1) = name :=
    List.take_left' rfl
  unfold BSONObjIterator.next
  rw [hcons]
  simp only [List.head?_cons, List.tail_cons, Option.bind_eq_bind, Option.bind_some,
    BSONType.ofCode_code, type_ne_EOO, if_false, cstrlen_append hname, hdrop, htake,
    valuesize_bytes v hv]
  rw [if_pos (by simp), List.take_left' rfl, List.drop_left' rfl]
  rfl

theorem findField_succ {bytes : List UInt8} {left : Nat} (h : bytes ≠ []) :
    findField name (left + 1) bytes = (BSONObjIterator.next bytes).bind fun (e, rest) =>
      if e.fieldName = name then some e else findField name left rest := by
  cases bytes with
  | nil => exact absurd rfl h
  | cons b bytes => rfl

theorem elements_succ {bytes : List UInt8} {left : Nat} (h : bytes ≠ []) :
    elements (left + 1) bytes = (BSONObjIterator.next bytes).bind fun (e, rest) =>
      (elements left rest).map (e :: ·) := by
  cases bytes with
  | nil => exact absurd rfl h
  | cons b bytes => rfl

variable {es : List (CString × Value)}

theorem length_le_objectBytes (es : List (CString × Value)) : es.length ≤ (objectBytes es).length := by
  induction es with
  | nil => simp
  | cons e es ih =>
    simp only [objectBytes, elementBytes, List.length_append, List.length_cons]
    omega

theorem value_lt_of_objectBytes {e : CString × Value} (he : e ∈ es) :
    e.2.bytes.length < (objectBytes es).length := by
  induction es with
  | nil => simp at he
  | cons f es ih =>
    simp only [objectBytes, elementBytes, List.length_append, List.length_cons]
    rcases List.mem_cons.mp he with rfl | he
    · omega
    · have := ih he
      omega

theorem next_objectBytes {e : CString × Value} (h : (objectBytes (e :: es)).length < 2 ^ 31) :
    BSONObjIterator.next (objectBytes (e :: es)) =
        some (e.2.element e.1.bytes, objectBytes es) ∧ (objectBytes es).length < 2 ^ 31 := by
  have hv := value_lt_of_objectBytes (List.mem_cons_self (a := e) (l := es))
  rw [objectBytes, List.length_append] at h
  exact ⟨next_elementBytes e.1.no_zero (by rw [objectBytes, List.length_append] at hv; omega) _,
    by omega⟩

/-- The first of the values under a name, as an element. -/
def lookup (es : List (CString × Value)) (name : List UInt8) : BSONElement :=
  match es.find? (·.1.bytes = name) with
  | some e => e.2.element name
  | none => .eoo

theorem findField_objectBytes (name : List UInt8) {left : Nat}
    (h : (objectBytes es).length < 2 ^ 31) (hleft : es.length ≤ left) :
    findField name left (objectBytes es) = some (lookup es name) := by
  induction es generalizing left with
  | nil =>
    unfold objectBytes
    cases left <;> rfl
  | cons e es ih =>
    obtain ⟨left, rfl⟩ : ∃ n, left = n + 1 := ⟨left - 1, by simp at hleft; omega⟩
    obtain ⟨hnext, hrest⟩ := next_objectBytes h
    rw [findField_succ (by simp [objectBytes, elementBytes]), hnext, Option.bind_some]
    dsimp only
    by_cases hname : e.1.bytes = name
    · simp [lookup, Value.element, hname]
    · have hfind : lookup (e :: es) name = lookup es name := by
        simp [lookup, hname]
      rw [hfind]
      simp only [Value.element, hname, if_false]
      exact ih hrest (by simpa using hleft)

theorem elements_objectBytes {left : Nat} (h : (objectBytes es).length < 2 ^ 31)
    (hleft : es.length ≤ left) :
    elements left (objectBytes es) = some (es.map fun e => e.2.element e.1.bytes) := by
  induction es generalizing left with
  | nil =>
    unfold objectBytes
    cases left <;> rfl
  | cons e es ih =>
    obtain ⟨left, rfl⟩ : ∃ n, left = n + 1 := ⟨left - 1, by simp at hleft; omega⟩
    obtain ⟨hnext, hrest⟩ := next_objectBytes h
    rw [elements_succ (by simp [objectBytes, elementBytes]), hnext, Option.bind_some]
    dsimp only
    rw [ih hrest (by simpa using hleft)]
    simp

/-- The values of an array stand at their places, up to the largest number that is taken. -/
theorem placeElement_numbered (placed vs : List Value)
    (hplaced : placed.length ≤ 1000000) (done : List BSONElement)
    (hdone : done.length = placed.length) :
    ((numbered placed.length vs).map fun e => e.2.element e.1.bytes).foldlM placeElement done =
      if placed.length + vs.length ≤ 1000000 then
        some (done ++ (numbered placed.length vs).map fun e => e.2.element e.1.bytes)
      else none := by
  induction vs generalizing placed done with
  | nil => simp [numbered, hplaced]
  | cons v vs ih =>
    simp only [numbered, List.map_cons, List.foldlM_cons]
    have hparse := parseNumberFromString_numStr (i := placed.length) (by omega)
    by_cases hlast : 1000000 ≤ placed.length
    · rw [if_neg (by simp; omega)]
      simp [placeElement, Value.element, hparse, hlast]
    · have hplace : placeElement done (v.element (numStr placed.length)) =
          some (done ++ [v.element (numStr placed.length)]) := by
        unfold placeElement
        simp only [Value.element, hparse]
        rw [if_neg hlast, ← hdone]
        simp
      have hnext := ih (placed ++ [v]) (by simp; omega)
        (done ++ [v.element (numStr placed.length)]) (by simp [hdone])
      rw [List.length_append, List.length_singleton] at hnext
      rw [hplace]
      refine hnext.trans ?_
      simp only [List.length_cons, List.append_assoc, List.singleton_append, Nat.add_assoc,
        Nat.add_comm 1]

/-! ## The builders -/

theorem toBytes_mod (n : Nat) : toBytes 4 (n % 2 ^ 32) = toBytes 4 n := by
  have h := toBytes_ofBytes (toBytes 4 n)
  rwa [length_toBytes, ofBytes_toBytes_mod] at h

@[simp] theorem toBytes_ofNat (n : Nat) : toBytes 4 (UInt32.ofNat n).toNat = toBytes 4 n := by
  rw [UInt32.toNat_ofNat']
  exact toBytes_mod n

theorem appendBuf_bind (b : BufBuilder) (x y : List UInt8) :
    ((b.appendBuf x).bind fun b => b.appendBuf y) = b.appendBuf (x ++ y) := by
  unfold BufBuilder.appendBuf
  by_cases h : 8 + b.length + x.length ≤ BufferMaxSize
  · rw [if_pos h, Option.bind_some, List.length_append, List.length_append, List.append_assoc]
    simp only [Nat.add_assoc]
  · rw [if_neg h, if_neg (by rw [List.length_append]; omega)]
    rfl

namespace BSONObjBuilder

variable (s : BSONObjBuilder)

/-- What every call does to the builder in the end. -/
def put (bytes : List UInt8) : Option BSONObjBuilder := (BufBuilder.appendBuf s.b bytes).map (⟨·⟩)

theorem header_eq (type : BSONType) (name : List UInt8) :
    s.header type name = BufBuilder.appendBuf s.b (type.code :: (name ++ [0])) :=
  appendBuf_bind s.b [type.code] (name ++ [0])

/-- An element that is appended in two parts. -/
theorem header_bind (type : BSONType) (name value : List UInt8) :
    ((s.header type name).bind fun b => (b.appendBuf value).map fun b => (⟨b⟩ : BSONObjBuilder)) =
      s.put (elementBytes type name value) := by
  have h := appendBuf_bind s.b (type.code :: (name ++ [0])) value
  rw [List.cons_append, List.append_assoc, List.singleton_append] at h
  unfold put elementBytes
  rw [header_eq, ← h, Option.map_bind]
  rfl

theorem appendNumberInt_eq (name : List UInt8) (n : UInt32) : s.appendNumberInt name n =
    s.put (elementBytes .NumberInt name (Value.numberInt n).bytes) := by
  rw [← header_bind]
  simp [appendNumberInt, BufBuilder.appendInt, Value.bytes, Option.map_eq_bind]

theorem appendNumberLong_eq (name : List UInt8) (n : UInt64) : s.appendNumberLong name n =
    s.put (elementBytes .NumberLong name (Value.numberLong n).bytes) := by
  rw [← header_bind]
  simp [appendNumberLong, BufBuilder.appendLong, Value.bytes, Option.map_eq_bind]

theorem appendNumberDouble_eq (name : List UInt8) (n : UInt64) : s.appendNumberDouble name n =
    s.put (elementBytes .NumberDouble name (Value.numberDouble n).bytes) := by
  rw [← header_bind]
  simp [appendNumberDouble, BufBuilder.appendLong, Value.bytes, Option.map_eq_bind]

theorem appendBool_eq (name : List UInt8) (b : Bool) : s.appendBool name b =
    s.put (elementBytes .Bool name (Value.bool b).bytes) := by
  rw [← header_bind]
  simp [appendBool, BufBuilder.appendChar, Value.bytes, Option.map_eq_bind]

theorem appendObject_eq (name subObj : List UInt8) : s.appendObject name subObj =
    s.put (elementBytes .Object name subObj) := by
  rw [← header_bind]
  simp [appendObject, Option.map_eq_bind]

theorem appendArray_eq (name subObj : List UInt8) : s.appendArray name subObj =
    s.put (elementBytes .Array name subObj) := by
  rw [← header_bind]
  simp [appendArray, Option.map_eq_bind]

theorem appendString_eq (name str : List UInt8) : s.appendString name str =
    s.put (elementBytes .String name (Value.string str).bytes) := by
  rw [← header_bind]
  have hparts (b : BufBuilder) : b.appendBuf (Value.string str).bytes =
      (b.appendBuf (toBytes 4 (str.length + 1))).bind fun b => b.appendBuf (str ++ [0]) := by
    rw [Value.bytes, appendBuf_bind]
  simp only [appendString, BufBuilder.appendInt, toBytes_ofNat, hparts]
  simp [Option.map_eq_bind, Option.bind_assoc]

theorem appendBinData_eq (name data : List UInt8) : s.appendBinData name data =
    s.put (elementBytes .BinData name (Value.binData data).bytes) := by
  rw [← header_bind]
  have hparts (b : BufBuilder) : b.appendBuf (Value.binData data).bytes =
      (b.appendBuf (toBytes 4 data.length)).bind fun b =>
        (b.appendBuf [0]).bind fun b => b.appendBuf data := by
    rw [Value.bytes, List.append_cons, ← appendBuf_bind, ← appendBuf_bind, Option.bind_assoc]
  simp only [appendBinData, BufBuilder.appendInt, BufBuilder.appendChar, toBytes_ofNat, hparts]
  simp [Option.map_eq_bind, Option.bind_assoc]

end BSONObjBuilder

/-! ## Objects -/

theorem BSONObj_document {bytes : List UInt8} (h : bytes.length + 5 ≤ BSONObjMaxInternalSize)
    (rest : List UInt8) : BSONObj (document bytes ++ rest) = some (document bytes) := by
  have hsmall : BSONObjMaxInternalSize < 2 ^ 31 := by decide
  have htake : (document bytes ++ rest).take 4 = toBytes 4 (bytes.length + 5) := by
    unfold document
    rw [List.append_assoc]
    exact List.take_left' (length_toBytes _ _)
  have hlen := length_document bytes
  unfold BSONObj
  rw [htake, ofBytes_toBytes (by omega)]
  dsimp only
  rw [if_neg (by omega), if_neg (by rw [List.length_append]; omega), List.take_left' hlen]

theorem inside_document (bytes : List UInt8) : inside (document bytes) = bytes := by
  unfold inside document
  rw [List.drop_left' (length_toBytes _ _), List.dropLast_concat]

theorem BSONObjBuilder.asTempObj_eq (s : BSONObjBuilder) :
    s.asTempObj =
      if s.b.length + 5 ≤ BSONObjMaxInternalSize then some (document s.b) else none := by
  have hmax : BSONObjMaxInternalSize + 100 ≤ BufferMaxSize := by decide
  have hbuf : BufferMaxSize < 2 ^ 31 := by decide
  unfold asTempObj BufBuilder.appendChar BufBuilder.appendBuf
  by_cases hroom : 8 + s.b.length + [EOO].length ≤ BufferMaxSize
  · have hdoc : toBytes 4 ((s.b ++ [EOO]).length + 4) ++ (s.b ++ [EOO]) = document s.b := by
      simp [document, EOO]
    rw [if_pos hroom]
    simp only [Option.bind_eq_bind, Option.bind_some]
    rw [hdoc]
    split_ifs with hsmall
    · simpa using BSONObj_document hsmall []
    · have htake : (document s.b).take 4 = toBytes 4 (s.b.length + 5) :=
        List.take_left' (length_toBytes _ _)
      simp only [List.length_singleton] at hroom
      unfold BSONObj
      rw [htake, ofBytes_toBytes (by omega)]
      dsimp only
      rw [if_pos (by omega)]
  · simp only [List.length_singleton] at hroom
    rw [if_neg (by simpa using hroom), if_neg (by omega)]
    rfl

theorem objectBytes_eq_nil {es : List (CString × Value)} : objectBytes es = [] ↔ es = [] := by
  cases es with
  | nil => simp [objectBytes]
  | cons e es => simp [objectBytes, elementBytes]

theorem BSONObjBuilder.appendElements_eq (s : BSONObjBuilder) (bytes : List UInt8) :
    s.appendElements (document bytes) = if bytes = [] then some s else s.put bytes := by
  have hlen := length_document bytes
  have hinside : ((document bytes).drop 4).take ((document bytes).length - 5) = bytes := by
    unfold document
    rw [List.drop_left' (length_toBytes _ _)]
    exact List.take_left' (by simp; omega)
  unfold appendElements
  by_cases hnil : bytes = []
  · subst hnil
    rw [if_pos (by simp [hlen]), if_pos rfl]
  · have hpos := List.length_pos_iff.mpr hnil
    rw [if_neg (by omega), if_neg hnil, hinside]
    rfl

/-! ## Elements of values -/

@[simp] theorem ofNat_ofBytes_four (n : UInt32) :
    UInt32.ofNat (ofBytes (toBytes 4 n.toNat)) = n := by
  rw [ofBytes_toBytes n.toNat_lt, UInt32.ofNat_toNat]

@[simp] theorem ofNat_ofBytes_eight (n : UInt64) :
    UInt64.ofNat (ofBytes (toBytes 8 n.toNat)) = n := by
  rw [ofBytes_toBytes n.toNat_lt, UInt64.ofNat_toNat]

section
variable (casts : DoubleCasts)

theorem String_element (hv : v.bytes.length < 2 ^ 31) :
    (v.element name).String = match v with
      | .string bytes => some bytes
      | _ => none := by
  cases v with
  | string bytes =>
    simp only [Value.bytes, List.length_append, length_toBytes] at hv
    have htake : (toBytes 4 (bytes.length + 1) ++ (bytes ++ [0])).take 4 =
        toBytes 4 (bytes.length + 1) := List.take_left' (length_toBytes _ _)
    have hdrop : (toBytes 4 (bytes.length + 1) ++ (bytes ++ [0])).drop 4 = bytes ++ [0] :=
      List.drop_left' (length_toBytes _ _)
    simp only [BSONElement.String, Value.element, Value.type, Value.bytes, if_true, htake, hdrop]
    rw [ofBytes_toBytes (by omega), Nat.add_sub_cancel, List.take_left' rfl]
  | _ => simp [BSONElement.String, Value.element, Value.type]

theorem Double_element : (v.element name).Double = match v with
    | .numberDouble bits => some bits
    | _ => none := by
  cases v with
  | numberDouble bits =>
    simp [BSONElement.Double, Value.element, Value.type, Value.bytes]
  | _ => simp [BSONElement.Double, Value.element, Value.type]

theorem Int_element : (v.element name).Int = match v with
    | .numberInt n => some n
    | _ => none := by
  cases v with
  | numberInt n =>
    simp [BSONElement.Int, Value.element, Value.type, Value.bytes]
  | _ => simp [BSONElement.Int, Value.element, Value.type]

theorem Long_element : (v.element name).Long = match v with
    | .numberLong n => some n
    | _ => none := by
  cases v with
  | numberLong n =>
    simp [BSONElement.Long, Value.element, Value.type, Value.bytes]
  | _ => simp [BSONElement.Long, Value.element, Value.type]

theorem Bool_element : (v.element name).Bool = match v with
    | .bool b => some b
    | _ => none := by
  cases v with
  | bool b => cases b <;> simp [BSONElement.Bool, Value.element, Value.type, Value.bytes, ofBytes]
  | _ => simp [BSONElement.Bool, Value.element, Value.type]

theorem numberInt_element : (v.element name).numberInt casts = match v with
    | .numberDouble bits => casts.toInt bits
    | .numberInt n => n
    | .numberLong n => n.toUInt32
    | _ => 0 := by
  cases v with
  | numberDouble bits =>
    simp [BSONElement.numberInt, Value.element, Value.type, Value.bytes]
  | numberInt n =>
    simp [BSONElement.numberInt, Value.element, Value.type, Value.bytes]
  | numberLong n =>
    simp [BSONElement.numberInt, Value.element, Value.type, Value.bytes]
  | _ => simp [BSONElement.numberInt, Value.element, Value.type]

theorem numberLong_element : (v.element name).numberLong casts = match v with
    | .numberDouble bits => casts.toLong bits
    | .numberInt n => signExtend n
    | .numberLong n => n
    | _ => 0 := by
  cases v with
  | numberDouble bits =>
    simp [BSONElement.numberLong, Value.element, Value.type, Value.bytes]
  | numberInt n =>
    simp [BSONElement.numberLong, Value.element, Value.type, Value.bytes]
  | numberLong n =>
    simp [BSONElement.numberLong, Value.element, Value.type, Value.bytes]
  | _ => simp [BSONElement.numberLong, Value.element, Value.type]

theorem binData_element (hv : v.bytes.length < 2 ^ 31) :
    (v.element name).binData = match v with
      | .binData bytes => some bytes
      | _ => none := by
  cases v with
  | binData bytes =>
    simp only [Value.bytes, List.length_append, length_toBytes, List.length_cons] at hv
    have htake : (toBytes 4 bytes.length ++ 0 :: bytes).take 4 = toBytes 4 bytes.length :=
      List.take_left' (length_toBytes _ _)
    have hdrop : (toBytes 4 bytes.length ++ 0 :: bytes).drop 5 = bytes := by
      rw [List.append_cons]
      exact List.drop_left' (by simp)
    simp only [BSONElement.binData, Value.element, Value.type, Value.bytes, if_true, htake, hdrop]
    rw [ofBytes_toBytes (by omega), List.take_length]
  | _ => simp [BSONElement.binData, Value.element, Value.type]

/-- The vector of an array has its values at their places. -/
theorem Array_element {vs : List Value}
    (h : (arrayBytes 0 vs).length + 5 ≤ BSONObjMaxInternalSize) :
    ((Value.array vs).element name).Array =
      if vs.length ≤ 1000000 then
        some ((numbered 0 vs).map fun e => e.2.element e.1.bytes)
      else none := by
  have hsmall : BSONObjMaxInternalSize < 2 ^ 31 := by decide
  have hobj := BSONObj_document h []
  rw [List.append_nil] at hobj
  have helements : elements (arrayBytes 0 vs).length (objectBytes (numbered 0 vs)) = _ :=
    elements_objectBytes (by rw [← arrayBytes_eq]; omega)
      (by rw [arrayBytes_eq]; exact length_le_objectBytes _)
  have hplace := placeElement_numbered [] vs (by simp) [] rfl
  have hvalue : ((Value.array vs).element name).value = document (arrayBytes 0 vs) := by
    simp [Value.element, Value.bytes]
  rw [← arrayBytes_eq] at helements
  unfold BSONElement.Array
  rw [hvalue, hobj]
  simp only [Option.bind_eq_bind, Option.bind_some, inside_document, helements]
  simpa using hplace

end

/-! ## The bytes say which values they are -/

theorem map_snd_numbered (i : Nat) (vs : List Value) : (numbered i vs).map Prod.snd = vs := by
  induction vs generalizing i with
  | nil => rfl
  | cons v vs ih => simp [numbered, ih]

/-- Values with the same type and the same bytes, where the objects in them are told apart. -/
theorem value_of_element {v v' : Value} (hv : v.bytes.length < 2 ^ 31)
    (h : v.element name = v'.element name)
    (hobjects : ∀ es fs, objectBytes es = objectBytes fs →
      (objectBytes es).length < v.bytes.length → es = fs) : v = v' := by
  have hbytes : v.bytes = v'.bytes := congrArg BSONElement.value h
  have hv' : v'.bytes.length < 2 ^ 31 := hbytes ▸ hv
  cases v with
  | numberDouble bits =>
    have hd := (Double_element (v := .numberDouble bits)).symm.trans
      ((congrArg BSONElement.Double h).trans Double_element)
    cases v' <;> simp_all
  | string bytes =>
    have hs := congrArg BSONElement.String h
    rw [String_element hv, String_element hv'] at hs
    cases v' <;> simp_all
  | binData bytes =>
    have hb := congrArg BSONElement.binData h
    rw [binData_element hv, binData_element hv'] at hb
    cases v' <;> simp_all
  | bool b =>
    have hb := (Bool_element (v := .bool b)).symm.trans
      ((congrArg BSONElement.Bool h).trans Bool_element)
    cases v' <;> simp_all
  | numberInt n =>
    have hn := (Int_element (v := .numberInt n)).symm.trans
      ((congrArg BSONElement.Int h).trans Int_element)
    cases v' <;> simp_all
  | numberLong n =>
    have hn := (Long_element (v := .numberLong n)).symm.trans
      ((congrArg BSONElement.Long h).trans Long_element)
    cases v' <;> simp_all
  | object es =>
    have htype : BSONType.Object = v'.type := congrArg BSONElement.type h
    cases v' with
    | object fs =>
      simp only [Value.bytes] at hbytes
      have hinside := congrArg inside hbytes
      rw [inside_document, inside_document] at hinside
      rw [hobjects es fs hinside (by simp [Value.bytes, length_document])]
    | _ => simp [Value.type] at htype
  | array vs =>
    have htype : BSONType.Array = v'.type := congrArg BSONElement.type h
    cases v' with
    | array us =>
      simp only [Value.bytes] at hbytes
      have hinside := congrArg inside hbytes
      rw [inside_document, inside_document, arrayBytes_eq, arrayBytes_eq] at hinside
      have hnumbered := hobjects _ _ hinside (by simp [Value.bytes, length_document, arrayBytes_eq])
      have hsnd := congrArg (List.map Prod.snd) hnumbered
      rw [map_snd_numbered, map_snd_numbered] at hsnd
      rw [hsnd]
    | _ => simp [Value.type] at htype

/-- No two objects have the same bytes. The induction is on their number: an object in a value has
fewer bytes than the one around it. -/
theorem objectBytes_injective {es fs : List (CString × Value)}
    (hlen : (objectBytes es).length < 2 ^ 31) (h : objectBytes es = objectBytes fs) : es = fs := by
  induction hn : (objectBytes es).length using Nat.strongRecOn generalizing es fs with
  | ind n ih =>
    subst hn
    cases es with
    | nil => exact (objectBytes_eq_nil.mp (by rw [← h]; simp [objectBytes])).symm
    | cons e es =>
      cases fs with
      | nil => exact absurd (objectBytes_eq_nil.mp (h.trans (by simp [objectBytes]))) (by simp)
      | cons f fs =>
        have he := value_lt_of_objectBytes (List.mem_cons_self (a := e) (l := es))
        have hf := value_lt_of_objectBytes (List.mem_cons_self (a := f) (l := fs))
        rw [← h] at hf
        have hnext := congrArg BSONObjIterator.next h
        rw [objectBytes, objectBytes, next_elementBytes e.1.no_zero (by omega),
          next_elementBytes f.1.no_zero (by omega), Option.some_inj, Prod.mk.injEq] at hnext
        obtain ⟨helement, hrest⟩ := hnext
        have hname : e.1.bytes = f.1.bytes := congrArg BSONElement.fieldName helement
        have hrestlen : (objectBytes es).length < (objectBytes (e :: es)).length := by
          rw [objectBytes, List.length_append, elementBytes, List.length_cons]
          omega
        have hvalue : e.2 = f.2 := by
          rw [← hname] at helement
          exact value_of_element (by omega) helement
            fun gs hs hgs hlt => ih _ (by omega) (by omega) hgs rfl
        have htail : es = fs := ih _ hrestlen (by omega) hrest rfl
        rw [htail, show e = f from Prod.ext (CString.ext hname) hvalue]

end chaos.bson_objects
