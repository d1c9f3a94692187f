-- Data wrappers, which hold the messages of the framework. Every call that fills a wrapper, embeds
-- it in another one, sends it or reads from it, over any number of wrappers: the bytes in their
-- builders are those of the values that were put in, and each read gives the values back.
import Chaos.BSONObjects
import Chaos.Runs

open runs

namespace chaos.common.data

open chaos.bson_objects little_endian

/-! ## The calls of a wrapper -/

structure CDataWrapper where
  bsonArrayBuilder : BSONArrayBuilder := {}
  bsonBuilder : BSONObjBuilder := {}
  deriving DecidableEq, Repr

namespace CDataWrapper

variable (w : CDataWrapper)

def onBuilder (f : BSONObjBuilder → Option BSONObjBuilder) : Option CDataWrapper :=
  (f w.bsonBuilder).map fun b => { w with bsonBuilder := b }

def addStringValue (key : CString) (strValue : List UInt8) : Option CDataWrapper :=
  w.onBuilder (·.appendString key.bytes strValue)

def addInt32Value (key : CString) (i32Value : UInt32) : Option CDataWrapper :=
  w.onBuilder (·.appendNumberInt key.bytes i32Value)

def addInt64Value (key : CString) (i64Value : UInt64) : Option CDataWrapper :=
  w.onBuilder (·.appendNumberLong key.bytes i64Value)

def addDoubleValue (key : CString) (dValue : UInt64) : Option CDataWrapper :=
  w.onBuilder (·.appendNumberDouble key.bytes dValue)

def addBoolValue (key : CString) (boolValue : Bool) : Option CDataWrapper :=
  w.onBuilder (·.appendBool key.bytes boolValue)

def addBinaryValue (key : CString) (buff : List UInt8) : Option CDataWrapper :=
  w.onBuilder (·.appendBinData key.bytes buff)

/-- The test for an empty builder never holds: its length counts the eight bytes before the
elements. -/
def addCSDataValue (key : CString) (csData : CDataWrapper) : Option CDataWrapper := do
  let x ← csData.bsonBuilder.asTempObj
  w.onBuilder (·.appendObject key.bytes x)

def onArray (add : BSONObjBuilder → List UInt8 → Option BSONObjBuilder) : Option CDataWrapper :=
  (w.bsonArrayBuilder.append add).map fun b => { w with bsonArrayBuilder := b }

def appendStringToArray (stringArrayElement : List UInt8) : Option CDataWrapper :=
  w.onArray (·.appendString · stringArrayElement)

def appendInt32ToArray (int32ArrayElement : UInt32) : Option CDataWrapper :=
  w.onArray (·.appendNumberInt · int32ArrayElement)

def appendInt64ToArray (int64ArrayElement : UInt64) : Option CDataWrapper :=
  w.onArray (·.appendNumberLong · int64ArrayElement)

def appendDoubleToArray (doubleArrayElement : UInt64) : Option CDataWrapper :=
  w.onArray (·.appendNumberDouble · doubleArrayElement)

/-- The source is not finalized. -/
def appendCDataWrapperToArray (srcDataWrapper : CDataWrapper) : Option CDataWrapper := do
  let x ← srcDataWrapper.bsonBuilder.asTempObj
  w.onArray (·.appendObject · x)

def finalizeArrayForKey (key : CString) : Option CDataWrapper := do
  let x ← w.bsonArrayBuilder.b.asTempObj
  let t ← w.onBuilder (·.appendArray key.bytes x)
  return { t with bsonArrayBuilder := {} }

/-- The object that a pointer shows, in front of anything. -/
def setSerializedData (bsonData : List UInt8) : Option CDataWrapper := do
  let x ← BSONObj bsonData
  w.onBuilder (·.appendElements x)

def ofData (serializationBuffer : List UInt8) : Option CDataWrapper :=
  setSerializedData {} serializationBuffer

def appendAllElement (srcDataWrapper : CDataWrapper) : Option CDataWrapper := do
  let x ← srcDataWrapper.bsonBuilder.asTempObj
  w.onBuilder (·.appendElements x)

def reset : CDataWrapper := { w with bsonBuilder := {} }

def getBSONData : Option (List UInt8) := w.bsonBuilder.asTempObj

def getField (key : CString) : Option BSONElement := do
  let obj ← w.bsonBuilder.asTempObj
  chaos.bson_objects.getField obj key.bytes

end CDataWrapper

/-! ## What a read gives -/

inductive Getter
  | getStringValue | getInt32Value | getInt64Value | getDoubleValue | getBoolValue | getBinaryValue
  | hasKey
  deriving DecidableEq, Repr

inductive ElementGetter
  | getStringElementAtIndex | getDoubleElementAtIndex | getInt32ElementAtIndex
  | getint64ElementAtIndex
  deriving DecidableEq, Repr

/-- Numbers are given by their bits. -/
inductive Answer
  | string (bytes : List UInt8)
  | int32 (n : UInt32)
  | int64 (n : UInt64)
  | double (bits : UInt64)
  | bool (b : Bool)
  | binary (bytes : Option (List UInt8))
  | bson (bytes : List UInt8)
  | exception
  deriving DecidableEq, Repr

/-- A check of the type that fails is an exception. -/
def Answer.checked {α : Type} (answer : α → Answer) : Option α → Answer
  | some a => answer a
  | none => .exception

def Getter.read (casts : DoubleCasts) (e : BSONElement) : Getter → Answer
  | .getStringValue => .checked .string e.String
  | .getInt32Value => .int32 (e.numberInt casts)
  | .getInt64Value => .int64 (e.numberLong casts)
  | .getDoubleValue => .checked .double e.Double
  | .getBoolValue => .checked .bool e.Bool
  | .getBinaryValue => .binary e.binData
  | .hasKey => .bool (decide (e.type ≠ .EOO))

def ElementGetter.read (e : BSONElement) : ElementGetter → Answer
  | .getStringElementAtIndex => .checked .string e.String
  | .getDoubleElementAtIndex => .checked .double e.Double
  | .getInt32ElementAtIndex => .checked .int32 e.Int
  | .getint64ElementAtIndex => .checked .int64 e.Long

/-! ## Runs of calls -/

/-- What is added under a key with one call. -/
inductive Added
  | addStringValue (strValue : List UInt8)
  | addInt32Value (i32Value : UInt32)
  | addInt64Value (i64Value : UInt64)
  | addDoubleValue (dValue : UInt64)
  | addBoolValue (boolValue : Bool)
  | addBinaryValue (buff : List UInt8)

/-- What is added to the open array with one call. -/
inductive Appended
  | appendStringToArray (stringArrayElement : List UInt8)
  | appendInt32ToArray (int32ArrayElement : UInt32)
  | appendInt64ToArray (int64ArrayElement : UInt64)
  | appendDoubleToArray (doubleArrayElement : UInt64)

/-- The calls on wrappers, which are given by numbers. In `receive` a wrapper is made of the data of
another one, behind which the memory holds anything. -/
inductive Call
  | add (w : Nat) (key : CString) (value : Added)
  | addCSDataValue (w : Nat) (key : CString) (csData : Nat)
  | append (w : Nat) (value : Appended)
  | appendCDataWrapperToArray (w srcDataWrapper : Nat)
  | finalizeArrayForKey (w : Nat) (key : CString)
  | appendAllElement (w srcDataWrapper : Nat)
  | reset (w : Nat)
  | get (w : Nat) (key : CString) (getter : Getter)
  | getElementAtIndex (w : Nat) (key : CString) (pos : Nat) (getter : ElementGetter)
  | getCDataWrapperElementAtIndex (w : Nat) (key : CString) (pos result : Nat)
  | getCSDataValue (w : Nat) (key : CString) (result : Nat)
  | getBSONData (w : Nat)
  | receive (result w : Nat) (behind : List UInt8)

def CDataWrapper.add (w : CDataWrapper) (key : CString) : Added → Option CDataWrapper
  | .addStringValue strValue => w.addStringValue key strValue
  | .addInt32Value i32Value => w.addInt32Value key i32Value
  | .addInt64Value i64Value => w.addInt64Value key i64Value
  | .addDoubleValue dValue => w.addDoubleValue key dValue
  | .addBoolValue boolValue => w.addBoolValue key boolValue
  | .addBinaryValue buff => w.addBinaryValue key buff

def CDataWrapper.appendScalar (w : CDataWrapper) : Appended → Option CDataWrapper
  | .appendStringToArray s => w.appendStringToArray s
  | .appendInt32ToArray n => w.appendInt32ToArray n
  | .appendInt64ToArray n => w.appendInt64ToArray n
  | .appendDoubleToArray bits => w.appendDoubleToArray bits

/-- The wrappers of a program, and the answers to its reads. -/
structure Wrappers where
  wrapper : Nat → CDataWrapper := fun _ => {}
  answers : List Answer := []

namespace Wrappers

variable (casts : DoubleCasts) (s : Wrappers)

def set (w : Nat) (t : CDataWrapper) : Wrappers :=
  { s with wrapper := Function.update s.wrapper w t }

def answer (a : Answer) : Wrappers := { s with answers := s.answers ++ [a] }

/-- One call. A wrapper that is embedded in itself is read while its buffer changes; a position
behind the end of an array is none. -/
def step : Call → Option Wrappers
  | .add w key value => do return s.set w (← (s.wrapper w).add key value)
  | .addCSDataValue w key csData =>
    if w = csData then none
    else do return s.set w (← (s.wrapper w).addCSDataValue key (s.wrapper csData))
  | .append w value => do return s.set w (← (s.wrapper w).appendScalar value)
  | .appendCDataWrapperToArray w src => do
    return s.set w (← (s.wrapper w).appendCDataWrapperToArray (s.wrapper src))
  | .finalizeArrayForKey w key => do return s.set w (← (s.wrapper w).finalizeArrayForKey key)
  | .appendAllElement w src =>
    if w = src then none
    else do return s.set w (← (s.wrapper w).appendAllElement (s.wrapper src))
  | .reset w => some (s.set w (s.wrapper w).reset)
  | .get w key getter => do
    let e ← (s.wrapper w).getField key
    return s.answer (getter.read casts e)
  | .getElementAtIndex w key pos getter => do
    let e ← (s.wrapper w).getField key
    if e.type = .Array then
      let elementsArray ← e.Array
      let e ← elementsArray[pos]?
      return s.answer (getter.read e)
    else return s.answer .exception
  | .getCDataWrapperElementAtIndex w key pos result => do
    let e ← (s.wrapper w).getField key
    if e.type = .Array then
      let elementsArray ← e.Array
      let e ← elementsArray[pos]?
      if e.isABSONObj then return s.set result (← CDataWrapper.ofData e.value)
      else return s.answer .exception
    else return s.answer .exception
  | .getCSDataValue w key result => do
    let e ← (s.wrapper w).getField key
    let subObject := if e.isABSONObj then e.value else emptyObj
    return s.set result (← CDataWrapper.ofData subObject)
  | .getBSONData w => do return s.answer (.bson (← (s.wrapper w).getBSONData))
  | .receive result w behind => do
    return s.set result (← CDataWrapper.ofData ((← (s.wrapper w).getBSONData) ++ behind))

end Wrappers

/-! ## What the calls mean -/

/-- What a wrapper is for: values under keys, in the order in which they were added, and the values
of the array that is open. -/
structure Content where
  array : List Value := []
  elements : List (CString × Value) := []

namespace Content

variable (c : Content)

/-- The elements with more behind them, if they have a place. -/
def extend (es : List (CString × Value)) : Option Content :=
  if es.isEmpty ∨ 8 + (objectBytes (c.elements ++ es)).length ≤ BufferMaxSize then
    some { c with elements := c.elements ++ es }
  else none

def push (v : Value) : Option Content :=
  if 8 + (arrayBytes 0 (c.array ++ [v])).length ≤ BufferMaxSize then
    some { c with array := c.array ++ [v] }
  else none

/-- The elements, if they are not too large for an object. -/
def object : Option (List (CString × Value)) :=
  if (objectBytes c.elements).length + 5 ≤ BSONObjMaxInternalSize then some c.elements else none

def closedArray : Option (List Value) :=
  if (arrayBytes 0 c.array).length + 5 ≤ BSONObjMaxInternalSize then some c.array else none

end Content

/-- The first value that was added under the key. -/
def find (es : List (CString × Value)) (key : CString) : Option Value :=
  (es.find? fun e => e.1 = key).map Prod.snd

def Added.value : Added → Value
  | .addStringValue strValue => .string strValue
  | .addInt32Value i32Value => .numberInt i32Value
  | .addInt64Value i64Value => .numberLong i64Value
  | .addDoubleValue dValue => .numberDouble dValue
  | .addBoolValue boolValue => .bool boolValue
  | .addBinaryValue buff => .binData buff

def Appended.value : Appended → Value
  | .appendStringToArray s => .string s
  | .appendInt32ToArray n => .numberInt n
  | .appendInt64ToArray n => .numberLong n
  | .appendDoubleToArray bits => .numberDouble bits

def Getter.answer (casts : DoubleCasts) (v : Option Value) : Getter → Answer
  | .getStringValue => match v with
    | some (.string bytes) => .string bytes
    | _ => .exception
  | .getInt32Value => match v with
    | some (.numberDouble bits) => .int32 (casts.toInt bits)
    | some (.numberInt n) => .int32 n
    | some (.numberLong n) => .int32 n.toUInt32
    | _ => .int32 0
  | .getInt64Value => match v with
    | some (.numberDouble bits) => .int64 (casts.toLong bits)
    | some (.numberInt n) => .int64 (signExtend n)
    | some (.numberLong n) => .int64 n
    | _ => .int64 0
  | .getDoubleValue => match v with
    | some (.numberDouble bits) => .double bits
    | _ => .exception
  | .getBoolValue => match v with
    | some (.bool b) => .bool b
    | _ => .exception
  | .getBinaryValue => match v with
    | some (.binData bytes) => .binary (some bytes)
    | _ => .binary none
  | .hasKey => .bool v.isSome

def ElementGetter.answer (v : Value) : ElementGetter → Answer
  | .getStringElementAtIndex => match v with
    | .string bytes => .string bytes
    | _ => .exception
  | .getDoubleElementAtIndex => match v with
    | .numberDouble bits => .double bits
    | _ => .exception
  | .getInt32ElementAtIndex => match v with
    | .numberInt n => .int32 n
    | _ => .exception
  | .getint64ElementAtIndex => match v with
    | .numberLong n => .int64 n
    | _ => .exception

structure Contents where
  content : Nat → Content := fun _ => {}
  answers : List Answer := []

namespace Contents

variable (casts : DoubleCasts) (s : Contents)

def set (w : Nat) (c : Content) : Contents :=
  { s with content := Function.update s.content w c }

def answer (a : Answer) : Contents := { s with answers := s.answers ++ [a] }

def step : Call → Option Contents
  | .add w key value => do return s.set w (← (s.content w).extend [(key, value.value)])
  | .addCSDataValue w key csData =>
    if w = csData then none
    else do
      let es ← (s.content csData).object
      return s.set w (← (s.content w).extend [(key, .object es)])
  | .append w value => do return s.set w (← (s.content w).push value.value)
  | .appendCDataWrapperToArray w src => do
    let es ← (s.content src).object
    return s.set w (← (s.content w).push (.object es))
  | .finalizeArrayForKey w key => do
    let vs ← (s.content w).closedArray
    let c ← (s.content w).extend [(key, .array vs)]
    return s.set w { c with array := [] }
  | .appendAllElement w src =>
    if w = src then none
    else do
      let es ← (s.content src).object
      return s.set w (← (s.content w).extend es)
  | .reset w => some (s.set w { s.content w with elements := [] })
  | .get w key getter => do
    let es ← (s.content w).object
    return s.answer (getter.answer casts (find es key))
  | .getElementAtIndex w key pos getter => do
    let es ← (s.content w).object
    match find es key with
    | some (.array vs) =>
      if vs.length ≤ 1000000 then
        let v ← vs[pos]?
        return s.answer (getter.answer v)
      else none
    | _ => return s.answer .exception
  | .getCDataWrapperElementAtIndex w key pos result => do
    let es ← (s.content w).object
    match find es key with
    | some (.array vs) =>
      if vs.length ≤ 1000000 then
        let v ← vs[pos]?
        match v.embedded with
        | some fs => return s.set result { elements := fs }
        | none => return s.answer .exception
      else none
    | _ => return s.answer .exception
  | .getCSDataValue w key result => do
    let es ← (s.content w).object
    return s.set result { elements := ((find es key).bind Value.embedded).getD [] }
  | .getBSONData w => do
    let es ← (s.content w).object
    return s.answer (.bson (document (objectBytes es)))
  | .receive result w _ => do
    let es ← (s.content w).object
    return s.set result { elements := es }

end Contents

/-! ## The bytes of the values -/

def Content.write (c : Content) : CDataWrapper where
  bsonArrayBuilder := ⟨c.array.length, ⟨arrayBytes 0 c.array⟩⟩
  bsonBuilder := ⟨objectBytes c.elements⟩

def Contents.write (s : Contents) : Wrappers := ⟨fun w => (s.content w).write, s.answers⟩

variable {c : Content} {es : List (CString × Value)} {key : CString} {v : Value}

theorem objectBytes_singleton (key : CString) (v : Value) :
    objectBytes [(key, v)] = elementBytes v.type key.bytes v.bytes := by
  simp [objectBytes]

theorem onBuilder_put (h : es ≠ []) :
    c.write.onBuilder (·.put (objectBytes es)) = (c.extend es).map Content.write := by
  unfold CDataWrapper.onBuilder BSONObjBuilder.put BufBuilder.appendBuf Content.extend
  simp only [Content.write, objectBytes_append, List.length_append, ← Nat.add_assoc]
  by_cases hroom : 8 + (objectBytes c.elements).length + (objectBytes es).length ≤ BufferMaxSize
  · simp [hroom, Content.write, objectBytes_append]
  · simp [hroom, h]

theorem onBuilder_put_element (c : Content) (key : CString) (v : Value) :
    c.write.onBuilder (·.put (elementBytes v.type key.bytes v.bytes)) =
      (c.extend [(key, v)]).map Content.write := by
  rw [← objectBytes_singleton]
  exact onBuilder_put (by simp)

theorem onArray_put (c : Content) (v : Value) :
    c.write.onArray (fun b name => b.put (elementBytes v.type name v.bytes)) =
      (c.push v).map Content.write := by
  unfold CDataWrapper.onArray BSONArrayBuilder.append BSONObjBuilder.put BufBuilder.appendBuf
    Content.push
  simp only [Content.write, arrayBytes_append, List.length_append, ← Nat.add_assoc, Nat.zero_add]
  by_cases hroom : 8 + (arrayBytes 0 c.array).length +
      (elementBytes v.type (numStr c.array.length) v.bytes).length ≤ BufferMaxSize
  · simp [hroom, Content.write, arrayBytes_append]
  · simp [hroom]

theorem asTempObj_write (c : Content) :
    c.write.bsonBuilder.asTempObj = c.object.map fun es => document (objectBytes es) := by
  rw [BSONObjBuilder.asTempObj_eq]
  unfold Content.object Content.write
  dsimp only
  split_ifs <;> rfl

theorem write_add (c : Content) (key : CString) (value : Added) :
    c.write.add key value = (c.extend [(key, value.value)]).map Content.write := by
  cases value <;>
    simp only [CDataWrapper.add, CDataWrapper.addStringValue, CDataWrapper.addInt32Value,
      CDataWrapper.addInt64Value, CDataWrapper.addDoubleValue, CDataWrapper.addBoolValue,
      CDataWrapper.addBinaryValue, BSONObjBuilder.appendString_eq,
      BSONObjBuilder.appendNumberInt_eq, BSONObjBuilder.appendNumberLong_eq,
      BSONObjBuilder.appendNumberDouble_eq, BSONObjBuilder.appendBool_eq,
      BSONObjBuilder.appendBinData_eq] <;>
    exact onBuilder_put_element c key _

theorem write_appendScalar (c : Content) (value : Appended) :
    c.write.appendScalar value = (c.push value.value).map Content.write := by
  cases value <;>
    simp only [CDataWrapper.appendScalar, CDataWrapper.appendStringToArray,
      CDataWrapper.appendInt32ToArray, CDataWrapper.appendInt64ToArray,
      CDataWrapper.appendDoubleToArray, BSONObjBuilder.appendString_eq,
      BSONObjBuilder.appendNumberInt_eq, BSONObjBuilder.appendNumberLong_eq,
      BSONObjBuilder.appendNumberDouble_eq] <;>
    exact onArray_put c _

theorem ofData_document (h : (objectBytes es).length + 5 ≤ BSONObjMaxInternalSize)
    (behind : List UInt8) :
    CDataWrapper.ofData (document (objectBytes es) ++ behind) =
      some (Content.write { elements := es }) := by
  have hmax : BSONObjMaxInternalSize + 100 ≤ BufferMaxSize := by decide
  unfold CDataWrapper.ofData CDataWrapper.setSerializedData CDataWrapper.onBuilder
  rw [BSONObj_document h]
  simp only [Option.bind_eq_bind, Option.bind_some, BSONObjBuilder.appendElements_eq]
  by_cases hnil : es = []
  · subst hnil
    simp [objectBytes, Content.write, arrayBytes]
  · rw [if_neg (by rwa [objectBytes_eq_nil])]
    simp [BSONObjBuilder.put, BufBuilder.appendBuf, Content.write, arrayBytes]
    omega

/-! ## The values that are read -/

theorem lookup_eq_find (es : List (CString × Value)) (key : CString) :
    lookup es key.bytes = match find es key with
      | some v => v.element key.bytes
      | none => .eoo := by
  have hname (e : CString × Value) : e.1.bytes = key.bytes ↔ e.1 = key := by
    rw [CString.mk.injEq]
  unfold lookup find
  simp only [hname]
  cases es.find? (fun e => decide (e.1 = key)) <;> rfl

theorem value_small (h : (objectBytes es).length + 5 ≤ BSONObjMaxInternalSize)
    (hv : find es key = some v) : v.bytes.length + 6 ≤ BSONObjMaxInternalSize := by
  obtain ⟨e, he, rfl⟩ := Option.map_eq_some_iff.mp hv
  have hlt := value_lt_of_objectBytes (List.mem_of_find?_eq_some he)
  omega

theorem getField_write (c : Content) (key : CString) :
    c.write.getField key = c.object.map fun es => match find es key with
      | some v => v.element key.bytes
      | none => .eoo := by
  have hmax : BSONObjMaxInternalSize < 2 ^ 31 := by decide
  unfold CDataWrapper.getField
  rw [asTempObj_write]
  unfold Content.object
  split_ifs with hsmall
  · simp only [Option.map_some, Option.bind_eq_bind, Option.bind_some, chaos.bson_objects.getField,
      inside_document]
    rw [findField_objectBytes _ (by omega) (length_le_objectBytes _), lookup_eq_find]
  · rfl

theorem read_element (casts : DoubleCasts) (getter : Getter) {name : List UInt8}
    (hv : v.bytes.length < 2 ^ 31) :
    getter.read casts (v.element name) = getter.answer casts (some v) := by
  cases getter with
  | hasKey => simp [Getter.read, Getter.answer, Value.element, type_ne_EOO]
  | getStringValue => cases v <;> simp [Getter.read, Getter.answer, String_element hv, Answer.checked]
  | getInt32Value => cases v <;> simp [Getter.read, Getter.answer, numberInt_element]
  | getInt64Value => cases v <;> simp [Getter.read, Getter.answer, numberLong_element]
  | getDoubleValue => cases v <;> simp [Getter.read, Getter.answer, Double_element, Answer.checked]
  | getBoolValue => cases v <;> simp [Getter.read, Getter.answer, Bool_element, Answer.checked]
  | getBinaryValue => cases v <;> simp [Getter.read, Getter.answer, binData_element hv]

theorem read_eoo (casts : DoubleCasts) (getter : Getter) :
    getter.read casts .eoo = getter.answer casts none := by
  cases getter <;> rfl

theorem read_elementAtIndex (getter : ElementGetter) {name : List UInt8}
    (hv : v.bytes.length < 2 ^ 31) : getter.read (v.element name) = getter.answer v := by
  cases getter with
  | getStringElementAtIndex =>
    cases v <;> simp [ElementGetter.read, ElementGetter.answer, String_element hv, Answer.checked]
  | getDoubleElementAtIndex =>
    cases v <;> simp [ElementGetter.read, ElementGetter.answer, Double_element, Answer.checked]
  | getInt32ElementAtIndex =>
    cases v <;> simp [ElementGetter.read, ElementGetter.answer, Int_element, Answer.checked]
  | getint64ElementAtIndex =>
    cases v <;> simp [ElementGetter.read, ElementGetter.answer, Long_element, Answer.checked]

theorem type_eq_Array : v.type = .Array ↔ ∃ vs, v = .array vs := by
  cases v <;> simp [Value.type]

/-- The bytes of an element that holds an object are those of its elements. -/
theorem embedded_bytes (v : Value) (name : List UInt8) : if (v.element name).isABSONObj then
    ∃ es, v.embedded = some es ∧ (v.element name).value = document (objectBytes es)
    else v.embedded = none := by
  cases v <;> simp [BSONElement.isABSONObj, Value.element, Value.type, Value.embedded, Value.bytes,
    arrayBytes_eq]

/-- A wrapper that is made of an object which an element holds. -/
theorem ofData_embedded (hv : v.bytes.length + 6 ≤ BSONObjMaxInternalSize) (name : List UInt8) :
    if (v.element name).isABSONObj then
      ∃ es, v.embedded = some es ∧
        CDataWrapper.ofData (v.element name).value = some (Content.write { elements := es })
    else v.embedded = none := by
  have hembedded := embedded_bytes v name
  split_ifs at hembedded ⊢
  · obtain ⟨es, hes, hvalue⟩ := hembedded
    have hbytes : v.bytes = document (objectBytes es) := hvalue
    rw [hbytes, length_document] at hv
    have hdata := ofData_document (show (objectBytes es).length + 5 ≤ _ by omega) []
    rw [List.append_nil, ← hvalue] at hdata
    exact ⟨es, hes, hdata⟩
  · exact hembedded

theorem ofData_emptyObj : CDataWrapper.ofData emptyObj = some (Content.write { elements := [] }) := by
  have hdata := ofData_document (show (objectBytes []).length + 5 ≤ BSONObjMaxInternalSize by
    simp [objectBytes, BSONObjMaxInternalSize]) []
  rwa [List.append_nil] at hdata

variable {vs : List Value} {pos : Nat}

theorem getElem?_numbered (i : Nat) (vs : List Value) (pos : Nat) :
    ((numbered i vs).map fun e => e.2.element e.1.bytes)[pos]? =
      vs[pos]?.map (·.element (numStr (i + pos))) := by
  induction vs generalizing i pos with
  | nil => simp [numbered]
  | cons v vs ih =>
    cases pos with
    | zero => simp [numbered]
    | succ pos =>
      simp only [numbered, List.map_cons, List.getElem?_cons_succ, ih]
      rw [Nat.add_assoc, Nat.add_comm 1]

theorem element_small (h : (arrayBytes 0 vs).length + 5 ≤ BSONObjMaxInternalSize)
    (hv : vs[pos]? = some v) : v.bytes.length + 6 ≤ BSONObjMaxInternalSize := by
  have hnumbered := getElem?_numbered 0 vs pos
  rw [hv, List.getElem?_map] at hnumbered
  obtain ⟨e, he, heq⟩ := Option.map_eq_some_iff.mp hnumbered
  have hlt := value_lt_of_objectBytes (List.mem_of_getElem? he)
  have hbytes : e.2.bytes = v.bytes := congrArg BSONElement.value heq
  rw [hbytes, ← arrayBytes_eq] at hlt
  omega

/-- The element at a place of a vector. -/
theorem Array_getElem? (h : (arrayBytes 0 vs).length + 5 ≤ BSONObjMaxInternalSize)
    (name : List UInt8) (pos : Nat) :
    (((Value.array vs).element name).Array.bind fun elementsArray => elementsArray[pos]?) =
      if vs.length ≤ 1000000 then vs[pos]?.map (·.element (numStr pos)) else none := by
  rw [Array_element h]
  split_ifs
  · rw [Option.bind_some, getElem?_numbered, Nat.zero_add]
  · rfl

/-! ## The calls keep the bytes -/

section
variable (s : Contents)

@[simp] theorem write_set (w : Nat) (c : Content) :
    (s.set w c).write = s.write.set w c.write := by
  unfold Contents.set Contents.write Wrappers.set
  simp only [Wrappers.mk.injEq, and_true]
  funext i
  by_cases hi : i = w
  · subst hi
    simp
  · simp [hi]

@[simp] theorem write_answer (a : Answer) : (s.answer a).write = s.write.answer a := rfl

@[simp] theorem wrapper_write (w : Nat) : s.write.wrapper w = (s.content w).write := rfl

variable (casts : DoubleCasts)

/-- The reads of a field, from the element that is found. -/
theorem step_field {key : CString} {w : Nat} (f : BSONElement → Option Wrappers)
    (g : Option Value → Option Contents) (hnone : f .eoo = (g none).map Contents.write)
    (hsome : ∀ v, v.bytes.length + 6 ≤ BSONObjMaxInternalSize →
      f (v.element key.bytes) = (g (some v)).map Contents.write) :
    ((s.content w).write.getField key).bind f =
      ((s.content w).object.bind fun es => g (find es key)).map Contents.write := by
  rw [getField_write]
  unfold Content.object
  split_ifs with hsmall
  · simp only [Option.map_some, Option.bind_some]
    cases hv : find (s.content w).elements key with
    | none => exact hnone
    | some v => exact hsome v (value_small hsmall hv)
  · rfl

/-- The two kinds of reads through a vector, from the element at the place on. -/
theorem step_array {key : CString} {w pos : Nat} (f : BSONElement → Option Wrappers)
    (g : Value → Option Contents)
    (hf : ∀ v, v.bytes.length + 6 ≤ BSONObjMaxInternalSize →
      f (v.element (numStr pos)) = (g v).map Contents.write) :
    (((s.content w).write.getField key).bind fun e =>
      if e.type = .Array then
        e.Array.bind fun elementsArray => elementsArray[pos]?.bind f
      else some (s.write.answer .exception)) =
      ((s.content w).object.bind fun es =>
        match find es key with
        | some (.array vs) =>
          if vs.length ≤ 1000000 then vs[pos]?.bind g else none
        | _ => some (s.answer .exception)).map Contents.write := by
  refine step_field s _ (fun found => match found with
    | some (.array vs) => if vs.length ≤ 1000000 then vs[pos]?.bind g else none
    | _ => some (s.answer .exception)) (by simp [BSONElement.eoo]) ?_
  intro v hvsmall
  by_cases harray : v.type = .Array
  · obtain ⟨vs, rfl⟩ := type_eq_Array.mp harray
    simp only [Value.bytes, length_document] at hvsmall
    have hplaced := Array_getElem?
      (show (arrayBytes 0 vs).length + 5 ≤ BSONObjMaxInternalSize by omega) key.bytes pos
    rw [if_pos (by exact harray), ← Option.bind_assoc, hplaced]
    dsimp only
    split_ifs
    · cases hpos : vs[pos]? with
      | none => rfl
      | some u => exact hf u (element_small (by omega) hpos)
    · rfl
  · rw [if_neg (by exact harray)]
    cases v with
    | array vs => simp [Value.type] at harray
    | _ => rfl

theorem step_write (call : Call) :
    s.write.step casts call = (s.step casts call).map Contents.write := by
  cases call with
  | add w key value =>
    simp only [Wrappers.step, Contents.step, wrapper_write, write_add]
    cases (s.content w).extend [(key, value.value)] <;> simp
  | addCSDataValue w key csData =>
    simp only [Wrappers.step, Contents.step, wrapper_write, CDataWrapper.addCSDataValue,
      asTempObj_write]
    split_ifs
    · rfl
    · cases (s.content csData).object with
      | none => rfl
      | some es =>
        have hput := onBuilder_put_element (s.content w) key (.object es)
        simp only [Value.type, Value.bytes] at hput
        simp only [Option.map_some, Option.bind_eq_bind, Option.bind_some,
          BSONObjBuilder.appendObject_eq, hput]
        cases (s.content w).extend [(key, .object es)] <;> simp
  | append w value =>
    simp only [Wrappers.step, Contents.step, wrapper_write, write_appendScalar]
    cases (s.content w).push value.value <;> simp
  | appendCDataWrapperToArray w src =>
    simp only [Wrappers.step, Contents.step, wrapper_write,
      CDataWrapper.appendCDataWrapperToArray, asTempObj_write]
    cases (s.content src).object with
    | none => rfl
    | some es =>
      have hput := onArray_put (s.content w) (.object es)
      simp only [Value.type, Value.bytes] at hput
      simp only [Option.map_some, Option.bind_eq_bind, Option.bind_some,
        BSONObjBuilder.appendObject_eq, hput]
      cases (s.content w).push (.object es) <;> simp
  | finalizeArrayForKey w key =>
    have harray : (s.content w).write.bsonArrayBuilder.b.asTempObj =
        (s.content w).closedArray.map fun vs => document (arrayBytes 0 vs) := by
      rw [BSONObjBuilder.asTempObj_eq]
      unfold Content.closedArray Content.write
      dsimp only
      split_ifs <;> rfl
    simp only [Wrappers.step, Contents.step, wrapper_write, CDataWrapper.finalizeArrayForKey,
      harray]
    cases (s.content w).closedArray with
    | none => rfl
    | some vs =>
      have hput := onBuilder_put_element (s.content w) key (.array vs)
      simp only [Value.type, Value.bytes] at hput
      simp only [Option.map_some, Option.bind_eq_bind, Option.bind_some,
        BSONObjBuilder.appendArray_eq, hput]
      cases (s.content w).extend [(key, .array vs)] with
      | none => rfl
      | some c => simp [Content.write, arrayBytes]
  | appendAllElement w src =>
    simp only [Wrappers.step, Contents.step, wrapper_write, CDataWrapper.appendAllElement,
      asTempObj_write]
    split_ifs
    · rfl
    · cases (s.content src).object with
      | none => rfl
      | some es =>
        simp only [Option.map_some, Option.bind_eq_bind, Option.bind_some,
          BSONObjBuilder.appendElements_eq]
        by_cases hnil : es = []
        · subst hnil
          simp [objectBytes, CDataWrapper.onBuilder, Content.extend]
        · have hput := onBuilder_put (c := s.content w) hnil
          simp only [objectBytes_eq_nil, hnil, if_false, hput]
          cases (s.content w).extend es <;> simp
  | reset w =>
    simp only [Wrappers.step, Contents.step, wrapper_write, Option.map_some, write_set]
    rfl
  | get w key getter =>
    have hmax : BSONObjMaxInternalSize < 2 ^ 31 := by decide
    refine step_field s (fun e => some (s.write.answer (getter.read casts e)))
      (fun found => some (s.answer (getter.answer casts found))) (by simp [read_eoo]) ?_
    intro v hv
    simp [read_element casts getter (v := v) (by omega)]
  | getElementAtIndex w key pos getter =>
    have hmax : BSONObjMaxInternalSize < 2 ^ 31 := by decide
    refine step_array s (fun e => some (s.write.answer (getter.read e)))
      (fun v => some (s.answer (getter.answer v))) ?_
    intro v hv
    rw [read_elementAtIndex getter (by omega)]
    rfl
  | getCDataWrapperElementAtIndex w key pos result =>
    refine step_array s (fun e => if e.isABSONObj then
        (CDataWrapper.ofData e.value).bind fun t => some (s.write.set result t)
      else some (s.write.answer .exception)) (fun v => match v.embedded with
        | some fs => some (s.set result { elements := fs })
        | none => some (s.answer .exception)) ?_
    intro v hv
    have hembedded := ofData_embedded hv (numStr pos)
    split_ifs at hembedded ⊢
    · obtain ⟨es, hes, hdata⟩ := hembedded
      simp only [hes, hdata, Option.bind_some, Option.map_some, write_set]
    · simp only [hembedded]
      rfl
  | getCSDataValue w key result =>
    refine step_field s (fun e =>
        (CDataWrapper.ofData (if e.isABSONObj then e.value else emptyObj)).bind fun t =>
          some (s.write.set result t))
      (fun found => some (s.set result { elements := (found.bind Value.embedded).getD [] }))
      (by simp [BSONElement.isABSONObj, BSONElement.eoo, ofData_emptyObj]) ?_
    intro v hv
    have hembedded := ofData_embedded hv key.bytes
    split_ifs at hembedded ⊢
    · obtain ⟨es, hes, hdata⟩ := hembedded
      simp [hes, hdata]
    · simp [hembedded, ofData_emptyObj]
  | getBSONData w =>
    simp only [Wrappers.step, Contents.step, wrapper_write, CDataWrapper.getBSONData,
      asTempObj_write]
    cases (s.content w).object <;> simp
  | receive result w behind =>
    simp only [Wrappers.step, Contents.step, wrapper_write, CDataWrapper.getBSONData,
      asTempObj_write]
    unfold Content.object
    split_ifs with hsmall
    · simp [ofData_document hsmall]
    · rfl

end

theorem write_empty : Contents.write {} = {} := by
  simp [Contents.write, Content.write, arrayBytes, objectBytes]

theorem run_write (casts : DoubleCasts) (s : Contents) (calls : List Call) :
    run (Wrappers.step casts) s.write calls =
      (run (Contents.step casts) s calls).map Contents.write :=
  run_map (fun s call => step_write s casts call) s calls

/-- Two wrappers with the same data hold the same values under the same keys, in the same order. -/
theorem same_data_same_values (casts : DoubleCasts) (calls : List Call) (t : Wrappers)
    (hr : run (Wrappers.step casts) {} calls = some t) (a b : Nat) (x : List UInt8)
    (ha : (t.wrapper a).getBSONData = some x) (hb : (t.wrapper b).getBSONData = some x) :
    ∃ c, run (Contents.step casts) {} calls = some c ∧
      (c.content a).elements = (c.content b).elements := by
  rw [← write_empty, run_write] at hr
  obtain ⟨c, hc, rfl⟩ := Option.map_eq_some_iff.mp hr
  refine ⟨c, hc, ?_⟩
  unfold CDataWrapper.getBSONData at ha hb
  rw [wrapper_write, asTempObj_write] at ha hb
  unfold Content.object at ha hb
  split_ifs at ha hb with hsmall hsmall'
  · have hmax : BSONObjMaxInternalSize < 2 ^ 31 := by decide
    have hsame := (Option.some.inj ha).trans (Option.some.inj hb).symm
    have hinside := congrArg inside hsame
    rw [inside_document, inside_document] at hinside
    exact objectBytes_injective (by omega) hinside
  all_goals simp at ha hb

def truncating : DoubleCasts := ⟨fun _ => 0, fun _ => 0⟩

def aKey : CString := ⟨[97], by decide⟩

/-- A wrapper with an array and an object that holds it is sent on. -/
def sentOn : List Call :=
  [.append 0 (.appendInt32ToArray 7), .append 0 (.appendStringToArray [0, 1]),
    .finalizeArrayForKey 0 aKey, .addCSDataValue 2 aKey 0, .receive 1 2 [9, 9]]

def afterSentOn : Wrappers := (run (Wrappers.step truncating) {} sentOn).get (by decide +kernel)

theorem sent_data_same_values :
    ∃ c, run (Contents.step truncating) {} sentOn = some c ∧
      (c.content 1).elements = (c.content 2).elements :=
  same_data_same_values truncating sentOn afterSentOn (Option.some_get _).symm 1 2
    (document (objectBytes [(aKey, .object [(aKey, .array [.numberInt 7, .string [0, 1]])])]))
    (by decide +kernel) (by decide +kernel)

end chaos.common.data
