-- Documents whose fields hold values or documents again, and the update that sets one field. A dot
-- in the name of the field is a step into a document, but a field is read by its own name only.
import Chaos.Tokens

namespace dotted_fields

/-- What a field holds. -/
inductive Node (ν : Type*) where
  | value (v : ν)
  | document (fields : List (String × Node ν))

abbrev Document (ν : Type*) := List (String × Node ν)

/-- Why a field is not set: a name on the path is empty or starts with a dollar, or the path leads
through a value. -/
inductive Refusal where
  | emptyFieldName
  | dollarPrefixedFieldName
  | pathNotViable
  deriving DecidableEq, Repr

variable {ν : Type*}

/-! ## The update -/

/-- A field takes the place of the one with its name, or comes at the end. -/
def put (field : String) (n : Node ν) : Document ν → Document ν
  | [] => [(field, n)]
  | e :: d => if e.1 = field then (field, n) :: d else e :: put field n d

/-- The names on a path. -/
def components (field : String) : List String := (field.toList.splitOn '.').map String.ofList

/-- The documents on the way are made where they are not there. -/
def setPath (v : ν) : List String → Document ν → Except Refusal (Document ν)
  | [], d => .ok d
  | [field], d => .ok (put field (.value v) d)
  | field :: next :: path, d =>
    match d.lookup field with
    | none => (setPath v (next :: path) []).map fun inner => put field (.document inner) d
    | some (.document inner) =>
      (setPath v (next :: path) inner).map fun inner => put field (.document inner) d
    | some (.value _) => .error .pathNotViable

/-- The value of a field is set. -/
def set (field : String) (v : ν) (d : Document ν) : Except Refusal (Document ν) :=
  if (components field).any (· = "") then .error .emptyFieldName
  else if (components field).any (fun c => c.toList.head? = some '$') then
    .error .dollarPrefixedFieldName
  else setPath v (components field) d

/-! ## What is read after it -/

variable {field : String} {v : ν} {d d' : Document ν}

theorem lookup_cons (e : String × Node ν) (d : Document ν) (g : String) :
    List.lookup g (e :: d) = if g = e.1 then some e.2 else d.lookup g := by
  obtain ⟨field, n⟩ := e
  by_cases hg : g = field
  · simp [hg]
  · simp [List.lookup_cons, hg, beq_false_of_ne hg]

theorem lookup_put (field g : String) (n : Node ν) (d : Document ν) :
    (put field n d).lookup g = if g = field then some n else d.lookup g := by
  induction d with
  | nil => exact lookup_cons (field, n) [] g
  | cons e d ih =>
    unfold put
    split
    · rename_i heq
      rw [lookup_cons, lookup_cons, heq]
      split <;> rfl
    · rename_i hne
      rw [lookup_cons, lookup_cons, ih]
      by_cases hg : g = e.1
      · rw [if_pos hg, if_neg fun h => hne (hg.symm.trans h), if_pos hg]
      · rw [if_neg hg, if_neg hg]

theorem map_eq_ok {α β : Type*} {f : α → β} {r : Except Refusal α} {b : β}
    (h : r.map f = .ok b) : ∃ a, f a = b := by
  cases r with
  | error e => cases h
  | ok a =>
    cases h
    exact ⟨a, rfl⟩

/-- Only the first name on the path names a field of the document itself. -/
theorem lookup_setPath {path : List String} {g : String} (hg : g ≠ field)
    (h : setPath v (field :: path) d = .ok d') : d'.lookup g = d.lookup g := by
  have hput : ∀ n, (put field n d).lookup g = d.lookup g := by
    intro n
    rw [lookup_put, if_neg hg]
  cases path with
  | nil =>
    cases h
    exact hput _
  | cons next path =>
    unfold setPath at h
    split at h
    case h_3 => cases h
    all_goals
      obtain ⟨inner, rfl⟩ := map_eq_ok h
      exact hput _

/-- A value that the path leads to is changed only where the path ends there. -/
theorem lookup_setPath_value {path : List String} {g : String} {w : ν}
    (hw : d.lookup g = some (.value w)) (hne : path ≠ [g]) (h : setPath v path d = .ok d') :
    d'.lookup g = some (.value w) := by
  cases path with
  | nil =>
    cases h
    exact hw
  | cons field path =>
    by_cases hg : g = field
    · subst hg
      cases path with
      | nil => exact absurd rfl hne
      | cons next path =>
        simp only [setPath, hw] at h
        cases h
    · rw [lookup_setPath hg h, hw]

/-- A name without a dot is a path of one name. -/
theorem components_of_no_dot (h : '.' ∉ field.toList) : components field = [field] := by
  simp [components, List.splitOn_eq_singleton h]

/-- No name on a path has a dot. -/
theorem no_dot_of_mem_components {g : String} (h : g ∈ components field) : '.' ∉ g.toList := by
  obtain ⟨w, hw, rfl⟩ := List.mem_map.mp h
  simpa using tokens.not_mem_of_mem_splitOn hw

/-- A name with a dot is no path of one name. -/
theorem components_ne (h : '.' ∈ field.toList) (g : String) : components field ≠ [g] := by
  intro heq
  have hg : '.' ∉ g.toList := no_dot_of_mem_components (heq ▸ List.mem_singleton_self g)
  have hjoin : ['.'].intercalate (field.toList.splitOn '.') = field.toList :=
    List.intercalate_splitOn '.'
  have hsplit : field.toList.splitOn '.' = [g.toList] := by
    have := congrArg (List.map String.toList) heq
    simpa [components, List.map_map, Function.comp_def] using this
  rw [hsplit] at hjoin
  rw [← hjoin] at h
  exact hg (by simpa using h)

/-! ## The update by the name of the field -/

/-- A field without a dot is read by its name. -/
theorem lookup_set_self (h : '.' ∉ field.toList) (hset : set field v d = .ok d') :
    d'.lookup field = some (.value v) := by
  unfold set at hset
  rw [components_of_no_dot h] at hset
  split at hset
  · cases hset
  split at hset
  · cases hset
  cases hset
  rw [lookup_put, if_pos rfl]

/-- It leaves the other fields. -/
theorem lookup_set_ne {g : String} (h : '.' ∉ field.toList) (hg : g ≠ field)
    (hset : set field v d = .ok d') : d'.lookup g = d.lookup g := by
  unfold set at hset
  rw [components_of_no_dot h] at hset
  split at hset
  · cases hset
  split at hset
  · cases hset
  exact lookup_setPath hg hset

/-- A value keeps its place as long as the field is not the one that is set. -/
theorem lookup_set_value {g : String} {w : ν} (hw : d.lookup g = some (.value w))
    (hg : field ≠ g) (hset : set field v d = .ok d') : d'.lookup g = some (.value w) := by
  unfold set at hset
  split at hset
  · cases hset
  split at hset
  · cases hset
  refine lookup_setPath_value hw ?_ hset
  intro heq
  by_cases hdot : '.' ∈ field.toList
  · exact components_ne hdot g heq
  · rw [components_of_no_dot hdot] at heq
    exact hg (List.cons.inj heq).1

/-- A field whose name has a dot is never read, whatever is set. -/
theorem lookup_set_dotted {g : String} (hg : '.' ∈ g.toList) (hset : set field v d = .ok d') :
    d'.lookup g = d.lookup g := by
  unfold set at hset
  split at hset
  · cases hset
  split at hset
  · cases hset
  cases hc : components field with
  | nil => exact absurd (List.map_eq_nil_iff.mp hc) (List.splitOn_ne_nil '.' _)
  | cons first path =>
    rw [hc] at hset
    refine lookup_setPath ?_ hset
    rintro rfl
    have hmem : g ∈ components field := hc ▸ List.mem_cons_self
    exact no_dot_of_mem_components hmem hg

end dotted_fields
