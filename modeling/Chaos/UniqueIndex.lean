-- A collection of documents with a unique index. An insert fails just when the key of the new
-- document is taken, an update changes the first document that matches, and an upsert adds one
-- when none does.
import Mathlib.Data.List.Nodup
import Mathlib.Tactic.Common

namespace unique_index

variable {δ κ : Type*}

/-- Whether the document was added, and the collection after the call. -/
def insert [DecidableEq κ] (key : δ → κ) (c : List δ) (d : δ) : Bool × List δ :=
  if key d ∈ c.map key then (false, c) else (true, c ++ [d])

/-- The first document that matches is changed. -/
def update (p : δ → Bool) (f : δ → δ) : List δ → List δ
  | [] => []
  | d :: c => if p d then f d :: c else d :: update p f c

/-- The first document that matches is changed, or a new one is added. -/
def upsert (p : δ → Bool) (f : δ → δ) (new : δ) (c : List δ) : List δ :=
  if c.any p then update p f c else c ++ [f new]

variable {key : δ → κ} {p : δ → Bool} {f : δ → δ} {c : List δ} {d : δ}

theorem insert_of_mem [DecidableEq κ] (h : key d ∈ c.map key) :
    insert key c d = (false, c) := if_pos h

theorem insert_of_not_mem [DecidableEq κ] (h : key d ∉ c.map key) :
    insert key c d = (true, c ++ [d]) := if_neg h

/-- An update that keeps the keys leaves the index as it is. -/
theorem map_update (hf : ∀ d, key (f d) = key d) : (update p f c).map key = c.map key := by
  induction c with
  | nil => rfl
  | cons d c ih =>
    unfold update
    split
    · simp [hf]
    · simp [ih]

/-- Where the documents that match have one key, the update reaches all of them. -/
theorem update_eq_map (hc : (c.map key).Nodup)
    (hp : ∀ d ∈ c, ∀ e ∈ c, p d = true → p e = true → key d = key e) :
    update p f c = c.map fun d => if p d then f d else d := by
  induction c with
  | nil => rfl
  | cons d c ih =>
    rw [List.map_cons, List.nodup_cons] at hc
    unfold update
    split
    · rename_i hd
      have hrest : (c.map fun d => if p d then f d else d) = c := by
        apply (List.map_congr_left _).trans (List.map_id c)
        intro e he
        refine if_neg fun hpe => hc.1 ?_
        rw [hp d (by simp) e (by simp [he]) hd hpe]
        exact List.mem_map_of_mem he
      simp [hd, hrest]
    · rename_i hd
      rw [ih hc.2 fun a ha b hb => hp a (by simp [ha]) b (by simp [hb])]
      simp [hd]

/-- A document after an upsert is one from before it, one that was changed, or the new one. -/
theorem mem_upsert {new : δ} (h : d ∈ upsert p f new c) :
    d ∈ c ∨ (∃ e ∈ c, p e = true ∧ d = f e) ∨ d = f new := by
  unfold upsert at h
  split at h
  · rename_i hany
    clear hany
    induction c with
    | nil => cases h
    | cons e c ih =>
      unfold update at h
      split at h
      · rename_i he
        rcases List.mem_cons.mp h with rfl | h
        · exact .inr (.inl ⟨e, by simp, he, rfl⟩)
        · exact .inl (by simp [h])
      · rcases List.mem_cons.mp h with rfl | h
        · exact .inl (by simp)
        · rcases ih h with h | ⟨e', he', hp⟩ | h
          · exact .inl (by simp [h])
          · exact .inr (.inl ⟨e', by simp [he'], hp⟩)
          · exact .inr (.inr h)
  · rcases List.mem_append.mp h with h | h
    · exact .inl h
    · exact .inr (.inr (List.mem_singleton.mp h))

end unique_index
