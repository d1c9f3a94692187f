-- Two maps of which the first trails the second: what the first has the second has too, and the
-- first misses only keys of a given set. The maps are equal when the set runs empty.
import Mathlib.Data.List.AList
import Mathlib.Data.Set.Insert

namespace maps_within

variable {α β : Type*} [DecidableEq α] {m m' : AList fun _ : α => β} {pending : Set α} {k : α}
  {b : β}

structure Within (m m' : AList fun _ : α => β) (pending : Set α) : Prop where
  found : ∀ k b, m.lookup k = some b → m'.lookup k = some b
  missed : ∀ k ∈ m', k ∈ m ∨ k ∈ pending

theorem Within.of_eq (h : ∀ k, m.lookup k = m'.lookup k) : Within m m' pending := by
  refine ⟨fun k b hb => (h k).symm.trans hb, fun k hk => Or.inl ?_⟩
  rw [← AList.lookup_isSome, h, AList.lookup_isSome]
  exact hk

theorem Within.eq (h : Within m m' ∅) (k : α) : m.lookup k = m'.lookup k := by
  by_cases hk : k ∈ m
  · obtain ⟨b, hb⟩ := Option.isSome_iff_exists.mp (AList.lookup_isSome.mpr hk)
    rw [hb, h.found k b hb]
  · have hk' : k ∉ m' := fun hin => (h.missed k hin).elim hk id
    rw [AList.lookup_eq_none.mpr hk, AList.lookup_eq_none.mpr hk']

/-- The second map changes at a key that is waited for. -/
theorem Within.change_right {m'' : AList fun _ : α => β} (h : Within m m' pending)
    (hp : k ∈ pending) (hne : ∀ k' ≠ k, m''.lookup k' = m'.lookup k')
    (hk : ∀ b, m.lookup k = some b → m''.lookup k = some b) : Within m m'' pending := by
  constructor
  · intro k' b hb
    rcases eq_or_ne k' k with rfl | hk'
    · exact hk b hb
    · rw [hne k' hk', h.found k' b hb]
  · intro k' hin
    rcases eq_or_ne k' k with rfl | hk'
    · exact Or.inr hp
    · refine h.missed k' ?_
      rwa [← AList.lookup_isSome, ← hne k' hk', AList.lookup_isSome]

/-- The first map changes at a key that is waited for. -/
theorem Within.change_left {m'' : AList fun _ : α => β} (h : Within m m' pending)
    (hp : k ∈ pending) (hne : ∀ k' ≠ k, m''.lookup k' = m.lookup k')
    (hk : ∀ b, m''.lookup k = some b → m'.lookup k = some b) : Within m'' m' pending := by
  constructor
  · intro k' b hb
    rcases eq_or_ne k' k with rfl | hk'
    · exact hk b hb
    · exact h.found k' b ((hne k' hk').symm.trans hb)
  · intro k' hin
    rcases eq_or_ne k' k with rfl | hk'
    · exact Or.inr hp
    · refine (h.missed k' hin).imp_left fun hm => ?_
      rwa [← AList.lookup_isSome, hne k' hk', AList.lookup_isSome]

/-- The first map comes up to the second at a key that it did not have. -/
theorem Within.insert_left (h : Within m m' pending) (hb : m'.lookup k = some b) :
    Within (m.insert k b) m' (pending \ {k}) := by
  constructor
  · intro k' b' hb'
    rcases eq_or_ne k' k with rfl | hne
    · rw [AList.lookup_insert] at hb'
      rw [hb, hb']
    · rw [AList.lookup_insert_ne hne] at hb'
      exact h.found k' b' hb'
  · intro k' hk'
    rcases eq_or_ne k' k with rfl | hne
    · exact Or.inl (AList.mem_insert _ |>.mpr (Or.inl rfl))
    · refine (h.missed k' hk').imp (fun hin => AList.mem_insert _ |>.mpr (Or.inr hin)) ?_
      exact fun hp => ⟨hp, hne⟩

/-- The second map loses a key that the first does not have. -/
theorem Within.erase_right (h : Within m m' pending) (hk : k ∉ m) :
    Within m (m'.erase k) (pending \ {k}) := by
  constructor
  · intro k' b' hb'
    have hne : k' ≠ k := by
      rintro rfl
      rw [AList.lookup_eq_none.mpr hk] at hb'
      cases hb'
    rw [AList.lookup_erase_ne hne]
    exact h.found k' b' hb'
  · intro k' hk'
    obtain ⟨hne, hin⟩ := AList.mem_erase.mp hk'
    exact (h.missed k' hin).imp_right fun hp => ⟨hp, hne⟩

/-- At a key where both have something, or neither has, nothing is waited for. -/
theorem Within.settled (h : Within m m' pending) (hk : k ∈ m' → k ∈ m) :
    Within m m' (pending \ {k}) := by
  refine ⟨h.found, fun k' hk' => ?_⟩
  rcases eq_or_ne k' k with rfl | hne
  · exact Or.inl (hk hk')
  · exact (h.missed k' hk').imp_right fun hp => ⟨hp, hne⟩

/-- The keys of a list that are settled one after the other. -/
theorem Within.cons {γ : Type*} {key : γ → α} {c : γ} {cs : List γ}
    (h : Within m m' ((pending \ {key c}) \ {k | ∃ c' ∈ cs, key c' = k})) :
    Within m m' (pending \ {k | ∃ c' ∈ c :: cs, key c' = k}) := by
  refine ⟨h.found, fun k hk => (h.missed k hk).imp_right ?_⟩
  rintro ⟨⟨hp, hne⟩, hno⟩
  refine ⟨hp, ?_⟩
  rintro ⟨c', hc', rfl⟩
  rcases List.mem_cons.mp hc' with rfl | hc'
  · exact hne rfl
  · exact hno ⟨c', hc', rfl⟩

end maps_within
