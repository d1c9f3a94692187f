-- Tokens that are each at one place. A token that is given enters at one place, and then moves from
-- place to place.
import Mathlib.Data.List.Nodup
import Mathlib.Data.List.Perm.Basic

namespace token_places

variable {ι τ : Type*} {holds holds' : ι → List τ} {given : τ → Prop} {p q : ι} {m : τ}

/-- The tokens that were given are each at one place, once, and there are no others. -/
structure Placed (holds : ι → List τ) (given : τ → Prop) : Prop where
  nodup : ∀ p, (holds p).Nodup
  unique : ∀ m p q, m ∈ holds p → m ∈ holds q → p = q
  given : ∀ m, given m ↔ ∃ p, m ∈ holds p

/-- The token goes from `p` to `q`, and all others stay. -/
structure Moved (holds holds' : ι → List τ) (m : τ) (p q : ι) : Prop where
  left : (holds p).Perm (m :: holds' p)
  arrived : (holds' q).Perm (m :: holds q)
  others : ∀ r, r ≠ p → r ≠ q → holds' r = holds r

/-- A new token comes to `q`. -/
structure Entered (holds holds' : ι → List τ) (m : τ) (q : ι) : Prop where
  arrived : (holds' q).Perm (m :: holds q)
  others : ∀ r, r ≠ q → holds' r = holds r

theorem Placed.congr (h : Placed holds given) (heq : ∀ p, holds' p = holds p) :
    Placed holds' given := by
  rwa [funext heq]

theorem Placed.entered (h : Placed holds given) (hm : Entered holds holds' m q)
    (hnew : ¬ given m) : Placed holds' (fun k => given k ∨ k = m) := by
  have hout : ∀ p, m ∉ holds p := fun p hp => hnew ((h.given m).mpr ⟨p, hp⟩)
  have hmem : ∀ k p, k ∈ holds' p ↔ k ∈ holds p ∨ k = m ∧ p = q := by
    intro k p
    by_cases hp : p = q
    · rw [hp, hm.arrived.mem_iff, List.mem_cons, or_comm]
      simp
    · rw [hm.others p hp]
      simp [hp]
  constructor
  · intro p
    by_cases hp : p = q
    · rw [hp, hm.arrived.nodup_iff, List.nodup_cons]
      exact ⟨hout q, h.nodup q⟩
    · rw [hm.others p hp]
      exact h.nodup p
  · intro k p r hp hr
    rw [hmem] at hp hr
    rcases hp with hp | ⟨rfl, rfl⟩ <;> rcases hr with hr | ⟨hk, rfl⟩
    · exact h.unique k p r hp hr
    · exact absurd (hk ▸ hp) (hout p)
    · exact absurd hr (hout r)
    · rfl
  · intro k
    rw [h.given]
    constructor
    · rintro (⟨p, hp⟩ | rfl)
      · exact ⟨p, (hmem k p).mpr (Or.inl hp)⟩
      · exact ⟨q, (hmem k q).mpr (Or.inr ⟨rfl, rfl⟩)⟩
    · rintro ⟨p, hp⟩
      rcases (hmem k p).mp hp with hp | ⟨rfl, -⟩
      · exact Or.inl ⟨p, hp⟩
      · exact Or.inr rfl

theorem Placed.moved (h : Placed holds given) (hm : Moved holds holds' m p q) (hpq : p ≠ q) :
    Placed holds' given := by
  have hin : m ∈ holds p := hm.left.mem_iff.mpr List.mem_cons_self
  have hleft : m ∉ holds' p ∧ (holds' p).Nodup :=
    List.nodup_cons.mp (hm.left.nodup_iff.mp (h.nodup p))
  have hq : m ∉ holds q := fun hq => hpq (h.unique m p q hin hq)
  have hmem : ∀ k r, k ∈ holds' r ↔ (k ∈ holds r ∧ k ≠ m) ∨ k = m ∧ r = q := by
    intro k r
    by_cases hrq : r = q
    · rw [hrq, hm.arrived.mem_iff, List.mem_cons]
      by_cases hk : k = m
      · simp [hk]
      · simp [hk]
    · by_cases hrp : r = p
      · rw [hrp, hm.left.mem_iff, List.mem_cons]
        by_cases hk : k = m
        · simp [hk, hpq, hleft.1]
        · simp [hk]
      · rw [hm.others r hrp hrq]
        have hout : m ∉ holds r := fun hr => hrp (h.unique m r p hr hin)
        by_cases hk : k = m
        · simp [hk, hrq, hout]
        · simp [hk]
  constructor
  · intro r
    by_cases hrq : r = q
    · rw [hrq, hm.arrived.nodup_iff, List.nodup_cons]
      exact ⟨hq, h.nodup q⟩
    · by_cases hrp : r = p
      · rw [hrp]
        exact hleft.2
      · rw [hm.others r hrp hrq]
        exact h.nodup r
  · intro k r r' hr hr'
    rw [hmem] at hr hr'
    rcases hr with ⟨hr, hk⟩ | ⟨hk, rfl⟩ <;> rcases hr' with ⟨hr', hk'⟩ | ⟨hk', rfl⟩
    · exact h.unique k r r' hr hr'
    · exact absurd hk' hk
    · exact absurd hk hk'
    · rfl
  · intro k
    rw [h.given]
    constructor
    · rintro ⟨r, hr⟩
      by_cases hk : k = m
      · exact ⟨q, (hmem k q).mpr (Or.inr ⟨hk, rfl⟩)⟩
      · exact ⟨r, (hmem k r).mpr (Or.inl ⟨hr, hk⟩)⟩
    · rintro ⟨r, hr⟩
      rcases (hmem k r).mp hr with ⟨hr, -⟩ | ⟨rfl, -⟩
      · exact ⟨r, hr⟩
      · exact ⟨p, hin⟩

end token_places
