-- Regular expressions with a boundary of words: what an expression takes of a text, and a matcher
-- that tries every way. An expression sees the character before a word and the one after it.
import Mathlib.Data.List.Basic
import Mathlib.Tactic.Common

namespace regexes

inductive Regex (α : Type*) where
  | empty
  | one (p : α → Bool)
  | seq (r s : Regex α)
  | alt (r s : Regex α)
  | many (r : Regex α)
  | boundary (isWord : α → Bool)

namespace Regex

variable {α : Type*} {r s : Regex α} {p : α → Bool} {b a : Option α} {w : List α}

/-! ## The short forms -/

def literal [DecidableEq α] (c : α) : Regex α := one (· = c)

def any : Regex α := one fun _ => true

def plus (r : Regex α) : Regex α := seq r (many r)

def opt (r : Regex α) : Regex α := alt r empty

def times (r : Regex α) : Nat → Regex α
  | 0 => empty
  | n + 1 => seq r (times r n)

/-- At most so many times. -/
def upTo (r : Regex α) : Nat → Regex α
  | 0 => empty
  | n + 1 => opt (seq r (upTo r n))

def between (r : Regex α) (least most : Nat) : Regex α :=
  seq (times r least) (upTo r (most - least))

/-! ## What an expression takes -/

/-- The expression takes the word between the characters `b` and `a`. A turn of `many` takes
something. -/
inductive Takes : Regex α → Option α → List α → Option α → Prop
  | empty {b a : Option α} : Takes empty b [] a
  | one {p : α → Bool} {b a : Option α} {c : α} (h : p c = true) : Takes (one p) b [c] a
  | seq {r s : Regex α} {b a : Option α} {u v : List α} (hr : Takes r b u (v.head?.or a))
      (hs : Takes s (u.getLast?.or b) v a) : Takes (seq r s) b (u ++ v) a
  | altLeft {r s : Regex α} {b a : Option α} {w : List α} (h : Takes r b w a) :
      Takes (alt r s) b w a
  | altRight {r s : Regex α} {b a : Option α} {w : List α} (h : Takes s b w a) :
      Takes (alt r s) b w a
  | manyNil {r : Regex α} {b a : Option α} : Takes (many r) b [] a
  | manyCons {r : Regex α} {b a : Option α} {u v : List α} (hu : u ≠ [])
      (hr : Takes r b u (v.head?.or a)) (hs : Takes (many r) (u.getLast?.or b) v a) :
      Takes (many r) b (u ++ v) a
  | boundary {isWord : α → Bool} {b a : Option α} (h : b.any isWord ≠ a.any isWord) :
      Takes (boundary isWord) b [] a

theorem takes_empty_iff : Takes empty b w a ↔ w = [] := by
  constructor
  · intro h
    cases h
    rfl
  · rintro rfl
    exact .empty

theorem takes_one_iff : Takes (one p) b w a ↔ ∃ c, w = [c] ∧ p c = true := by
  constructor
  · intro h
    cases h with
    | one h => exact ⟨_, rfl, h⟩
  · rintro ⟨c, rfl, h⟩
    exact .one h

theorem takes_literal_iff [DecidableEq α] {c : α} : Takes (literal c) b w a ↔ w = [c] := by
  rw [literal, takes_one_iff]
  constructor
  · rintro ⟨d, rfl, hd⟩
    rw [of_decide_eq_true hd]
  · rintro rfl
    exact ⟨c, rfl, decide_eq_true rfl⟩

theorem takes_seq_iff : Takes (seq r s) b w a ↔
    ∃ u v, w = u ++ v ∧ Takes r b u (v.head?.or a) ∧ Takes s (u.getLast?.or b) v a := by
  constructor
  · intro h
    cases h with
    | seq hr hs => exact ⟨_, _, rfl, hr, hs⟩
  · rintro ⟨u, v, rfl, hr, hs⟩
    exact .seq hr hs

theorem takes_alt_iff : Takes (alt r s) b w a ↔ Takes r b w a ∨ Takes s b w a := by
  constructor
  · intro h
    cases h with
    | altLeft h => exact .inl h
    | altRight h => exact .inr h
  · rintro (h | h)
    · exact .altLeft h
    · exact .altRight h

theorem takes_opt_iff : Takes (opt r) b w a ↔ Takes r b w a ∨ w = [] := by
  rw [opt, takes_alt_iff, takes_empty_iff]

/-! ## Repeated characters -/

theorem takes_times_one_iff {n : Nat} :
    Takes (times (one p) n) b w a ↔ w.length = n ∧ ∀ c ∈ w, p c = true := by
  induction n generalizing b w with
  | zero =>
    rw [times, takes_empty_iff]
    constructor
    · rintro rfl
      exact ⟨rfl, nofun⟩
    · exact fun h => List.eq_nil_of_length_eq_zero h.1
  | succ n ih =>
    rw [times, takes_seq_iff]
    constructor
    · rintro ⟨u, v, rfl, hu, hv⟩
      obtain ⟨c, rfl, hc⟩ := takes_one_iff.mp hu
      obtain ⟨hlen, hall⟩ := ih.mp hv
      refine ⟨congrArg (· + 1) hlen, ?_⟩
      exact List.forall_mem_cons.mpr ⟨hc, hall⟩
    · rintro ⟨hlen, hall⟩
      obtain ⟨c, v, rfl⟩ := List.exists_cons_of_length_eq_add_one hlen
      obtain ⟨hc, hv⟩ := List.forall_mem_cons.mp hall
      exact ⟨[c], v, rfl, .one hc, ih.mpr ⟨Nat.succ.inj hlen, hv⟩⟩

theorem takes_upTo_one_iff {n : Nat} :
    Takes (upTo (one p) n) b w a ↔ w.length ≤ n ∧ ∀ c ∈ w, p c = true := by
  induction n generalizing b w with
  | zero =>
    rw [upTo, takes_empty_iff]
    constructor
    · rintro rfl
      exact ⟨Nat.le_refl 0, nofun⟩
    · exact fun h => List.eq_nil_of_length_eq_zero (Nat.le_zero.mp h.1)
  | succ n ih =>
    rw [upTo, takes_opt_iff, takes_seq_iff]
    constructor
    · rintro (⟨u, v, rfl, hu, hv⟩ | rfl)
      · obtain ⟨c, rfl, hc⟩ := takes_one_iff.mp hu
        obtain ⟨hlen, hall⟩ := ih.mp hv
        exact ⟨Nat.succ_le_succ hlen, List.forall_mem_cons.mpr ⟨hc, hall⟩⟩
      · exact ⟨Nat.zero_le _, nofun⟩
    · rintro ⟨hlen, hall⟩
      cases w with
      | nil => exact .inr rfl
      | cons c v =>
        obtain ⟨hc, hv⟩ := List.forall_mem_cons.mp hall
        exact .inl ⟨[c], v, rfl, .one hc, ih.mpr ⟨Nat.le_of_succ_le_succ hlen, hv⟩⟩

theorem takes_between_one_iff {least most : Nat} (h : least ≤ most) :
    Takes (between (one p) least most) b w a ↔
      least ≤ w.length ∧ w.length ≤ most ∧ ∀ c ∈ w, p c = true := by
  rw [between, takes_seq_iff]
  constructor
  · rintro ⟨u, v, rfl, hu, hv⟩
    obtain ⟨hulen, huall⟩ := takes_times_one_iff.mp hu
    obtain ⟨hvlen, hvall⟩ := takes_upTo_one_iff.mp hv
    rw [List.length_append]
    exact ⟨by omega, by omega, List.forall_mem_append.mpr ⟨huall, hvall⟩⟩
  · rintro ⟨hleast, hmost, hall⟩
    refine ⟨w.take least, w.drop least, (List.take_append_drop least w).symm, ?_, ?_⟩
    · refine takes_times_one_iff.mpr ⟨List.length_take_of_le hleast, fun c hc => ?_⟩
      exact hall c (List.mem_of_mem_take hc)
    · refine takes_upTo_one_iff.mpr ⟨?_, fun c hc => hall c (List.mem_of_mem_drop hc)⟩
      rw [List.length_drop]
      omega

/-! ## The matcher -/

/-- Where the matcher stands: the character before, and the rest of the text. -/
abbrev Place (α : Type*) := Option α × List α

/-- Turns that take something, as many as there is fuel for. -/
def turns (step : Place α → List (Place α)) : Nat → Place α → List (Place α)
  | 0, x => [x]
  | fuel + 1, x =>
    x :: ((step x).filter fun y => y.2.length < x.2.length).flatMap (turns step fuel)

/-- The places that the matcher can come to. -/
def places : Regex α → Place α → List (Place α)
  | empty, x => [x]
  | one _, (_, []) => []
  | one p, (_, c :: cs) => if p c then [(some c, cs)] else []
  | seq r s, x => (places r x).flatMap (places s)
  | alt r s, x => places r x ++ places s x
  | many r, x => turns (places r) x.2.length x
  | boundary isWord, (b, cs) => if b.any isWord ≠ cs.head?.any isWord then [(b, cs)] else []

/-- The whole text is taken. -/
def fullMatch (cs : List α) (r : Regex α) : Bool := (places r (none, cs)).any (·.2.isEmpty)

/-- The expression takes a word from one place to the other. -/
def Between (r : Regex α) (x y : Place α) : Prop :=
  ∃ w, x.2 = w ++ y.2 ∧ y.1 = w.getLast?.or x.1 ∧ Takes r x.1 w y.2.head?

theorem between_seq_iff {x y : Place α} :
    Between (seq r s) x y ↔ ∃ z, Between r x z ∧ Between s z y := by
  constructor
  · rintro ⟨w, hx, hy, hw⟩
    obtain ⟨u, v, rfl, hu, hv⟩ := takes_seq_iff.mp hw
    refine ⟨(u.getLast?.or x.1, v ++ y.2), ⟨u, ?_, rfl, ?_⟩, v, rfl, ?_, hv⟩
    · rw [hx, List.append_assoc]
    · rwa [List.head?_append]
    · rw [hy, List.getLast?_append, Option.or_assoc]
  · rintro ⟨z, ⟨u, hx, hz, hu⟩, v, hz', hy, hv⟩
    refine ⟨u ++ v, ?_, ?_, .seq ?_ ?_⟩
    · rw [hx, hz', List.append_assoc]
    · rw [hy, hz, List.getLast?_append, Option.or_assoc]
    · rwa [hz', List.head?_append] at hu
    · rwa [hz] at hv

/-- Turns of a matcher that finds what the expression takes. -/
theorem mem_turns_iff {step : Place α → List (Place α)}
    (hstep : ∀ x y, y ∈ step x ↔ Between r x y) {fuel : Nat} {x y : Place α}
    (hfuel : x.2.length ≤ fuel) : y ∈ turns step fuel x ↔ Between (many r) x y := by
  induction fuel generalizing x with
  | zero =>
    have hnil : x.2 = [] := List.eq_nil_of_length_eq_zero (Nat.le_zero.mp hfuel)
    rw [turns, List.mem_singleton]
    constructor
    · rintro rfl
      exact ⟨[], rfl, rfl, .manyNil⟩
    · rintro ⟨w, hx, hy, -⟩
      rw [hnil] at hx
      obtain ⟨rfl, hy2⟩ := List.append_eq_nil_iff.mp hx.symm
      exact Prod.ext hy (hy2.trans hnil.symm)
  | succ fuel ih =>
    rw [turns, List.mem_cons, List.mem_flatMap]
    constructor
    · rintro (rfl | ⟨z, hz, hy⟩)
      · exact ⟨[], rfl, rfl, .manyNil⟩
      · obtain ⟨hz, hless⟩ := List.mem_filter.mp hz
        have hless : z.2.length < x.2.length := of_decide_eq_true hless
        obtain ⟨u, hx, hz, hu⟩ := (hstep x z).mp hz
        obtain ⟨v, hzy, hy, hv⟩ := (ih (by omega)).mp hy
        refine ⟨u ++ v, ?_, ?_, .manyCons ?_ ?_ ?_⟩
        · rw [hx, hzy, List.append_assoc]
        · rw [hy, hz, List.getLast?_append, Option.or_assoc]
        · rintro rfl
          rw [hx, List.nil_append] at hless
          exact Nat.lt_irrefl _ hless
        · rwa [hzy, List.head?_append] at hu
        · rwa [hz] at hv
    · rintro ⟨w, hx, hy, hw⟩
      generalize hm : many r = m at hw
      cases hw with
      | manyNil => exact .inl (Prod.ext hy hx.symm)
      | @manyCons r' _ _ u v hu hr hs =>
        cases hm
        have hlen : 0 < u.length := List.length_pos_iff.mpr hu
        have hlength := congrArg List.length hx
        rw [List.length_append, List.length_append] at hlength
        refine .inr ⟨(u.getLast?.or x.1, v ++ y.2), ?_, ?_⟩
        · refine List.mem_filter.mpr ⟨(hstep _ _).mpr ⟨u, ?_, rfl, ?_⟩, decide_eq_true ?_⟩
          · rw [hx, List.append_assoc]
          · rwa [List.head?_append]
          · rw [List.length_append]
            omega
        · refine (ih ?_).mpr ⟨v, rfl, ?_, hs⟩
          · rw [List.length_append]
            omega
          · rw [hy, List.getLast?_append, Option.or_assoc]
      | _ => cases hm

/-- The matcher comes to a place just when the expression takes the word up to it. -/
theorem mem_places_iff {x y : Place α} : y ∈ places r x ↔ Between r x y := by
  induction r generalizing x y with
  | empty =>
    rw [places, List.mem_singleton]
    constructor
    · rintro rfl
      exact ⟨[], rfl, rfl, .empty⟩
    · rintro ⟨w, hx, hy, hw⟩
      rw [takes_empty_iff.mp hw] at hx hy
      exact Prod.ext hy hx.symm
  | one p =>
    obtain ⟨b, cs⟩ := x
    constructor
    · intro h
      match cs with
      | [] => cases h
      | c :: cs =>
        unfold places at h
        split at h
        · rename_i hc
          rw [List.mem_singleton.mp h]
          exact ⟨[c], rfl, rfl, .one hc⟩
        · cases h
    · rintro ⟨w, hx, hy, hw⟩
      obtain ⟨c, rfl, hc⟩ := takes_one_iff.mp hw
      have hcs : cs = c :: y.2 := hx
      rw [hcs, places, if_pos hc, List.mem_singleton]
      exact Prod.ext hy rfl
  | seq r s ihr ihs =>
    rw [places, List.mem_flatMap, between_seq_iff]
    constructor
    · rintro ⟨z, hz, hy⟩
      exact ⟨z, ihr.mp hz, ihs.mp hy⟩
    · rintro ⟨z, hz, hy⟩
      exact ⟨z, ihr.mpr hz, ihs.mpr hy⟩
  | alt r s ihr ihs =>
    rw [places, List.mem_append, ihr, ihs]
    constructor
    · rintro (⟨w, hx, hy, hw⟩ | ⟨w, hx, hy, hw⟩)
      · exact ⟨w, hx, hy, .altLeft hw⟩
      · exact ⟨w, hx, hy, .altRight hw⟩
    · rintro ⟨w, hx, hy, hw⟩
      rcases takes_alt_iff.mp hw with hw | hw
      · exact .inl ⟨w, hx, hy, hw⟩
      · exact .inr ⟨w, hx, hy, hw⟩
  | many r ih =>
    rw [places]
    exact mem_turns_iff (fun x y => ih) (Nat.le_refl _)
  | boundary isWord =>
    obtain ⟨b, cs⟩ := x
    unfold places
    constructor
    · intro h
      split at h
      · rename_i hne
        rw [List.mem_singleton.mp h]
        exact ⟨[], rfl, rfl, .boundary hne⟩
      · cases h
    · rintro ⟨w, hx, hy, hw⟩
      cases hw with
      | boundary hne =>
        have hcs : cs = y.2 := hx
        rw [hcs, if_pos hne, List.mem_singleton]
        exact Prod.ext hy rfl

/-- The matcher finds a full match just when the expression takes the whole text. -/
theorem fullMatch_iff {cs : List α} : fullMatch cs r = true ↔ Takes r none cs none := by
  rw [fullMatch, List.any_eq_true]
  constructor
  · rintro ⟨⟨b, rest⟩, hmem, hempty⟩
    obtain ⟨w, hx, -, hw⟩ := mem_places_iff.mp hmem
    have hrest : rest = [] := List.isEmpty_iff.mp hempty
    subst hrest
    rw [List.append_nil] at hx
    have hcs : cs = w := hx
    rwa [hcs]
  · intro h
    exact ⟨(cs.getLast?.or none, []),
      mem_places_iff.mpr ⟨cs, (List.append_nil cs).symm, rfl, h⟩, rfl⟩

end Regex

end regexes
