-- Finite runs of a system whose step function takes a label. A label holds what the step
-- cannot know: the call, and what the world outside answers to it.
import Mathlib.Algebra.Order.Ring.Int
import Mathlib.Tactic.Common

namespace runs

variable {σ α : Type*}

/-- The state after the labels of a run. A step that the system cannot take, or that the
language leaves undefined, is `none`, and the run ends there with no state. -/
def run (step : σ → α → Option σ) : σ → List α → Option σ
  | s, [] => some s
  | s, a :: as => (step s a).bind fun t => run step t as

/-- Every step of the run meets the condition `ok` in the state that it starts from. -/
def RunOk (step : σ → α → Option σ) (ok : σ → α → Prop) : σ → List α → Prop
  | _, [] => True
  | s, a :: as => ok s a ∧ ∀ t, step s a = some t → RunOk step ok t as

/-- The condition is decided along the run, so that a fixed run can be checked by `decide`. -/
instance RunOk.decidable (step : σ → α → Option σ) (ok : σ → α → Prop)
    [∀ s a, Decidable (ok s a)] : ∀ s as, Decidable (RunOk step ok s as)
  | _, [] => isTrue trivial
  | s, a :: as =>
    match h : step s a with
    | none => decidable_of_iff (ok s a) (by simp [RunOk, h])
    | some t =>
      have := RunOk.decidable step ok t as
      decidable_of_iff (ok s a ∧ RunOk step ok t as) (by simp [RunOk, h])

variable {step : σ → α → Option σ} {ok : σ → α → Prop} (inv : σ → Prop)

@[simp] theorem run_nil (s : σ) : run step s [] = some s := rfl

theorem run_cons_some {s t : σ} {a : α} {as : List α} :
    run step s (a :: as) = some t ↔ ∃ u, step s a = some u ∧ run step u as = some t := by
  simp [run, Option.bind_eq_some_iff]

theorem run_append (s : σ) (as bs : List α) :
    run step s (as ++ bs) = (run step s as).bind fun t => run step t bs := by
  induction as generalizing s with
  | nil => rfl
  | cons a as ih =>
    simp only [List.cons_append, run, Option.bind_assoc]
    exact congrArg _ (funext fun t => ih t)

/-- Two systems whose steps agree through a map of the states make the same runs. -/
theorem run_map {τ : Type*} {step' : τ → α → Option τ} {f : σ → τ}
    (hstep : ∀ s a, step' (f s) a = (step s a).map f) (s : σ) (as : List α) :
    run step' (f s) as = (run step s as).map f := by
  induction as generalizing s with
  | nil => rfl
  | cons a as ih =>
    simp only [run, hstep]
    cases step s a with
    | none => rfl
    | some t => exact ih t

/-- A step that leaves the state as it is can be made any number of times. -/
theorem run_replicate {s : σ} {a : α} (h : step s a = some s) (n : Nat) :
    run step s (List.replicate n a) = some s := by
  induction n with
  | zero => rfl
  | succ n ih => exact run_cons_some.mpr ⟨s, h, ih⟩

/-- A condition on the labels alone. -/
theorem RunOk.of_forall {p : α → Prop} {s : σ} {as : List α} (h : ∀ a ∈ as, p a) :
    RunOk step (fun _ a => p a) s as := by
  induction as generalizing s with
  | nil => trivial
  | cons a as ih =>
    refine ⟨h a List.mem_cons_self, fun t _ => ih fun b hb => ?_⟩
    exact h b (List.mem_cons_of_mem _ hb)

theorem runOk_append {s : σ} {as bs : List α} : RunOk step ok s (as ++ bs) ↔
    RunOk step ok s as ∧ ∀ t, run step s as = some t → RunOk step ok t bs := by
  induction as generalizing s with
  | nil => exact ⟨fun h => ⟨trivial, fun t ht => Option.some.inj ht ▸ h⟩, fun h => h.2 s rfl⟩
  | cons a as ih =>
    simp only [List.cons_append, RunOk, ih, run_cons_some]
    constructor
    · rintro ⟨hok, hrest⟩
      refine ⟨⟨hok, fun t ht => (hrest t ht).1⟩, ?_⟩
      rintro t ⟨u, hu, hr⟩
      exact (hrest u hu).2 t hr
    · rintro ⟨⟨hok, hrest⟩, hend⟩
      exact ⟨hok, fun t ht => ⟨hrest t ht, fun u hu => hend u ⟨t, ht, hu⟩⟩⟩

theorem RunOk.mono {ok' : σ → α → Prop} (himp : ∀ s a, ok s a → ok' s a) {s : σ} {as : List α}
    (h : RunOk step ok s as) : RunOk step ok' s as := by
  induction as generalizing s with
  | nil => trivial
  | cons a as ih => exact ⟨himp s a h.1, fun t ht => ih (h.2 t ht)⟩

/-- A condition that follows from another one where the invariant holds. -/
theorem RunOk.of_keeps {ok' : σ → α → Prop} (hstep : ∀ s a, inv s → ok s a →
    ok' s a ∧ ∀ t, step s a = some t → inv t) {s : σ} {as : List α} (hs : inv s)
    (h : RunOk step ok s as) : RunOk step ok' s as := by
  induction as generalizing s with
  | nil => trivial
  | cons a as ih =>
    obtain ⟨hok, hkeep⟩ := hstep s a hs h.1
    exact ⟨hok, fun t ht => ih (hkeep t ht) (h.2 t ht)⟩

/-- A property that each step keeps under the condition holds at the end of every run whose
steps all meet the condition. -/
theorem run_keeps_of_ok (hstep : ∀ s a t, inv s → ok s a → step s a = some t → inv t) {s t : σ}
    {as : List α} (hs : inv s) (hok : RunOk step ok s as) (hr : run step s as = some t) :
    inv t := by
  induction as generalizing s with
  | nil =>
    cases hr
    exact hs
  | cons a as ih =>
    obtain ⟨u, hu, hrest⟩ := run_cons_some.mp hr
    exact ih (hstep s a u hs hok.1 hu) (hok.2 u hu) hrest

/-- Where the condition also makes each step possible, such a run has an end. -/
theorem run_ends_of_ok (hstep : ∀ s a, inv s → ok s a → ∃ t, step s a = some t ∧ inv t) {s : σ}
    {as : List α} (hs : inv s) (hok : RunOk step ok s as) :
    ∃ t, run step s as = some t ∧ inv t := by
  induction as generalizing s with
  | nil => exact ⟨s, rfl, hs⟩
  | cons a as ih =>
    obtain ⟨u, hu, hinv⟩ := hstep s a hs hok.1
    obtain ⟨t, hr, ht⟩ := ih hinv (hok.2 u hu)
    exact ⟨t, run_cons_some.mpr ⟨u, hu, hr⟩, ht⟩

/-- Two conditions that agree where the invariant holds, and that keep it, hold of the same runs. -/
theorem runOk_congr {ok' : σ → α → Prop} (hiff : ∀ s a, inv s → (ok s a ↔ ok' s a))
    (hstep : ∀ s a t, inv s → ok s a → step s a = some t → inv t) {s : σ} {as : List α}
    (hs : inv s) : RunOk step ok s as ↔ RunOk step ok' s as := by
  induction as generalizing s with
  | nil => exact Iff.rfl
  | cons a as ih =>
    rw [RunOk, RunOk, hiff s a hs]
    refine and_congr_right fun hok => forall_congr' fun t => forall_congr' fun ht => ?_
    exact ih (hstep s a t hs ((hiff s a hs).mpr hok) ht)

/-- A property that each step keeps holds at the end of every run. -/
theorem run_keeps (hstep : ∀ s a t, inv s → step s a = some t → inv t) {s t : σ}
    {as : List α} (hs : inv s) (hr : run step s as = some t) : inv t := by
  induction as generalizing s with
  | nil =>
    cases hr
    exact hs
  | cons a as ih =>
    obtain ⟨u, hu, hrest⟩ := run_cons_some.mp hr
    exact ih (hstep s a u hs hu) hrest

/-- Where the condition says just when a step keeps the property, the runs whose steps all meet it
are the runs whose states all have the property. -/
theorem runOk_iff_reached (hstep : ∀ s a, inv s → (ok s a ↔ ∀ t, step s a = some t → inv t))
    {s : σ} {as : List α} (hs : inv s) :
    RunOk step ok s as ↔ ∀ n t, run step s (as.take n) = some t → inv t := by
  induction as generalizing s with
  | nil =>
    refine iff_of_true trivial ?_
    intro n t hr
    rw [List.take_nil] at hr
    cases hr
    exact hs
  | cons a as ih =>
    constructor
    · rintro ⟨hok, hrest⟩ n t hr
      cases n with
      | zero =>
        cases hr
        exact hs
      | succ n =>
        obtain ⟨u, hu, hr⟩ := run_cons_some.mp hr
        exact (ih ((hstep s a hs).mp hok u hu)).mp (hrest u hu) n t hr
    · intro hall
      have hnext : ∀ u, step s a = some u → inv u :=
        fun u hu => hall 1 u (run_cons_some.mpr ⟨u, hu, rfl⟩)
      refine ⟨(hstep s a hs).mpr hnext, ?_⟩
      intro u hu
      refine (ih (hnext u hu)).mpr ?_
      intro n t hr
      exact hall (n + 1) t (run_cons_some.mpr ⟨u, hu, hr⟩)

/-- Where the invariant holds as long as no bad state is reached, and the condition says just when
a step reaches none, the runs whose steps all meet it are the runs that reach no bad state. -/
theorem runOk_iff_all_good {good : σ → Prop} (hgood : ∀ s, inv s → good s)
    (hkeep : ∀ s a t, inv s → step s a = some t → good t → inv t)
    (hstep : ∀ s a, inv s → (ok s a ↔ ∀ t, step s a = some t → good t)) {s : σ} {as : List α}
    (hs : inv s) :
    RunOk step ok s as ↔ ∀ n t, run step s (as.take n) = some t → good t := by
  have hinv : ∀ s a, inv s → (ok s a ↔ ∀ t, step s a = some t → inv t) := by
    intro s a h
    rw [hstep s a h]
    refine forall_congr' fun t => forall_congr' fun ht => ?_
    exact ⟨hkeep s a t h ht, hgood t⟩
  rw [runOk_iff_reached inv hinv hs]
  constructor
  · exact fun hall n t hr => hgood t (hall n t hr)
  · intro hall n
    induction n generalizing s as with
    | zero =>
      intro t hr
      cases hr
      exact hs
    | succ n ih =>
      intro t hr
      cases as with
      | nil =>
        cases hr
        exact hs
      | cons a as =>
        obtain ⟨u, hu, hr⟩ := run_cons_some.mp hr
        have hu' : inv u := hkeep s a u hs hu (hall 1 u (run_cons_some.mpr ⟨u, hu, rfl⟩))
        refine ih hu' ?_ t hr
        intro m v hv
        exact hall (m + 1) v (run_cons_some.mpr ⟨u, hu, hv⟩)

end runs
