-- Requests and answers over a line that keeps the order of what it carries and may lose any of it.
-- An answer does not say which request it is for: a client that has waited too long for one goes
-- on, and takes the next answer that comes for the one of its next request.
import Mathlib.Algebra.Order.Ring.Int
import Mathlib.Data.List.Perm.Basic
import Mathlib.Data.List.Range
import Mathlib.Tactic.Common

namespace pipelining

variable {ρ α : Type*}

/-! ## The line -/

/-- What a request got, with the number of the request that was answered. -/
structure Return (α : Type*) where
  asked : Nat
  answered : Nat
  answer : α

/-- The requests are numbered in the order in which they are sent. The numbers are not carried, and
the fields from `returned` on are not there: they are for the laws. -/
structure Line (ρ α : Type*) where
  sent : List ρ := []
  requests : List Nat := []
  answers : List (Nat × α) := []
  waiting : Bool := false
  returned : List (Return α) := []
  timeouts : Nat := 0
  lost : List Nat := []

/-- What the server computes is given by the label, as its state is not in the line. -/
inductive Label (ρ α : Type*) where
  | send (request : ρ)
  | serve (compute : ρ → α)
  | receive
  | timeout
  | loseRequest (k : Nat)
  | loseAnswer (k : Nat)

def Label.sends : Label ρ α → List ρ
  | .send request => [request]
  | _ => []

namespace Line

variable (s : Line ρ α)

/-- The client waits for the answer to the request that was sent last, or it may send one. -/
def step : Label ρ α → Option (Line ρ α)
  | .send request =>
    if s.waiting then none
    else some { s with
      sent := s.sent ++ [request], requests := s.requests ++ [s.sent.length], waiting := true }
  | .serve compute =>
    match s.requests with
    | [] => none
    | n :: rest => s.sent[n]?.map fun request =>
      { s with requests := rest, answers := s.answers ++ [(n, compute request)] }
  | .receive =>
    if s.waiting then
      match s.answers with
      | [] => none
      | (m, answer) :: rest => some { s with
          answers := rest, waiting := false
          returned := s.returned ++ [⟨s.sent.length - 1, m, answer⟩] }
    else none
  | .timeout =>
    if s.waiting then some { s with waiting := false, timeouts := s.timeouts + 1 } else none
  | .loseRequest k => s.requests[k]?.map fun n =>
    { s with requests := s.requests.eraseIdx k, lost := s.lost ++ [n] }
  | .loseAnswer k => s.answers[k]?.map fun a =>
    { s with answers := s.answers.eraseIdx k, lost := s.lost ++ [a.1] }

/-! ## The order -/

/-- The numbers of the requests whose answers were taken or may still come. -/
def order : List Nat :=
  s.returned.map Return.answered ++ (s.answers.map Prod.fst ++ s.requests)

/-- Each request was answered, is on its way with its answer or was lost, and those that were not
lost stay in their order. The client has had an answer or a timeout for each but the last one. -/
structure Good (s : Line ρ α) : Prop where
  places : (s.order ++ s.lost).Perm (List.range s.sent.length)
  increasing : s.order.Pairwise (· < ·)
  client : s.returned.length + s.timeouts + s.waiting.toNat = s.sent.length
  returned : ∀ r ∈ s.returned, r.answered ≤ r.asked

variable {s} {t : Line ρ α} {l : Label ρ α}

theorem good_init : Good ({} : Line ρ α) where
  places := List.Perm.refl _
  increasing := List.Pairwise.nil
  client := rfl
  returned := nofun

theorem Good.lt_of_mem (h : s.Good) {n : Nat} (hn : n ∈ s.order) : n < s.sent.length :=
  List.mem_range.mp (h.places.subset (List.mem_append_left _ hn))

theorem Good.send (h : s.Good) {request : ρ} (hs : s.step (.send request) = some t) : t.Good := by
  simp only [step] at hs
  split_ifs at hs with hwaiting
  obtain rfl := Option.some.inj hs
  have horder : order { s with
      sent := s.sent ++ [request], requests := s.requests ++ [s.sent.length], waiting := true } =
        s.order ++ [s.sent.length] := by
    simp [order]
  have hclient := h.client
  rw [Bool.eq_false_iff.mpr hwaiting] at hclient
  refine ⟨?_, ?_, ?_, h.returned⟩
  · rw [horder, List.length_append, List.length_singleton, List.range_succ, List.append_assoc]
    refine (List.Perm.append_left _ List.perm_append_comm).trans ?_
    rw [← List.append_assoc]
    exact h.places.append_right _
  · rw [horder, List.pairwise_append]
    refine ⟨h.increasing, List.pairwise_singleton _ _, ?_⟩
    intro n hn m hm
    rw [List.mem_singleton.mp hm]
    exact h.lt_of_mem hn
  · simpa using hclient

theorem Good.serve (h : s.Good) {compute : ρ → α} (hs : s.step (.serve compute) = some t) :
    t.Good := by
  simp only [step] at hs
  split at hs
  · cases hs
  · rename_i n rest hrequests
    obtain ⟨request, -, rfl⟩ := Option.map_eq_some_iff.mp hs
    have horder : order { s with
        requests := rest, answers := s.answers ++ [(n, compute request)] } = s.order := by
      simp [order, hrequests]
    exact ⟨by rw [horder]; exact h.places, by rw [horder]; exact h.increasing, h.client, h.returned⟩

/-- The step of a client that gets an answer. -/
theorem receive_some (hs : s.step .receive = some t) :
    ∃ m answer rest, s.waiting = true ∧ s.answers = (m, answer) :: rest ∧
      t = { s with
        answers := rest, waiting := false
        returned := s.returned ++ [⟨s.sent.length - 1, m, answer⟩] } := by
  simp only [step] at hs
  split_ifs at hs with hwaiting
  split at hs
  · cases hs
  · rename_i m answer rest hanswers
    exact ⟨m, answer, rest, hwaiting, hanswers, (Option.some.inj hs).symm⟩

theorem Good.receive (h : s.Good) (hs : s.step .receive = some t) : t.Good := by
  obtain ⟨m, answer, rest, hwaiting, hanswers, rfl⟩ := receive_some hs
  have horder : order { s with
      answers := rest, waiting := false
      returned := s.returned ++ [⟨s.sent.length - 1, m, answer⟩] } = s.order := by
    simp [order, hanswers]
  have hclient := h.client
  have hm := h.lt_of_mem (n := m) (by simp [order, hanswers])
  rw [hwaiting] at hclient
  refine ⟨by rw [horder]; exact h.places, by rw [horder]; exact h.increasing, ?_, ?_⟩
  · simp only [List.length_append, List.length_singleton, Bool.toNat_false]
    simp only [Bool.toNat_true] at hclient
    omega
  · intro r hr
    rcases List.mem_append.mp hr with hr | hr
    · exact h.returned r hr
    · rw [List.mem_singleton.mp hr]
      dsimp only
      omega

theorem Good.timeout (h : s.Good) (hs : s.step .timeout = some t) : t.Good := by
  simp only [step] at hs
  split_ifs at hs with hwaiting
  obtain rfl := Option.some.inj hs
  have hclient := h.client
  rw [hwaiting] at hclient
  refine ⟨h.places, h.increasing, ?_, h.returned⟩
  simp only [Bool.toNat_false]
  simp only [Bool.toNat_true] at hclient
  omega

/-- One number goes from the order to those that are lost. -/
theorem Good.lose (h : s.Good) {k : Nat} {n : Nat} (hk : s.order[k]? = some n)
    (horder : t.order = s.order.eraseIdx k) (hlost : t.lost = s.lost ++ [n])
    (hsent : t.sent = s.sent) (hclient : t.returned = s.returned ∧ t.timeouts = s.timeouts ∧
      t.waiting = s.waiting) : t.Good := by
  obtain ⟨hlt, rfl⟩ := List.getElem?_eq_some_iff.mp hk
  refine ⟨?_, ?_, ?_, ?_⟩
  · rw [horder, hlost, hsent]
    refine List.Perm.trans ?_ h.places
    rw [← List.append_assoc]
    refine List.perm_append_comm.trans ?_
    have hperm := List.getElem_cons_eraseIdx_perm hlt
    exact hperm.append_right s.lost
  · rw [horder]
    exact h.increasing.sublist (List.eraseIdx_sublist _ _)
  · rw [hclient.1, hclient.2.1, hclient.2.2, hsent]
    exact h.client
  · rw [hclient.1]
    exact h.returned

theorem Good.step (h : s.Good) (hs : s.step l = some t) : t.Good := by
  cases l with
  | send request => exact h.send hs
  | serve compute => exact h.serve hs
  | receive => exact h.receive hs
  | timeout => exact h.timeout hs
  | loseRequest k =>
    obtain ⟨n, hn, rfl⟩ := Option.map_eq_some_iff.mp hs
    obtain ⟨hk, -⟩ := List.getElem?_eq_some_iff.mp hn
    refine h.lose (k := s.returned.length + s.answers.length + k) (n := n) ?_ ?_ rfl rfl
      ⟨rfl, rfl, rfl⟩
    · simp only [order]
      rw [List.getElem?_append_right (by simp; omega), List.getElem?_append_right (by simp; omega)]
      simpa [Nat.add_assoc] using hn
    · simp only [order]
      rw [List.eraseIdx_append_of_length_le (by simp; omega),
        List.eraseIdx_append_of_length_le (by simp; omega)]
      simp [Nat.add_assoc]
  | loseAnswer k =>
    obtain ⟨a, ha, rfl⟩ := Option.map_eq_some_iff.mp hs
    obtain ⟨hk, -⟩ := List.getElem?_eq_some_iff.mp ha
    refine h.lose (k := s.returned.length + k) (n := a.1) ?_ ?_ rfl rfl ⟨rfl, rfl, rfl⟩
    · simp only [order]
      rw [List.getElem?_append_right (by simp), List.getElem?_append_left (by simp; omega)]
      simp [ha]
    · simp only [order]
      rw [List.eraseIdx_append_of_length_le (by simp),
        List.eraseIdx_append_of_lt_length (by simp; omega)]
      simp [List.eraseIdx_map]

theorem sent_of_step (hs : s.step l = some t) : t.sent = s.sent ++ l.sends := by
  cases l with
  | send request =>
    simp only [Line.step] at hs
    split_ifs at hs
    obtain rfl := Option.some.inj hs
    simp [Label.sends]
  | serve compute =>
    simp only [Line.step] at hs
    split at hs
    · cases hs
    · obtain ⟨request, -, rfl⟩ := Option.map_eq_some_iff.mp hs
      simp [Label.sends]
  | receive =>
    obtain ⟨m, answer, rest, -, -, rfl⟩ := receive_some hs
    simp [Label.sends]
  | timeout =>
    simp only [Line.step] at hs
    split_ifs at hs
    obtain rfl := Option.some.inj hs
    simp [Label.sends]
  | loseRequest k =>
    obtain ⟨n, -, rfl⟩ := Option.map_eq_some_iff.mp hs
    simp [Label.sends]
  | loseAnswer k =>
    obtain ⟨a, -, rfl⟩ := Option.map_eq_some_iff.mp hs
    simp [Label.sends]

/-! ## Whose answer it is -/

/-- A request gets its own answer just when of the requests before it as many were lost, with their
answers, as the client gave up. -/
theorem Good.receive_own (h : s.Good) (hs : s.step .receive = some t) :
    ∃ r, t.returned = s.returned ++ [r] ∧ r.asked + 1 = s.sent.length ∧
      (r.answered, r.answer) ∈ s.answers ∧
      (r.answered = r.asked ↔ s.lost.countP (· < r.asked) = s.timeouts) := by
  obtain ⟨m, answer, rest, hwaiting, hanswers, rfl⟩ := receive_some hs
  have hclient := h.client
  rw [hwaiting, Bool.toNat_true] at hclient
  refine ⟨⟨s.sent.length - 1, m, answer⟩, rfl, ?_, by simp [hanswers], ?_⟩
  · dsimp only
    omega
  dsimp only
  -- below the number of the request there are all that came back, and what is still before it
  have horder : s.order = s.returned.map Return.answered ++
      m :: (rest.map Prod.fst ++ s.requests) := by
    simp [order, hanswers]
  have hm := h.lt_of_mem (n := m) (by simp [horder])
  have hsorted := h.increasing
  rw [horder, List.pairwise_append] at hsorted
  obtain ⟨-, htail, hbefore⟩ := hsorted
  have hall : (s.returned.map Return.answered).countP (· < s.sent.length - 1) =
      s.returned.length := by
    rw [List.countP_eq_length.mpr, List.length_map]
    intro n hn
    have := hbefore n hn m List.mem_cons_self
    exact decide_eq_true (by omega)
  have hcount := (h.places.countP_eq (· < s.sent.length - 1))
  have hrange : (List.range s.sent.length).countP (· < s.sent.length - 1) = s.sent.length - 1 := by
    obtain ⟨k, hk⟩ : ∃ k, s.sent.length = k + 1 := ⟨s.sent.length - 1, by omega⟩
    rw [hk, List.range_succ, List.countP_append, Nat.add_sub_cancel, List.countP_eq_length.mpr]
    · simp
    · intro n hn
      exact decide_eq_true (List.mem_range.mp hn)
  rw [hrange, List.countP_append, horder, List.countP_append, hall, List.countP_cons] at hcount
  constructor
  · intro hown
    have hnone : (rest.map Prod.fst ++ s.requests).countP (· < s.sent.length - 1) = 0 := by
      rw [List.countP_eq_zero]
      intro n hn
      have := (List.pairwise_cons.mp htail).1 n hn
      simp only [decide_eq_true_eq]
      omega
    rw [hnone, if_neg (by simp [hown])] at hcount
    omega
  · intro hlost
    by_contra hother
    rw [if_pos (decide_eq_true (by omega))] at hcount
    omega

/-- As long as the client never gave up, each request got its own answer. -/
theorem Good.own_of_no_timeout (h : s.Good) (hs : s.step .receive = some t)
    (hnone : s.timeouts = 0) : ∃ r, t.returned = s.returned ++ [r] ∧
      (r.answered, r.answer) ∈ s.answers ∧ r.answered + 1 = s.sent.length := by
  obtain ⟨r, hreturned, hasked, hmem, hown⟩ := h.receive_own hs
  refine ⟨r, hreturned, hmem, ?_⟩
  have hclient := h.client
  obtain ⟨m, answer, rest, hwaiting, hanswers, -⟩ := receive_some hs
  rw [hwaiting, Bool.toNat_true] at hclient
  have hlength := h.places.length_eq
  simp only [order, hanswers, List.map_cons, List.length_append, List.length_map,
    List.length_cons, List.length_range] at hlength
  have hlost : s.lost = [] := List.eq_nil_of_length_eq_zero (by omega)
  rw [hown.mpr (by simp [hlost, hnone])]
  exact hasked

/-- Where nothing was lost the answers come back in turn, from the one of the first request on. -/
theorem Good.answered_in_turn (h : s.Good) (hlost : s.lost = []) :
    s.returned.map Return.answered = List.range s.returned.length := by
  have hperm := h.places
  rw [hlost, List.append_nil] at hperm
  have horder : s.order = List.range s.sent.length :=
    hperm.eq_of_pairwise (fun a b _ _ hab hba => by omega) h.increasing List.pairwise_lt_range
  have htake := congrArg (List.take s.returned.length) horder
  rw [order, List.take_left' (List.length_map _), List.take_range] at htake
  rw [htake]
  congr 1
  have := h.client
  omega

/-- Then each request gets the answer of one that is as far before it as the client gave up. -/
theorem Good.shifted (h : s.Good) (hs : s.step .receive = some t) (hlost : s.lost = []) :
    ∃ r, t.returned = s.returned ++ [r] ∧ r.answered + s.timeouts = r.asked := by
  obtain ⟨m, answer, rest, hwaiting, -, rfl⟩ := receive_some hs
  have hclient := h.client
  rw [hwaiting, Bool.toNat_true] at hclient
  have hturn := (h.receive hs).answered_in_turn hlost
  simp only [List.map_append, List.map_cons, List.map_nil, List.length_append,
    List.length_singleton, List.range_succ] at hturn
  have hlast := congrArg List.getLast? hturn
  simp only [List.getLast?_append, List.getLast?_singleton, Option.some_or,
    Option.some.injEq] at hlast
  refine ⟨_, rfl, ?_⟩
  dsimp only
  omega

/-! ## What the answers are -/

/-- Each answer on its way is one that its request may get. -/
def Right (may : ρ → α → Prop) (s : Line ρ α) : Prop :=
  ∀ a ∈ s.answers, ∃ request, s.sent[a.1]? = some request ∧ may request a.2

variable {may may' : ρ → α → Prop}

theorem right_init : Right may ({} : Line ρ α) := nofun

theorem Right.mono (h : s.Right may) (himp : ∀ request answer, may request answer →
    may' request answer) : s.Right may' := by
  intro a ha
  obtain ⟨request, hsent, hmay⟩ := h a ha
  exact ⟨request, hsent, himp request a.2 hmay⟩

theorem Right.step (h : s.Right may) (hs : s.step l = some t)
    (hserve : ∀ compute, l = .serve compute → ∀ request, may request (compute request)) :
    t.Right may := by
  cases l with
  | send request =>
    simp only [Line.step] at hs
    split_ifs at hs
    obtain rfl := Option.some.inj hs
    intro a ha
    obtain ⟨r, hr, hmay⟩ := h a ha
    obtain ⟨hlt, -⟩ := List.getElem?_eq_some_iff.mp hr
    exact ⟨r, by rw [List.getElem?_append_left hlt, hr], hmay⟩
  | serve compute =>
    simp only [Line.step] at hs
    split at hs
    · cases hs
    · obtain ⟨request, hrequest, rfl⟩ := Option.map_eq_some_iff.mp hs
      intro a ha
      rcases List.mem_append.mp ha with ha | ha
      · exact h a ha
      · rw [List.mem_singleton.mp ha]
        exact ⟨request, hrequest, hserve compute rfl request⟩
  | receive =>
    obtain ⟨m, answer, rest, -, hanswers, rfl⟩ := receive_some hs
    intro a ha
    exact h a (by rw [hanswers]; exact List.mem_cons_of_mem _ ha)
  | timeout =>
    simp only [Line.step] at hs
    split_ifs at hs
    obtain rfl := Option.some.inj hs
    exact h
  | loseRequest k =>
    obtain ⟨n, -, rfl⟩ := Option.map_eq_some_iff.mp hs
    exact h
  | loseAnswer k =>
    obtain ⟨n, -, rfl⟩ := Option.map_eq_some_iff.mp hs
    exact fun a ha => h a (List.mem_of_mem_eraseIdx ha)

end Line

end pipelining
