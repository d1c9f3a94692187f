-- The laws of the endpoint slots. A slot is free or has an endpoint, and its index is in the
-- queue just when it is free, as long as each life of the dispatcher starts with an empty queue.
-- A life that ends with free slots leaves their indexes to the next one.
import Chaos.DirectIO
import Chaos.NumberedList

open Function runs

namespace chaos.common.direct_io

open chaos.utility DirectIODispatcher

variable {d d' : DirectIODispatcher} {slots : Nat → EndpointFastDelegation}

/-! ## Slots and their endpoints -/

/-- What holds in every run: the table is there while the service is initialized, the queue has
indexes of the table, and an enabled slot has an endpoint that knows its index. -/
structure Sound (d : DirectIODispatcher) : Prop where
  table : d.serviceState ≠ .IS_DEINTIATED ↔ d.endpoint_slot_array ≠ none
  queue : ∀ i ∈ d.available_endpoint_slot, i < MAX_ENDPOINT_NUMBER
  slot : ∀ slots ∈ d.endpoint_slot_array, ∀ i, ∀ p ∈ (slots i).endpoint,
    ∃ e, d.endpoints.lookup p = some e ∧ e.endpoint_route_index.toNat = i
  enabled : ∀ slots ∈ d.endpoint_slot_array, ∀ i, (slots i).enable = true →
    i < MAX_ENDPOINT_NUMBER ∧ (slots i).endpoint ≠ none

theorem sound_new : Sound DirectIODispatcher.new :=
  ⟨⟨fun h => absurd rfl h, fun h => absurd rfl h⟩, nofun, nofun, nofun⟩

/-- What clearing a slot does: the slot is free, and its endpoint is deleted. -/
theorem clearEndpointSlot_cases {i : Nat} (h : d.clearEndpointSlot i = some d') :
    ∃ slots, d.endpoint_slot_array = some slots ∧ i < MAX_ENDPOINT_NUMBER ∧
      d'.endpoint_slot_array = some (update slots i { enable := false, endpoint := none }) ∧
      d'.serviceState = d.serviceState ∧
      d'.available_endpoint_slot = d.available_endpoint_slot ∧
      ((slots i).endpoint = none ∧ d'.endpoints = d.endpoints ∨
        ∃ p, (slots i).endpoint = some p ∧ d'.endpoints = d.endpoints.erase p) := by
  unfold clearEndpointSlot at h
  split at h
  · cases h
  · rename_i slots hslots
    split at h
    · cases h
    · rename_i hi
      refine ⟨slots, hslots, Nat.lt_of_not_le hi, ?_⟩
      dsimp only at h
      split at h
      · rename_i hnone
        cases h
        exact ⟨rfl, rfl, rfl, Or.inl ⟨hnone, rfl⟩⟩
      · rename_i p hp
        split at h
        · cases h
          exact ⟨rfl, rfl, rfl, Or.inr ⟨p, hp, rfl⟩⟩
        · cases h

/-- An endpoint of another slot is not deleted. -/
theorem clearEndpointSlot_lookup {i : Nat} (hs : Sound d) (h : d.clearEndpointSlot i = some d')
    {p : Nat} {e : DirectIOServerEndpoint} (he : d.endpoints.lookup p = some e)
    (hi : e.endpoint_route_index.toNat ≠ i) : d'.endpoints.lookup p = some e := by
  obtain ⟨slots, hslots, -, -, -, -, ⟨-, hend⟩ | ⟨q, hq, hend⟩⟩ := clearEndpointSlot_cases h
  · rw [hend]
    exact he
  · rw [hend, AList.lookup_erase_ne]
    · exact he
    · rintro rfl
      obtain ⟨f, hf, hfi⟩ := hs.slot slots hslots i p hq
      rw [he] at hf
      cases hf
      exact hi hfi

/-- An endpoint that is left was there before. -/
theorem lookup_of_clearEndpointSlot {i : Nat} (h : d.clearEndpointSlot i = some d') {p : Nat}
    {e : DirectIOServerEndpoint} (he : d'.endpoints.lookup p = some e) :
    d.endpoints.lookup p = some e ∧
      ∀ slots ∈ d.endpoint_slot_array, (slots i).endpoint ≠ some p := by
  obtain ⟨slots, hslots, -, -, -, -, ⟨hnone, hend⟩ | ⟨q, hq, hend⟩⟩ := clearEndpointSlot_cases h
  · rw [hend] at he
    refine ⟨he, fun slots' hslots' => ?_⟩
    rw [hslots] at hslots'
    cases hslots'
    rw [hnone]
    exact nofun
  · have hne : p ≠ q := by
      rintro rfl
      rw [hend, AList.lookup_erase] at he
      cases he
    rw [hend, AList.lookup_erase_ne hne] at he
    refine ⟨he, fun slots' hslots' => ?_⟩
    rw [hslots] at hslots'
    cases hslots'
    rw [hq]
    exact fun heq => hne (Option.some.inj heq).symm

theorem Sound.clearEndpointSlot {i : Nat} (hs : Sound d) (h : d.clearEndpointSlot i = some d') :
    Sound d' := by
  obtain ⟨slots, hslots, hi, hslots', hstate, hqueue, -⟩ := clearEndpointSlot_cases h
  refine ⟨?_, by rw [hqueue]; exact hs.queue, ?_, ?_⟩
  · rw [hstate, hs.table, hslots, hslots']
    exact ⟨fun _ => nofun, fun _ => nofun⟩
  · rw [hslots']
    rintro _ ⟨⟩
    refine (forall_update_iff slots fun j slot => ∀ p ∈ slot.endpoint,
      ∃ e, d'.endpoints.lookup p = some e ∧ e.endpoint_route_index.toNat = j).mpr ⟨nofun, ?_⟩
    intro j hj p hp
    obtain ⟨e, he, hej⟩ := hs.slot slots hslots j p hp
    refine ⟨e, clearEndpointSlot_lookup hs h he ?_, hej⟩
    rw [hej]
    exact hj
  · rw [hslots']
    rintro _ ⟨⟩
    exact (forall_update_iff slots fun j slot => slot.enable = true →
      j < MAX_ENDPOINT_NUMBER ∧ slot.endpoint ≠ none).mpr
      ⟨nofun, fun j _ => hs.enabled slots hslots j⟩

theorem getNewEndpoint_cases {ptr : Nat} (h : d.getNewEndpoint ptr = some d') :
    d.available_endpoint_slot = [] ∧ d' = d ∨
    ∃ i rest slots, d.available_endpoint_slot = i :: rest ∧ d.endpoint_slot_array = some slots ∧
      i < MAX_ENDPOINT_NUMBER ∧
      d' = { d with
        endpoint_slot_array := some (update slots i { enable := true, endpoint := some ptr })
        available_endpoint_slot := rest
        endpoints := d.endpoints.insert ptr (DirectIOServerEndpoint.new (UInt16.ofNat i)) } := by
  unfold getNewEndpoint at h
  split at h
  · rename_i hqueue
    exact Or.inl ⟨hqueue, (Option.some.inj h).symm⟩
  · rename_i i rest hqueue
    split at h
    · cases h
    · rename_i slots hslots
      split at h
      · cases h
      · rename_i hi
        exact Or.inr ⟨i, rest, slots, hqueue, hslots, Nat.lt_of_not_le hi,
          (Option.some.inj h).symm⟩

theorem toNat_route {i : Nat} (hi : i < MAX_ENDPOINT_NUMBER) : (UInt16.ofNat i).toNat = i := by
  unfold MAX_ENDPOINT_NUMBER at hi
  rw [UInt16.toNat_ofNat']
  omega

theorem Sound.getNewEndpoint {ptr : Nat} (hs : Sound d) (hfresh : ptr ∉ d.endpoints)
    (h : d.getNewEndpoint ptr = some d') : Sound d' := by
  obtain ⟨-, rfl⟩ | ⟨i, rest, slots, hqueue, hslots, hi, rfl⟩ := getNewEndpoint_cases h
  · exact hs
  · have hqueues := hs.queue
    rw [hqueue] at hqueues
    refine ⟨?_, fun j hj => hqueues j (List.mem_cons_of_mem _ hj), ?_, ?_⟩
    · rw [hs.table, hslots]
      exact ⟨fun _ => nofun, fun _ => nofun⟩
    · rintro _ ⟨⟩
      refine (forall_update_iff slots fun j slot => ∀ p ∈ slot.endpoint,
        ∃ e, (d.endpoints.insert ptr (DirectIOServerEndpoint.new (UInt16.ofNat i))).lookup p =
          some e ∧ e.endpoint_route_index.toNat = j).mpr ⟨?_, fun j _ p hp => ?_⟩
      · rintro _ ⟨⟩
        exact ⟨_, AList.lookup_insert _, toNat_route hi⟩
      · obtain ⟨e, he, hej⟩ := hs.slot slots hslots j p hp
        refine ⟨e, ?_, hej⟩
        rw [AList.lookup_insert_ne]
        · exact he
        · rintro rfl
          rw [← AList.lookup_eq_none, he] at hfresh
          cases hfresh
    · rintro _ ⟨⟩
      exact (forall_update_iff slots fun j slot => slot.enable = true →
        j < MAX_ENDPOINT_NUMBER ∧ slot.endpoint ≠ none).mpr
        ⟨fun _ => ⟨hi, nofun⟩, fun j _ => hs.enabled slots hslots j⟩

theorem releaseEndpoint_cases {endpoint_to_release : Option Nat}
    (h : d.releaseEndpoint endpoint_to_release = some d') :
    endpoint_to_release = none ∧ d' = d ∨
    ∃ p e c, endpoint_to_release = some p ∧ d.endpoints.lookup p = some e ∧
      d.clearEndpointSlot e.endpoint_route_index.toNat = some c ∧
      d' = { c with
        available_endpoint_slot :=
          c.available_endpoint_slot ++ [e.endpoint_route_index.toNat] } := by
  unfold releaseEndpoint at h
  cases endpoint_to_release with
  | none => exact Or.inl ⟨rfl, (Option.some.inj h).symm⟩
  | some p =>
    obtain ⟨e, he, hclear⟩ := Option.bind_eq_some_iff.mp h
    obtain ⟨c, hc, rfl⟩ := Option.map_eq_some_iff.mp hclear
    exact Or.inr ⟨p, e, c, rfl, he, hc, rfl⟩

theorem Sound.releaseEndpoint {endpoint_to_release : Option Nat} (hs : Sound d)
    (h : d.releaseEndpoint endpoint_to_release = some d') : Sound d' := by
  obtain ⟨-, rfl⟩ | ⟨p, e, c, -, -, hc, rfl⟩ := releaseEndpoint_cases h
  · exact hs
  · have hsc := hs.clearEndpointSlot hc
    obtain ⟨slots, -, hi, -⟩ := clearEndpointSlot_cases hc
    refine ⟨hsc.table, fun j hj => ?_, hsc.slot, hsc.enabled⟩
    rcases List.mem_append.mp hj with hj | hj
    · exact hsc.queue j hj
    · rw [List.mem_singleton.mp hj]
      exact hi

/-- A call on an endpoint that keeps its index. -/
theorem Sound.onEndpoint {p : Nat} {f : DirectIOServerEndpoint → DirectIOServerEndpoint}
    (hf : ∀ e, (f e).endpoint_route_index = e.endpoint_route_index) (hs : Sound d)
    (h : d.onEndpoint p f = some d') : Sound d' := by
  obtain ⟨e, he, rfl⟩ := Option.map_eq_some_iff.mp h
  refine ⟨hs.table, hs.queue, fun slots hslots i q hq => ?_, hs.enabled⟩
  obtain ⟨g, hg, hgi⟩ := hs.slot slots hslots i q hq
  by_cases hqp : q = p
  · subst hqp
    rw [he] at hg
    cases hg
    exact ⟨_, AList.lookup_insert _, by rw [hf]; exact hgi⟩
  · exact ⟨g, by rw [AList.lookup_insert_ne hqp]; exact hg, hgi⟩

theorem setChannel_route (e : DirectIOServerEndpoint) (channel : DirectIOVirtualServerChannel)
    (slot : Option DirectIOVirtualServerChannel) :
    (e.setChannel channel slot).endpoint_route_index = e.endpoint_route_index := by
  unfold DirectIOServerEndpoint.setChannel
  split <;> rfl

theorem Sound.init (hs : Sound d) : Sound { d.init with serviceState := .IS_INITIATED } := by
  refine ⟨⟨fun _ => nofun, fun _ => nofun⟩, fun i hi => ?_, ?_, ?_⟩
  · rcases List.mem_append.mp hi with hi | hi
    · exact hs.queue i hi
    · exact List.mem_range.mp hi
  · rintro _ ⟨⟩ i p hp
    cases hp
  · rintro _ ⟨⟩ i hen
    cases hen

theorem Sound.deinit (hs : Sound d) (h : d.deinit = some d') :
    Sound { d' with serviceState := .IS_DEINTIATED } := by
  obtain ⟨c, hc, rfl⟩ := Option.map_eq_some_iff.mp h
  have hsc : Sound c :=
    run_keeps Sound (fun _ _ _ hs h => hs.clearEndpointSlot h) hs hc
  exact ⟨⟨fun h => absurd rfl h, fun h => absurd rfl h⟩, hsc.queue, nofun, nofun⟩

/-- Each case of a step. A call of the life cycle that does not fit changes nothing, and the
calls on an endpoint keep its index. -/
theorem dispatcherStep_cases {e : DispatcherEvent} (h : dispatcherStep d e = some d') :
    d' = d ∨
    (∃ malloc, e = .init malloc ∧ d.serviceState = .IS_DEINTIATED ∧
      d' = { d.init with serviceState := .IS_INITIATED }) ∨
    (∃ s, (s ≠ .IS_DEINTIATED ↔ d.serviceState ≠ .IS_DEINTIATED) ∧
      d' = { d with serviceState := s }) ∨
    (∃ c, d.deinit = some c ∧ d' = { c with serviceState := .IS_DEINTIATED }) ∨
    (∃ ptr, ptr ∉ d.endpoints ∧ d.getNewEndpoint ptr = some d') ∨
    (∃ endpoint_to_release, d.releaseEndpoint endpoint_to_release = some d') ∨
    ∃ p f, (∀ e, (f e).endpoint_route_index = e.endpoint_route_index) ∧
      d.onEndpoint p f = some d' := by
  cases e with
  | init malloc =>
    unfold dispatcherStep at h
    dsimp only at h
    split at h
    · exact Or.inl (Option.some.inj h).symm
    · rename_i s hstate
      obtain ⟨hold, rfl⟩ := process_event_init hstate
      split at h
      · exact Or.inr (Or.inl ⟨malloc, rfl, hold, (Option.some.inj h).symm⟩)
      · exact Or.inl (Option.some.inj h).symm
  | start =>
    exact Or.inr (Or.inr (Or.inl ⟨_, process_event_start _, (Option.some.inj h).symm⟩))
  | stop =>
    exact Or.inr (Or.inr (Or.inl ⟨_, process_event_stop _, (Option.some.inj h).symm⟩))
  | deinit =>
    unfold dispatcherStep at h
    dsimp only at h
    split at h
    · exact Or.inl (Option.some.inj h).symm
    · rename_i s hstate
      obtain ⟨c, hc, rfl⟩ := Option.map_eq_some_iff.mp h
      rw [process_event_deinit hstate]
      exact Or.inr (Or.inr (Or.inr (Or.inl ⟨c, hc, rfl⟩)))
  | getNewEndpoint ptr =>
    unfold dispatcherStep at h
    dsimp only at h
    split at h
    · cases h
    · rename_i hfresh
      exact Or.inr (Or.inr (Or.inr (Or.inr (Or.inl ⟨ptr, hfresh, h⟩))))
  | releaseEndpoint endpoint_to_release =>
    exact Or.inr (Or.inr (Or.inr (Or.inr (Or.inr (Or.inl ⟨endpoint_to_release, h⟩)))))
  | registerChannelInstance p channel | deregisterChannelInstance p channel =>
    refine Or.inr (Or.inr (Or.inr (Or.inr (Or.inr (Or.inr ⟨p, _, ?_, h⟩)))))
    intro e
    exact setChannel_route e _ _

theorem Sound.step (hs : Sound d) (e : DispatcherEvent) (h : dispatcherStep d e = some d') :
    Sound d' := by
  obtain rfl | ⟨-, -, -, rfl⟩ | ⟨s, hstate, rfl⟩ | ⟨c, hc, rfl⟩ | ⟨ptr, hfresh, hnew⟩ |
    ⟨p, hrelease⟩ | ⟨p, f, hf, hcall⟩ := dispatcherStep_cases h
  · exact hs
  · exact hs.init
  · exact ⟨hstate.trans hs.table, hs.queue, hs.slot, hs.enabled⟩
  · exact hs.deinit hc
  · exact hs.getNewEndpoint hfresh hnew
  · exact hs.releaseEndpoint hrelease
  · exact hs.onEndpoint hf hcall

/-! ## Each endpoint has its slot -/

/-- Each endpoint that is not deleted is the one of its slot. -/
def Owned (d : DirectIODispatcher) : Prop :=
  ∀ p e, d.endpoints.lookup p = some e → ∃ slots ∈ d.endpoint_slot_array,
    slots e.endpoint_route_index.toNat = { enable := true, endpoint := some p }

theorem Owned.clearEndpointSlot {i : Nat} (ho : Owned d) (h : d.clearEndpointSlot i = some d') :
    Owned d' := by
  intro p e he
  obtain ⟨he', hne⟩ := lookup_of_clearEndpointSlot h he
  obtain ⟨slots, hslots, hslot⟩ := ho p e he'
  obtain ⟨slots', hslots', -, harray, -⟩ := clearEndpointSlot_cases h
  rw [hslots] at hslots'
  cases hslots'
  refine ⟨_, harray, ?_⟩
  rw [update_of_ne]
  · exact hslot
  · rintro rfl
    exact hne slots hslots (by rw [hslot])

/-- The slots that are cleared stay free. -/
theorem clearEndpointSlots_enable {is : List Nat} (h : run clearEndpointSlot d is = some d')
    (i : Nat) (hi : i ∈ is ∨ ∀ slots ∈ d.endpoint_slot_array, (slots i).enable = false) :
    ∀ slots ∈ d'.endpoint_slot_array, (slots i).enable = false := by
  induction is generalizing d with
  | nil =>
    cases h
    exact hi.resolve_left List.not_mem_nil
  | cons j is ih =>
    obtain ⟨c, hc, hrun⟩ := run_cons_some.mp h
    obtain ⟨slots, hslots, -, hslots', -⟩ := clearEndpointSlot_cases hc
    refine ih hrun ?_
    by_cases hij : i = j
    · refine Or.inr fun slots' hs => ?_
      rw [hslots'] at hs
      cases hs
      rw [hij, update_self]
    · refine hi.imp (fun hmem => (List.mem_cons.mp hmem).resolve_left hij) fun hfree slots' hs => ?_
      rw [hslots'] at hs
      cases hs
      rw [update_of_ne hij]
      exact hfree slots hslots

/-- `deinit` deletes all endpoints. -/
theorem Owned.deinit (hs : Sound d) (ho : Owned d) (h : d.deinit = some d') (p : Nat) :
    d'.endpoints.lookup p = none := by
  obtain ⟨c, hc, rfl⟩ := Option.map_eq_some_iff.mp h
  obtain ⟨hsc, hoc⟩ : Sound c ∧ Owned c :=
    run_keeps (fun d => Sound d ∧ Owned d)
      (fun _ _ _ hs h => ⟨hs.1.clearEndpointSlot h, hs.2.clearEndpointSlot h⟩) ⟨hs, ho⟩ hc
  by_contra hsome
  obtain ⟨e, he⟩ := Option.ne_none_iff_exists'.mp hsome
  obtain ⟨slots, hslots, hslot⟩ := hoc p e he
  have hen : (slots e.endpoint_route_index.toNat).enable = true := by rw [hslot]
  obtain ⟨hlt, -⟩ := hsc.enabled slots hslots _ hen
  have hfree := clearEndpointSlots_enable hc _ (Or.inl (List.mem_range.mpr hlt)) slots hslots
  rw [hen] at hfree
  cases hfree

/-! ## The queue has the free slots -/

/-- The queue holds the index of each free slot once, and of no other slot. -/
def Free (d : DirectIODispatcher) : Prop :=
  ∀ slots ∈ d.endpoint_slot_array, d.available_endpoint_slot.Nodup ∧
    ∀ i, i ∈ d.available_endpoint_slot ↔ i < MAX_ENDPOINT_NUMBER ∧ (slots i).enable = false

/-- The invariant of the runs in which each life starts with an empty queue. -/
structure Kept (d : DirectIODispatcher) : Prop where
  sound : Sound d
  owned : Owned d
  free : Free d

theorem kept_new : Kept DirectIODispatcher.new := ⟨sound_new, nofun, nofun⟩

/-- A dispatcher with no table has no endpoint. -/
theorem Kept.no_endpoint (hk : Kept d) (hnone : d.endpoint_slot_array = none) (p : Nat) :
    d.endpoints.lookup p = none := by
  by_contra hsome
  obtain ⟨e, he⟩ := Option.ne_none_iff_exists'.mp hsome
  obtain ⟨slots, hslots, -⟩ := hk.owned p e he
  rw [hnone] at hslots
  cases hslots

theorem Kept.init (hk : Kept d) (hnone : d.endpoint_slot_array = none)
    (hempty : d.available_endpoint_slot = []) :
    Kept { d.init with serviceState := .IS_INITIATED } := by
  refine ⟨hk.sound.init, fun p e he => ?_, ?_⟩
  · have he' : d.endpoints.lookup p = some e := he
    rw [hk.no_endpoint hnone p] at he'
    cases he'
  · rintro _ ⟨⟩
    show (d.available_endpoint_slot ++ List.range MAX_ENDPOINT_NUMBER).Nodup ∧ ∀ i,
      i ∈ d.available_endpoint_slot ++ List.range MAX_ENDPOINT_NUMBER ↔ _
    rw [hempty, List.nil_append]
    refine ⟨List.nodup_range, fun i => ?_⟩
    rw [List.mem_range]
    exact ⟨fun hi => ⟨hi, rfl⟩, fun hi => hi.1⟩

theorem Kept.getNewEndpoint {ptr : Nat} (hk : Kept d) (hfresh : ptr ∉ d.endpoints)
    (h : d.getNewEndpoint ptr = some d') : Kept d' := by
  suffices hrest : Owned d' ∧ Free d' from ⟨hk.sound.getNewEndpoint hfresh h, hrest.1, hrest.2⟩
  obtain ⟨-, rfl⟩ | ⟨i, rest, slots, hqueue, hslots, hi, rfl⟩ := getNewEndpoint_cases h
  · exact ⟨hk.owned, hk.free⟩
  · obtain ⟨hnodup, hfree⟩ := hk.free slots hslots
    rw [hqueue] at hnodup hfree
    have hdisabled : (slots i).enable = false := ((hfree i).mp List.mem_cons_self).2
    refine ⟨fun p e he => ⟨_, rfl, ?_⟩, ?_⟩
    · by_cases hp : p = ptr
      · subst hp
        rw [AList.lookup_insert] at he
        cases he
        show update slots i _ (UInt16.ofNat i).toNat = _
        rw [toNat_route hi, update_self]
      · rw [AList.lookup_insert_ne hp] at he
        obtain ⟨slots', hslots', hslot⟩ := hk.owned p e he
        rw [hslots] at hslots'
        cases hslots'
        rw [update_of_ne]
        · exact hslot
        · rintro rfl
          rw [hslot] at hdisabled
          cases hdisabled
    · rintro _ ⟨⟩
      refine ⟨(List.nodup_cons.mp hnodup).2, fun j => ?_⟩
      show j ∈ rest ↔ _
      by_cases hj : j = i
      · subst hj
        rw [update_self]
        exact ⟨fun hmem => absurd hmem (List.nodup_cons.mp hnodup).1, nofun⟩
      · rw [update_of_ne hj, ← hfree j, List.mem_cons]
        exact ⟨Or.inr, fun hmem => hmem.resolve_left hj⟩

theorem Kept.releaseEndpoint {endpoint_to_release : Option Nat} (hk : Kept d)
    (h : d.releaseEndpoint endpoint_to_release = some d') : Kept d' := by
  suffices hrest : Owned d' ∧ Free d' from ⟨hk.sound.releaseEndpoint h, hrest.1, hrest.2⟩
  obtain ⟨-, rfl⟩ | ⟨p, e, c, -, he, hc, rfl⟩ := releaseEndpoint_cases h
  · exact ⟨hk.owned, hk.free⟩
  · have howned : Owned c := hk.owned.clearEndpointSlot hc
    refine ⟨howned, ?_⟩
    obtain ⟨slots, hslots, hslot⟩ := hk.owned p e he
    obtain ⟨slots', hslots', hi, harray, -, hqueue, -⟩ := clearEndpointSlot_cases hc
    rw [hslots] at hslots'
    cases hslots'
    obtain ⟨hnodup, hfree⟩ := hk.free slots hslots
    have hnot : e.endpoint_route_index.toNat ∉ d.available_endpoint_slot := by
      intro hmem
      have hdisabled := ((hfree _).mp hmem).2
      rw [hslot] at hdisabled
      cases hdisabled
    intro slots'' hslots''
    have hupdate := hslots''.symm.trans harray
    cases hupdate
    show (c.available_endpoint_slot ++ [_]).Nodup ∧ ∀ i, i ∈ c.available_endpoint_slot ++ [_] ↔ _
    rw [hqueue]
    refine ⟨?_, fun j => ?_⟩
    · exact numbered_list.nodup_snoc hnodup hnot
    · rw [List.mem_append, List.mem_singleton]
      by_cases hj : j = e.endpoint_route_index.toNat
      · subst hj
        rw [update_self]
        exact ⟨fun _ => ⟨hi, rfl⟩, fun _ => Or.inr rfl⟩
      · rw [update_of_ne hj, ← hfree j]
        exact ⟨fun hmem => hmem.resolve_right hj, Or.inl⟩

theorem Kept.deinit (hk : Kept d) (h : d.deinit = some d') :
    Kept { d' with serviceState := .IS_DEINTIATED } := by
  have hnone := Owned.deinit hk.sound hk.owned h
  refine ⟨hk.sound.deinit h, fun p e he => ?_, ?_⟩
  · have he' : d'.endpoints.lookup p = some e := he
    rw [hnone p] at he'
    cases he'
  · obtain ⟨c, -, rfl⟩ := Option.map_eq_some_iff.mp h
    exact nofun

theorem Kept.onEndpoint {p : Nat} {f : DirectIOServerEndpoint → DirectIOServerEndpoint}
    (hf : ∀ e, (f e).endpoint_route_index = e.endpoint_route_index) (hk : Kept d)
    (h : d.onEndpoint p f = some d') : Kept d' := by
  suffices hrest : Owned d' ∧ Free d' from ⟨hk.sound.onEndpoint hf h, hrest.1, hrest.2⟩
  obtain ⟨e, he, rfl⟩ := Option.map_eq_some_iff.mp h
  refine ⟨fun q g hg => ?_, hk.free⟩
  by_cases hqp : q = p
  · subst hqp
    rw [AList.lookup_insert] at hg
    cases hg
    rw [hf]
    exact hk.owned q e he
  · rw [AList.lookup_insert_ne hqp] at hg
    exact hk.owned q g hg

/-! ## Runs -/

/-- Each life of the dispatcher starts with an empty queue. -/
def dispatcherOk (d : DirectIODispatcher) : DispatcherEvent → Prop
  | .init _ => d.serviceState = .IS_DEINTIATED → d.available_endpoint_slot = []
  | _ => True

theorem Kept.step (hk : Kept d) (e : DispatcherEvent) (hok : dispatcherOk d e)
    (h : dispatcherStep d e = some d') : Kept d' := by
  obtain rfl | ⟨malloc, rfl, hstate, rfl⟩ | ⟨s, hstate, rfl⟩ | ⟨c, hc, rfl⟩ |
    ⟨ptr, hfresh, hnew⟩ | ⟨p, hrelease⟩ | ⟨p, f, hf, hcall⟩ := dispatcherStep_cases h
  · exact hk
  · have hnone : d.endpoint_slot_array = none := by
      by_contra hne
      exact hk.sound.table.mpr hne hstate
    exact hk.init hnone (hok hstate)
  · exact ⟨hk.sound.step e h, hk.owned, hk.free⟩
  · exact hk.deinit hc
  · exact hk.getNewEndpoint hfresh hnew
  · exact hk.releaseEndpoint hrelease
  · exact hk.onEndpoint hf hcall

/-- The indexes of the enabled slots. -/
def enabledSlots (slots : Nat → EndpointFastDelegation) : List Nat :=
  (List.range MAX_ENDPOINT_NUMBER).filter fun i => (slots i).enable

/-- While the table is there, the indexes in the queue and the ones of the enabled slots are all
the indexes, each once. No two endpoints have the same index. -/
structure Partitioned (d : DirectIODispatcher) : Prop where
  indexes : ∀ slots ∈ d.endpoint_slot_array,
    (d.available_endpoint_slot ++ enabledSlots slots).Perm (List.range MAX_ENDPOINT_NUMBER)
  routes : ∀ p q e f, d.endpoints.lookup p = some e → d.endpoints.lookup q = some f →
    e.endpoint_route_index = f.endpoint_route_index → p = q

theorem Kept.partitioned (hk : Kept d) : Partitioned d := by
  constructor
  · intro slots hslots
    obtain ⟨hnodup, hfree⟩ := hk.free slots hslots
    have hmem : ∀ i,
        i ∈ enabledSlots slots ↔ i < MAX_ENDPOINT_NUMBER ∧ (slots i).enable = true := by
      intro i
      rw [enabledSlots, List.mem_filter, List.mem_range]
    have hall : (d.available_endpoint_slot ++ enabledSlots slots).Nodup := by
      rw [List.nodup_append]
      refine ⟨hnodup, List.nodup_range.filter _, ?_⟩
      rintro i hi j hj rfl
      have hdisabled := ((hfree i).mp hi).2
      rw [((hmem i).mp hj).2] at hdisabled
      cases hdisabled
    refine (List.perm_ext_iff_of_nodup hall List.nodup_range).mpr fun i => ?_
    rw [List.mem_append, hfree, hmem, List.mem_range]
    cases (slots i).enable <;> simp
  · intro p q e f he hf hroute
    obtain ⟨slots, hslots, hp⟩ := hk.owned p e he
    obtain ⟨slots', hslots', hq⟩ := hk.owned q f hf
    rw [hslots] at hslots'
    cases hslots'
    rw [hroute, hq] at hp
    cases hp
    rfl

/-- In every run in which each life starts with an empty queue, the free and the enabled slots
are a partition of the table. -/
theorem slots_are_partitioned {es : List DispatcherEvent}
    (hok : RunOk dispatcherStep dispatcherOk DirectIODispatcher.new es)
    (hd : run dispatcherStep DirectIODispatcher.new es = some d) : Partitioned d :=
  (run_keeps_of_ok Kept (fun _ e _ hk hok h => hk.step e hok h) kept_new hok hd).partitioned

instance (d : DirectIODispatcher) (e : DispatcherEvent) : Decidable (dispatcherOk d e) :=
  match e with
  | .init _ => inferInstanceAs (Decidable (_ → _))
  | .start | .stop | .deinit | .getNewEndpoint _ | .releaseEndpoint _
  | .registerChannelInstance _ _ | .deregisterChannelInstance _ _ => isTrue trivial

def threeEndpointsRun : List DispatcherEvent :=
  [.init true, .start, .getNewEndpoint 1, .getNewEndpoint 2, .releaseEndpoint (some 1),
    .getNewEndpoint 3, .stop]

theorem slots_of_three_endpoints :
    ∃ d, run dispatcherStep DirectIODispatcher.new threeEndpointsRun = some d ∧
      d.endpoints.keys = [3, 2] ∧ Partitioned d := by
  have hrun : (run dispatcherStep DirectIODispatcher.new threeEndpointsRun).any
      (fun d => decide (d.endpoints.keys = [3, 2])) = true := by decide +kernel
  obtain ⟨d, hd, hkeys⟩ := (Option.any_eq_true _ _).mp hrun
  exact ⟨d, hd, of_decide_eq_true hkeys, slots_are_partitioned (by decide +kernel) hd⟩

/-- The second life has each index in the queue twice. -/
theorem second_life_repeats_indexes :
    ∃ d, run dispatcherStep DirectIODispatcher.new [.init true, .deinit, .init true] = some d ∧
      ¬ Partitioned d := by
  have hrun : (run dispatcherStep DirectIODispatcher.new [.init true, .deinit, .init true]).any
      (fun d => decide (d.available_endpoint_slot.length = 512 ∧ d.endpoint_slot_array.isSome)) =
        true := by decide +kernel
  obtain ⟨d, hd, hlong⟩ := (Option.any_eq_true _ _).mp hrun
  obtain ⟨hlen, hslots⟩ := of_decide_eq_true hlong
  obtain ⟨slots, hslots⟩ := Option.isSome_iff_exists.mp hslots
  refine ⟨d, hd, fun hpart => ?_⟩
  have := (hpart.indexes slots hslots).length_eq
  rw [List.length_append, hlen, List.length_range] at this
  unfold MAX_ENDPOINT_NUMBER at this
  omega

end chaos.common.direct_io
