-- The laws of the numbers of the sandboxes. The keys of the map are the numbers from 1 on, as
-- long as no call goes through the index operator of the map with a number that is not there.
import Mathlib.Data.List.Nodup
import Mathlib.Data.List.Perm.Subperm
import Chaos.SandboxMap

namespace chaos.batch_command

open chaos.utility pointer_map runs

open BatchCommandExecutor (COMMAND_BASE_SANDOXX_ID Submission)

/-! ## What is claimed -/

/-- The keys are the numbers from 1 to the size of the map, and no entry is NULL. -/
structure Numbered (m : PointerMap UInt32 String) : Prop where
  mem_iff : ∀ key : UInt32, key ∈ m ↔ 1 ≤ key.toNat ∧ key.toNat ≤ m.size
  present : ∀ key : UInt32, m[key]? ≠ some none

/-- The channel that a request names, or takes where it names none. -/
def SandboxMapCall.channel : SandboxMapCall → Option UInt32
  | .submitCommand (some d) => some (d.execution_channel.getD COMMAND_BASE_SANDOXX_ID)
  | .setCommandFeatures (some channel) _ => some (channel.getD COMMAND_BASE_SANDOXX_ID)
  | .setCommandFeaturesLocal | .killCurrentCommand => some COMMAND_BASE_SANDOXX_ID
  | _ => none

namespace SandboxExecutor

/-- The number of a sandbox of the executor. -/
def HasChannel (e : SandboxExecutor) (channel : UInt32) : Prop :=
  1 ≤ channel.toNat ∧ channel.toNat ≤ e.sandbox_map.size

/-- What a call must do: the map stays numbered, and a request for a channel that the executor
does not have throws and leaves the executor as it is. -/
structure KeepsNumbers (e : SandboxExecutor) (c : SandboxMapCall) : Prop where
  numbered : Numbered (e.call c).1.sandbox_map
  refused : ∀ channel, c.channel = some channel → ¬ e.HasChannel channel →
    ∃ ex, e.call c = (e, .error (.thrown ex))

/-- Does `init` come to the default command, with an instance of it? -/
def ReachesDefault (e : SandboxExecutor) (w : HookAnswers) : Prop :=
  w.cache = .ok () ∧ callSandboxes w.sandboxes e.initMap.sandbox_map.toList = .ok () ∧
    e.default_command_alias ≠ "" ∧ w.instanced = true

/-- The condition on a call: it adds no more sandboxes than there are numbers, and it does not
use a channel that is not there with the index operator of the map. -/
def ChannelIsThere (e : SandboxExecutor) : SandboxMapCall → Prop
  | .addSandboxInstance sandbox_number => e.sandbox_map.size + sandbox_number.toNat < 2 ^ 32
  | .drive .init _ w =>
    (process_event e.service.state_machine .init).isSome → e.ReachesDefault w →
      e.initMap.HasChannel e.default_command_sandbox_instance
  | .setCommandFeatures (some channel) _ =>
    e.sandbox_map.size ≠ 0 → e.HasChannel (channel.getD COMMAND_BASE_SANDOXX_ID)
  | .setCommandFeaturesLocal | .killCurrentCommand => e.HasChannel COMMAND_BASE_SANDOXX_ID
  | _ => True

end SandboxExecutor

/-! ## The map -/

variable {m : PointerMap UInt32 String} {key : UInt32} {v : Option String}

theorem Numbered.empty : Numbered ∅ := by
  constructor
  · intro key
    simp
    omega
  · simp

/-- The index operator, with a key that is there. -/
theorem Numbered.touched_of_mem (h : Numbered m) (hmem : key ∈ m) : Numbered (touched m key) := by
  constructor
  · intro k
    rw [mem_touched_of_mem hmem, size_touched_of_mem hmem]
    exact h.mem_iff k
  · intro k
    rw [getElem?_touched_of_mem hmem]
    exact h.present k

/-- A key that is not there yet, and is the next one. -/
theorem Numbered.insertIfNew_next (h : Numbered m) (hkey : key.toNat = m.size + 1)
    (hv : v ≠ none) : Numbered (m.insertIfNew key v) ∧ (m.insertIfNew key v).size = m.size + 1 := by
  have hnew : key ∉ m := by
    rw [h.mem_iff]
    omega
  have hsize : (m.insertIfNew key v).size = m.size + 1 := by
    rw [Std.TreeMap.size_insertIfNew, if_neg hnew]
  refine ⟨⟨?_, ?_⟩, hsize⟩
  · intro k
    rw [Std.TreeMap.mem_insertIfNew, hsize, h.mem_iff, Std.LawfulEqCmp.compare_eq_iff_eq,
      ← UInt32.toNat_inj]
    omega
  · intro k
    rw [Std.TreeMap.getElem?_insertIfNew]
    split
    · simpa using hv
    · exact h.present k

/-- There are fewer sandboxes than 32 bit numbers. -/
theorem Numbered.size_lt (h : Numbered m) : m.size < 2 ^ 32 := by
  have hnodup : (m.keys.map UInt32.toNat).Nodup :=
    List.Nodup.map (fun _ _ => UInt32.toNat.inj) Std.TreeMap.nodup_keys
  have hsub : m.keys.map UInt32.toNat ⊆ List.range' 1 (2 ^ 32 - 1) := by
    intro n hn
    obtain ⟨k, hk, rfl⟩ := List.mem_map.mp hn
    have hpos := (h.mem_iff k).mp (Std.TreeMap.mem_keys.mp hk)
    have hlt := k.toNat_lt
    rw [List.mem_range'_1]
    omega
  have hle := (hnodup.subperm hsub).length_le
  rw [List.length_map, Std.TreeMap.length_keys, List.length_range'] at hle
  omega

namespace SandboxExecutor

variable {e : SandboxExecutor}

/-! ## New sandboxes -/

theorem addNewSandboxInstance_numbered (h : Numbered e.sandbox_map)
    (hlt : e.sandbox_map.size + 1 < 2 ^ 32) :
    Numbered e.addNewSandboxInstance.sandbox_map ∧
      e.addNewSandboxInstance.sandbox_map.size = e.sandbox_map.size + 1 := by
  refine h.insertIfNew_next ?_ (Option.some_ne_none _)
  rw [UInt32.toNat_add, UInt32.toNat_ofNat_of_lt' (Nat.lt_of_succ_lt hlt)]
  exact Nat.mod_eq_of_lt hlt

theorem iterate_numbered {n : Nat} (h : Numbered e.sandbox_map)
    (hlt : e.sandbox_map.size + n < 2 ^ 32) :
    Numbered (addNewSandboxInstance^[n] e).sandbox_map ∧
      (addNewSandboxInstance^[n] e).sandbox_map.size = e.sandbox_map.size + n := by
  induction n with
  | zero => exact ⟨h, rfl⟩
  | succ n ih =>
    obtain ⟨hn, hsize⟩ := ih (by omega)
    rw [Function.iterate_succ_apply']
    have hnext := addNewSandboxInstance_numbered hn (by omega)
    exact ⟨hnext.1, by omega⟩

/-- With all the numbers given, the next one is 0. -/
theorem zero_mem_addNewSandboxInstance (hsize : e.sandbox_map.size = 2 ^ 32 - 1) :
    0 ∈ e.addNewSandboxInstance.sandbox_map := by
  refine Std.TreeMap.mem_insertIfNew.mpr (.inl ?_)
  rw [hsize]
  rfl

theorem mem_iterate {key : UInt32} (hmem : key ∈ e.sandbox_map) (n : Nat) :
    key ∈ (addNewSandboxInstance^[n] e).sandbox_map := by
  induction n with
  | zero => exact hmem
  | succ n ih =>
    rw [Function.iterate_succ_apply']
    exact Std.TreeMap.mem_insertIfNew.mpr (.inr ih)

theorem addSandboxInstance_numbered_iff (h : Numbered e.sandbox_map) (sandbox_number : UInt32) :
    Numbered (e.addSandboxInstance sandbox_number).sandbox_map ↔
      e.sandbox_map.size + sandbox_number.toNat < 2 ^ 32 := by
  refine ⟨?_, fun hlt => (iterate_numbered h hlt).1⟩
  intro hadded
  by_contra hge
  have hsmall := h.size_lt
  obtain ⟨j, hj⟩ : ∃ j, sandbox_number.toNat = j + 1 + (2 ^ 32 - 1 - e.sandbox_map.size) :=
    ⟨sandbox_number.toNat - (2 ^ 32 - e.sandbox_map.size), by omega⟩
  have hfull := (iterate_numbered (n := 2 ^ 32 - 1 - e.sandbox_map.size) h (by omega)).2
  have hzero := mem_iterate (zero_mem_addNewSandboxInstance (hfull.trans (by omega))) j
  rw [← Function.iterate_succ_apply, ← Function.iterate_add_apply, ← hj] at hzero
  have hpos := ((hadded.mem_iff 0).mp hzero).1
  exact absurd hpos (by decide)

/-! ## The index operator -/

theorem hasChannel_iff (h : Numbered e.sandbox_map) (channel : UInt32) :
    e.HasChannel channel ↔ channel ∈ e.sandbox_map := (h.mem_iff channel).symm

/-- The operator keeps the numbers just when the channel is there. -/
theorem index_numbered_iff (h : Numbered e.sandbox_map) (channel : UInt32) :
    Numbered (e.index channel).1.sandbox_map ↔ e.HasChannel channel := by
  rw [hasChannel_iff h]
  refine ⟨?_, fun hmem => h.touched_of_mem hmem⟩
  intro hnumbered
  by_contra hmem
  exact hnumbered.present channel (getElem?_touched_self hmem)

/-! ## The drivers -/

theorem initMap_numbered (h : Numbered e.sandbox_map) : Numbered e.initMap.sandbox_map := by
  unfold initMap
  dsimp only
  split
  · rename_i hempty
    have hsize : e.sandbox_map.size + 1 < 2 ^ 32 := by
      rw [show e.sandbox_map.size = 0 from hempty]
      decide
    exact (addNewSandboxInstance_numbered (e := { e with command_sequence_id := 0 }) h hsize).1
  · exact h

theorem initMap_default (e : SandboxExecutor) :
    e.initMap.default_command_alias = e.default_command_alias ∧
      e.initMap.default_command_sandbox_instance = e.default_command_sandbox_instance := by
  unfold initMap
  dsimp only
  split <;> exact ⟨rfl, rfl⟩

theorem initDefault_numbered_iff (h : Numbered e.sandbox_map) (instanced : Bool) :
    Numbered (e.initDefault instanced).1.sandbox_map ↔
      (e.default_command_alias ≠ "" ∧ instanced = true →
        e.HasChannel e.default_command_sandbox_instance) := by
  unfold initDefault
  split
  · rename_i halias
    exact iff_of_true h fun hset => absurd halias hset.1
  · rename_i halias
    split
    · rename_i hinstanced
      have hindex := index_numbered_iff (e := { e with command_sequence_id := 1 }) h
        e.default_command_sandbox_instance
      exact hindex.trans ⟨fun hhas _ => hhas, fun hset => hset ⟨halias, hinstanced⟩⟩
    · rename_i hinstanced
      exact iff_of_true h fun hset => absurd hset.2 hinstanced

/-- The default command goes to a sandbox that is there. -/
theorem init_numbered_iff (h : Numbered e.sandbox_map) (w : HookAnswers) :
    Numbered (e.init w).1.sandbox_map ↔
      (e.ReachesDefault w → e.initMap.HasChannel e.default_command_sandbox_instance) := by
  have hmap := initMap_numbered h
  obtain ⟨halias, hinstance⟩ := initMap_default e
  unfold init ReachesDefault
  cases hcache : w.cache with
  | error ex => exact iff_of_true h fun hreach => by cases hreach.1
  | ok =>
    dsimp only
    cases hcall : callSandboxes w.sandboxes e.initMap.sandbox_map.toList with
    | error failure => exact iff_of_true hmap fun hreach => by cases hreach.2.1
    | ok =>
      refine (initDefault_numbered_iff hmap w.instanced).trans ?_
      rw [halias, hinstance]
      exact ⟨fun hdefault hreach => hdefault hreach.2.2, fun hdefault hset =>
        hdefault ⟨rfl, rfl, hset⟩⟩

theorem drive_sandbox_map (e : SandboxExecutor) (event : ServiceEvent) (domainString : String)
    (w : HookAnswers) :
    (e.drive event domainString w).1.sandbox_map =
      if (process_event e.service.state_machine event).isSome then
        (e.hook w event).1.sandbox_map
      else e.sandbox_map := by
  unfold drive
  split
  · dsimp only
    split <;> rfl
  · rfl

/-- Only `init` puts something into the map. -/
theorem drive_numbered_iff (h : Numbered e.sandbox_map) (event : ServiceEvent)
    (domainString : String) (w : HookAnswers) :
    Numbered (e.drive event domainString w).1.sandbox_map ↔
      e.ChannelIsThere (.drive event domainString w) := by
  rw [drive_sandbox_map]
  cases event with
  | init =>
    dsimp only [ChannelIsThere]
    split
    · rename_i hsome
      exact (init_numbered_iff h w).trans ⟨fun hinit _ => hinit, fun hinit => hinit hsome⟩
    · rename_i hnone
      exact iff_of_true h fun hsome => absurd hsome hnone
  | deinit | start | stop =>
    refine iff_of_true ?_ trivial
    split <;> exact h

/-! ## The requests -/

/-- A submission for a channel that is not there throws before it touches the map. -/
theorem submitCommand_refused (h : Numbered e.sandbox_map) {d : Submission}
    (hchannel : ¬ e.HasChannel (d.execution_channel.getD COMMAND_BASE_SANDOXX_ID)) :
    ∃ ex, e.submitCommand (some d) = (e, .error (.thrown ex)) := by
  rw [hasChannel_iff h] at hchannel
  unfold submitCommand
  dsimp only
  rw [if_neg hchannel]
  split <;> exact ⟨_, rfl⟩

theorem submitCommand_numbered (h : Numbered e.sandbox_map)
    (commandDescription : Option Submission) :
    Numbered (e.submitCommand commandDescription).1.sandbox_map := by
  cases commandDescription with
  | none => exact h
  | some d =>
    unfold submitCommand
    dsimp only
    split
    · exact h
    · split
      · rename_i hmem
        split <;> exact h.touched_of_mem hmem
      · exact h

/-- A request that goes through the index operator. -/
theorem setCommandFeatures_numbered_iff (h : Numbered e.sandbox_map) (channel : Option UInt32)
    (running : Bool) :
    Numbered (e.setCommandFeatures (some channel) running).1.sandbox_map ↔
      e.ChannelIsThere (.setCommandFeatures (some channel) running) := by
  unfold setCommandFeatures ChannelIsThere
  dsimp only
  split
  · rename_i hempty
    exact iff_of_true h fun hsome => absurd hempty hsome
  · rename_i hsome
    have hindex := index_numbered_iff h (channel.getD COMMAND_BASE_SANDOXX_ID)
    rw [forall_prop_of_true hsome, ← hindex]
    split <;> rfl

/-! ## Every call -/

/-- A call keeps the numbers just when it does not use a channel that is not there. -/
theorem keepsNumbers_iff (h : Numbered e.sandbox_map) (c : SandboxMapCall) :
    e.KeepsNumbers c ↔ e.ChannelIsThere c := by
  have hbase := index_numbered_iff h COMMAND_BASE_SANDOXX_ID
  cases c with
  | addSandboxInstance n =>
    refine Iff.trans ?_ (addSandboxInstance_numbered_iff h n)
    exact ⟨KeepsNumbers.numbered, fun hn => ⟨hn, nofun⟩⟩
  | drive event domainString w =>
    refine Iff.trans ?_ (drive_numbered_iff h event domainString w)
    exact ⟨KeepsNumbers.numbered, fun hn => ⟨hn, nofun⟩⟩
  | setDefaultCommand command_alias sandbox_instance =>
    refine iff_of_true ⟨?_, nofun⟩ trivial
    unfold call setDefaultCommand
    dsimp only
    split <;> exact h
  | submitCommand commandDescription =>
    refine iff_of_true ⟨submitCommand_numbered h commandDescription, ?_⟩ trivial
    intro channel hnamed hchannel
    cases commandDescription with
    | none => cases hnamed
    | some d =>
      cases hnamed
      exact submitCommand_refused h hchannel
  | setCommandFeatures params running =>
    cases params with
    | none => exact iff_of_true ⟨h, nofun⟩ trivial
    | some channel =>
      refine Iff.trans ?_ (setCommandFeatures_numbered_iff h channel running)
      refine ⟨KeepsNumbers.numbered, fun hn => ⟨hn, ?_⟩⟩
      rintro - ⟨⟩ hchannel
      refine ⟨_, if_pos ?_⟩
      by_contra hsome
      exact hchannel ((setCommandFeatures_numbered_iff h channel running).mp hn hsome)
  | setCommandFeaturesLocal | killCurrentCommand =>
    refine Iff.trans ?_ hbase
    refine ⟨KeepsNumbers.numbered, fun hn => ⟨hn, ?_⟩⟩
    rintro - ⟨⟩ hchannel
    exact absurd (hbase.mp hn) hchannel

theorem step_eq_call {e' : SandboxExecutor} {c : SandboxMapCall} (h : e.step c = some e') :
    e' = (e.call c).1 := by
  unfold step at h
  split at h
  · cases h
  · rename_i heq
    cases h
    rw [heq]

/-- The sandboxes of an executor stay numbered in just the runs that use no channel that is not
there. -/
theorem sandboxes_are_numbered_iff (executorID : String) (calls : List SandboxMapCall) :
    RunOk step KeepsNumbers (create executorID) calls ↔
      RunOk step ChannelIsThere (create executorID) calls := by
  refine runOk_congr (fun e => Numbered e.sandbox_map) (fun e c h => keepsNumbers_iff h c) ?_
    Numbered.empty
  rintro e c e' - hok hstep
  rw [step_eq_call hstep]
  exact hok.numbered

/-- A request for the features of a channel that is not there, and the default command of a
sandbox that is not there, each leave a NULL pointer in the map. -/
theorem index_operator_inserts_null :
    ¬ RunOk step KeepsNumbers (create "executor")
        [.addSandboxInstance 1, .setCommandFeatures (some (some 7)) true] ∧
      ¬ RunOk step KeepsNumbers (create "executor")
        [.setDefaultCommand "acquire" 2, .drive .init "" ⟨.ok (), fun _ => .ok (), true⟩] ∧
      ¬ RunOk step KeepsNumbers (create "executor") [.killCurrentCommand] := by
  refine ⟨?_, ?_, ?_⟩
  · rintro ⟨-, hrest⟩
    exact (hrest _ rfl).1.numbered.present 7 rfl
  · rintro ⟨-, hrest⟩
    exact (hrest _ rfl).1.numbered.present 2 rfl
  · rintro ⟨hkill, -⟩
    exact hkill.numbered.present 1 rfl

end SandboxExecutor

end chaos.batch_command
