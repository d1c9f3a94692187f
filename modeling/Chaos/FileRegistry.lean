-- The registry of the virtual files: a table of the open files for each path, which the four gets
-- fill and the release empties. A get files its file under a path of its own choice, the release
-- looks for the path that the file made for itself.
import Chaos.BlockSelection
import Chaos.Decimals
import Chaos.Runs

namespace chaos.data_service.vfs

open runs

/-! ## The files -/

structure VFSFileInfo where
  vfs_fpath : List Char
  identify_key : List Char := []
  deriving DecidableEq, Repr

/-- The constructor of a file puts the area before a path that does not start with it. -/
def areaPath (area vfs_fpath : List Char) : List Char :=
  if area <:+: vfs_fpath.take area.length then vfs_fpath else area ++ '/' :: vfs_fpath

/-- `boost::format("%1%_%2%")`. -/
def identifyKey (vfs_fpath : List Char) (instance_counter : UInt32) : List Char :=
  vfs_fpath ++ '_' :: Nat.toDigits 10 instance_counter.toNat

/-- The files of one path, by their keys. -/
structure VFSFilesForPath where
  instance_counter : UInt32 := 0
  map_logical_files : List Char → Option Nat := fun _ => none

/-- A file is named by its number, and `none` once it is deleted. `handed_out` is not in the code:
the files that a get gave out and that were not released. -/
structure VFSManager where
  organizer_map : List Char → Option VFSFilesForPath := fun _ => none
  files : List (Option VFSFileInfo) := []
  handed_out : List Nat := []

namespace VFSManager

/-! ## The calls -/

/-- The common part of the gets: a new file with the path `vfs_fpath`, filed under `key_path`. When
its directory could not be made the file is left behind, and the caller does not get it. `insert`
leaves a key that is there as it is. -/
def get (s : VFSManager) (vfs_fpath key_path : List Char) (created : Bool) : VFSManager × Int :=
  if created then
    let files_for_path := (s.organizer_map key_path).getD {}
    let identify_key := identifyKey key_path files_for_path.instance_counter
    let map_logical_files :=
      if (files_for_path.map_logical_files identify_key).isSome then
        files_for_path.map_logical_files
      else Function.update files_for_path.map_logical_files identify_key (some s.files.length)
    ({ organizer_map := Function.update s.organizer_map key_path (some
          { instance_counter := files_for_path.instance_counter + 1, map_logical_files })
       files := s.files ++ [some { vfs_fpath, identify_key }]
       handed_out := s.handed_out ++ [s.files.length] }, 0)
  else ({ s with files := s.files ++ [some { vfs_fpath }] }, -2)

/-- `getFile` files under the path as it was given. -/
def getFile (s : VFSManager) (area vfs_fpath : List Char) (created : Bool) : VFSManager × Int :=
  s.get (areaPath area vfs_fpath) vfs_fpath created

/-- The other gets file under the path that the file has. -/
def getAreaFile (s : VFSManager) (area relative_path : List Char) (created : Bool) :
    VFSManager × Int :=
  s.get (areaPath area relative_path) (areaPath area relative_path) created

def getWriteableStageFile (s : VFSManager) (stage_vfs_relative_path : List Char) (good : Bool) :
    VFSManager × Int :=
  s.getAreaFile VFS_STAGE_AREA.toList stage_vfs_relative_path good

def getReadableStageFile (s : VFSManager) (stage_vfs_relative_path : List Char) (good : Bool) :
    VFSManager × Int :=
  s.getAreaFile VFS_STAGE_AREA.toList stage_vfs_relative_path good

def getWriteableDataFile (s : VFSManager) (data_vfs_relative_path : List Char) (good : Bool) :
    VFSManager × Int :=
  s.getAreaFile VFS_DATA_AREA.toList data_vfs_relative_path good

/-- A file that is deleted cannot be used. -/
def releaseFile (s : VFSManager) (l_file : Nat) : Option (VFSManager × Int) :=
  match s.files[l_file]? with
  | some (some info) =>
    match s.organizer_map info.vfs_fpath with
    | none => some (s, -1)
    | some files_for_path =>
      let map_logical_files :=
        Function.update files_for_path.map_logical_files info.identify_key none
      some ({ organizer_map := Function.update s.organizer_map info.vfs_fpath
                (some { files_for_path with map_logical_files })
              files := s.files.set l_file none
              handed_out := s.handed_out.filter fun n => n ≠ l_file }, 0)
  | _ => none

/-- `created` and `good` say whether the directory of the file could be made. -/
inductive Call where
  | getFile (area vfs_fpath : List Char) (created : Bool)
  | getWriteableStageFile (stage_vfs_relative_path : List Char) (good : Bool)
  | getReadableStageFile (stage_vfs_relative_path : List Char) (good : Bool)
  | getWriteableDataFile (data_vfs_relative_path : List Char) (good : Bool)
  | releaseFile (l_file : Nat)
  deriving DecidableEq, Repr

/-- Only a file that was handed out and not released can be released. -/
def call (s : VFSManager) : Call → Option (VFSManager × Int)
  | .getFile area vfs_fpath created => some (s.getFile area vfs_fpath created)
  | .getWriteableStageFile path good => some (s.getWriteableStageFile path good)
  | .getReadableStageFile path good => some (s.getReadableStageFile path good)
  | .getWriteableDataFile path good => some (s.getWriteableDataFile path good)
  | .releaseFile l_file => if l_file ∈ s.handed_out then s.releaseFile l_file else none

def step (s : VFSManager) (c : Call) : Option VFSManager := (s.call c).map Prod.fst

/-! ## What is claimed -/

/-- The file is in the table of the path, under the key. -/
def IsRegistered (s : VFSManager) (vfs_fpath identify_key : List Char) (n : Nat) : Prop :=
  ∃ files_for_path, s.organizer_map vfs_fpath = some files_for_path ∧
    files_for_path.map_logical_files identify_key = some n

/-- The registry holds the files that are handed out, each under its path and its key, and no two
of them have one key. -/
structure RegistryOk (s : VFSManager) : Prop where
  registered_iff : ∀ path key n, s.IsRegistered path key n ↔
    n ∈ s.handed_out ∧ s.files[n]? = some (some ⟨path, key⟩)
  handed_out_alive : ∀ n ∈ s.handed_out, ∃ info, s.files[n]? = some (some info)
  keys_apart : ∀ n ∈ s.handed_out, ∀ m ∈ s.handed_out, ∀ path path' key,
    s.files[n]? = some (some ⟨path, key⟩) → s.files[m]? = some (some ⟨path', key⟩) → n = m

/-- One file is taken out of the registry and deleted, and no other. -/
structure Removes (s : VFSManager) (l_file : Nat) (t : VFSManager) : Prop where
  registered_iff : ∀ path key n, t.IsRegistered path key n ↔
    s.IsRegistered path key n ∧ n ≠ l_file
  files : t.files = s.files.set l_file none
  handed_out_iff : ∀ n, n ∈ t.handed_out ↔ n ∈ s.handed_out ∧ n ≠ l_file

/-- A release succeeds and removes its file, and a get that fails leaves the registry alone. -/
def Answers (s : VFSManager) (t : VFSManager) (result : Int) : Call → Prop
  | .releaseFile l_file => result = 0 ∧ s.Removes l_file t
  | _ => result ≠ 0 → t.organizer_map = s.organizer_map ∧ t.handed_out = s.handed_out

/-- The call leaves the registry as it should be, and answers as it should. -/
def IsCorrect (s : VFSManager) (c : Call) : Prop :=
  ∀ t result, s.call c = some (t, result) → t.RegistryOk ∧ s.Answers t result c

/-- The next key of the path is not in use. The counter comes back to a number after `2 ^ 32` files
of one path. -/
def KeyIsFree (s : VFSManager) (key_path : List Char) : Prop :=
  ∀ files_for_path, s.organizer_map key_path = some files_for_path →
    files_for_path.map_logical_files (identifyKey key_path files_for_path.instance_counter) = none

/-- A file that `getFile` gives out has a path that starts with its area, and every file that is
given out gets a key that is not in use. -/
def GetsOwnPlace (s : VFSManager) : Call → Prop
  | .getFile area vfs_fpath created =>
    created = true → area <+: vfs_fpath ∧ s.KeyIsFree vfs_fpath
  | .getWriteableStageFile path good | .getReadableStageFile path good =>
    good = true → s.KeyIsFree (areaPath VFS_STAGE_AREA.toList path)
  | .getWriteableDataFile path good =>
    good = true → s.KeyIsFree (areaPath VFS_DATA_AREA.toList path)
  | .releaseFile _ => True

variable {s t : VFSManager} {path key vfs_fpath key_path : List Char} {n : Nat} {result : Int}

/-! ## Paths and keys -/

theorem areaPath_eq_iff {area : List Char} : areaPath area path = path ↔ area <+: path := by
  have htake : area <:+: path.take area.length ↔ area <+: path := by
    constructor
    · intro hinfix
      have hwhole := hinfix.sublist.eq_of_length_le
        (List.length_take_le area.length path)
      exact List.prefix_iff_eq_take.mpr hwhole
    · intro hprefix
      rw [← List.prefix_iff_eq_take.mp hprefix]
  unfold areaPath
  split
  · rename_i hprefix
    exact iff_of_true rfl (htake.mp hprefix)
  · rename_i hnot
    refine iff_of_false (fun heq => ?_) (fun hprefix => hnot (htake.mpr hprefix))
    have hlength := congrArg List.length heq
    simp only [List.length_append, List.length_cons] at hlength
    omega

theorem identifyKey_inj {c c' : UInt32} :
    identifyKey path c = identifyKey key c' ↔ path = key ∧ c = c' := by
  unfold identifyKey
  rw [decimals.append_toDigits_inj rfl, UInt32.toNat_inj]

/-! ## The invariant -/

/-- The keys of the files that are handed out are made from their paths. -/
structure Inv (s : VFSManager) : Prop where
  ok : s.RegistryOk
  key_of_path : ∀ n ∈ s.handed_out, ∀ path key, s.files[n]? = some (some ⟨path, key⟩) →
    ∃ c, key = identifyKey path c

theorem Inv.lt_length (h : s.Inv) (hn : n ∈ s.handed_out) : n < s.files.length := by
  obtain ⟨info, hinfo⟩ := h.ok.handed_out_alive n hn
  exact (List.getElem?_eq_some_iff.mp hinfo).1

/-- What a get does with the registry when its key is free. -/
theorem isRegistered_get (hfree : s.KeyIsFree key_path) :
    (s.get vfs_fpath key_path true).1.IsRegistered path key n ↔
      s.IsRegistered path key n ∨ path = key_path ∧ n = s.files.length ∧
        key = identifyKey key_path ((s.organizer_map key_path).getD {}).instance_counter := by
  have hnone : ((s.organizer_map key_path).getD {}).map_logical_files
      (identifyKey key_path ((s.organizer_map key_path).getD {}).instance_counter) = none := by
    cases hmap : s.organizer_map key_path with
    | none => rfl
    | some files_for_path => exact hfree files_for_path hmap
  simp only [get, if_true, IsRegistered, hnone, Option.isSome_none, Bool.false_eq_true, if_false]
  by_cases hpath : path = key_path
  · subst hpath
    simp only [Function.update_self, Option.some.injEq, exists_eq_left', true_and]
    have hbefore : (∃ files_for_path, s.organizer_map path = some files_for_path ∧
        files_for_path.map_logical_files key = some n) ↔
        ((s.organizer_map path).getD {}).map_logical_files key = some n := by
      cases s.organizer_map path with
      | none => simp
      | some files_for_path => simp
    rw [hbefore, Function.update_apply]
    split
    · rename_i hkey
      subst hkey
      rw [hnone]
      simp [eq_comm]
    · rename_i hkey
      simp [hkey]
  · simp [hpath]

/-- The files that are handed out after a get: those from before it, and the new one. -/
theorem Inv.handed_out_get (h : s.Inv) :
    n ∈ (s.get vfs_fpath key_path true).1.handed_out ∧
        (s.get vfs_fpath key_path true).1.files[n]? = some (some ⟨path, key⟩) ↔
      (n ∈ s.handed_out ∧ s.files[n]? = some (some ⟨path, key⟩)) ∨
        n = s.files.length ∧ path = vfs_fpath ∧
          key = identifyKey key_path ((s.organizer_map key_path).getD {}).instance_counter := by
  simp only [VFSManager.get, if_true, List.mem_append, List.mem_singleton,
    numbered_list.getElem?_concat_eq_some, Option.some.injEq, VFSFileInfo.mk.injEq]
  constructor
  · rintro ⟨hn | rfl, hinfo | ⟨hlast, hnew⟩⟩
    · exact Or.inl ⟨hn, hinfo⟩
    · exact absurd hlast (Nat.ne_of_lt (h.lt_length hn))
    · rw [List.getElem?_eq_none (Nat.le_refl _)] at hinfo
      cases hinfo
    · exact Or.inr ⟨rfl, hnew⟩
  · rintro (⟨hn, hinfo⟩ | ⟨rfl, hnew⟩)
    · exact ⟨Or.inl hn, Or.inl hinfo⟩
    · exact ⟨Or.inr rfl, Or.inr ⟨rfl, hnew⟩⟩

/-- A free key is not the one of an older file. -/
theorem Inv.key_ne (h : s.Inv) (hfree : s.KeyIsFree key_path) (hn : n ∈ s.handed_out)
    (hinfo : s.files[n]? = some (some ⟨path, key⟩)) :
    key ≠ identifyKey key_path ((s.organizer_map key_path).getD {}).instance_counter := by
  rintro rfl
  obtain ⟨c, hc⟩ := h.key_of_path n hn path _ hinfo
  obtain ⟨rfl, -⟩ := identifyKey_inj.mp hc
  obtain ⟨files_for_path, hmap, hregistered⟩ := (h.ok.registered_iff _ _ _).mpr ⟨hn, hinfo⟩
  rw [hmap, Option.getD_some, hfree files_for_path hmap] at hregistered
  cases hregistered

/-- A get with a free key gives the file a place of its own. -/
theorem Inv.get (h : s.Inv) (hfree : s.KeyIsFree path) : (s.get path path true).1.Inv := by
  constructor
  · constructor
    case registered_iff =>
      intro q k n
      rw [isRegistered_get hfree, h.ok.registered_iff, h.handed_out_get]
      refine or_congr_right ?_
      exact ⟨fun ⟨hq, hn, hk⟩ => ⟨hn, hq, hk⟩, fun ⟨hn, hq, hk⟩ => ⟨hq, hn, hk⟩⟩
    case handed_out_alive =>
      intro n hn
      rcases List.mem_append.mp hn with hn | hn
      · obtain ⟨info, hinfo⟩ := h.ok.handed_out_alive n hn
        exact ⟨info, numbered_list.getElem?_append_of_some hinfo _⟩
      · rw [List.mem_singleton.mp hn]
        exact ⟨_, List.getElem?_concat_length⟩
    case keys_apart =>
      intro n hn m hm q q' k hq hq'
      rcases h.handed_out_get.mp ⟨hn, hq⟩ with ⟨hn, hq⟩ | ⟨rfl, -, hk⟩ <;>
        rcases h.handed_out_get.mp ⟨hm, hq'⟩ with ⟨hm, hq'⟩ | ⟨rfl, -, hk'⟩
      · exact h.ok.keys_apart n hn m hm q q' k hq hq'
      · exact absurd hk' (h.key_ne hfree hn hq)
      · exact absurd hk (h.key_ne hfree hm hq')
      · rfl
  · intro n hn q k hq
    rcases h.handed_out_get.mp ⟨hn, hq⟩ with ⟨hn, hq⟩ | ⟨-, rfl, hk⟩
    · exact h.key_of_path n hn q k hq
    · exact ⟨_, hk⟩

theorem Inv.not_registered (h : s.Inv) : ¬ s.IsRegistered path key s.files.length := by
  intro hregistered
  exact Nat.lt_irrefl _ (h.lt_length ((h.ok.registered_iff _ _ _).mp hregistered).1)

/-- A file that is filed under another path, or under a key in use, is not where it should be. -/
theorem Inv.not_ok_get (h : s.Inv) (hplace : ¬ (vfs_fpath = key_path ∧ s.KeyIsFree key_path)) :
    ¬ (s.get vfs_fpath key_path true).1.RegistryOk := by
  intro hok
  -- the registry has the new file under its path
  obtain ⟨files_for_path, hmap, hregistered⟩ := (hok.registered_iff _ _ _).mpr
    (h.handed_out_get.mpr (Or.inr ⟨rfl, rfl, rfl⟩))
  simp only [VFSManager.get, if_true] at hmap
  by_cases hpath : vfs_fpath = key_path
  · subst hpath
    have hused : ((s.organizer_map vfs_fpath).getD {}).map_logical_files (identifyKey vfs_fpath
        ((s.organizer_map vfs_fpath).getD {}).instance_counter) ≠ none := by
      intro hnone
      refine hplace ⟨rfl, ?_⟩
      intro e he
      rw [he, Option.getD_some] at hnone
      exact hnone
    rw [Function.update_self, Option.some.injEq] at hmap
    subst hmap
    simp only [Option.isSome_iff_ne_none.mpr hused, if_true] at hregistered
    cases hfiles : s.organizer_map vfs_fpath with
    | none => exact hused (by rw [hfiles]; rfl)
    | some e =>
      rw [hfiles] at hregistered
      exact h.not_registered ⟨e, hfiles, hregistered⟩
  · rw [Function.update_of_ne hpath] at hmap
    exact h.not_registered ⟨files_for_path, hmap, hregistered⟩

/-- A get that fails makes a file that nobody has. -/
theorem Inv.get_failed (h : s.Inv) : (s.get vfs_fpath key_path false).1.Inv := by
  have hfiles : ∀ n ∈ s.handed_out,
      (s.get vfs_fpath key_path false).1.files[n]? = s.files[n]? := by
    intro n hn
    exact List.getElem?_append_left (h.lt_length hn)
  constructor
  · constructor
    case registered_iff =>
      intro q k n
      refine (h.ok.registered_iff q k n).trans (and_congr_right fun hn => ?_)
      rw [hfiles n hn]
    case handed_out_alive =>
      intro n hn
      rw [hfiles n hn]
      exact h.ok.handed_out_alive n hn
    case keys_apart =>
      intro n hn m hm q q' k hq hq'
      rw [hfiles n hn] at hq
      rw [hfiles m hm] at hq'
      exact h.ok.keys_apart n hn m hm q q' k hq hq'
  · intro n hn q k hq
    rw [hfiles n hn] at hq
    exact h.key_of_path n hn q k hq

/-- A release finds the file in the registry and takes it out. -/
theorem Inv.releaseFile (h : s.Inv) (hn : n ∈ s.handed_out) :
    ∃ t, s.releaseFile n = some (t, 0) ∧ t.Inv ∧ s.Removes n t := by
  obtain ⟨⟨path, key⟩, hinfo⟩ := h.ok.handed_out_alive n hn
  obtain ⟨files_for_path, hmap, hregistered⟩ := (h.ok.registered_iff _ _ _).mpr ⟨hn, hinfo⟩
  let t : VFSManager :=
    { organizer_map := Function.update s.organizer_map path (some { files_for_path with
        map_logical_files := Function.update files_for_path.map_logical_files key none })
      files := s.files.set n none
      handed_out := s.handed_out.filter fun m => m ≠ n }
  have ht : s.releaseFile n = some (t, 0) := by
    unfold VFSManager.releaseFile
    simp only [hinfo, hmap]
    rfl
  have hhanded : ∀ m, m ∈ t.handed_out ↔ m ∈ s.handed_out ∧ m ≠ n := by
    intro m
    exact List.mem_filter.trans (and_congr_right fun _ => decide_eq_true_iff)
  have hfiles : ∀ m, m ≠ n → t.files[m]? = s.files[m]? :=
    fun m hm => List.getElem?_set_ne (Ne.symm hm)
  have hremoved : ∀ q k m, t.IsRegistered q k m ↔ s.IsRegistered q k m ∧ m ≠ n := by
    intro q k m
    have hplace : s.IsRegistered q k n → q = path ∧ k = key := by
      intro hreg
      have hsame := ((h.ok.registered_iff q k n).mp hreg).2
      rw [hinfo] at hsame
      cases hsame
      exact ⟨rfl, rfl⟩
    by_cases hplaced : q = path ∧ k = key
    · obtain ⟨rfl, rfl⟩ := hplaced
      refine iff_of_false ?_ ?_
      · rintro ⟨e, he, hm⟩
        cases (Function.update_self q _ s.organizer_map).symm.trans he
        cases (Function.update_self k _ files_for_path.map_logical_files).symm.trans hm
      · rintro ⟨⟨e, he, hm⟩, hne⟩
        cases hmap.symm.trans he
        exact hne (Option.some.inj (hm.symm.trans hregistered))
    · have hsame : t.IsRegistered q k m ↔ s.IsRegistered q k m := by
        by_cases hq : q = path
        · subst hq
          have hk : k ≠ key := fun hk => hplaced ⟨rfl, hk⟩
          simp only [t, IsRegistered, Function.update_self, hmap, Option.some.injEq,
            exists_eq_left', Function.update_of_ne hk]
        · simp only [t, IsRegistered, Function.update_of_ne hq]
      rw [hsame]
      refine (and_iff_left_of_imp ?_).symm
      rintro hreg rfl
      exact hplaced (hplace hreg)
  refine ⟨t, ht, ⟨⟨?_, ?_, ?_⟩, ?_⟩, hremoved, rfl, hhanded⟩
  · intro q k m
    rw [hremoved, h.ok.registered_iff, hhanded, and_right_comm]
    refine and_congr_right fun hm => ?_
    rw [hfiles m hm.2]
  · intro m hm
    obtain ⟨hm, hne⟩ := (hhanded m).mp hm
    rw [hfiles m hne]
    exact h.ok.handed_out_alive m hm
  · intro m hm m' hm' q q' k hq hq'
    obtain ⟨hm, hne⟩ := (hhanded m).mp hm
    obtain ⟨hm', hne'⟩ := (hhanded m').mp hm'
    rw [hfiles m hne] at hq
    rw [hfiles m' hne'] at hq'
    exact h.ok.keys_apart m hm m' hm' q q' k hq hq'
  · intro m hm q k hq
    obtain ⟨hm, hne⟩ := (hhanded m).mp hm
    rw [hfiles m hne] at hq
    exact h.key_of_path m hm q k hq

/-! ## The steps -/

/-- A get is correct just when it fails, or files its file under its path and a free key. -/
theorem Inv.get_iff (h : s.Inv) (vfs_fpath key_path : List Char) (created : Bool) :
    (∀ t result, some (s.get vfs_fpath key_path created) = some (t, result) → t.RegistryOk ∧
        (result ≠ 0 → t.organizer_map = s.organizer_map ∧ t.handed_out = s.handed_out)) ↔
      (created = true → vfs_fpath = key_path ∧ s.KeyIsFree key_path) := by
  cases created with
  | false =>
    refine iff_of_true ?_ nofun
    intro t result ht
    cases ht
    have hfailed : (s.get vfs_fpath key_path false).1.Inv := h.get_failed
    exact ⟨hfailed.ok, fun _ => ⟨rfl, rfl⟩⟩
  | true =>
    constructor
    · intro hcorrect _
      by_contra hplace
      exact h.not_ok_get hplace (hcorrect _ _ rfl).1
    · intro hplace t result ht
      obtain ⟨rfl, hfree⟩ := hplace rfl
      cases ht
      exact ⟨(h.get hfree).ok, fun herr => absurd rfl herr⟩

theorem Inv.get_keeps (h : s.Inv) {created : Bool}
    (hplace : created = true → vfs_fpath = key_path ∧ s.KeyIsFree key_path) :
    (s.get vfs_fpath key_path created).1.Inv := by
  cases created with
  | false => exact h.get_failed
  | true =>
    obtain ⟨rfl, hfree⟩ := hplace rfl
    exact h.get hfree

/-- The place of a file that `getFile` gives out. -/
theorem own_place_iff {area : List Char} : (areaPath area path = path ∧ s.KeyIsFree path) ↔
    area <+: path ∧ s.KeyIsFree path := and_congr_left' areaPath_eq_iff

theorem Inv.isCorrect_iff (h : s.Inv) (c : Call) : s.IsCorrect c ↔ s.GetsOwnPlace c := by
  cases c with
  | getFile area path created =>
    refine (h.get_iff _ _ created).trans (imp_congr_right fun _ => own_place_iff)
  | getWriteableStageFile path good =>
    exact (h.get_iff _ _ good).trans (imp_congr_right fun _ => and_iff_right rfl)
  | getReadableStageFile path good =>
    exact (h.get_iff _ _ good).trans (imp_congr_right fun _ => and_iff_right rfl)
  | getWriteableDataFile path good =>
    exact (h.get_iff _ _ good).trans (imp_congr_right fun _ => and_iff_right rfl)
  | releaseFile n =>
    refine iff_of_true ?_ trivial
    intro t result ht
    obtain ⟨hn, ht⟩ := Option.ite_none_right_eq_some.mp ht
    obtain ⟨u, hu, hinv, hremoves⟩ := h.releaseFile hn
    cases hu.symm.trans ht
    exact ⟨hinv.ok, rfl, hremoves⟩

theorem Inv.step (h : s.Inv) {c : Call} (hplace : s.GetsOwnPlace c) (ht : s.step c = some t) :
    t.Inv := by
  cases c with
  | getFile area path created =>
    cases ht
    exact h.get_keeps fun hcreated => own_place_iff.mpr (hplace hcreated)
  | getWriteableStageFile path good =>
    cases ht
    exact h.get_keeps fun hgood => ⟨rfl, hplace hgood⟩
  | getReadableStageFile path good =>
    cases ht
    exact h.get_keeps fun hgood => ⟨rfl, hplace hgood⟩
  | getWriteableDataFile path good =>
    cases ht
    exact h.get_keeps fun hgood => ⟨rfl, hplace hgood⟩
  | releaseFile n =>
    obtain ⟨⟨u, result⟩, hu, rfl⟩ := Option.map_eq_some_iff.mp ht
    obtain ⟨hn, hu⟩ := Option.ite_none_right_eq_some.mp hu
    obtain ⟨v, hv, hinv, -⟩ := h.releaseFile hn
    cases hv.symm.trans hu
    exact hinv

/-! ## The runs -/

theorem inv_new : ({} : VFSManager).Inv := by
  have hnone : ∀ path key n, ¬ ({} : VFSManager).IsRegistered path key n := by
    rintro path key n ⟨files_for_path, hmap, -⟩
    cases hmap
  exact ⟨⟨fun path key n => iff_of_false (hnone path key n) nofun, nofun, nofun⟩, nofun⟩

/-- Every call of a run leaves the registry as it should be and answers as it should, just when
every file that `getFile` gives out has a path that starts with its area, and no file gets a key in
use. -/
theorem registry_is_right_iff (calls : List Call) :
    RunOk step IsCorrect {} calls ↔ RunOk step GetsOwnPlace {} calls :=
  runOk_congr Inv (fun _ c h => h.isCorrect_iff c)
    (fun _ c _ h hcorrect ht => h.step ((h.isCorrect_iff c).mp hcorrect) ht) inv_new

/-- A file is asked for by its path in the area. -/
theorem file_is_not_under_its_path : ¬ RunOk step IsCorrect {}
    [.getFile "stage".toList "a".toList true, .releaseFile 0] := by
  rintro ⟨-, hrelease⟩
  obtain ⟨hcorrect, -⟩ := hrelease _ rfl
  obtain ⟨-, hanswer, -⟩ := hcorrect _ (-1) rfl
  revert hanswer
  decide

end VFSManager

end chaos.data_service.vfs
