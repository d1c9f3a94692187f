-- The laws of the cache of the data blocks. A missing file makes the storage driver write to a
-- block that it has not made yet, where the caller should get an error. What the runs keep in
-- which that does not happen and each release is of a fetcher that was handed out.
import Chaos.DataBlockCache
import Chaos.Runs

namespace chaos.data_service.vfs.query

open runs

namespace DataBlockCache

/-! ## What is claimed -/

/-- The caches have the same blocks with the same counts. -/
def SameBlocks (s t : DataBlockCache) : Prop :=
  t.map_path_datablock = s.map_path_datablock ∧
    ∀ e ∈ s.map_path_datablock, t.use_count e.2 = s.use_count e.2

/-- The fetchers that are handed out are those that were not released. -/
def IsCounted (s : DataBlockCache) : Prop :=
  ∀ e ∈ s.map_path_datablock,
    s.handed_out.count e.2 = s.released.count e.2 + (s.use_count e.2).toNat

/-- A block that is in use stays when the timer cleans. -/
def KeepsUsed (s : DataBlockCache) : Prop :=
  ∀ e ∈ s.map_path_datablock, 0 < s.use_count e.2 →
    e ∈ (s.clean false).map_path_datablock ∧ e.2 ∉ (s.clean false).deleted

/-- A block that cannot be opened is an error and nothing else. -/
def ReturnsError (domain_name : String) (s : DataBlockCache) (datablock_path : String)
    (now : UInt64) (file : FileAnswers) : Prop :=
  ∃ err fetcher t, err ≠ 0 ∧ SameBlocks s t ∧
    s.getFetcherForBlockWithPath domain_name datablock_path now file = some (err, fetcher, t)

/-- A stream that is made for a block that is not in the cache can be opened, and a count does not
overflow. A fetcher that is released was not deleted, and handed out once more than released. -/
def InTurn (s : DataBlockCache) : Label → Prop
  | .getFetcherForBlockWithPath datablock_path _ file =>
    (s.map_path_datablock.lookup datablock_path = none → file.status = some .other →
      file.opens = true) ∧
    ∀ n ∈ s.map_path_datablock.lookup datablock_path, (s.use_count n).toNat + 1 < 2 ^ 32
  | .releaseFetcher datablock_fetcher => ∀ n ∈ datablock_fetcher,
      n ∉ s.deleted ∧ s.released.count n < s.handed_out.count n
  | .clean _ => True

instance (s : DataBlockCache) : ∀ a, Decidable (s.InTurn a)
  | .getFetcherForBlockWithPath _ _ _ => inferInstanceAs (Decidable ((_ → _ → _) ∧ ∀ n ∈ _, _))
  | .releaseFetcher _ => Option.decidableForallMem _
  | .clean _ => isTrue trivial

/-! ## The counts -/

variable {s t : DataBlockCache} {n m : Nat}

@[simp] theorem use_count_count_self (hn : n < s.fetchers.length) (f : UInt32 → UInt32) :
    (s.count n f).use_count n = f (s.use_count n) := by
  simp [use_count, count, List.getElem?_eq_getElem hn]

theorem use_count_count_ne (hne : m ≠ n) (f : UInt32 → UInt32) :
    (s.count n f).use_count m = s.use_count m := by
  simp only [use_count, count, List.getElem?_modify_ne _ _ hne.symm]

@[simp] theorem length_count (f : UInt32 → UInt32) :
    (s.count n f).fetchers.length = s.fetchers.length := List.length_modify ..

theorem count_singleton_of_ne (hne : m ≠ n) : [n].count m = 0 := by
  rw [List.count_eq_zero, List.mem_singleton]
  exact hne

/-- The entries of one fetcher are cleaned together. -/
theorem isCleaned_congr {e e' : String × Nat} (h : e'.2 = e.2) (all_unused : Bool) :
    s.isCleaned all_unused e' = s.isCleaned all_unused e := by
  simp [isCleaned, h]

/-! ## The invariant -/

/-- The count of a fetcher, deleted or not, is of those that were handed out and not released. -/
structure Good (s : DataBlockCache) : Prop where
  cached : ∀ e ∈ s.map_path_datablock, e.2 < s.fetchers.length ∧ e.2 ∉ s.deleted
  counts : ∀ n, s.handed_out.count n = s.released.count n + (s.use_count n).toNat
  deleted : ∀ n ∈ s.deleted, n < s.fetchers.length
  handed_out : ∀ n ∈ s.handed_out, n < s.fetchers.length

theorem Good.isCounted (h : Good s) : IsCounted s := fun e _ => h.counts e.2

/-- What stays after the cleaning is not deleted. -/
theorem Good.clean_cached (h : Good s) {all_unused : Bool} {e : String × Nat}
    (he : e ∈ (s.clean all_unused).map_path_datablock) :
    e.2 < s.fetchers.length ∧ e.2 ∉ (s.clean all_unused).deleted := by
  obtain ⟨hin, hkept⟩ := List.mem_filter.mp he
  have hold := h.cached e hin
  refine ⟨hold.1, ?_⟩
  simp only [clean, List.mem_append, List.mem_map, List.mem_filter, not_or, not_exists]
  refine ⟨hold.2, ?_⟩
  rintro e' ⟨⟨-, hcleaned⟩, heq⟩
  rw [isCleaned_congr heq] at hcleaned
  simp [hcleaned] at hkept

theorem Good.keepsUsed (h : Good s) : KeepsUsed s := by
  intro e he hpos
  have hne : s.use_count e.2 ≠ 0 := UInt32.pos_iff_ne_zero.mp hpos
  have hin : e ∈ (s.clean false).map_path_datablock := by
    simp only [DataBlockCache.clean, List.mem_filter]
    exact ⟨he, by simp [isCleaned, hne]⟩
  exact ⟨hin, (h.clean_cached hin).2⟩

/-! ## The opening of a block -/

section

variable {domain_name datablock_path : String} {now : UInt64} {file : FileAnswers}

/-- A new fetcher has no user. It has an error when its block cannot be opened. -/
theorem openFile_spec (domain_name datablock_path : String) (now : UInt64)
    (hfile : file.status = some .other → file.opens = true) :
    ∃ err fetcher, DataBlockFetcher.openFile domain_name now file { datablock_path } =
        some (err, fetcher) ∧ fetcher.use_count = 0 ∧ (file.Fails ↔ err ≠ 0) := by
  unfold DataBlockFetcher.openFile openBlock FileAnswers.Fails
  split
  · rename_i hstatus
    exact ⟨_, _, rfl, rfl, by simp [hstatus]⟩
  · rename_i hstatus
    exact ⟨_, _, rfl, rfl, by simp [hstatus]⟩
  · rename_i hstatus
    exact ⟨_, _, rfl, rfl, by simp [hstatus]⟩
  · rename_i hstatus
    rw [if_neg (by simp [hfile hstatus])]
    split
    · rename_i hsize
      exact ⟨_, _, rfl, rfl, by simp [hsize]⟩
    · rename_i size hsize
      exact ⟨_, _, rfl, rfl, by simp [hstatus, hsize, hfile hstatus]⟩

/-- A fetcher without users changes no count. -/
theorem use_count_append {fetcher : DataBlockFetcher} (h : fetcher.use_count = 0) (m : Nat) :
    use_count { s with fetchers := s.fetchers ++ [fetcher] } m = s.use_count m := by
  unfold use_count
  dsimp only
  rcases Nat.lt_trichotomy m s.fetchers.length with hlt | rfl | hgt
  · rw [List.getElem?_append_left hlt]
  · simp [h]
  · rw [List.getElem?_eq_none (by simp; omega), List.getElem?_eq_none hgt.le]

/-- In the cache nothing changes when a block cannot be opened. -/
theorem sameBlocks_append {fetcher : DataBlockFetcher} (h : fetcher.use_count = 0) :
    SameBlocks s { s with fetchers := s.fetchers ++ [fetcher] } :=
  ⟨rfl, fun e _ => use_count_append h e.2⟩

/-- A block that is not in the cache and cannot be opened is an error just when the file system
refuses before it makes the stream, or fails after it. -/
theorem returnsError_iff (hnone : s.map_path_datablock.lookup datablock_path = none)
    (hfails : file.Fails) : ReturnsError domain_name s datablock_path now file ↔
      (file.status = some .other → file.opens = true) := by
  constructor
  · rintro ⟨err, fetcher, t, -, -, hcall⟩ hstatus
    by_contra hopens
    unfold getFetcherForBlockWithPath DataBlockFetcher.openFile openBlock at hcall
    simp [hnone, hstatus, hopens] at hcall
  · intro hfile
    obtain ⟨err, fetcher, hopen, hzero, herr⟩ := openFile_spec domain_name datablock_path now hfile
    refine ⟨err, s.fetchers.length, _, herr.mp hfails, sameBlocks_append hzero, ?_⟩
    unfold getFetcherForBlockWithPath
    rw [hnone]
    dsimp only
    rw [hopen, Option.map_some]
    dsimp only
    rw [if_pos (herr.mp hfails)]

end

/-! ## The steps -/

theorem Good.append (h : Good s) {fetcher : DataBlockFetcher} (hzero : fetcher.use_count = 0) :
    Good { s with fetchers := s.fetchers ++ [fetcher] } := by
  have hlt : ∀ {m}, m < s.fetchers.length → m < (s.fetchers ++ [fetcher]).length := by
    intro m hm
    rw [List.length_append]
    exact Nat.lt_add_right 1 hm
  refine ⟨fun e he => ⟨hlt (h.cached e he).1, (h.cached e he).2⟩, ?_,
    fun m hm => hlt (h.deleted m hm), fun m hm => hlt (h.handed_out m hm)⟩
  intro m
  rw [use_count_append hzero]
  exact h.counts m

/-- A fetcher is handed out. -/
theorem Good.handOut (h : Good s) (hn : n < s.fetchers.length)
    (hsmall : (s.use_count n).toNat + 1 < 2 ^ 32) :
    Good { s.count n (· + 1) with handed_out := s.handed_out ++ [n] } := by
  refine ⟨?_, ?_, ?_, ?_⟩
  · intro e he
    exact ⟨by simpa using (h.cached e he).1, (h.cached e he).2⟩
  · intro m
    have hcount := h.counts m
    change (s.handed_out ++ [n]).count m =
      s.released.count m + ((s.count n (· + 1)).use_count m).toNat
    by_cases hm : m = n
    · subst hm
      rw [use_count_count_self hn, UInt32.toNat_add, List.count_append, List.count_singleton_self]
      have hmod := Nat.mod_eq_of_lt hsmall
      change _ = _ + ((s.use_count m).toNat + 1) % 2 ^ 32
      omega
    · rw [use_count_count_ne hm, List.count_append, count_singleton_of_ne hm, Nat.add_zero]
      exact hcount
  · intro m hm
    simpa using h.deleted m hm
  · intro m hm
    rw [length_count]
    rcases List.mem_append.mp hm with hm | hm
    · exact h.handed_out m hm
    · rw [List.mem_singleton.mp hm]
      exact hn

/-- A fetcher that was handed out once more than it was released is released. -/
theorem Good.releaseFetcher (h : Good s) {datablock_fetcher : Option Nat}
    (hok : s.InTurn (.releaseFetcher datablock_fetcher)) :
    ∃ t, s.releaseFetcher datablock_fetcher = some t ∧ Good t := by
  cases datablock_fetcher with
  | none => exact ⟨s, rfl, h⟩
  | some n =>
    obtain ⟨hdeleted, hless⟩ := hok n rfl
    have hin : n ∈ s.handed_out := List.count_pos_iff.mp (by omega)
    have hn := h.handed_out n hin
    refine ⟨_, if_neg (by simp [hdeleted, hn]), ?_, ?_, ?_, ?_⟩
    · intro e he
      exact ⟨by simpa using (h.cached e he).1, (h.cached e he).2⟩
    · intro m
      have hcount := h.counts m
      change s.handed_out.count m =
        (s.released ++ [n]).count m + ((s.count n (· - 1)).use_count m).toNat
      by_cases hm : m = n
      · subst hm
        have hle : (1 : UInt32) ≤ s.use_count m := UInt32.le_iff_toNat_le.mpr (by simp; omega)
        rw [use_count_count_self hn, UInt32.toNat_sub_of_le _ _ hle, List.count_append,
          List.count_singleton_self]
        simp
        omega
      · rw [use_count_count_ne hm, List.count_append, count_singleton_of_ne hm, Nat.add_zero]
        exact hcount
    · intro m hm
      simpa using h.deleted m hm
    · intro m hm
      simpa using h.handed_out m hm

theorem Good.clean (h : Good s) (all_unused : Bool) : Good (s.clean all_unused) := by
  refine ⟨fun e he => h.clean_cached he, h.counts, ?_, h.handed_out⟩
  · intro n hn
    rcases List.mem_append.mp hn with hn | hn
    · exact h.deleted n hn
    · obtain ⟨e, he, rfl⟩ := List.mem_map.mp hn
      exact (h.cached e (List.mem_filter.mp he).1).1

theorem Good.getFetcher (h : Good s) (domain_name : String) {datablock_path : String}
    {now : UInt64} {file : FileAnswers}
    (hok : s.InTurn (.getFetcherForBlockWithPath datablock_path now file)) :
    ∃ err fetcher t, s.getFetcherForBlockWithPath domain_name datablock_path now file =
      some (err, fetcher, t) ∧ Good t := by
  unfold getFetcherForBlockWithPath
  split
  · rename_i n hlookup
    obtain ⟨before, after, heq, -⟩ := List.lookup_eq_some_iff.mp hlookup
    have hn := (h.cached (datablock_path, n) (by rw [heq]; simp)).1
    exact ⟨_, _, _, rfl, h.handOut hn (hok.2 n hlookup)⟩
  · rename_i hnone
    obtain ⟨err, fetcher, hopen, hzero, -⟩ :=
      openFile_spec domain_name datablock_path now (hok.1 hnone)
    have hgood := h.append hzero
    dsimp only
    rw [hopen, Option.map_some]
    dsimp only
    split
    · exact ⟨_, _, _, rfl, hgood⟩
    · refine ⟨_, _, _, rfl, ?_⟩
      have hn : s.fetchers.length < (s.fetchers ++ [fetcher]).length := by simp
      have hnew : s.use_count s.fetchers.length = 0 := by simp [use_count]
      have hout := hgood.handOut hn (by rw [use_count_append hzero, hnew]; decide)
      refine ⟨?_, hout.counts, hout.deleted, hout.handed_out⟩
      intro e he
      rcases List.mem_cons.mp he with rfl | he
      · exact ⟨by simp, fun hin => Nat.lt_irrefl _ (h.deleted _ hin)⟩
      · exact hout.cached e he

theorem Good.step (h : Good s) {domain_name : String} {a : Label} (hok : s.InTurn a) :
    ∃ t, s.step domain_name a = some t ∧ Good t := by
  cases a with
  | getFetcherForBlockWithPath datablock_path now file =>
    obtain ⟨err, fetcher, t, hcall, hgood⟩ := h.getFetcher domain_name hok
    exact ⟨t, by simp [DataBlockCache.step, hcall], hgood⟩
  | releaseFetcher datablock_fetcher => exact h.releaseFetcher hok
  | clean all_unused => exact ⟨_, rfl, h.clean all_unused⟩

theorem new_good : Good {} := by
  refine ⟨?_, fun n => rfl, ?_, ?_⟩
  · simp
  · simp
  · simp

/-- The counts are kept in every run whose steps all come in turn, and no such run is cut short. -/
theorem use_counts_are_kept (domain_name : String) {labels : List Label}
    (hok : RunOk (step domain_name) InTurn {} labels) :
    ∃ t, run (step domain_name) {} labels = some t ∧ IsCounted t ∧ KeepsUsed t ∧
      ∀ datablock_path now file, t.map_path_datablock.lookup datablock_path = none →
        file.Fails → (ReturnsError domain_name t datablock_path now file ↔
          t.InTurn (.getFetcherForBlockWithPath datablock_path now file)) := by
  have hstep : ∀ s a, Good s → s.InTurn a → ∃ t, step domain_name s a = some t ∧ Good t :=
    fun _ _ h hin => h.step hin
  obtain ⟨t, hr, hgood⟩ := run_ends_of_ok _ hstep new_good hok
  refine ⟨t, hr, hgood.isCounted, hgood.keepsUsed, ?_⟩
  intro datablock_path now file hnone hfails
  rw [returnsError_iff hnone hfails]
  simp [InTurn, hnone]

/-- A file that is there. -/
def blockFile : FileAnswers := ⟨some .other, true, some 64⟩

/-- Two queries use one block, and it is deleted after both have released it. In between a directory
is asked for. -/
theorem a_block_is_shared :
    RunOk (step "infn") InTurn {} [.getFetcherForBlockWithPath "/b" 1 blockFile,
        .getFetcherForBlockWithPath "/b" 2 blockFile,
        .getFetcherForBlockWithPath "/d" 3 ⟨some .directory, true, none⟩,
        .releaseFetcher (some 0), .clean false, .releaseFetcher (some 0), .clean false,
        .getFetcherForBlockWithPath "/b" 4 blockFile] ∧
      ∃ t, run (step "infn") {} [.getFetcherForBlockWithPath "/b" 1 blockFile,
        .getFetcherForBlockWithPath "/b" 2 blockFile,
        .getFetcherForBlockWithPath "/d" 3 ⟨some .directory, true, none⟩,
        .releaseFetcher (some 0), .clean false, .releaseFetcher (some 0), .clean false,
        .getFetcherForBlockWithPath "/b" 4 blockFile] = some t ∧
        t.map_path_datablock = [("/b", 2)] ∧ t.deleted = [0] ∧ t.handed_out = [0, 0, 2] ∧
        t.released = [0, 0] ∧ IsCounted t ∧ KeepsUsed t := by
  have hok : RunOk (step "infn") InTurn {} [.getFetcherForBlockWithPath "/b" 1 blockFile,
      .getFetcherForBlockWithPath "/b" 2 blockFile,
      .getFetcherForBlockWithPath "/d" 3 ⟨some .directory, true, none⟩,
      .releaseFetcher (some 0), .clean false, .releaseFetcher (some 0), .clean false,
      .getFetcherForBlockWithPath "/b" 4 blockFile] := by decide +kernel
  obtain ⟨t, hr, hcounted, hkeeps, -⟩ := use_counts_are_kept "infn" hok
  have hends := hr
  cases hends
  exact ⟨hok, _, hr, rfl, rfl, rfl, rfl, hcounted, hkeeps⟩

/-- The file of a block is missing: the call writes to a block that is `NULL`, and returns no
error. -/
theorem missing_file_is_no_error :
    (⟨some .other, false, none⟩ : FileAnswers).Fails ∧
      run (step "infn") {}
        [.getFetcherForBlockWithPath "/b" 1 ⟨some .other, false, none⟩] = none ∧
      ¬ ReturnsError "infn" {} "/b" 1 ⟨some .other, false, none⟩ := by
  refine ⟨.inr (.inl rfl), rfl, ?_⟩
  rintro ⟨err, fetcher, t, -, -, hcall⟩
  cases hcall

end DataBlockCache

end chaos.data_service.vfs.query
