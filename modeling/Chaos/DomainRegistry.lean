-- The registration of a domain. A service enters its domain with the code that tells it apart and
-- the address where the domain is served. The database has a unique index on each of the two
-- collections, and the code relies on it to see that a name is taken.
import Chaos.UniqueIndex
import Mathlib.Data.List.Induction

namespace chaos.data_service.db_system

open unique_index

/-! ## The collections -/

structure VFSDomain where
  name : String
  unique_code : String
  local_url : String
  deriving DecidableEq, Repr

/-- A document of `domains`. -/
structure DomainDocument where
  domain_name : String
  domain_unique_code : String
  deriving DecidableEq, Repr

/-- A document of `domains_url`. -/
structure DomainUrlDocument where
  domain_name : String
  domain_url : String
  hb : UInt64
  deriving DecidableEq, Repr

structure DomainCollections where
  domains : List DomainDocument := []
  domains_url : List DomainUrlDocument := []
  deriving DecidableEq

/-- The index on `domains` covers both fields. -/
def DomainDocument.index (d : DomainDocument) : String × String :=
  (d.domain_name, d.domain_unique_code)

def DomainUrlDocument.index (d : DomainUrlDocument) : String × String :=
  (d.domain_name, d.domain_url)

/-- A call: the domain, the clock, and the error of an update of the database. -/
structure DomainCall where
  domain : VFSDomain
  now : UInt64
  update_err : Int
  deriving DecidableEq, Repr

def DomainCall.name (call : DomainCall) : String := call.domain.name

def DomainCall.unique_code (call : DomainCall) : String := call.domain.unique_code

namespace DomainCollections

/-- The error of a write that would put a key twice into a unique index. -/
def duplicateKey : Int := 11000

/-- A string of a document, read as a string of C: it ends before its first zero. -/
def getStringField (value : String) : List Char := value.toList.takeWhile (· ≠ '\x00')

def vfsDomainHeartBeat (db : DomainCollections) (call : DomainCall) : Int × DomainCollections :=
  let matches_query (d : DomainUrlDocument) : Bool :=
    d.domain_name = call.domain.name ∧ d.domain_url = call.domain.local_url
  if call.update_err = 0 then
    (0, { db with
      domains_url := update matches_query (fun d => { d with hb := call.now }) db.domains_url })
  else (call.update_err, db)

/-- The second half of `vfsAddDomain`: the address is entered, or its heart beat is given. -/
def addDomainUrl (db : DomainCollections) (call : DomainCall) : Int × DomainCollections :=
  match insert DomainUrlDocument.index db.domains_url
      ⟨call.domain.name, call.domain.local_url, call.now⟩ with
  | (true, domains_url) => (0, { db with domains_url })
  | (false, _) => db.vfsDomainHeartBeat call

/-- The document that could not be entered is also what the lookup searches for. -/
def vfsAddDomain (db : DomainCollections) (call : DomainCall) : Int × DomainCollections :=
  let domain_insertation_obj : DomainDocument := ⟨call.domain.name, call.domain.unique_code⟩
  match insert DomainDocument.index db.domains domain_insertation_obj with
  | (true, domains) => ({ db with domains } : DomainCollections).addDomainUrl call
  | (false, _) =>
    match db.domains.find? (· = domain_insertation_obj) with
    | none => (-1, db)
    | some result =>
      if call.domain.unique_code.toList ≠ getStringField result.domain_unique_code then (-2, db)
      else db.addDomainUrl call

/-- The collections after some calls. -/
def after (calls : List DomainCall) : DomainCollections :=
  calls.foldl (fun db call => (db.vfsAddDomain call).2) {}

/-- What a call returns after some others. -/
def result (earlier : List DomainCall) (call : DomainCall) : Int :=
  ((after earlier).vfsAddDomain call).1

/-- The addresses that are registered for a name. -/
def urlsOf (db : DomainCollections) (name : String) : List String :=
  (db.domains_url.filter (·.domain_name = name)).map (·.domain_url)

/-! ## What a call does -/

/-- The name is registered with the code, and the code does not survive as a string of C. -/
def CodeCut (db : DomainCollections) (call : DomainCall) : Prop :=
  ⟨call.domain.name, call.domain.unique_code⟩ ∈ db.domains ∧ '\x00' ∈ call.unique_code.toList

/-- The address is registered for the name, and its heart beat fails. -/
def BeatFails (db : DomainCollections) (call : DomainCall) : Prop :=
  call.domain.local_url ∈ db.urlsOf call.name ∧ call.update_err ≠ 0

variable {db : DomainCollections} {call : DomainCall}

theorem mem_urlsOf {name url : String} :
    url ∈ db.urlsOf name ↔ (name, url) ∈ db.domains_url.map DomainUrlDocument.index := by
  simp only [urlsOf, List.mem_map, List.mem_filter, decide_eq_true_eq, DomainUrlDocument.index,
    Prod.mk.injEq]
  constructor
  · rintro ⟨d, ⟨hd, hname⟩, hurl⟩
    exact ⟨d, hd, hname, hurl⟩
  · rintro ⟨d, hd, hname, hurl⟩
    exact ⟨d, ⟨hd, hname⟩, hurl⟩

theorem takeWhile_eq_self_iff (l : List Char) :
    l = l.takeWhile (· ≠ '\x00') ↔ '\x00' ∉ l := by
  induction l with
  | nil => simp
  | cons c l ih =>
    by_cases hc : c = '\x00'
    · simp [hc]
    · simp [hc, Ne.symm hc, ← ih]

/-- An address that is new for the name is entered. -/
theorem addDomainUrl_new (db : DomainCollections)
    (h : call.domain.local_url ∉ db.urlsOf call.name) :
    (db.addDomainUrl call).1 = 0 ∧
      (db.addDomainUrl call).2.domains_url =
        db.domains_url ++ [⟨call.domain.name, call.domain.local_url, call.now⟩] := by
  unfold addDomainUrl
  rw [insert_of_not_mem (fun hin => h (mem_urlsOf.mpr hin))]
  exact ⟨rfl, rfl⟩

/-- For one that is there, the heart beat is given. -/
theorem addDomainUrl_known (db : DomainCollections)
    (h : call.domain.local_url ∈ db.urlsOf call.name) :
    (db.addDomainUrl call).1 = call.update_err ∧
      (db.addDomainUrl call).2.domains_url.map DomainUrlDocument.index =
        db.domains_url.map DomainUrlDocument.index := by
  unfold addDomainUrl
  rw [insert_of_mem (mem_urlsOf.mp h)]
  simp only [vfsDomainHeartBeat]
  split
  · rename_i hzero
    exact ⟨hzero.symm, map_update fun _ => rfl⟩
  · exact ⟨rfl, rfl⟩

theorem find_of_mem {c : List DomainDocument} {d : DomainDocument} (h : d ∈ c) :
    c.find? (· = d) = some d := by
  obtain ⟨e, he⟩ : ∃ e, c.find? (fun e => decide (e = d)) = some e := by
    rw [← Option.isSome_iff_exists, List.find?_isSome]
    exact ⟨d, h, by simp⟩
  have : e = d := by simpa using List.find?_some he
  rw [he, this]

theorem index_mem {c : List DomainDocument} {d : DomainDocument} :
    d.index ∈ c.map DomainDocument.index ↔ d ∈ c := by
  rw [List.mem_map]
  constructor
  · rintro ⟨e, he, heq⟩
    obtain ⟨hname, hcode⟩ := Prod.mk.injEq _ _ _ _ ▸ heq
    cases e
    cases d
    cases hname
    cases hcode
    exact he
  · intro hd
    exact ⟨d, hd, rfl⟩

/-- The lookup finds the document that it searches for, so a call is turned down only for a code
that is cut. Any other call goes on to the address. -/
theorem vfsAddDomain_cases (db : DomainCollections) (call : DomainCall) :
    (CodeCut db call ∧ db.vfsAddDomain call = (-2, db)) ∨
      (¬ CodeCut db call ∧ ∃ domains, (∀ d ∈ domains, d ∈ db.domains ∨
          d.domain_name = call.name) ∧
        db.vfsAddDomain call = ({ db with domains } : DomainCollections).addDomainUrl call) := by
  unfold vfsAddDomain CodeCut
  dsimp only
  by_cases hin : (⟨call.domain.name, call.domain.unique_code⟩ : DomainDocument) ∈ db.domains
  · rw [insert_of_mem (index_mem.mpr hin)]
    simp only [find_of_mem hin, hin, true_and, getStringField, ne_eq, takeWhile_eq_self_iff,
      not_not, DomainCall.unique_code]
    by_cases hcut : '\x00' ∈ call.domain.unique_code.toList
    · exact .inl ⟨hcut, if_pos hcut⟩
    · refine .inr ⟨hcut, db.domains, fun d hd => .inl hd, ?_⟩
      rw [if_neg hcut]
  · rw [insert_of_not_mem (fun h => hin (index_mem.mp h))]
    refine .inr ⟨fun h => hin h.1, _, ?_, rfl⟩
    intro d hd
    rcases List.mem_append.mp hd with hd | hd
    · exact .inl hd
    · exact .inr (by rw [List.mem_singleton.mp hd]; rfl)

/-- Just these calls are refused. -/
theorem refused_iff : (db.vfsAddDomain call).1 ≠ 0 ↔ CodeCut db call ∨ BeatFails db call := by
  rcases vfsAddDomain_cases db call with ⟨hcut, heq⟩ | ⟨hcut, domains, -, heq⟩
  · rw [heq]
    exact iff_of_true (by simp) (.inl hcut)
  · rw [heq]
    simp only [hcut, false_or, BeatFails]
    by_cases hurl : call.domain.local_url ∈ db.urlsOf call.name
    · rw [(addDomainUrl_known { db with domains } hurl).1]
      simp [hurl]
    · rw [(addDomainUrl_new { db with domains } hurl).1]
      simp [hurl]

/-- A call that is refused registers no address. -/
theorem urlsOf_of_refused (h : (db.vfsAddDomain call).1 ≠ 0) (name : String) (url : String) :
    url ∈ (db.vfsAddDomain call).2.urlsOf name ↔ url ∈ db.urlsOf name := by
  rcases vfsAddDomain_cases db call with ⟨-, heq⟩ | ⟨hcut, domains, -, heq⟩
  · rw [heq]
  · have hbeat := (refused_iff.mp h).resolve_left hcut
    rw [heq, mem_urlsOf, mem_urlsOf,
      (addDomainUrl_known { db with domains } hbeat.1).2]

/-! ## The names of the registered domains -/

theorem addDomainUrl_domains (db : DomainCollections) (call : DomainCall) :
    (db.addDomainUrl call).2.domains = db.domains := by
  unfold addDomainUrl vfsDomainHeartBeat
  split
  · rfl
  · dsimp only
    split <;> rfl

/-- A call enters nothing for another name. -/
theorem domains_of_other_name {d : DomainDocument} (hd : d ∈ (db.vfsAddDomain call).2.domains)
    (hname : d.domain_name ≠ call.name) : d ∈ db.domains := by
  rcases vfsAddDomain_cases db call with ⟨-, heq⟩ | ⟨-, domains, hdomains, heq⟩
  · rw [heq] at hd
    exact hd
  · rw [heq, addDomainUrl_domains] at hd
    exact (hdomains d hd).resolve_right hname

theorem urls_of_other_name {name url : String} (h : url ∈ (db.vfsAddDomain call).2.urlsOf name)
    (hname : name ≠ call.name) : url ∈ db.urlsOf name := by
  rcases vfsAddDomain_cases db call with ⟨-, heq⟩ | ⟨-, domains, -, heq⟩
  · rw [heq] at h
    exact h
  · rw [heq] at h
    by_cases hurl : call.domain.local_url ∈ db.urlsOf call.name
    · rw [mem_urlsOf, (addDomainUrl_known { db with domains } hurl).2] at h
      exact mem_urlsOf.mpr h
    · rw [mem_urlsOf, (addDomainUrl_new { db with domains } hurl).2, List.map_append,
        List.mem_append] at h
      rcases h with h | h
      · exact mem_urlsOf.mpr h
      · rw [List.map_singleton, List.mem_singleton] at h
        exact absurd (congrArg Prod.fst h) hname

theorem after_snoc (calls : List DomainCall) (call : DomainCall) :
    after (calls ++ [call]) = ((after calls).vfsAddDomain call).2 := by
  simp [after]

/-- Nothing is registered for a name that no call was made for. -/
theorem nothing_registered {calls : List DomainCall} {name : String}
    (h : ∀ call ∈ calls, call.name ≠ name) :
    (∀ d ∈ (after calls).domains, d.domain_name ≠ name) ∧
      ∀ url, url ∉ (after calls).urlsOf name := by
  induction calls using List.reverseRecOn with
  | nil => simp [after, urlsOf]
  | append_singleton calls call ih =>
    have hname : name ≠ call.name := (h call (by simp)).symm
    obtain ⟨hdomains, hurls⟩ := ih fun c hc => h c (List.mem_append_left _ hc)
    rw [after_snoc]
    constructor
    · intro d hd heq
      exact hdomains d (domains_of_other_name hd (heq ▸ hname)) heq
    · intro url hurl
      exact hurls url (urls_of_other_name hurl hname)

/-- The first call for a name is accepted. -/
theorem first_call_accepted {earlier : List DomainCall}
    (h : ∀ other ∈ earlier, other.name ≠ call.name) : result earlier call = 0 := by
  obtain ⟨hdomains, hurls⟩ := nothing_registered h
  by_contra hrefused
  rcases refused_iff.mp hrefused with hcut | hbeat
  · exact hdomains _ hcut.1 rfl
  · exact hurls _ hbeat.1

/-! ## One owner for a name -/

/-- Whenever a call for a name was accepted, a later one with another code is refused and registers
no address for the name. -/
def OneOwner (calls : List DomainCall) : Prop :=
  ∀ earlier call later, calls = earlier ++ call :: later →
    ∀ before other between, earlier = before ++ other :: between →
      other.name = call.name → other.unique_code ≠ call.unique_code → result before other = 0 →
      result earlier call ≠ 0 ∧ ∀ url,
        url ∈ (after (earlier ++ [call])).urlsOf call.name ↔ url ∈ (after earlier).urlsOf call.name

/-- Every call has the code of the first call for its name, or one that the code of `vfsAddDomain`
turns down for a reason of its own. -/
def KeepsCode (calls : List DomainCall) : Prop :=
  ∀ earlier call later, calls = earlier ++ call :: later →
    ∀ first, earlier.find? (·.name = call.name) = some first →
      first.unique_code ≠ call.unique_code →
      CodeCut (after earlier) call ∨ BeatFails (after earlier) call

/-- The calls around the first one for a name. -/
theorem split_at_first {earlier : List DomainCall} {name : String} {first : DomainCall}
    (h : earlier.find? (·.name = name) = some first) :
    first.name = name ∧ ∃ before between, earlier = before ++ first :: between ∧
      ∀ other ∈ before, other.name ≠ name := by
  obtain ⟨hname, before, between, heq, hbefore⟩ := List.find?_eq_some_iff_append.mp h
  refine ⟨by simpa using hname, before, between, heq, ?_⟩
  intro other hother
  simpa using hbefore other hother

/-- An accepted call has the code of the first call for its name. -/
theorem code_of_accepted {calls before between rest : List DomainCall} {other first : DomainCall}
    (hkeeps : KeepsCode calls) (hcalls : calls = before ++ other :: rest)
    (haccepted : result before other = 0)
    (hfirst : (before ++ other :: between).find? (·.name = other.name) = some first) :
    first.unique_code = other.unique_code := by
  by_contra hne
  rw [List.find?_append] at hfirst
  cases hfind : before.find? (·.name = other.name) with
  | none =>
    have : other = first := by simpa [hfind] using hfirst
    exact hne (this ▸ rfl)
  | some f =>
    have : f = first := by simpa [hfind] using hfirst
    exact refused_iff.mpr (hkeeps before other rest hcalls f hfind (this ▸ hne)) haccepted

/-- A name has one owner exactly when no call brings another code than the first call for its name,
except where the heart beat of a known address fails or the code holds a zero. -/
theorem one_owner_iff (calls : List DomainCall) : OneOwner calls ↔ KeepsCode calls := by
  constructor
  · intro howner earlier call later hcalls first hfirst hne
    obtain ⟨hname, before, between, hsplit, hbefore⟩ := split_at_first hfirst
    have haccepted : result before first = 0 :=
      first_call_accepted fun other hother => hname ▸ hbefore other hother
    have hrefused := (howner earlier call later hcalls before first between hsplit hname hne
      haccepted).1
    exact refused_iff.mp hrefused
  · intro hkeeps earlier call later hcalls before other between hsplit hname hne haccepted
    have hsome : (earlier.find? (·.name = call.name)).isSome := by
      rw [List.find?_isSome]
      exact ⟨other, by simp [hsplit], by simp [hname]⟩
    obtain ⟨first, hfirst⟩ := Option.isSome_iff_exists.mp hsome
    have hcode : first.unique_code = other.unique_code := by
      rw [hsplit, ← hname] at hfirst
      rw [hsplit, List.append_assoc, List.cons_append] at hcalls
      exact code_of_accepted hkeeps hcalls haccepted hfirst
    have hrefused : result earlier call ≠ 0 :=
      refused_iff.mpr (hkeeps earlier call later hcalls first hfirst (hcode ▸ hne))
    refine ⟨hrefused, fun url => ?_⟩
    rw [after_snoc]
    exact urlsOf_of_refused hrefused _ url

/-- Two services bring two codes for one name, and both are accepted. -/
theorem two_codes_for_a_name :
    ¬ OneOwner [⟨⟨"domain", "code a", "host a"⟩, 0, 0⟩,
      ⟨⟨"domain", "code b", "host b"⟩, 1, 0⟩] := by
  intro howner
  have hrefused := (howner [⟨⟨"domain", "code a", "host a"⟩, 0, 0⟩]
    ⟨⟨"domain", "code b", "host b"⟩, 1, 0⟩ [] rfl [] ⟨⟨"domain", "code a", "host a"⟩, 0, 0⟩ [] rfl
    rfl (by decide) (by decide)).1
  revert hrefused
  decide

end DomainCollections

end chaos.data_service.db_system
