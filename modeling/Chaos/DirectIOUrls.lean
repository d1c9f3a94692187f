-- The URLs of direct io servers, `host:p_port:s_port|endpoint`. What is accepted is decided by
-- regular expressions and what is decoded by two splits, and the point between the words of a host
-- stands for any character.
import Chaos.Decimals
import Chaos.Regexes
import Chaos.Tokens

namespace chaos.common.direct_io.url

open regexes Regex

/-! ## The expressions -/

/-- `\w`. -/
def isWord (c : Char) : Bool := c.isAlphanum || c = '_'

/-- `[a-zA-Z0-9]+(.[a-zA-Z0-9]+)+`. -/
def hostName : Regex Char :=
  seq (plus (one Char.isAlphanum)) (plus (seq any (plus (one Char.isAlphanum))))

/-- `25[0-5]|2[0-4][0-9]|[01]?[0-9][0-9]?`. -/
def octet : Regex Char :=
  alt (seq (literal '2') (seq (literal '5') (one fun c => '0' ≤ c && c ≤ '5')))
    (alt (seq (literal '2') (seq (one fun c => '0' ≤ c && c ≤ '4') (one Char.isDigit)))
      (seq (opt (one fun c => c = '0' || c = '1'))
        (seq (one Char.isDigit) (opt (one Char.isDigit)))))

/-- The four octets, between two boundaries. -/
def ip : Regex Char :=
  seq (boundary isWord) (seq (times (seq octet (literal '.')) 3) (seq octet (boundary isWord)))

/-- `:[0-9]{4,5}:[0-9]{4,5}`. -/
def ports : Regex Char :=
  seq (literal ':') (seq (between (one Char.isDigit) 4 5)
    (seq (literal ':') (between (one Char.isDigit) 4 5)))

/-- `\|[0-9]{1,3}`. -/
def endpointIndex : Regex Char := seq (literal '|') (between (one Char.isDigit) 1 3)

def DirectIOHostIPAndEndpointRegExp : Regex Char := seq hostName (seq ports endpointIndex)

def DirectIOServerDescriptionHostAndEndpointRegExp : Regex Char := seq ip (seq ports endpointIndex)

def DirectIOHostNameRegExp : Regex Char := seq hostName ports

def DirectIOIPAndPortRegExp : Regex Char := seq ip ports

/-! ## The functions -/

/-- How a call ends. A token that is not there is undefined. -/
inductive Outcome where
  | returned (accepted : Bool)
  | bad_lexical_cast
  | undefined
  deriving DecidableEq, Repr

/-- How a call ends, and what its two outputs hold then. -/
structure Outputs (α β : Type) where
  outcome : Outcome
  first : α
  second : β
  deriving DecidableEq, Repr

def checkURL (url : List Char) : Bool :=
  fullMatch url DirectIOHostIPAndEndpointRegExp ||
    fullMatch url DirectIOServerDescriptionHostAndEndpointRegExp

def decoupleServerDescription (server_desc priority_desc service_desc : List Char) :
    Outputs (List Char) (List Char) :=
  if !fullMatch server_desc DirectIOHostNameRegExp &&
      !fullMatch server_desc DirectIOIPAndPortRegExp then
    ⟨.returned false, priority_desc, service_desc⟩
  else
    match tokens.split (· = ':') server_desc with
    | host :: priority_port :: service_port :: _ =>
      ⟨.returned true, host ++ ':' :: priority_port, host ++ ':' :: service_port⟩
    | _ => ⟨.undefined, priority_desc, service_desc⟩

/-- The other overload appends the two to a vector. -/
def decoupleServerDescriptions (server_desc : List Char) (servers_desc : List (List Char)) :
    Outcome × List (List Char) :=
  match decoupleServerDescription server_desc [] [] with
  | ⟨.returned true, p_desc, s_desc⟩ => (.returned true, servers_desc ++ [p_desc, s_desc])
  | ⟨outcome, _, _⟩ => (outcome, servers_desc)

/-- The digits of a number of 16 bits. -/
def unsignedDigits (digits : List Char) : Option UInt16 :=
  if digits ≠ [] ∧ digits.all Char.isDigit ∧ Nat.ofDigitChars 10 digits 0 < 2 ^ 16 then
    some (UInt16.ofNat (Nat.ofDigitChars 10 digits 0))
  else none

/-- `boost::lexical_cast<uint16_t>`, with a sign or without one. -/
def lexicalCast : List Char → Option UInt16
  | '-' :: digits => (unsignedDigits digits).map (0 - ·)
  | '+' :: digits => unsignedDigits digits
  | digits => unsignedDigits digits

def decodeServerDescriptionWithEndpoint (server_description_endpoint server_description : List Char)
    (endpoint : UInt16) : Outputs (List Char) UInt16 :=
  if !checkURL server_description_endpoint then ⟨.returned false, server_description, endpoint⟩
  else
    match tokens.split (· = '|') server_description_endpoint with
    | description :: index :: _ =>
      match lexicalCast index with
      | some n => ⟨.returned true, description, n⟩
      | none => ⟨.bad_lexical_cast, description, endpoint⟩
    | description :: _ => ⟨.undefined, description, endpoint⟩
    | [] => ⟨.undefined, server_description, endpoint⟩

/-- `DirectIOServerEndpoint::getUrl`, with the URL of the public interface when there is one. -/
def getUrl (server_public_interface : Option (List Char)) (endpoint_route_index : UInt16) :
    List Char :=
  match server_public_interface with
  | none => []
  | some url => url ++ '|' :: Nat.toDigits 10 endpoint_route_index.toNat

/-! ## What the parser promises -/

/-- The parts of a URL. -/
structure Parts where
  host : List Char
  priority_port : List Char
  service_port : List Char
  index : List Char

namespace Parts

variable (u : Parts)

/-- `host:p_port:s_port`. -/
def description : List Char := u.host ++ ':' :: (u.priority_port ++ ':' :: u.service_port)

def whole : List Char := u.description ++ '|' :: u.index

/-- The host has no separator, and the other parts are numbers. -/
structure Proper : Prop where
  host : ':' ∉ u.host ∧ '|' ∉ u.host
  priority_port : u.priority_port ≠ [] ∧ ∀ c ∈ u.priority_port, c.isDigit = true
  service_port : u.service_port ≠ [] ∧ ∀ c ∈ u.service_port, c.isDigit = true
  index : u.index ≠ [] ∧ ∀ c ∈ u.index, c.isDigit = true

/-- The URL is decoded to its description and its index, whatever the outputs hold before. The
description is decoupled to its two servers, and the two parts put together are the URL up to the
zeros in front of the index. -/
structure Decoded (n : UInt16) : Prop where
  index : n.toNat = Nat.ofDigitChars 10 u.index 0
  decodes : ∀ server_description endpoint,
    decodeServerDescriptionWithEndpoint u.whole server_description endpoint =
      ⟨.returned true, u.description, n⟩
  decouples : ∀ priority_desc service_desc,
    decoupleServerDescription u.description priority_desc service_desc =
      ⟨.returned true, u.host ++ ':' :: u.priority_port, u.host ++ ':' :: u.service_port⟩
  appends : ∀ servers_desc, decoupleServerDescriptions u.description servers_desc =
    (.returned true, servers_desc ++
      [u.host ++ ':' :: u.priority_port, u.host ++ ':' :: u.service_port])
  rebuilt : ∃ zeros digits, getUrl (some u.description) n = u.description ++ '|' :: digits ∧
    u.whole = u.description ++ '|' :: (List.replicate zeros '0' ++ digits)

end Parts

/-- A URL that is accepted has proper parts, which are what is decoded. One that is not accepted
is refused, and the outputs stay as they are. -/
structure IsParsed (url : List Char) : Prop where
  accepted : checkURL url = true → ∃ (u : Parts) (n : UInt16),
    url = u.whole ∧ u.Proper ∧ u.Decoded n
  refused : checkURL url = false → ∀ server_description endpoint,
    decodeServerDescriptionWithEndpoint url server_description endpoint =
      ⟨.returned false, server_description, endpoint⟩

/-! ## What is accepted -/

/-- A number of so many digits, as the expressions take it. -/
structure Digits (least most : Nat) (w : List Char) : Prop where
  least_le : least ≤ w.length
  le_most : w.length ≤ most
  digits : ∀ c ∈ w, c.isDigit = true

abbrev Port : List Char → Prop := Digits 4 5

abbrev Index : List Char → Prop := Digits 1 3

section accepted

variable {r : Regex Char} {b a : Option Char} {w : List Char}

theorem takes_digits_iff {least most : Nat} (h : least ≤ most) :
    Takes (between (one Char.isDigit) least most) b w a ↔ Digits least most w := by
  rw [takes_between_one_iff h]
  exact ⟨fun h => ⟨h.1, h.2.1, h.2.2⟩, fun h => ⟨h.least_le, h.le_most, h.digits⟩⟩

theorem takes_port_iff : Takes (between (one Char.isDigit) 4 5) b w a ↔ Port w :=
  takes_digits_iff (by decide)

theorem takes_index_iff : Takes (between (one Char.isDigit) 1 3) b w a ↔ Index w :=
  takes_digits_iff (by decide)

theorem takes_ports_iff :
    Takes ports b w a ↔ ∃ p s, w = ':' :: (p ++ ':' :: s) ∧ Port p ∧ Port s := by
  unfold ports
  rw [takes_seq_iff]
  constructor
  · rintro ⟨_, _, rfl, hcolon, hrest⟩
    rw [takes_literal_iff.mp hcolon]
    obtain ⟨p, _, rfl, hp, hrest⟩ := takes_seq_iff.mp hrest
    obtain ⟨_, s, rfl, hcolon, hs⟩ := takes_seq_iff.mp hrest
    rw [takes_literal_iff.mp hcolon]
    exact ⟨p, s, rfl, takes_port_iff.mp hp, takes_port_iff.mp hs⟩
  · rintro ⟨p, s, rfl, hp, hs⟩
    refine ⟨[':'], _, rfl, takes_literal_iff.mpr rfl, takes_seq_iff.mpr ?_⟩
    refine ⟨p, ':' :: s, rfl, takes_port_iff.mpr hp, takes_seq_iff.mpr ?_⟩
    exact ⟨[':'], s, rfl, takes_literal_iff.mpr rfl, takes_port_iff.mpr hs⟩

theorem takes_endpointIndex_iff : Takes endpointIndex b w a ↔ ∃ e, w = '|' :: e ∧ Index e := by
  unfold endpointIndex
  rw [takes_seq_iff]
  constructor
  · rintro ⟨_, e, rfl, hpipe, he⟩
    rw [takes_literal_iff.mp hpipe]
    exact ⟨e, rfl, takes_index_iff.mp he⟩
  · rintro ⟨e, rfl, he⟩
    exact ⟨['|'], e, rfl, takes_literal_iff.mpr rfl, takes_index_iff.mpr he⟩

/-- A host that one of the two kinds of expressions takes, up to the colon after it. -/
def Host (host : List Char) : Prop :=
  Takes hostName none host (some ':') ∨ Takes ip none host (some ':')

/-- The parts of a URL that is accepted. -/
structure Parts.Accepted (u : Parts) : Prop where
  host : Host u.host
  priority_port : Port u.priority_port
  service_port : Port u.service_port
  index : Index u.index

/-- An expression for a host before the ports. -/
theorem takes_description {host p s : List Char} (hhost : Takes r none host (some ':'))
    (hp : Port p) (hs : Port s) :
    Takes (seq r ports) none (host ++ ':' :: (p ++ ':' :: s)) none :=
  .seq hhost (takes_ports_iff.mpr ⟨p, s, rfl, hp, hs⟩)

theorem takes_url_iff : Takes (seq r (seq ports endpointIndex)) none w none ↔
    ∃ u : Parts, w = u.whole ∧ Takes r none u.host (some ':') ∧ Port u.priority_port ∧
      Port u.service_port ∧ Index u.index := by
  rw [takes_seq_iff]
  constructor
  · rintro ⟨host, _, rfl, hhost, hrest⟩
    obtain ⟨_, _, rfl, hports, hindex⟩ := takes_seq_iff.mp hrest
    obtain ⟨p, s, rfl, hp, hs⟩ := takes_ports_iff.mp hports
    obtain ⟨e, rfl, he⟩ := takes_endpointIndex_iff.mp hindex
    refine ⟨⟨host, p, s, e⟩, ?_, hhost, hp, hs, he⟩
    simp [Parts.whole, Parts.description]
  · rintro ⟨⟨host, p, s, e⟩, rfl, hhost, hp, hs, he⟩
    refine ⟨host, ':' :: (p ++ ':' :: s) ++ '|' :: e, ?_, hhost, takes_seq_iff.mpr ?_⟩
    · simp [Parts.whole, Parts.description]
    · exact ⟨_, _, rfl, takes_ports_iff.mpr ⟨p, s, rfl, hp, hs⟩,
        takes_endpointIndex_iff.mpr ⟨e, rfl, he⟩⟩

/-- What `checkURL` accepts. -/
theorem checkURL_iff {url : List Char} :
    checkURL url = true ↔ ∃ u : Parts, url = u.whole ∧ u.Accepted := by
  unfold checkURL
  rw [Bool.or_eq_true, fullMatch_iff, fullMatch_iff, DirectIOHostIPAndEndpointRegExp,
    DirectIOServerDescriptionHostAndEndpointRegExp, takes_url_iff, takes_url_iff]
  constructor
  · rintro (⟨u, hurl, hhost, hp, hs, he⟩ | ⟨u, hurl, hhost, hp, hs, he⟩)
    · exact ⟨u, hurl, .inl hhost, hp, hs, he⟩
    · exact ⟨u, hurl, .inr hhost, hp, hs, he⟩
  · rintro ⟨u, hurl, hhost | hhost, hp, hs, he⟩
    · exact .inl ⟨u, hurl, hhost, hp, hs, he⟩
    · exact .inr ⟨u, hurl, hhost, hp, hs, he⟩

/-- The description of a URL that is accepted is not refused. -/
theorem Parts.Accepted.description {u : Parts} (h : u.Accepted) :
    (!fullMatch u.description DirectIOHostNameRegExp &&
      !fullMatch u.description DirectIOIPAndPortRegExp) = false := by
  have haccepted : ∀ r, Takes r none u.host (some ':') →
      fullMatch u.description (seq r ports) = true := by
    intro r hhost
    exact fullMatch_iff.mpr (takes_description hhost h.priority_port h.service_port)
  rw [DirectIOHostNameRegExp, DirectIOIPAndPortRegExp]
  rcases h.host with hname | hip
  · rw [haccepted hostName hname]
    rfl
  · rw [haccepted ip hip]
    exact Bool.and_false _

end accepted

/-! ## What is decoded -/

section decoded

variable {u : Parts} {w : List Char} {sep : Char}

theorem ne_of_digits {w : List Char} (sep : Char) (hsep : sep.isDigit = false) (hw : ∀ c ∈ w, c.isDigit = true) :
    ∀ c ∈ w, decide (c = sep) = false := by
  intro c hc
  refine decide_eq_false ?_
  rintro rfl
  exact Bool.false_ne_true (hsep.symm.trans (hw c hc))

theorem ne_of_not_mem (h : sep ∉ w) : ∀ c ∈ w, decide (c = sep) = false := by
  intro c hc
  refine decide_eq_false ?_
  rintro rfl
  exact h hc

/-- Digits that start a text, so that no separator does. -/
theorem head?_of_digits {w : List Char} (sep : Char) (hsep : sep.isDigit = false)
    (hw : ∀ c ∈ w, c.isDigit = true) (hne : w ≠ []) (rest : List Char) : (w ++ rest).head?.any (· = sep) = false := by
  obtain ⟨c, w, rfl⟩ := List.exists_cons_of_ne_nil hne
  exact ne_of_digits sep hsep hw c List.mem_cons_self

theorem Digits.ne_nil {least most : Nat} (h : Digits (least + 1) most w) : w ≠ [] := by
  rintro rfl
  exact absurd h.least_le (Nat.not_succ_le_zero least)

/-- The description of a host without a colon comes apart into the host and the ports. -/
theorem split_description (h : u.Accepted) (hhost : ':' ∉ u.host) :
    tokens.split (· = ':') u.description = [u.host, u.priority_port, u.service_port] := by
  have hcolon : decide (':' = ':') = true := rfl
  have hservice := head?_of_digits ':' rfl h.service_port.digits h.service_port.ne_nil []
  rw [List.append_nil] at hservice
  unfold Parts.description
  rw [tokens.split_append_cons (ne_of_not_mem hhost) hcolon
      (head?_of_digits _ rfl h.priority_port.digits h.priority_port.ne_nil _),
    tokens.split_append_cons (ne_of_digits _ rfl h.priority_port.digits) hcolon hservice,
    tokens.split_of_free (ne_of_digits _ rfl h.service_port.digits)]

theorem decoupleServerDescription_description (h : u.Accepted) (hhost : ':' ∉ u.host)
    (priority_desc service_desc : List Char) :
    decoupleServerDescription u.description priority_desc service_desc =
      ⟨.returned true, u.host ++ ':' :: u.priority_port, u.host ++ ':' :: u.service_port⟩ := by
  unfold decoupleServerDescription
  rw [h.description, if_neg (by decide), split_description h hhost]

/-- A URL of a host without a separator comes apart into the description and the index. -/
theorem split_url (h : u.Accepted) (hhost : '|' ∉ u.host) :
    tokens.split (· = '|') u.whole = [u.description, u.index] := by
  have hpipe : decide ('|' = '|') = true := rfl
  have hindex := head?_of_digits '|' rfl h.index.digits h.index.ne_nil []
  rw [List.append_nil] at hindex
  have hfree : ∀ c ∈ u.description, decide (c = '|') = false := by
    refine ne_of_not_mem fun hmem => ?_
    have hp := ne_of_digits '|' rfl h.priority_port.digits
    have hs := ne_of_digits '|' rfl h.service_port.digits
    rcases List.mem_append.mp hmem with hmem | hmem
    · exact hhost hmem
    · rcases List.mem_cons.mp hmem with hmem | hmem
      · exact absurd hmem (by decide)
      · rcases List.mem_append.mp hmem with hmem | hmem
        · exact absurd (hp _ hmem) (by decide)
        · rcases List.mem_cons.mp hmem with hmem | hmem
          · exact absurd hmem (by decide)
          · exact absurd (hs _ hmem) (by decide)
  unfold Parts.whole
  rw [tokens.split_append_cons hfree hpipe hindex,
    tokens.split_of_free (ne_of_digits _ rfl h.index.digits)]

theorem lexicalCast_of_digits (hw : ∀ c ∈ w, c.isDigit = true) :
    lexicalCast w = unsignedDigits w := by
  unfold lexicalCast
  split
  · exact absurd (hw '-' List.mem_cons_self) (by decide)
  · exact absurd (hw '+' List.mem_cons_self) (by decide)
  · rfl

/-- The index fits into 16 bits. -/
theorem lexicalCast_index (h : Index w) :
    lexicalCast w = some (UInt16.ofNat (Nat.ofDigitChars 10 w 0)) ∧
      (UInt16.ofNat (Nat.ofDigitChars 10 w 0)).toNat = Nat.ofDigitChars 10 w 0 := by
  have hlt : Nat.ofDigitChars 10 w 0 < 2 ^ 16 := by
    refine Nat.lt_of_lt_of_le (decimals.ofDigitChars_lt h.digits) ?_
    exact Nat.le_trans (Nat.pow_le_pow_right (by decide) h.le_most) (by decide)
  constructor
  · rw [lexicalCast_of_digits h.digits, unsignedDigits, if_pos]
    exact ⟨h.ne_nil, List.all_eq_true.mpr h.digits, hlt⟩
  · rw [UInt16.toNat_ofNat']
    exact Nat.mod_eq_of_lt hlt

/-- The parts of a URL that is accepted, when its host has no separator. -/
theorem Parts.Accepted.decoded (h : u.Accepted) (hcolon : ':' ∉ u.host) (hpipe : '|' ∉ u.host) :
    u.Proper ∧ u.Decoded (UInt16.ofNat (Nat.ofDigitChars 10 u.index 0)) := by
  obtain ⟨hcast, hvalue⟩ := lexicalCast_index h.index
  have hdecouple := decoupleServerDescription_description h hcolon
  obtain ⟨zeros, hzeros⟩ := decimals.exists_zeros h.index.ne_nil h.index.digits
  refine ⟨⟨⟨hcolon, hpipe⟩, ⟨h.priority_port.ne_nil, h.priority_port.digits⟩,
    ⟨h.service_port.ne_nil, h.service_port.digits⟩, ⟨h.index.ne_nil, h.index.digits⟩⟩,
    hvalue, ?_, hdecouple, ?_, zeros, _, rfl, ?_⟩
  · intro server_description endpoint
    have haccepted : checkURL u.whole = true := checkURL_iff.mpr ⟨u, rfl, h⟩
    unfold decodeServerDescriptionWithEndpoint
    rw [haccepted, if_neg (by decide), split_url h hpipe]
    simp only [hcast]
  · intro servers_desc
    unfold decoupleServerDescriptions
    rw [hdecouple]
  · rw [hvalue, ← hzeros]
    rfl

theorem count_of_digits (hsep : sep.isDigit = false) (hw : ∀ c ∈ w, c.isDigit = true) :
    w.count sep = 0 := by
  refine List.count_eq_zero.mpr fun hmem => ?_
  exact Bool.false_ne_true (hsep.symm.trans (hw sep hmem))

/-- The separators of a URL, when its parts but the host are digits. -/
theorem count_whole (hp : ∀ c ∈ u.priority_port, c.isDigit = true)
    (hs : ∀ c ∈ u.service_port, c.isDigit = true) (he : ∀ c ∈ u.index, c.isDigit = true) :
    u.whole.count ':' = u.host.count ':' + 2 ∧ u.whole.count '|' = u.host.count '|' + 1 := by
  have hcount : ∀ sep : Char, sep.isDigit = false → u.whole.count sep =
      u.host.count sep + (if ':' = sep then 2 else 0) + if '|' = sep then 1 else 0 := by
    intro sep hsep
    simp only [Parts.whole, Parts.description, List.count_append, List.count_cons,
      count_of_digits hsep hp, count_of_digits hsep hs, count_of_digits hsep he, beq_iff_eq]
    split <;> split <;> rfl
  constructor
  · exact hcount ':' rfl
  · exact hcount '|' rfl

end decoded

/-! ## The law -/

/-- A URL that is parsed has no more separators than the three of its form. -/
theorem IsParsed.count {url : List Char} (h : IsParsed url) (haccepted : checkURL url = true) :
    url.count ':' = 2 ∧ url.count '|' = 1 := by
  obtain ⟨u, n, rfl, hproper, -⟩ := h.accepted haccepted
  obtain ⟨hcolons, hpipes⟩ :=
    count_whole hproper.priority_port.2 hproper.service_port.2 hproper.index.2
  rw [hcolons, hpipes, List.count_eq_zero.mpr hproper.host.1, List.count_eq_zero.mpr hproper.host.2]
  exact ⟨rfl, rfl⟩

/-- Any character can stand between two words of a host. -/
theorem host_around (c : Char) : Host ['a', c, 'b'] := by
  have hword : ∀ (d : Char) (b a : Option Char), d.isAlphanum = true →
      Takes (plus (one Char.isAlphanum)) b [d] a := fun d b a hd =>
    takes_seq_iff.mpr ⟨[d], [], rfl, .one hd, .manyNil⟩
  refine .inl (takes_seq_iff.mpr ⟨['a'], [c, 'b'], rfl, hword _ _ _ rfl, ?_⟩)
  refine takes_seq_iff.mpr ⟨[c, 'b'], [], rfl, ?_, .manyNil⟩
  exact takes_seq_iff.mpr ⟨[c], ['b'], rfl, .one rfl, hword _ _ _ rfl⟩

/-- `a?b:1000:2000|1`, with a character in the place of the question mark. -/
def urlAround (c : Char) : Parts := ⟨['a', c, 'b'], "1000".toList, "2000".toList, ['1']⟩

theorem accepted_urlAround (c : Char) : (urlAround c).Accepted :=
  have hfirst : Port "1000".toList := ⟨by decide, by decide, List.all_eq_true.mp (by decide)⟩
  have hsecond : Port "2000".toList := ⟨by decide, by decide, List.all_eq_true.mp (by decide)⟩
  have hindex : Index ['1'] := ⟨by decide, by decide, List.all_eq_true.mp (by decide)⟩
  ⟨host_around c, hfirst, hsecond, hindex⟩

end chaos.common.direct_io.url
