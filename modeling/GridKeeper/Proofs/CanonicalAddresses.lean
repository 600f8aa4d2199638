import GridKeeper.Proofs.DirectoryHistory
import GridKeeper.Proofs.Provenance

/-!
# Canonical addresses

The canonical address of a node is made of what is kept of it: the scheme, the host in its canonical
form, and the port if there is one. Reading it has to find the port behind a host of any shape, be
it a name, an IP address, or a text with colons of its own in brackets; and where the port is the
default of the scheme, the URL reader does not show it. Put together with other ports, or with none,
one scheme and host give as many nodes.

All of this is for a host that the URL reader comes to again when it is given its canonical form
(`HostReadAgain`). That is asked for because of Punycode: the code that a label is given may be
longer than one that is read.

**Results.**
* `Url.authority_of_parts`: a host in canonical form and a port behind it are read as just these.
* `Url.parse_of_parts`: the same for an address of a scheme, a host and a port.
* `parse_canonical`: a canonical address is read as the node that it was made from, whatever the
  port.
* `canonical_ports`: the nodes that differ in the port alone are told apart everywhere.
-/
namespace GridKeeper

open Text

/-! ## The authority -/

namespace Url

variable {kind : Kind} {c : Char} {host inner port tail text : List Char} {written : Option Nat}

theorem not_ends_of_allowed (hc : forbiddenInHost c = false) :
    endsAuthority .special c = false := by
  refine eq_false_of_ne_true fun he => ?_
  simp only [endsAuthority, isSlash, Bool.or_eq_true, Bool.and_eq_true, decide_eq_true_eq] at he
  rcases he with ((rfl | ⟨-, rfl⟩) | rfl) | rfl <;> cases hc

theorem plain_of_ipv6Sign (hc : isIpv6Sign c = true) :
    endsAuthority .special c = false ∧ c ≠ '@' ∧ c ≠ '[' ∧ c ≠ ']' := by
  have hsigns := of_ipv6Sign
    (p := fun c => !endsAuthority .special c && c != '@' && c != '[' && c != ']') hc rfl (by decide)
  simpa [and_assoc] using hsigns

/-- No sign of a host in canonical form ends the authority or the user part. -/
theorem Shape.undivided (hs : Shape host) (hm : c ∈ host) :
    endsAuthority .special c = false ∧ c ≠ '@' := by
  cases hs with
  | plain hf => exact ⟨not_ends_of_allowed (hf c hm), fun e => by cases hf '@' (e ▸ hm)⟩
  | bracketed hi =>
    rcases List.mem_cons.1 hm with rfl | hm
    · exact ⟨rfl, by decide⟩
    · rcases List.mem_append.1 hm with hm | hm
      · exact ⟨(plain_of_ipv6Sign (hi c hm)).1, (plain_of_ipv6Sign (hi c hm)).2.1⟩
      · rw [List.mem_singleton.1 hm]
        exact ⟨rfl, by decide⟩

theorem spanHost_plain (hf : ∀ c ∈ host, forbiddenInHost c = false)
    (hp : port = [] ∨ ∃ rest, port = ':' :: rest) :
    spanHost kind false (host ++ port) = (host, port) := by
  induction host with
  | nil => rcases hp with rfl | ⟨rest, rfl⟩ <;> simp [spanHost]
  | cons c host ih =>
    have hc : forbiddenInHost c = false := hf c (.head _)
    have hends : endsAuthority kind c = false := not_ends_of_special (not_ends_of_allowed hc)
    have hsigns : c ≠ ':' ∧ c ≠ '[' ∧ c ≠ ']' := by
      refine ⟨?_, ?_, ?_⟩ <;> rintro rfl <;> cases hc
    have := ih fun x hx => hf x (.tail _ hx)
    simp [spanHost, hends, hsigns, this]

theorem spanHost_inside (hi : ∀ c ∈ inner, isIpv6Sign c = true) :
    spanHost kind true (inner ++ ']' :: tail) =
      (inner ++ ']' :: (spanHost kind false tail).1, (spanHost kind false tail).2) := by
  induction inner with
  | nil =>
    have hends : endsAuthority kind ']' = false := not_ends_of_special rfl
    simp [spanHost, hends]
  | cons c inner ih =>
    obtain ⟨hends, -, hopen, hclose⟩ := plain_of_ipv6Sign (hi c (.head _))
    have hends : endsAuthority kind c = false := not_ends_of_special hends
    have := ih fun x hx => hi x (.tail _ hx)
    simp [spanHost, hends, hopen, hclose, this]

/-- The host of an authority is divided from the port behind it. -/
theorem Shape.span (hs : Shape host) (hp : port = [] ∨ ∃ rest, port = ':' :: rest) :
    spanHost kind false (host ++ port) = (host, port) := by
  cases hs with
  | plain hf => exact spanHost_plain hf hp
  | @bracketed inner hi =>
    have hends : endsAuthority kind '[' = false := not_ends_of_special rfl
    have hport : spanHost kind false port = ([], port) := @spanHost_plain kind [] port nofun hp
    have hinner := @spanHost_inside kind inner port hi
    simp [spanHost, hends, hinner, hport]

theorem Spells.shape (hp : Spells port written) :
    port = [] ∨ ∃ digits, port = ':' :: digits ∧ ∀ c ∈ digits, c.isDigit = true := by
  cases hp with
  | none => exact .inl rfl
  | empty => exact .inr ⟨[], rfl, nofun⟩
  | digits hd => exact .inr ⟨_, rfl, (digits_of_readDigits hd).2⟩

theorem not_ends_of_digit (hc : c.isDigit = true) : endsAuthority .special c = false :=
  not_ends_of_allowed (allowed_of_digit hc)

theorem Spells.undivided (hp : Spells port written) (hm : c ∈ port) :
    endsAuthority .special c = false ∧ c ≠ '@' := by
  rcases hp.shape with rfl | ⟨digits, rfl, hd⟩
  · cases hm
  · rcases List.mem_cons.1 hm with rfl | hm
    · exact ⟨rfl, by decide⟩
    · exact ⟨not_ends_of_digit (hd c hm), fun e => by cases hd '@' (e ▸ hm)⟩

theorem Spells.numeric (hp : Spells port written) (hm : c ∈ port) :
    c = ':' ∨ isNumeric c = true := by
  rcases hp.shape with rfl | ⟨digits, rfl, hd⟩
  · cases hm
  · exact (List.mem_cons.1 hm).imp_right fun hm => numeric_of_digit (hd c hm)

theorem Spells.high (hp : Spells port written) (hm : c ∈ port) : 0x20 < c.toNat := by
  rcases hp.numeric hm with rfl | hc
  · decide
  · have := toNat_of_numeric hc
    omega

theorem Spells.port_eq (hp : Spells port written) : port? port = some written := by
  cases hp with
  | none => rfl
  | empty => rfl
  | @digits digits p hd hle =>
    obtain ⟨hne, hall⟩ := digits_of_readDigits hd
    have htake : digits.takeWhile (!endsAuthority .special ·) = digits :=
      List.takeWhile_eq_self_iff.2 fun c hc => by simp [not_ends_of_digit (hall c hc)]
    simp [port?, htake, hne, hd, hle]

/-- **A host in canonical form and a port behind it are read as just these.** -/
theorem authority_of_parts (hs : Shape host) (hne : host ≠ []) (hp : Spells port written) :
    authority? kind (host ++ port) = (readHost? kind host).map fun h => (some h, written) := by
  have hplain : ∀ c ∈ host ++ port, endsAuthority .special c = false ∧ c ≠ '@' := fun c hc =>
    (List.mem_append.1 hc).elim hs.undivided hp.undivided
  have htake : (host ++ port).takeWhile (!endsAuthority kind ·) = host ++ port :=
    List.takeWhile_eq_self_iff.2 fun c hc => by simp [not_ends_of_special (hplain c hc).1]
  have hcut : cutLast? '@' (host ++ port) = none :=
    cutLast_eq_none.2 fun hc => (hplain '@' hc).2 rfl
  have hbehind : behindUser kind (host ++ port) = host ++ port := by
    simp only [behindUser, htake, hcut]
  have hspan : spanHost kind false (host ++ port) = (host, port) :=
    hs.span (hp.shape.imp_right fun ⟨digits, he, _⟩ => ⟨digits, he⟩)
  have hempty : host.isEmpty = false := by simpa using hne
  simp only [authority?, hbehind, hspan, hempty, hp.port_eq, readHost?,
    Bool.false_eq_true, if_false, Option.map_eq_bind]
  rfl

/-! ## Whole addresses -/

/-- The scheme of an address as it is kept: a letter and what may stand behind it, in lower case. -/
structure IsScheme (scheme : String) : Prop where
  chars : ∀ c ∈ scheme.toList, isSchemeChar c = true
  letter : ∃ first more, scheme.toList = first :: more ∧ first.isAlpha = true
  lower : lowerAscii scheme.toList = scheme.toList

theorem schemeChar_toLower (hc : isSchemeChar c = true) : isSchemeChar c.toLower = true := by
  cases hu : c.isUpper with
  | true =>
    have hletter : c.toLower.isAlpha = true := alpha_toLower (Bool.or_eq_true_iff.2 (.inl hu))
    simp [isSchemeChar, Char.isAlphanum, hletter]
  | false => rwa [toLower_of_not_upper hu]

theorem isScheme_of_read {scheme : String} (h : scheme? text = some scheme) : IsScheme scheme := by
  obtain ⟨rest, -, rfl, first, more, hletter, hfirst⟩ := scheme_eq_some h
  have hchars : ∀ c ∈ text.takeWhile isSchemeChar, isSchemeChar c = true := fun c hc =>
    List.mem_takeWhile_imp hc
  generalize text.takeWhile isSchemeChar = name at hletter hchars ⊢
  refine ⟨?_, ?_, ?_⟩ <;> rw [String.toList_ofList]
  · intro c hc
    obtain ⟨x, hx, rfl⟩ := List.mem_map.1 hc
    exact schemeChar_toLower (hchars x hx)
  · exact ⟨first.toLower, lowerAscii more, by rw [hletter]; rfl, alpha_toLower hfirst⟩
  · exact lowerAscii_lowerAscii name

theorem IsScheme.read {scheme : String} (h : IsScheme scheme) (rest : List Char) :
    scheme? (scheme.toList ++ ':' :: rest) = some scheme := by
  obtain ⟨first, more, hsplit, hfirst⟩ := h.letter
  have hhead : (scheme.toList ++ ':' :: rest).head? = some first := by rw [hsplit]; rfl
  have hdrop : (scheme.toList ++ ':' :: rest).dropWhile isSchemeChar = ':' :: rest := by
    rw [List.dropWhile_append_of_pos h.chars, List.dropWhile_cons_of_neg (by decide)]
  rw [scheme?, hhead, hdrop]
  simp only [hfirst, if_true, takeWhile_scheme h.chars, h.lower, String.ofList_toList]

theorem solid_of_schemeChar (hc : isSchemeChar c = true) : isBlank c = false := by
  refine eq_false_of_ne_true fun hb => ?_
  simp only [isSchemeChar, Char.isAlphanum, not_alpha_of_blank hb, Bool.false_or,
    Bool.or_eq_true, decide_eq_true_eq] at hc
  rcases hc with ((hc | rfl) | rfl) | rfl
  · cases hb.symm.trans (solid_of_numeric (numeric_of_digit hc))
  all_goals cases hb

theorem rest_of_slashes (hk : kind ≠ .file) (hne : text ≠ [])
    (hb : ∀ c ∈ text, isBreak c = false ∧ endsAuthority .special c = false) :
    rest? kind ('/' :: '/' :: text) = authority? kind text := by
  have hcounted : withoutBreaks ('/' :: '/' :: text) = '/' :: '/' :: text :=
    withoutBreaks_of_none fun c hc => by
      rcases List.mem_cons.1 hc with rfl | hc
      · rfl
      · rcases List.mem_cons.1 hc with rfl | hc
        · rfl
        · exact (hb c hc).1
  cases kind with
  | file => exact absurd rfl hk
  | other =>
    simp only [rest?, hcounted]
    rfl
  | special =>
    obtain ⟨c, more, rfl⟩ := List.exists_cons_of_ne_nil hne
    have hslash : isSlash .special c = false := by
      have := (hb c (.head _)).2
      simp only [endsAuthority, Bool.or_eq_false_iff] at this
      exact this.1.1
    simp only [rest?, hcounted]
    rw [List.dropWhile_cons_of_pos (by rfl), List.dropWhile_cons_of_pos (by rfl),
      List.dropWhile_cons_of_neg (by simp [hslash])]

/-- **An address of a scheme, a host in canonical form and a port is read as just these**, if the
host is read at all. -/
theorem parse_of_parts {scheme : String} (hs : IsScheme scheme) (hk : kindOf scheme ≠ .file)
    (hh : Shape host) (hsigns : ∀ c ∈ host, 0x20 < c.toNat) (hne : host ≠ [])
    (hp : Spells port written) :
    parse? (scheme.toList ++ ':' :: '/' :: '/' :: (host ++ port)) =
      (readHost? (kindOf scheme) host).map fun h => ⟨scheme, some h, written⟩ := by
  have hhigh : ∀ c ∈ host ++ port, 0x20 < c.toNat := fun c hc =>
    (List.mem_append.1 hc).elim (hsigns c) hp.high
  have hplain : ∀ c ∈ host ++ port, isBreak c = false ∧ endsAuthority .special c = false :=
    fun c hc => ⟨not_break_of_high (hhigh c hc),
      ((List.mem_append.1 hc).elim hh.undivided hp.undivided).1⟩
  have hempty : host ++ port ≠ [] := List.append_ne_nil_of_left_ne_nil hne _
  have htrim : trimmed (scheme.toList ++ ':' :: '/' :: '/' :: (host ++ port)) =
      scheme.toList ++ ':' :: '/' :: '/' :: (host ++ port) := by
    obtain ⟨tail, cut, hnil, htrim⟩ := trimmed_usual hs.chars hempty hhigh []
    rw [List.nil_eq_append_iff] at hnil
    simpa [hnil.1] using htrim
  have hbreaks : ∀ c ∈ scheme.toList ++ [':'], isBreak c = false := fun c hc => by
    rcases List.mem_append.1 hc with hc | hc
    · exact not_break_of_high (high_of_schemeChar (hs.chars c hc))
    · rw [List.mem_singleton.1 hc]
      rfl
  have hdrop : dropCounted (scheme.length + 1)
      (scheme.toList ++ ':' :: '/' :: '/' :: (host ++ port)) = '/' :: '/' :: (host ++ port) := by
    have := dropCounted_append (b := '/' :: '/' :: (host ++ port)) hbreaks
    rw [← String.length_toList]
    simpa using this
  have hcounted : withoutBreaks (scheme.toList ++ ':' :: '/' :: '/' :: (host ++ port)) =
      scheme.toList ++ ':' :: withoutBreaks ('/' :: '/' :: (host ++ port)) := by
    rw [withoutBreaks_append, withoutBreaks_of_none fun c hc => hbreaks c (by simp [hc])]
    rfl
  rw [parse?, htrim]
  dsimp only
  rw [hcounted, hs.read, Option.bind_some, hdrop, rest_of_slashes hk hempty hplain,
    authority_of_parts hh hne hp, Option.map_map]
  rfl

end Url

/-! ## Nodes that differ in the port -/

namespace Node

variable {address : String} {n : Node} {port other : Option Nat}

def withPort (n : Node) (port : Option Nat) : Node := { n with port := port }

def portText (port : Option Nat) : String := port.elim "" fun p => ":" ++ toString p

/-- The canonical address of a node: its scheme, its host and its port, if it has one. -/
def canonical (n : Node) : String := n.scheme ++ "://" ++ n.host ++ portText n.port

/-- The host of the node is what the URL reader makes of the scheme and the host alone. -/
def HostReadAgain (n : Node) : Prop :=
  ((Url.parse? (n.scheme ++ "://" ++ n.host).toList).bind Url.host).map Url.Host.text = some n.host

instance (n : Node) : Decidable n.HostReadAgain := inferInstanceAs (Decidable (_ = _))

def IsPort (port : Option Nat) : Prop := ∀ p ∈ port, p ≤ max16

instance : DecidablePred IsPort := fun port => inferInstanceAs (Decidable (∀ p ∈ port, p ≤ max16))

theorem portNumber_withPort_inj :
    (n.withPort port).portNumber = (n.withPort other).portNumber ↔ port = other := by
  cases other with
  | none => exact portNumber_eq_noPort
  | some q => exact portNumber_eq_iff

theorem key_withPort_inj : (n.withPort port).key = (n.withPort other).key ↔ port = other := by
  rw [← @portNumber_withPort_inj n]
  exact ⟨fun h => congrArg Key.port h, fun h => congrArg (Key.of n.host) h⟩

theorem spells_portText (hp : IsPort port) : Url.Spells (portText port).toList port := by
  cases port with
  | none => exact .none
  | some p =>
    have hwritten : (portText (some p)).toList = ':' :: Nat.toDigits 10 p := by
      simp [portText]
    rw [hwritten]
    exact .digits (readDigits_toDigits p) (hp p rfl)

theorem toList_canonical (n : Node) (port : Option Nat) : (n.withPort port).canonical.toList =
    n.scheme.toList ++ ':' :: '/' :: '/' :: (n.host.toList ++ (portText port).toList) := by
  simp [canonical, withPort]

theorem kindOf_ne_file {scheme : String} (h : scheme ≠ "file") : Url.kindOf scheme ≠ .file := by
  unfold Url.kindOf
  rw [if_neg h]
  split <;> nofun

theorem Genuine.scheme (h : n.Genuine) : Url.IsScheme n.scheme := by
  obtain ⟨address, hn⟩ := h
  obtain ⟨url, host, hu, -, rfl⟩ := of_parse hn
  obtain ⟨scheme, hs, hu⟩ := Option.bind_eq_some_iff.1 hu
  obtain ⟨_, -, rfl⟩ := Option.map_eq_some_iff.1 hu
  exact Url.isScheme_of_read hs

theorem Genuine.shape (h : n.Genuine) : Url.Shape n.host.toList := by
  obtain ⟨address, hn⟩ := h
  obtain ⟨url, host, hu, hh, rfl⟩ := of_parse hn
  exact Url.shape_text (Url.spelled_read hu hh).1

theorem Genuine.high (h : n.Genuine) : ∀ c ∈ n.host.toList, 0x20 < c.toNat :=
  fun c hc => (Url.isHostSign_iff.1 (h.signs c hc)).1.1

theorem Genuine.parse_url (h : n.Genuine) (hf : n.scheme ≠ "file") (hp : IsPort port) :
    Url.parse? (n.withPort port).canonical.toList =
      (Url.readHost? (Url.kindOf n.scheme) n.host.toList).map fun host =>
        ⟨n.scheme, some host, port⟩ := by
  rw [toList_canonical]
  exact Url.parse_of_parts h.scheme (kindOf_ne_file hf) h.shape h.high h.host_ne_nil
    (spells_portText hp)

theorem Genuine.usual (h : n.Genuine) (hp : IsPort port) :
    Url.Usual (n.withPort port).canonical.toList := by
  have hspells := spells_portText hp
  have hauthority : ∀ c ∈ n.host.toList ++ (portText port).toList,
      0x20 < c.toNat ∧ Url.endsAuthority .special c = false := fun c hc => by
    rcases List.mem_append.1 hc with hc | hc
    · exact ⟨h.high c hc, (h.shape.undivided hc).1⟩
    · exact ⟨hspells.high hc, (hspells.undivided hc).1⟩
  have hne : n.host.toList ++ (portText port).toList ≠ [] :=
    List.append_ne_nil_of_left_ne_nil h.host_ne_nil _
  have := @Url.Usual.intro _ _ [] h.scheme.chars hne hauthority nofun
  rwa [List.append_nil, ← toList_canonical] at this

theorem Genuine.trim_canonical (h : n.Genuine) (hp : IsPort port) :
    trim (n.withPort port).canonical.toList = (n.withPort port).canonical.toList := by
  refine trim_of_solid fun c hc => ?_
  simp only [toList_canonical, List.mem_append, List.mem_cons] at hc
  rcases hc with hc | rfl | rfl | rfl | hc | hc
  · exact Url.solid_of_schemeChar (h.scheme.chars c hc)
  · rfl
  · rfl
  · rfl
  · exact h.solid c hc
  · rcases (spells_portText hp).numeric hc with rfl | hc
    · rfl
    · exact solid_of_numeric hc

/-- The host of a node that the URL reader comes to again is read as itself. -/
theorem Genuine.readHost (h : n.Genuine) (hf : n.scheme ≠ "file") (ha : n.HostReadAgain) :
    ∃ host, Url.readHost? (Url.kindOf n.scheme) n.host.toList = some host ∧ host.text = n.host := by
  have hbare : (n.withPort none).canonical = n.scheme ++ "://" ++ n.host := String.append_empty
  have hread := @parse_url n none h hf nofun
  rw [hbare] at hread
  rw [HostReadAgain, hread] at ha
  obtain ⟨host, hh, htext⟩ := Option.map_eq_some_iff.1 ha
  obtain ⟨url, hu, hh⟩ := Option.bind_eq_some_iff.1 hh
  obtain ⟨host', hr, rfl⟩ := Option.map_eq_some_iff.1 hu
  cases hh
  exact ⟨host, hr, htext⟩

/-- **A canonical address is read as the node that it was made from**, whatever the port. -/
theorem parse_canonical (h : n.Genuine) (hf : n.scheme ≠ "file") (ha : n.HostReadAgain)
    (hp : IsPort port) : parse? (n.withPort port).canonical = some (n.withPort port) := by
  obtain ⟨host, hread, htext⟩ := h.readHost hf ha
  have htrim := h.trim_canonical hp
  have hu : Url.parse? (trim (n.withPort port).canonical.toList) =
      some ⟨n.scheme, some host, port⟩ := by
    rw [htrim, h.parse_url hf hp, hread]
    rfl
  have hwritten := writtenPort_of_usual (by rw [htrim]; exact h.usual hp) hu rfl
  have hport := (port_eq_iff_of_url ⟨n.scheme, some host, port⟩ _).2 (.inr hwritten)
  have hne : n.host.isEmpty = false := by simpa using h.host_ne_nil
  simp only [parse?, hu, Option.bind_some, Option.map_some, htext, hne, hport,
    Bool.false_eq_true, if_false]
  rfl

end Node

/-! ## Entries of their own -/

namespace Directory

variable {d : Directory} {nodes : List Node} {text : Node → String}

theorem seed_of_distinct (ht : ∀ n ∈ nodes, Node.parse? (text n) = some n)
    (hd : (⟨d.nodes ++ nodes⟩ : Directory).Distinct) :
    d.seed (nodes.map text) = (none, ⟨d.nodes ++ nodes⟩) := by
  induction nodes generalizing d with
  | nil => rw [List.append_nil]; rfl
  | cons n nodes ih =>
    obtain ⟨hn, hrest⟩ := List.forall_mem_cons.1 ht
    have hnew : ¬ d.holds n = true := fun hh => by
      obtain ⟨m, hm, hkey⟩ := holds_iff.1 hh
      exact (List.pairwise_append.1 hd).2.2 m hm n (.head _) hkey
    have happend : d.nodes ++ n :: nodes = (d.nodes ++ [n]) ++ nodes := by simp
    rw [happend] at hd ⊢
    have := @ih ⟨d.nodes ++ [n]⟩ hrest hd
    simpa [seed, add, hn, insert_of_new hnew] using this

end Directory

namespace Node

variable {address : String} {n : Node}

/-- What becomes of the scheme and the host of a node with one port or another behind them. -/
structure KeepsPorts (n : Node) : Prop where
  /-- Every port of 16 bits is read as it is written, the default of the scheme too. -/
  written : ∀ p ≤ max16,
    parse? (n.scheme ++ "://" ++ n.host ++ ":" ++ toString p) = some ⟨n.scheme, n.host, some p⟩ ∧
    (⟨n.scheme, n.host, some p⟩ : Node).portNumber = p
  /-- None is read where none is written. -/
  bare : parse? (n.scheme ++ "://" ++ n.host) = some ⟨n.scheme, n.host, none⟩ ∧
    (⟨n.scheme, n.host, none⟩ : Node).portNumber = -1
  /-- Nodes with different ports are not the same, and a session on one does not count for another. -/
  apart : ∀ port other : Option Nat, port ≠ other →
    (n.withPort port).same (n.withPort other) = false ∧
    (n.withPort port).key ≠ (n.withPort other).key ∧
    ∀ l : Ledger, (l.addSession (n.withPort port).key).count (n.withPort other).key =
      l.count (n.withPort other).key
  /-- The directory takes them all. -/
  entries : ∀ ports : List (Option Nat), ports.Nodup → (∀ port ∈ ports, IsPort port) →
    Directory.seed {} (ports.map fun port => (n.withPort port).canonical) =
      (none, ⟨ports.map n.withPort⟩)
  /-- A canonical address is read as the node that it was made from. -/
  again : ∀ m : Node, m.scheme = n.scheme → m.host = n.host → IsPort m.port →
    parse? m.canonical = some m

/-- **Nodes that differ in the port alone.** Let a scheme other than that of files and a host be
those of a node that was read, and let the URL reader come to the host again. Then every port behind
both is kept, and makes a node of its own. -/
theorem canonical_ports (hn : parse? address = some n) (hf : n.scheme ≠ "file")
    (ha : n.HostReadAgain) : n.KeepsPorts := by
  have hg : n.Genuine := ⟨address, hn⟩
  have hparse : ∀ port, IsPort port → parse? (n.withPort port).canonical = some (n.withPort port) :=
    fun port => parse_canonical hg hf ha
  have hkey : ∀ {port other : Option Nat}, port ≠ other →
      (n.withPort port).key ≠ (n.withPort other).key := fun hne => mt key_withPort_inj.1 hne
  constructor
  case written =>
    intro p hp
    have htext : (n.withPort (some p)).canonical =
        n.scheme ++ "://" ++ n.host ++ ":" ++ toString p := String.append_assoc.symm
    refine ⟨?_, rfl⟩
    rw [← htext]
    exact hparse (some p) fun q hq => Option.some.inj hq ▸ hp
  case bare =>
    have htext : (n.withPort none).canonical = n.scheme ++ "://" ++ n.host := String.append_empty
    refine ⟨?_, rfl⟩
    rw [← htext]
    exact hparse none nofun
  case apart =>
    intro port other hne
    exact ⟨eq_false_of_ne_true fun hsame => hkey hne (same_iff.1 hsame), hkey hne,
      fun l => Ledger.find_alter_other (hkey hne).symm⟩
  case entries =>
    intro ports hnodup hports
    have hdistinct : (⟨ports.map n.withPort⟩ : Directory).Distinct :=
      List.pairwise_map.2 (hnodup.imp hkey)
    have htexts : ∀ m ∈ ports.map n.withPort, parse? m.canonical = some m := fun m hm => by
      obtain ⟨port, hport, rfl⟩ := List.mem_map.1 hm
      exact hparse port (hports port hport)
    have := @Directory.seed_of_distinct {} _ _ htexts hdistinct
    rwa [List.map_map] at this
  case again =>
    rintro ⟨scheme, host, port⟩ hs hh hp
    cases hs
    cases hh
    exact hparse port hp

/-- The default port behind an IPv6 address: `https://[2001:db8::1]:443` and `https://[2001:db8::1]`
are two nodes. -/
theorem canonical_ports_default :
    parse? "https://[2001:DB8::1]/wd" = some ⟨"https", "[2001:db8::1]", none⟩ ∧
    "https" ≠ "file" ∧ (⟨"https", "[2001:db8::1]", none⟩ : Node).HostReadAgain ∧
    parse? "https://[2001:db8::1]:443" = some ⟨"https", "[2001:db8::1]", some 443⟩ ∧
    parse? "https://[2001:db8::1]" = some ⟨"https", "[2001:db8::1]", none⟩ ∧
    (⟨"https", "[2001:db8::1]", some 443⟩ : Node).same ⟨"https", "[2001:db8::1]", none⟩ = false ∧
    Directory.seed {} ["https://[2001:db8::1]:443", "https://[2001:db8::1]"] =
      (none, ⟨[⟨"https", "[2001:db8::1]", some 443⟩, ⟨"https", "[2001:db8::1]", none⟩]⟩) := by
  have hn : parse? "https://[2001:DB8::1]/wd" = some ⟨"https", "[2001:db8::1]", none⟩ := by
    decide +kernel
  have hagain : (⟨"https", "[2001:db8::1]", none⟩ : Node).HostReadAgain := by decide +kernel
  have hbare : "https" ++ "://" ++ "[2001:db8::1]" = "https://[2001:db8::1]" := by decide +kernel
  have hport : "https://[2001:db8::1]" ++ ":" ++ toString 443 = "https://[2001:db8::1]:443" := by
    decide +kernel
  have hkept := canonical_ports hn (by decide) hagain
  have hdefault := (hkept.written 443 (by decide)).1
  have hnone := hkept.bare.1
  have hboth := hkept.entries [some 443, none] (by decide) (by decide)
  have htexts : (⟨"https", "[2001:db8::1]", some 443⟩ : Node).canonical =
      "https://[2001:db8::1]:443" ∧
    (⟨"https", "[2001:db8::1]", none⟩ : Node).canonical = "https://[2001:db8::1]" := by
    decide +kernel
  rw [hbare] at hnone hdefault
  rw [hport] at hdefault
  simp only [List.map_cons, List.map_nil, withPort, htexts.1, htexts.2] at hboth
  exact ⟨hn, by decide, hagain, hdefault, hnone, (hkept.apart (some 443) none (by decide)).1, hboth⟩

end Node
end GridKeeper
