import GridKeeper.Node.KeyText
import GridKeeper.Proofs.Ports

/-!
# Keys as they are written

A key is written `host:port`, with the host in lower case. Reading it cuts at the last colon, looks
for `://` and for white space, and takes a port of 32 bits. Hosts are not read as hosts there: they
may have colons and slashes of their own, and still every key that is read from a text, or comes
from the address of a node, is read back as it was.

**Results.**
* `parse_text`: a legible key is read back as it was written.
* `legible_of_parse`, `legible_of_node`: keys from texts, and keys of nodes, are legible.
-/
namespace GridKeeper

open Text

/-! ## Pairs -/

namespace Node.Key

variable {raw : String} {value host port : List Char} {k : Key}

structure Reads (value host port : List Char) (k : Key) : Prop where
  split : value = host ++ ':' :: port
  number : readSigned? half32 port = some k.port
  solid : ∀ c ∈ host, isBlank c = false
  nonempty : host ≠ []
  host_eq : k.host = String.ofList (lowerAscii host)

theorem reads_of_pair (h : ofPair? value = some k) : ∃ host port, Reads value host port k := by
  obtain ⟨⟨host, port⟩, hc, h⟩ := Option.bind_eq_some_iff.1 h
  obtain ⟨p, hp, h⟩ := Option.bind_eq_some_iff.1 h
  split at h
  · cases h
  · rename_i hb
    cases h
    simp only [Bool.or_eq_true, not_or, List.any_eq_true, not_exists, not_and,
      Bool.not_eq_true] at hb
    exact ⟨host, port, (cutLast_eq_some.1 hc).1, hp, hb.2, by simpa using hb.1,
      by rw [Key.of, String.toList_ofList]⟩

theorem Reads.numeric (h : Reads value host port k) : port ≠ [] ∧ ∀ c ∈ port, isNumeric c = true :=
  numeric_of_readSigned h.number

theorem Reads.solid_value (h : Reads value host port k) : ∀ c ∈ value, isBlank c = false := by
  intro c hc
  rw [h.split] at hc
  rcases List.mem_append.1 hc with hc | hc
  · exact h.solid c hc
  · rcases List.mem_cons.1 hc with rfl | hc
    · rfl
    · exact solid_of_numeric (h.numeric.2 c hc)

theorem reads_of_parse (h : parse? raw = some k)
    (hm : (cutFirst? [':', '/', '/'] (trim raw.toList)).isSome = false) :
    ∃ host port, Reads (trim raw.toList) host port k := by
  unfold parse? at h
  simp only [hm, Bool.false_eq_true, if_false] at h
  exact reads_of_pair h

/-! ## Keys that are read back -/

/-- A key that can stand for itself in a text. -/
structure Legible (k : Key) : Prop where
  nonempty : k.host.toList ≠ []
  solid : ∀ c ∈ k.host.toList, isBlank c = false
  unmarked : ¬ [':', '/', '/'] <:+: k.host.toList
  lower : lowerAscii k.host.toList = k.host.toList
  range : -(half32 : Int) ≤ k.port ∧ k.port < half32

variable {name : String} {number : Int}

theorem toList_pair (name : String) (number : Int) :
    (name ++ ":" ++ toString number).toList = name.toList ++ ':' :: (toString number).toList := by
  simp

theorem solid_pair (hs : ∀ c ∈ name.toList, isBlank c = false)
    (hp : -(half32 : Int) ≤ number ∧ number < half32) :
    ∀ c ∈ (name ++ ":" ++ toString number).toList, isBlank c = false := by
  intro c hc
  rw [toList_pair, List.mem_append, List.mem_cons] at hc
  rcases hc with hc | rfl | hc
  · exact hs c hc
  · rfl
  · exact solid_of_numeric ((numeric_of_readSigned (readSigned_toString hp)).2 c hc)

/-- No `://` comes about where the port is put behind the host. -/
theorem unmarked_append (hu : ¬ [':', '/', '/'] <:+: host)
    (hp : ∀ c ∈ port, isNumeric c = true) : ¬ [':', '/', '/'] <:+: host ++ ':' :: port := by
  have hslash : '/' ∉ ':' :: port := fun hm => by
    rcases List.mem_cons.1 hm with hm | hm
    · cases hm
    · cases hp '/' hm
  exact fun hm => hu (infix_of_append hslash (show [':', '/'] ++ ['/'] <:+: _ from hm))

theorem unmarked_pair (hu : ¬ [':', '/', '/'] <:+: name.toList)
    (hp : -(half32 : Int) ≤ number ∧ number < half32) :
    ¬ [':', '/', '/'] <:+: (name ++ ":" ++ toString number).toList := by
  rw [toList_pair]
  exact unmarked_append hu (numeric_of_readSigned (readSigned_toString hp)).2

/-- A host and a port are read back as they were written, in lower case. -/
theorem parse_pair (hne : name.toList ≠ []) (hs : ∀ c ∈ name.toList, isBlank c = false)
    (hu : ¬ [':', '/', '/'] <:+: name.toList)
    (hp : -(half32 : Int) ≤ number ∧ number < half32) :
    parse? (name ++ ":" ++ toString number) = some (Key.of name number) := by
  have hsolid := solid_pair hs hp
  have hunmarked := unmarked_pair hu hp
  have hsplit := toList_pair name number
  generalize name ++ ":" ++ toString number = text at hsolid hunmarked hsplit
  have htrim : trim text.toList = text.toList := trim_of_solid hsolid
  have hcolon : ':' ∉ (toString number).toList :=
    colon_not_numeric (numeric_of_readSigned (readSigned_toString hp)).2
  have hcutless : (cutFirst? [':', '/', '/'] text.toList).isSome = false :=
    Bool.eq_false_iff.2 fun hm => hunmarked (cutFirst_isSome.1 hm)
  have hcut : cutLast? ':' text.toList = some (name.toList, (toString number).toList) :=
    cutLast_eq_some.2 ⟨hsplit, hcolon⟩
  have hhost : (name.toList.isEmpty || name.toList.any isBlank) = false := by
    rw [Bool.or_eq_false_iff, List.isEmpty_eq_false_iff, List.any_eq_false]
    exact ⟨hne, fun c hc => by rw [hs c hc]; exact Bool.false_ne_true⟩
  have hpair : ofPair? text.toList = some (Key.of name number) := by
    simp only [ofPair?, hcut, Option.bind_some, readSigned_toString hp, hhost,
      Bool.false_eq_true, if_false, String.ofList_toList]
  simp only [parse?, htrim, hcutless, Bool.false_eq_true, if_false, hpair]

theorem Legible.solid_text (h : k.Legible) : ∀ c ∈ k.text.toList, isBlank c = false :=
  solid_pair h.solid h.range

/-- **A legible key is read back as it was written.** -/
theorem parse_text (h : k.Legible) : parse? k.text = some k := by
  rw [text, parse_pair h.nonempty h.solid h.unmarked h.range, Key.of, h.lower,
    String.ofList_toList]

/-- The key of a host without white space, a slash or the like. -/
theorem legible_of_signs {host : String} {port : Int} (hne : host.toList ≠ [])
    (hs : Url.Signs host) (hp : -(half32 : Int) ≤ port ∧ port < half32) : (Key.of host port).Legible where
  nonempty := by simpa [Key.of, lowerAscii] using hne
  solid := by
    rw [Key.of, String.toList_ofList]
    exact solid_lowerAscii fun c hc => Url.solid_of_hostSign (hs c hc)
  unmarked := by
    rw [Key.of, String.toList_ofList]
    rintro ⟨a, b, hab⟩
    have hm : '/' ∈ lowerAscii host.toList := by
      rw [← hab]
      simp
    cases hs '/' ((mem_lowerAscii rfl).1 hm)
  lower := by rw [Key.of, String.toList_ofList, lowerAscii_lowerAscii]
  range := hp

theorem port_le {address : String} {n : Node} {p : Nat} (hn : Node.parse? address = some n)
    (hp : n.port = some p) : p ≤ max16 := by
  obtain ⟨url, host, hu, hh, rfl⟩ := of_parse hn
  obtain ⟨-, hspells⟩ := Url.spelled_read hu hh
  change (url.port <|> writtenPort? (trim address.toList)) = some p at hp
  cases hport : url.port with
  | none =>
    rw [hport] at hp
    obtain ⟨_, -, hp⟩ := Option.bind_eq_some_iff.1 hp
    obtain ⟨_, -, hp⟩ := Option.bind_eq_some_iff.1 hp
    exact le_of_readUnsigned hp
  | some q =>
    rw [hport] at hp
    cases hp
    have hwritten : url.written = some p := by
      unfold Url.port at hport
      split at hport
      · cases hport
      · exact hport
    rw [hwritten] at hspells
    generalize Url.withoutBreaks (Url.spelled address.toList).2 = port at hspells
    cases hspells with
    | digits _ hle => exact hle

theorem port_range {address : String} {n : Node} (hn : Node.parse? address = some n) :
    -(half32 : Int) ≤ n.portNumber ∧ n.portNumber < half32 := by
  unfold portNumber
  cases hp : n.port with
  | none => exact ⟨by decide, by decide⟩
  | some p =>
    have : p ≤ 65535 := port_le hn hp
    simp only [half32]
    omega

theorem host_ne_nil {address : String} {n : Node} (hn : Node.parse? address = some n) :
    n.host.toList ≠ [] := by
  obtain ⟨url, hu, hn⟩ := Option.bind_eq_some_iff.1 hn
  obtain ⟨text, ht, hn⟩ := Option.bind_eq_some_iff.1 hn
  split at hn
  · cases hn
  · rename_i hne
    cases hn
    simpa using hne

/-- **The key of a node is legible.** -/
theorem legible_of_node {address : String} {n : Node} (hn : Node.parse? address = some n) :
    n.key.Legible := by
  refine legible_of_signs (host_ne_nil hn) ?_ (port_range hn)
  obtain ⟨url, host, hu, hh, rfl⟩ := of_parse hn
  exact Url.signs_text (Url.spelled_read hu hh).1

/-- **A key from a text is legible.** -/
theorem legible_of_parse (h : parse? raw = some k) : k.Legible := by
  cases hm : (cutFirst? [':', '/', '/'] (trim raw.toList)).isSome with
  | true =>
    simp only [parse?, hm, if_true] at h
    obtain ⟨n, hn, rfl⟩ := Option.map_eq_some_iff.1 h
    exact legible_of_node hn
  | false =>
    obtain ⟨host, port, hr⟩ := reads_of_parse h hm
    have hhost : k.host.toList = lowerAscii host := by
      rw [hr.host_eq, String.toList_ofList]
    refine ⟨?_, ?_, ?_, ?_, (Option.filter_eq_some_iff.1 hr.number).2 |> of_decide_eq_true⟩
    · rw [hhost]
      simpa [lowerAscii] using hr.nonempty
    · rw [hhost]
      exact solid_lowerAscii hr.solid
    · rw [hhost]
      intro hi
      obtain ⟨a, b, hab⟩ := marked_of_lowerAscii hi
      -- the host is a part of the text that is read
      have : [':', '/', '/'] <:+: trim raw.toList :=
        ⟨a, b ++ ':' :: port, by simp [hr.split, ← hab]⟩
      rw [← cutFirst_isSome, hm] at this
      cases this
    · rw [hhost, lowerAscii_lowerAscii]

end Node.Key
end GridKeeper
