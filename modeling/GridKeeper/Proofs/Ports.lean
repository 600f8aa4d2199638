import GridKeeper.Node
import GridKeeper.Proofs.Addresses

/-!
# The port of a node and the port in its address

Reading an address as a URL shows every port but the default one of the scheme. For that one the
address is looked at once more, as it stands: the port is sought in the authority behind the first
`://`. That is the authority of the URL in an address of the usual shape, and there no port is
missed and none is made up. It is another stretch of the text, or none, where the URL has fewer or
more slashes before its host, or backslashes, or breaks in its port.

**Results.**
* `portBehind_spelled`: a port that stands behind a host is found there.
* `writtenPort_of_usual`: in an address of the usual shape the second look finds the port of the
  first, default or not, and none if there is none.
* `port_eq_written_iff`: when the port of a node is the one in its address.
-/
namespace GridKeeper.Node

open Text

variable {address : String} {n : Node} {cs host digits port : List Char} {kind : Url.Kind}
  {h : Url.Host} {written : Option Nat}

theorem of_parse (hn : parse? address = some n) :
    ∃ url host, Url.parse? (trim address.toList) = some url ∧ url.host = some host ∧
      n = ⟨url.scheme, host.text, url.port <|> writtenPort? (trim address.toList)⟩ := by
  obtain ⟨url, hu, hn⟩ := Option.bind_eq_some_iff.1 hn
  obtain ⟨text, ht, hn⟩ := Option.bind_eq_some_iff.1 hn
  obtain ⟨host, hh, rfl⟩ := Option.map_eq_some_iff.1 ht
  split at hn
  · cases hn
  · exact ⟨url, host, hu, hh, (Option.some.inj hn).symm⟩

/-! ## The second look -/

/-- The port in the host and the port of an authority: behind the closing bracket, or behind the last
colon. -/
def portBehind? (hostPort : List Char) : Option Nat :=
  (match cutLast? ']' hostPort with
    | some (_, behind) => behind? [':'] behind
    | none => (cutLast? ':' hostPort).map Prod.snd).bind (readUnsigned? max16)

/-- The second look is at the authority behind the first `://`, less the user part. -/
theorem writtenPort_eq {before rest : List Char}
    (hc : cutFirst? [':', '/', '/'] cs = some (before, rest)) :
    writtenPort? cs =
      portBehind? (Url.behindLast (rest.takeWhile fun c => c ≠ '/' ∧ c ≠ '?' ∧ c ≠ '#')) := by
  rw [writtenPort?, hc]
  rfl

/-- A host without a port behind it: if it has a colon or a bracket at all, it ends in a bracket. -/
theorem portBehind_bare (hb : ∀ c ∈ cs, c = ':' ∨ c = ']' → cs.getLast? = some ']') :
    portBehind? cs = none := by
  by_cases hm : ']' ∈ cs
  · have hlast : ']' ∈ cs.getLast? := hb ']' hm (.inr rfl)
    have hcut : cutLast? ']' cs = some (cs.dropLast, []) :=
      cutLast_eq_some.2 ⟨(List.dropLast_append_getLast? _ hlast).symm, nofun⟩
    rw [portBehind?, hcut]
    rfl
  · have hcolon : ':' ∉ cs := fun hc => hm (List.mem_of_getLast? (hb ':' hc (.inl rfl)))
    rw [portBehind?, cutLast_eq_none.2 hm, cutLast_eq_none.2 hcolon]
    rfl

/-- What stands behind a host and a colon, be the host in brackets or not. -/
theorem portBehind_colon (hh : Url.readHost? kind host = some h)
    (hd : ∀ c ∈ digits, c.isDigit = true) :
    portBehind? (host ++ ':' :: digits) = readUnsigned? max16 digits := by
  have hnone : ∀ c : Char, c.isDigit = false → c ∉ digits := fun c hc hm => by
    rw [hd c hm] at hc
    cases hc
  by_cases hb : ']' ∈ host
  · have hlast : ']' ∈ host.getLast? := Url.bracketed_of_mem hh hb (.inr rfl)
    have hcut : cutLast? ']' (host ++ ':' :: digits) = some (host.dropLast, ':' :: digits) := by
      refine cutLast_eq_some.2 ⟨?_, fun hm => ?_⟩
      · rw [← List.dropLast_append_getLast? _ hlast]
        simp
      · rcases List.mem_cons.1 hm with hm | hm
        · cases hm
        · exact hnone ']' rfl hm
    rw [portBehind?, hcut]
    rfl
  · have hcut : cutLast? ']' (host ++ ':' :: digits) = none := by
      refine cutLast_eq_none.2 fun hm => ?_
      rcases List.mem_append.1 hm with hm | hm
      · exact hb hm
      · rcases List.mem_cons.1 hm with hm | hm
        · cases hm
        · exact hnone ']' rfl hm
    rw [portBehind?, hcut, cutLast_eq_some.2 ⟨rfl, hnone ':' rfl⟩]
    rfl

theorem portBehind_spelled (hh : Url.readHost? kind host = some h)
    (hs : Url.Spells port written) : portBehind? (host ++ port) = written := by
  cases hs with
  | none =>
    rw [List.append_nil]
    exact portBehind_bare fun c hc hsign => Url.bracketed_of_mem hh hc hsign
  | empty =>
    rw [portBehind_colon hh (List.forall_mem_nil _)]
    rfl
  | digits hd hle =>
    rw [portBehind_colon hh (digits_of_readDigits hd).2]
    exact readUnsigned_of_digits hd hle

/-- A file has no port, and none is found in its authority. -/
theorem portBehind_file (hh : Url.readHost? kind cs = some h) :
    portBehind? (Url.behindLast cs) = none := by
  refine portBehind_bare fun c hc hsign => ?_
  have hlast := Url.bracketed_of_mem hh (Url.mem_behindLast hc) hsign
  unfold Url.behindLast at hc ⊢
  split
  · rename_i before behind hcut
    rw [hcut] at hc
    have hne : behind ≠ [] := List.ne_nil_of_mem hc
    rw [(cutLast_eq_some.1 hcut).1, List.getLast?_append_of_ne_nil _ (List.cons_ne_nil _ _),
      List.getLast?_cons_of_ne_nil hne] at hlast
    exact hlast
  · exact hlast

theorem writtenPort_of_unmarked (hm : ¬ [':', '/', '/'] <:+: cs) : writtenPort? cs = none := by
  rw [← cutFirst_isSome, Bool.not_eq_true, Option.isSome_eq_false_iff,
    Option.isNone_iff_eq_none] at hm
  rw [writtenPort?, hm]
  rfl

/-! ## Addresses of the usual shape -/

/-- In an address of the usual shape the second look finds the port that the first one read, be it
the default or not, and none if there is none. -/
theorem writtenPort_of_usual {address : List Char} {url : Url} (hs : Url.Usual (trim address))
    (hu : Url.parse? (trim address) = some url) (hh : url.host = some h) :
    writtenPort? (trim address) = url.written := by
  obtain ⟨hread, hspells⟩ := Url.spelled_read hu hh
  generalize htext : trim address = text at hs ⊢
  cases hs with
  | @intro scheme authority tail hs hne ha ht =>
    obtain ⟨tail', ht', hspelled⟩ :=
      Url.spelled_usual htext hs hne (fun c hc => (ha c hc).1) ht hu
    have hbreak : ∀ c ∈ authority, Url.isBreak c = false := fun c hc =>
      Url.not_break_of_high (ha c hc).1
    have hend : ∀ c ∈ authority, Url.endsAuthority .special c = false := fun c hc => (ha c hc).2
    have hcut : cutFirst? [':', '/', '/'] (scheme ++ ':' :: '/' :: '/' :: (authority ++ tail)) =
        some (scheme, authority ++ tail) := cutFirst_append fun hc => by cases hs ':' hc
    have htake : (authority ++ tail).takeWhile (fun c => c ≠ '/' ∧ c ≠ '?' ∧ c ≠ '#') =
        authority := by
      have hsigns : (fun c : Char => decide (c ≠ '/' ∧ c ≠ '?' ∧ c ≠ '#')) =
          (!Url.endsAuthority .other ·) := by
        funext c
        simp [Url.endsAuthority, Url.isSlash, Bool.and_assoc]
      rw [hsigns]
      exact Url.takeWhile_authority .other hend ht
    rw [writtenPort_eq hcut, htake]
    by_cases hk : Url.kindOf url.scheme = .file
    · rw [hk, Url.spelledIn_file hend ht'] at hspelled
      rw [hspelled, Url.withoutBreaks_of_none hbreak] at hread
      rw [Url.written_of_file hu hk]
      exact portBehind_file hread
    · have hparts := Url.spelledIn_slashes hk hne (fun c hc => ⟨hbreak c hc, hend c hc⟩) ht'
      rw [← hspelled] at hparts
      have hplain : ∀ c ∈ (Url.spelled address).1 ++ (Url.spelled address).2,
          Url.isBreak c = false := fun c hc => hbreak c (Url.mem_behindLast (hparts ▸ hc))
      rw [Url.withoutBreaks_of_none fun c hc => hplain c (List.mem_append_left _ hc)] at hread
      rw [Url.withoutBreaks_of_none fun c hc => hplain c (List.mem_append_right _ hc)] at hspells
      rw [← hparts]
      exact portBehind_spelled hread hspells

/-! ## The port of a node -/

theorem portNumber_eq_iff {p : Nat} : n.portNumber = p ↔ n.port = some p := by
  unfold portNumber
  cases n.port with
  | none => simp [Key.noPort]
  | some q =>
    rw [Option.some.injEq]
    exact Int.ofNat_inj

/-- A node without a port has -1 for one, and no port is the number -1. -/
theorem portNumber_eq_noPort : n.portNumber = Key.noPort ↔ n.port = none := by
  unfold portNumber
  cases n.port with
  | none => simp
  | some p => simp [Key.noPort]

/-- An address names no port if nothing stands behind the host, or a colon by itself. -/
theorem spells_none_iff (hs : Url.Spells port written) :
    written = none ↔ port = [] ∨ port = [':'] := by
  cases hs with
  | none => simp
  | empty => simp
  | digits hd =>
    have hne := (digits_of_readDigits hd).1
    simp [hne]

/-- What is not the default port is seen at the first look; the default port, or none, is what the
second look takes it for. -/
theorem port_eq_iff_of_url (url : Url) (second : Option Nat) :
    (url.port <|> second) = url.written ↔
      (url.written ≠ none ∧ url.written ≠ Url.defaultPort? url.scheme) ∨ second = url.written := by
  rw [Url.port]
  by_cases hd : url.written = Url.defaultPort? url.scheme
  · simp [hd]
  · cases hw : url.written with
    | none => simp
    | some p => simp [hw ▸ hd]

/-- **The port of a node.** What the URL reader reads in the authority is the number that is written
behind the host, less tabs and line breaks. The node has that port, or none if there is none, if and
only if the port is not the default of the scheme, or the second look comes to the same. The second
look does so in every address of the usual shape, and then the port is -1 just where nothing, or a
colon by itself, stands behind the host; in an address without `://` a default port is missed. -/
theorem port_eq_written_iff (hn : parse? address = some n) :
    ∃ written, (Url.parse? (trim address.toList)).map Url.written = some written ∧
      Url.Spells (Url.withoutBreaks (Url.spelled address.toList).2) written ∧
      (n.port = written ↔
        (written ≠ none ∧ written ≠ Url.defaultPort? n.scheme) ∨
          writtenPort? (trim address.toList) = written) ∧
      (Url.Usual (trim address.toList) → n.port = written ∧
        (n.portNumber = Key.noPort ↔
          Url.withoutBreaks (Url.spelled address.toList).2 = [] ∨
            Url.withoutBreaks (Url.spelled address.toList).2 = [':'])) ∧
      (¬ [':', '/', '/'] <:+: trim address.toList →
        (n.port = written ↔ written = none ∨ written ≠ Url.defaultPort? n.scheme)) := by
  obtain ⟨url, host, hu, hh, rfl⟩ := of_parse hn
  obtain ⟨-, hspells⟩ := Url.spelled_read hu hh
  have hiff := port_eq_iff_of_url url (writtenPort? (trim address.toList))
  refine ⟨url.written, by rw [hu]; rfl, hspells, hiff, fun hs => ?_, fun hm => ?_⟩
  · have hport := hiff.2 (.inr (writtenPort_of_usual hs hu hh))
    exact ⟨hport, by rw [portNumber_eq_noPort, hport, spells_none_iff hspells]⟩
  · rw [writtenPort_of_unmarked hm] at hiff ⊢
    rw [hiff]
    by_cases hw : url.written = none
    · simp [hw]
    · simp [hw, Ne.symm hw]

/-- The port of `http:/[::1]:80` is missed, and `http:/[::1]/?to=http://b:80` is given one that stands
in its query. -/
theorem port_eq_written_iff_one_slash :
    (∃ n, parse? "http:/[::1]:80" = some n ∧ n.port = none ∧
      (Url.parse? (trim "http:/[::1]:80".toList)).map Url.written = some (some 80) ∧
      n.port ≠ some 80) ∧
    (∃ n, parse? "http:/[::1]/?to=http://b:80" = some n ∧ n.port = some 80 ∧
      (Url.parse? (trim "http:/[::1]/?to=http://b:80".toList)).map Url.written = some none ∧
      n.port ≠ none) := by
  have hmissed : parse? "http:/[::1]:80" = some ⟨"http", "[::1]", none⟩ := by decide +kernel
  have hmade : parse? "http:/[::1]/?to=http://b:80" = some ⟨"http", "[::1]", some 80⟩ := by
    decide +kernel
  obtain ⟨w, hw, -, hiff, -⟩ := port_eq_written_iff hmissed
  obtain ⟨w', hw', -, hiff', -⟩ := port_eq_written_iff hmade
  have h80 : w = some 80 := Option.some.inj (hw.symm.trans (by decide +kernel))
  have hnone : w' = none := Option.some.inj (hw'.symm.trans (by decide +kernel))
  subst h80 hnone
  exact ⟨⟨_, hmissed, rfl, hw, fun h => absurd (hiff.1 h) (by decide +kernel)⟩,
    ⟨_, hmade, rfl, hw', fun h => absurd (hiff'.1 h) (by decide +kernel)⟩⟩

end GridKeeper.Node
