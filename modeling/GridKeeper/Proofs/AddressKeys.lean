import GridKeeper.Proofs.KeyTexts
import GridKeeper.Proofs.SessionGuard

/-!
# Session texts beside the addresses of their nodes

A session may name its node by the address of the node, or by the host and the port that are
written in the address. The address is read as a URL; the host and the port are read by themselves,
with no canonical form and no default port in sight. Here is when the two come to the same key, and
what hangs on it.

**Results.**
* `pair_key_iff`: the host and the port that are written in an address make the key of the node if
  the host is written in canonical form, and the port is not a default one that stands where it is
  not looked for.
* `address_key_iff`: the address itself makes the key of the node if it has `://` in it.
* `session_spares_iff`: with the key of the node, and with no other, a session keeps sweeps away.
-/
namespace GridKeeper

open Text

namespace Node.Key

variable {raw : String} {value host port : List Char} {k : Key}

/-! ## The host and the port as they are written -/

theorem colon_not_mem_spelled {rest : List Char} {written : Option Nat}
    (hs : Url.Spells (Url.withoutBreaks (':' :: rest)) written) : ':' ∉ rest := by
  intro hc
  have hc : ':' ∈ Url.withoutBreaks rest := Url.mem_withoutBreaks hc rfl
  change Url.Spells (':' :: Url.withoutBreaks rest) written at hs
  generalize Url.withoutBreaks rest = digits at hs hc
  cases hs with
  | empty => cases hc
  | digits hd => cases (digits_of_readDigits hd).2 ':' hc

/-- A host without a port behind it is not read as a host and a port. -/
theorem not_reads_of_bare {text : List Char} {kind : Url.Kind} {h : Url.Host}
    (hh : Url.readHost? kind (Url.withoutBreaks text) = some h) :
    ¬ Reads (trim text) host port k := by
  intro hr
  obtain ⟨a, b, hsplit, -, hb⟩ := trim_split text
  rw [hr.split] at hsplit
  have hc : ':' ∈ text := by
    rw [hsplit]
    simp
  have hlast := Url.bracketed_of_mem hh (Url.mem_withoutBreaks hc rfl) (.inl rfl)
  -- the bracket would stand behind the colon, among digits and blanks
  have hm : ']' ∈ Url.withoutBreaks (':' :: port ++ b) := by
    have he : Url.withoutBreaks text =
        Url.withoutBreaks (a ++ host) ++ Url.withoutBreaks (':' :: port ++ b) := by
      rw [← Url.withoutBreaks_append, hsplit]
      simp
    have hne : Url.withoutBreaks (':' :: port ++ b) ≠ [] := nofun
    rw [he, List.getLast?_append_of_ne_nil _ hne] at hlast
    exact List.mem_of_getLast? hlast
  rcases List.mem_append.1 (Url.mem_of_withoutBreaks hm) with hm | hm
  · rcases List.mem_cons.1 hm with hm | hm
    · cases hm
    · cases hr.numeric.2 ']' hm
  · cases hb ']' hm

/-- White space behind the number of a port would be among its digits. -/
theorem digits_of_spelled {b : List Char} {p : Option Nat} (hne : port ≠ [])
    (hnum : ∀ c ∈ port, isNumeric c = true) (hb : ∀ c ∈ b, isBlank c = true)
    (hs : Url.Spells (Url.withoutBreaks (':' :: (port ++ b))) p) :
    ∃ q, p = some q ∧ readDigits? port = some q := by
  have hport : Url.withoutBreaks port = port := Url.withoutBreaks_of_none fun c hc =>
    Url.not_break_of_solid (solid_of_numeric (hnum c hc))
  change Url.Spells (':' :: Url.withoutBreaks (port ++ b)) p at hs
  rw [Url.withoutBreaks_append, hport] at hs
  generalize hd : port ++ Url.withoutBreaks b = digits at hs
  cases hs with
  | empty => exact absurd (List.append_eq_nil_iff.1 hd).1 hne
  | @digits _ q hq =>
    have hb' : Url.withoutBreaks b = [] := by
      refine List.eq_nil_iff_forall_not_mem.2 fun c hc => ?_
      have hdigit := (digits_of_readDigits hq).2 c (hd ▸ List.mem_append_right _ hc)
      have hblank := hb c (Url.mem_of_withoutBreaks hc)
      rw [solid_of_numeric (numeric_of_digit hdigit)] at hblank
      cases hblank
    rw [hb', List.append_nil] at hd
    exact ⟨q, rfl, hd ▸ hq⟩

theorem reads_spelled {text written : List Char} {kind : Url.Kind} {h : Url.Host} {p : Option Nat}
    (hh : Url.readHost? kind (Url.withoutBreaks text) = some h)
    (hs : Url.Spells (Url.withoutBreaks written) p)
    (hw : written = [] ∨ ∃ rest, written = ':' :: rest)
    (hr : Reads (trim (text ++ written)) host port k) :
    ∃ q : Nat, p = some q ∧ k.port = q ∧ trim text = host := by
  rcases hw with rfl | ⟨rest, rfl⟩
  · rw [List.append_nil] at hr
    exact absurd hr (not_reads_of_bare hh)
  · obtain ⟨a, b, hsplit, ha, hb⟩ := trim_split (text ++ ':' :: rest)
    rw [hr.split] at hsplit
    obtain ⟨hne, hnum⟩ := hr.numeric
    -- there is one last colon
    have hcut : some (text, rest) = some (a ++ host, port ++ b) := by
      rw [← cutLast_eq_some.2 ⟨rfl, colon_not_mem_spelled hs⟩]
      refine cutLast_eq_some.2 ⟨by rw [hsplit]; simp, fun hc => ?_⟩
      rcases List.mem_append.1 hc with hc | hc
      · exact colon_not_numeric hnum hc
      · cases hb ':' hc
    obtain ⟨rfl, rfl⟩ := Prod.mk.inj (Option.some.inj hcut)
    obtain ⟨q, rfl, hq⟩ := digits_of_spelled hne hnum hb hs
    have htrim : trim (a ++ host) = host := by
      have := trim_of_surrounded (b := []) ha nofun hr.solid
      rwa [List.append_nil] at this
    exact ⟨q, rfl, readSigned_of_digits hq hr.number, htrim⟩

end Node.Key

/-! ## Nodes -/

namespace Node

variable {address : String} {n : Node} {k : Key}

/-- The host and the port of an address as they are written. -/
def pairText (address : String) : String :=
  String.ofList ((Url.spelled address.toList).1 ++ (Url.spelled address.toList).2)

theorem key_eq_iff : k = n.key ↔
    k.host = String.ofList (lowerAscii n.host.toList) ∧ k.port = n.portNumber := by
  cases k
  simp [key, Key.of]

theorem not_marked {cs : List Char} (h : '/' ∉ cs) :
    (cutFirst? [':', '/', '/'] cs).isSome = false := by
  by_contra hm
  have hi := cutFirst_isSome.1 (Bool.not_eq_false _ ▸ hm)
  exact h (hi.subset (by simp))

/-- The host and the port as they are written in the address of a node make the key of the node if
and only if the host is written in its canonical form, and the port is not the default of the scheme
or stands where `writtenPort?` looks for it, as it does in an address of the usual shape. -/
theorem pair_key_iff (hn : parse? address = some n) (hk : Key.parse? (pairText address) = some k) :
    ∃ p : Nat, (Url.parse? (trim address.toList)).bind Url.written = some p ∧ k.port = p ∧
      (k = n.key ↔
        sameLetters (trim (Url.spelled address.toList).1) n.host.toList = true ∧
          (some p ≠ Url.defaultPort? n.scheme ∨
            writtenPort? (trim address.toList) = some p)) ∧
      (Url.Usual (trim address.toList) → writtenPort? (trim address.toList) = some p) := by
  obtain ⟨url, host, hu, hh, rfl⟩ := of_parse hn
  obtain ⟨hread, hspells⟩ := Url.spelled_read hu hh
  obtain ⟨hshape, hslash⟩ := Url.spelled_shape address.toList
  have hm : (cutFirst? [':', '/', '/'] (trim (pairText address).toList)).isSome = false := by
    refine not_marked fun h => hslash ?_
    obtain ⟨a, b, hsplit, -⟩ := trim_split (pairText address).toList
    rw [pairText, String.toList_ofList] at hsplit h
    rw [hsplit]
    exact List.mem_append_left _ (List.mem_append_right _ h)
  obtain ⟨a, b, hr⟩ := Key.reads_of_parse hk hm
  rw [pairText, String.toList_ofList] at hr
  obtain ⟨p, hp, hport, rfl⟩ := Key.reads_spelled hread hspells hshape hr
  refine ⟨p, by rw [hu]; exact hp, hport, ?_, fun hs =>
    (writtenPort_of_usual hs hu hh).trans hp⟩
  have hiff := port_eq_iff_of_url url (writtenPort? (trim address.toList))
  rw [hp] at hiff
  rw [key_eq_iff, hr.host_eq, hport, eq_comm (a := (p : Int)), portNumber_eq_iff, hiff, sameLetters,
    beq_iff_eq, String.ofList_inj]
  simp

end Node

/-! ## Addresses without `://` -/

namespace Url

variable {text lead scheme rest tail : List Char} {url : Url} {h : Host} {c : Char}

theorem Opens.mem_of_rest (ho : Opens text url lead scheme rest tail) (hc : c ∈ rest) :
    c ∈ text := by
  rw [ho.split]
  exact List.mem_append_right _ (.tail _ (List.mem_append_left _ hc))

theorem Opens.not_mem_lead (ho : Opens text url lead scheme rest tail) (hc : 0x20 < c.toNat) :
    c ∉ lead := fun hm => Nat.not_le_of_lt hc (ho.lead_low c hm)

theorem Opens.not_mem_tail (ho : Opens text url lead scheme rest tail) (hc : 0x20 < c.toNat) :
    c ∉ tail := fun hm => Nat.not_le_of_lt hc (ho.tail_low c hm)

theorem Opens.head (ho : Opens text url lead scheme rest tail) (hc : text.head? = some c) :
    c.isAlpha = true ∨ c.toNat ≤ 0x20 := by
  obtain ⟨first, more, rfl, hfirst⟩ := ho.letter
  rw [ho.split] at hc
  cases lead with
  | nil => cases hc; exact .inl hfirst
  | cons x lead => cases hc; exact .inr (ho.lead_low _ (.head _))

/-- Without `://` the scheme has rules for hosts. -/
theorem Opens.not_other (ho : Opens text url lead scheme rest tail) (hh : url.host = some h)
    (hb : ∀ c ∈ text, isBreak c = false) (hm : ¬ [':', '/', '/'] <:+: text) :
    kindOf url.scheme ≠ .other := by
  intro hk
  have hr := ho.read
  rw [hk, hh] at hr
  obtain ⟨more, rfl⟩ := slashes_of_other (fun c hc => hb c (ho.mem_of_rest hc)) hr
  exact hm ⟨lead ++ scheme, more ++ tail, by rw [ho.split]; simp⟩

/-- The host of an address without a port, as plain as the number of a port. -/
theorem Opens.read_numeric (ho : Opens text url lead scheme rest tail) (hh : url.host = some h)
    (hb : ∀ c ∈ text, isBreak c = false) (hk : kindOf url.scheme ≠ .other)
    (hn : ∀ c ∈ rest, isNumeric c = true) :
    kindOf url.scheme = .special ∧ host? rest = some h ∧ url.written = none := by
  have hr := ho.read
  rw [hh] at hr
  cases hkind : kindOf url.scheme with
  | other => exact absurd hkind hk
  | file =>
    rw [hkind] at hr
    obtain ⟨slash, more, rfl, hs⟩ := slash_of_file (fun c hc => hb c (ho.mem_of_rest hc)) hr
    have hs : slash = '/' ∨ slash = '\\' := by simpa [isSlash] using hs
    rcases hs with rfl | rfl <;> cases hn _ (.head _)
  | special =>
    rw [hkind] at hr
    have hplain : spelledIn .special rest = (rest, []) := by
      refine spelledIn_plain (fun c hc => ⟨?_, hb c (ho.mem_of_rest hc)⟩)
        (fun hc => by cases hn _ hc) (colon_not_numeric hn)
      by_contra he
      simp only [endsAuthority, isSlash, Bool.not_eq_false, Bool.or_eq_true, Bool.and_eq_true,
        decide_eq_true_eq] at he
      rcases he with ((rfl | ⟨-, rfl⟩) | rfl) | rfl <;> cases hn _ hc
    obtain ⟨hread, hw⟩ := spelledIn_read hr
    rw [hplain, withoutBreaks_of_none fun c hc => hb c (ho.mem_of_rest hc)] at hread
    rw [hplain] at hw
    change Spells [] url.written at hw
    generalize url.written = written at hw
    cases hw
    exact ⟨rfl, hread, rfl⟩

theorem hyphen_not_mem_special {s : String} (h : kindOf s = .special) : '-' ∉ s.toList := by
  unfold kindOf at h
  split at h
  · cases h
  · split at h
    · rename_i hd
      unfold defaultPort? at hd
      split at hd
      · simp
      · simp
      · simp
      · simp
      · simp
      · cases hd
    · cases h

end Url

namespace Node

variable {address : String} {n : Node} {k : Key} {text host port : List Char} {url : Url}
  {h : Url.Host} {lead scheme rest tail : List Char}

/-- Behind the colon of the scheme there is no other: the key's host would have it, and the host of
the address has one in brackets only. -/
theorem colon_free (hr : Key.Reads text host port k) (ho : Url.Opens text url lead scheme rest tail)
    {inner : List Char} (hh : Url.host? inner = some h)
    (hl : lowerAscii host = lowerAscii h.text.toList) : ':' ∉ rest := by
  intro hc
  have hport : ':' ∉ port := colon_not_numeric hr.numeric.2
  have hin : ':' ∈ host := by
    have hcount := congrArg (List.count ':') (hr.split.symm.trans ho.split)
    have hrest : 0 < rest.count ':' := List.count_pos_iff.2 hc
    simp only [List.count_append, List.count_cons_self, List.count_eq_zero.2 hport] at hcount
    exact List.count_pos_iff.1 (by omega)
  have htext : ':' ∈ h.text.toList := (mem_of_sameLetters hl rfl).1 hin
  have hread : Url.readHost? .special inner = some h := hh
  have hbracket := head_of_sameLetters hl rfl (Url.text_of_colon hread htext)
  have hhead : text.head? = some '[' := by
    rw [hr.split, List.head?_append, hbracket]
    rfl
  rcases ho.head hhead with ha | ha <;> revert ha <;> decide

/-- The last colon is that of the scheme. -/
theorem parts_of_colon_free (hr : Key.Reads text host port k)
    (ho : Url.Opens text url lead scheme rest tail) (hc : ':' ∉ rest) :
    host = lead ++ scheme ∧ port = rest ++ tail := by
  have hcut : cutLast? ':' text = some (lead ++ scheme, rest ++ tail) := by
    refine cutLast_eq_some.2 ⟨ho.split, fun hm => ?_⟩
    rcases List.mem_append.1 hm with hm | hm
    · exact hc hm
    · exact ho.not_mem_tail (by decide) hm
  rw [cutLast_eq_some.2 ⟨hr.split, colon_not_numeric hr.numeric.2⟩] at hcut
  exact Prod.mk.inj (Option.some.inj hcut)

/-- Were there a hyphen behind the colon, the host would have it, or be a number; what stands before
the colon has no hyphen and is no number. -/
theorem hyphen_free (ho : Url.Opens text url lead scheme rest tail)
    (hk : Url.kindOf url.scheme = .special) (hh : Url.host? rest = some h)
    (hb : rest.head? ≠ some '[')
    (hl : lowerAscii (lead ++ scheme) = lowerAscii h.text.toList) : '-' ∉ rest := by
  intro hc
  rcases Url.text_of_hyphen hh hb hc with ht | ht
  · rcases List.mem_append.1 ((mem_of_sameLetters hl rfl).2 ht) with hin | hin
    · exact ho.not_mem_lead (by decide) hin
    · refine Url.hyphen_not_mem_special hk ?_
      rw [ho.scheme_eq, String.toList_ofList]
      exact (mem_lowerAscii rfl).2 hin
  · obtain ⟨first, more, rfl, hfirst⟩ := ho.letter
    have hin : first.toLower ∈ lowerAscii h.text.toList := by
      rw [← hl]
      exact List.mem_map_of_mem (List.mem_append_right _ (.head _))
    obtain ⟨c, hc, he⟩ := List.mem_map.1 hin
    exact absurd he (toLower_ne_of_alpha (ht c hc) hfirst)

/-- An address without `://` is read as a host and a port, and these are never those of its node. -/
theorem key_ne_of_unmarked (hn : parse? address = some n) (hk : Key.parse? address = some k)
    (hm : ¬ [':', '/', '/'] <:+: trim address.toList) : k ≠ n.key := by
  intro he
  obtain ⟨url, h, hu, hh, rfl⟩ := of_parse hn
  have hunmarked : (cutFirst? [':', '/', '/'] (trim address.toList)).isSome = false := by
    rwa [← Bool.not_eq_true, cutFirst_isSome]
  obtain ⟨host, port, hr⟩ := Key.reads_of_parse hk hunmarked
  obtain ⟨hhost, hport⟩ := key_eq_iff.1 he
  have hl : lowerAscii host = lowerAscii h.text.toList :=
    String.ofList_injective (hr.host_eq.symm.trans hhost)
  have hwritten : writtenPort? (trim address.toList) = none := writtenPort_of_unmarked hm
  generalize trim address.toList = text at hu hm hr hwritten hport
  have hb : ∀ c ∈ text, Url.isBreak c = false := fun c hc =>
    Url.not_break_of_solid (hr.solid_value c hc)
  obtain ⟨lead, scheme, rest, tail, ho⟩ := Url.opens_of_parse hb hu
  have hkind := ho.not_other hh hb hm
  obtain ⟨hread, -⟩ := Url.spelledIn_read (hh ▸ ho.read)
  rw [Url.readHost?, if_neg hkind] at hread
  obtain ⟨rfl, rfl⟩ := parts_of_colon_free hr ho (colon_free hr ho hread hl)
  have hnum : ∀ c ∈ rest, isNumeric c = true := fun c hc =>
    hr.numeric.2 c (List.mem_append_left _ hc)
  obtain ⟨hspecial, hhost', hnone⟩ := ho.read_numeric hh hb hkind hnum
  -- neither of the two readers of the address finds a port, so the number read is -1
  have hneg : k.port = -1 := by
    rw [hport, portNumber, hwritten, Url.port, hnone, ite_self]
    rfl
  obtain ⟨digits, hd⟩ := hyphen_of_neg hr.number (by omega)
  have hhyphen : '-' ∈ rest := by
    have hin : '-' ∈ rest ++ tail := hd ▸ .head _
    exact (List.mem_append.1 hin).resolve_right (ho.not_mem_tail (by decide))
  have hplain : rest.head? ≠ some '[' := fun hc => by
    cases hnum '[' (List.mem_of_head? hc)
  exact hyphen_free ho hspecial hhost' hplain hl hhyphen

/-- A session that names its node by the address of the node is counted under the key of the node if
and only if the address has `://` in it. -/
theorem address_key_iff (hn : parse? address = some n) (hk : Key.parse? address = some k) :
    k = n.key ↔ [':', '/', '/'] <:+: trim address.toList := by
  refine ⟨fun he => by_contra fun hm => key_ne_of_unmarked hn hk hm he, fun hm => ?_⟩
  unfold Key.parse? at hk
  simp only [cutFirst_isSome.2 hm, if_true] at hk
  obtain ⟨m, hp, rfl⟩ := Option.map_eq_some_iff.1 hk
  have hsame : parse? (String.ofList (trim address.toList)) = parse? address := by
    unfold parse?
    rw [String.toList_ofList, trim_trim]
  rw [hsame, hn] at hp
  rw [Option.some.inj hp]

end Node

/-! ## What hangs on the key -/

namespace Sweep

variable {n : Node} {k : Node.Key} {r : Registry} {clean : Cleaner}

/-- No sweep to come cleans the node `n` before sessions on it are taken away. -/
def Spares (n : Node) (r : Registry) : Prop :=
  ∀ happenings : List Happening, (∀ x ∈ happenings, x.Upholds n.key) →
    ∀ report ∈ history happenings r, ∀ m ∈ report.cleaned, m.key ≠ n.key

theorem spares_of_session (h : Ledger.Ordered r.ledger.sessions) (n : Node) :
    Spares n (r.after (.addSession n.key)) :=
  fun _ hu => history_spares (Registry.guarded_addSession h n.key) hu

/-- A session counted under another key does not: the next sweep cleans the node. -/
theorem tick_cleans {address : String} (hn : Node.parse? address = some n) (hk : k ≠ n.key)
    (clean : Cleaner) :
    n ∈ (tick (.ok ()) clean
      ((({} : Registry).after (.addNode address)).after (.addSession k))).1.cleaned := by
  have hnodes : ((({} : Registry).after (.addNode address)).after (.addSession k)).directory.nodes =
      [n] := by
    simp [Registry.after, Registry.apply, Directory.add, hn, Directory.insert, Directory.holds]
  have hidle : ((({} : Registry).after (.addNode address)).after
      (.addSession k)).ledger.count n.key = 0 := by
    change ((({} : Registry).after (.addNode address)).ledger.addSession k).count n.key = 0
    have hordered := Registry.ordered_after (r := {}) .nil (.addNode address)
    rw [Ledger.count_addSession hordered, if_neg hk.symm]
    rfl
  have hpending : ((({} : Registry).after (.addNode address)).after
      (.addSession k)).ledger.pending = 0 := rfl
  simp only [tick, underLock, hpending, ne_eq, not_true_eq_false, if_false, hnodes, walk, hidle]
  exact .head _

/-- **Session texts and addresses.** When a session is counted under the key of its node, the text
that names it being the address of the node, or the host and the port that are written there: an
address needs `://`; of the host and the port, the host must be in canonical form, and the port must
be no default or one that `writtenPort?` finds, which it does if the address has the usual shape.
And what hangs on it: sweeps leave the node alone while the session lasts, wherever the two were
added, if and only if the two keys are one. -/
theorem session_spares_iff {address text : String} (hn : Node.parse? address = some n)
    (hk : Node.Key.parse? text = some k) :
    (text = address → (k = n.key ↔ [':', '/', '/'] <:+: trim address.toList)) ∧
    (text = Node.pairText address → ∃ p : Nat,
      (Url.parse? (trim address.toList)).bind Url.written = some p ∧ k.port = p ∧
      (k = n.key ↔
        sameLetters (trim (Url.spelled address.toList).1) n.host.toList = true ∧
          (some p ≠ Url.defaultPort? n.scheme ∨
            Node.writtenPort? (trim address.toList) = some p)) ∧
      (Url.Usual (trim address.toList) → Node.writtenPort? (trim address.toList) = some p)) ∧
    (k = n.key ↔ ∀ r : Registry, Ledger.Ordered r.ledger.sessions →
      Spares n ((r.after (.addNode address)).after (.addSession k))) := by
  refine ⟨?_, ?_, ?_⟩
  · rintro rfl
    exact Node.address_key_iff hn hk
  · rintro rfl
    exact Node.pair_key_iff hn hk
  · constructor
    · rintro rfl r hr
      exact spares_of_session (Registry.ordered_after hr _) n
    · intro h
      by_contra hne
      let clean : Cleaner := fun _ _ r => (.succeeded, r)
      have hc : (Happening.sweep (.ok ()) clean).Upholds n.key := fun _ _ r => ⟨[], nofun, rfl⟩
      exact h {} .nil [.sweep (.ok ()) clean] (by simpa using hc) _ (.head _) n
        (tick_cleans hn hne clean) rfl

/-- A session on the host and the port that are written in `http:/[::1]:80` does not keep sweeps
away from the node there. -/
theorem session_spares_iff_one_slash :
    Node.parse? "http:/[::1]:80" = some ⟨"http", "[::1]", none⟩ ∧
    Node.Key.parse? (Node.pairText "http:/[::1]:80") = some ⟨"[::1]", 80⟩ ∧
    ¬ ∀ r : Registry, Ledger.Ordered r.ledger.sessions →
      Spares ⟨"http", "[::1]", none⟩
        ((r.after (.addNode "http:/[::1]:80")).after (.addSession ⟨"[::1]", 80⟩)) := by
  have hn : Node.parse? "http:/[::1]:80" = some ⟨"http", "[::1]", none⟩ := by decide +kernel
  have hk : Node.Key.parse? (Node.pairText "http:/[::1]:80") = some ⟨"[::1]", 80⟩ := by
    decide +kernel
  obtain ⟨-, -, hspares⟩ := session_spares_iff hn hk
  exact ⟨hn, hk, fun h => absurd (hspares.2 h) (by decide +kernel)⟩

end Sweep
end GridKeeper
