import GridKeeper.Proofs.BareSigns
import GridKeeper.Proofs.Numerals
import GridKeeper.Proofs.TextLines

/-!
# What the canonical form of a host holds

The canonical form of a domain name comes about in many steps: escapes are replaced, octets are
read as UTF-8, characters are mapped and composed, labels are coded. Three signs go through all of
them as they are, the colon, the closing bracket and the hyphen, which are bare (`isBare`), and no
label is coded without them. A colon or a bracket is refused at the end, so that no host has them
but one in brackets; a hyphen is still there at the end.

**Results.**
* `mem_asciiDomain`: a bare sign of a name is in its canonical form.
* `not_mem_domain`: a domain name has no colon and no bracket.
* `bracketed_of_mem`: a host with a colon or a closing bracket ends in a closing bracket.
* `signs_text`: the canonical form of a host has no white space and no slash.
* `shape_text`: it stands in brackets, or nothing in it divides an address; a colon is only in
  brackets (`text_of_colon`).
-/
namespace GridKeeper

open Text

/-! ## Domain names -/

theorem mem_mapM {α β : Type} {f : α → Option β} {xs : List α} {ys : List β} {x : α}
    (h : xs.mapM f = some ys) (hm : x ∈ xs) : ∃ y ∈ ys, f x = some y := by
  induction xs generalizing ys with
  | nil => cases hm
  | cons a xs ih =>
    simp only [List.mapM_cons, Option.bind_eq_bind, Option.bind_eq_some_iff, Option.pure_def,
      Option.some.injEq] at h
    obtain ⟨y, hy, zs, hz, rfl⟩ := h
    rcases List.mem_cons.1 hm with rfl | hm
    · exact ⟨y, .head _, hy⟩
    · obtain ⟨z, hz, hf⟩ := ih hz hm
      exact ⟨z, .tail _ hz, hf⟩

namespace Url

variable {c : Char} {text : List Char} {h : Host}

theorem mem_canonicalName {name : List Char} (hc : isBare c = true) (hm : c ∈ text)
    (hn : canonicalName? text = some name) : c ∈ name := by
  obtain ⟨images, hi, rfl⟩ := Option.map_eq_some_iff.1 hn
  obtain ⟨image, hmem, himg⟩ := mem_mapM hi hm
  have hbare : canonicalChar? c = some [c] := by
    rcases bare_cases hc with rfl | rfl | rfl <;> rfl
  rw [hbare] at himg
  cases himg
  exact mem_normalize hc (List.mem_flatten.2 ⟨_, hmem, .head _⟩)

theorem mem_label {l : Label} (hc : isBare c = true) (hm : c ∈ text) (hl : label? text = some l) :
    c ∈ l.ascii := by
  have hn : c.toNat < 0x80 := bare_ascii hc
  unfold label? at hl
  split at hl
  · split at hl
    · obtain ⟨letters, -, hl⟩ := Option.bind_eq_some_iff.1 hl
      split at hl <;> cases hl
      exact hm
    · cases hl
  · split at hl
    · cases hl; exact hm
    · split at hl <;> cases hl
      refine List.mem_append_right _ (List.mem_append_left _ (List.mem_append_left _ ?_))
      exact List.mem_filter.2 ⟨hm, by simpa using hn⟩

theorem mem_dotted {labels : List (List Char)} {label : List Char} (hl : label ∈ labels)
    (hm : c ∈ label) : c ∈ dotted labels := by
  induction labels with
  | nil => cases hl
  | cons first rest ih =>
    cases rest with
    | nil =>
      rw [List.mem_singleton.1 hl] at hm
      exact hm
    | cons second rest =>
      simp only [dotted]
      rcases List.mem_cons.1 hl with rfl | hl
      · exact List.mem_append_left _ hm
      · exact List.mem_append_right _ (.tail _ (ih hl))

theorem asciiDomain_cases {bytes : List UInt8} {domain : List Char}
    (hd : asciiDomain? bytes = some domain) :
    ∃ name canonical labels, decodeUtf8 bytes = .ok name ∧ canonicalName? name = some canonical ∧
      (pieces '.' canonical).mapM label? = some labels ∧
      domain = dotted (labels.map Label.ascii) ∧ ∀ c ∈ domain, forbiddenInDomain c = false := by
  unfold asciiDomain? at hd
  split at hd
  · cases hd
  · rename_i name hn
    obtain ⟨labels, hl, hd⟩ := Option.bind_eq_some_iff.1 hd
    obtain ⟨canonical, hcn, hl⟩ := Option.bind_eq_some_iff.1 hl
    dsimp only at hd
    split at hd <;> cases hd
    rename_i hf
    simp only [Bool.or_eq_true, not_or, Bool.not_eq_true] at hf
    exact ⟨name, canonical, labels, hn, hcn, hl, rfl,
      fun c hc => eq_false_of_ne_true (List.any_eq_false.1 hf.1.2 c hc)⟩

theorem mem_asciiDomain {domain : List Char} (hc : isBare c = true) (hm : c ∈ text)
    (hd : asciiDomain? (unescape (encodeUtf8 text)) = some domain) : c ∈ domain := by
  have hdot : c ≠ '.' := by
    rcases bare_cases hc with rfl | rfl | rfl <;> decide
  obtain ⟨name, canonical, labels, hn, hcn, hl, rfl, -⟩ := asciiDomain_cases hd
  have hmc : c ∈ canonical := mem_canonicalName hc (mem_decode_unescape hc hm hn) hcn
  obtain ⟨piece, hp, hcp⟩ := mem_pieces hmc hdot
  obtain ⟨label, hlm, hlp⟩ := mem_mapM hl hp
  exact mem_dotted (List.mem_map_of_mem hlm) (mem_label hc hcp hlp)

/-- A name with a colon or a bracket is no domain name. -/
theorem not_mem_domain {domain : List Char} (hc : isBare c = true)
    (hf : forbiddenInDomain c = true)
    (hd : asciiDomain? (unescape (encodeUtf8 text)) = some domain) : c ∉ text := by
  intro hm
  obtain ⟨_, _, _, _, _, _, _, hfree⟩ := asciiDomain_cases hd
  have := hfree c (mem_asciiDomain hc hm hd)
  rw [hf] at this
  cases this

/-! ## Hosts -/

theorem bracketed_getLast {inner : List Char} (hb : bracketed? text = some inner) :
    text.getLast? = some ']' := by
  unfold bracketed? at hb
  split at hb
  · rename_i rest
    split at hb
    · rename_i hl
      rw [List.getLast?_cons, hl]
      rfl
    · cases hb
  · cases hb

def readHost? (kind : Kind) (text : List Char) : Option Host :=
  if kind = .other then opaqueHost? text else host? text

/-- A host with a colon or a closing bracket ends in a closing bracket. -/
theorem bracketed_of_mem {kind : Kind} (hh : readHost? kind text = some h) (hm : c ∈ text)
    (hc : c = ':' ∨ c = ']') : text.getLast? = some ']' := by
  unfold readHost? at hh
  split at hh
  · unfold opaqueHost? at hh
    split at hh
    · obtain ⟨groups, hg, -⟩ := Option.map_eq_some_iff.1 hh
      obtain ⟨inner, hb, -⟩ := Option.bind_eq_some_iff.1 hg
      exact bracketed_getLast hb
    · split at hh
      · cases hh
      · rename_i hf
        have hforbidden : forbiddenInHost c = true := by
          rcases hc with rfl | rfl <;> rfl
        exact absurd (List.any_eq_true.2 ⟨c, hm, hforbidden⟩) hf
  · unfold host? at hh
    split at hh
    · obtain ⟨groups, hg, -⟩ := Option.map_eq_some_iff.1 hh
      obtain ⟨inner, hb, -⟩ := Option.bind_eq_some_iff.1 hg
      exact bracketed_getLast hb
    · obtain ⟨domain, hd, -⟩ := Option.bind_eq_some_iff.1 hh
      refine absurd hm (not_mem_domain ?_ ?_ hd) <;> rcases hc with rfl | rfl <;> rfl

theorem mem_joined {sep : String} {parts : List String} (hm : c ∈ (joined sep parts).toList) :
    c ∈ sep.toList ∨ ∃ part ∈ parts, c ∈ part.toList := by
  induction parts with
  | nil => cases hm
  | cons first rest ih =>
    cases rest with
    | nil => exact .inr ⟨first, .head _, hm⟩
    | cons second rest =>
      simp only [joined, String.toList_append, List.mem_append] at hm
      rcases hm with (hm | hm) | hm
      · exact .inr ⟨first, .head _, hm⟩
      · exact .inl hm
      · exact (ih hm).imp_right fun ⟨part, hp, hc⟩ => ⟨part, .tail _ hp, hc⟩

theorem mem_ipv4Text {address : Nat} (hm : c ∈ (ipv4Text address).toList) :
    c.isDigit = true ∨ c = '.' := by
  rcases mem_joined hm with hm | ⟨part, hp, hm⟩
  · right
    simpa using hm
  · obtain ⟨unit, -, rfl⟩ := List.mem_map.1 hp
    left
    have hm : c ∈ Nat.toDigits 10 (address / unit % 256) := by
      simpa [toString, Nat.repr] using hm
    exact Nat.isDigit_of_mem_toDigits (by decide) (by decide) hm

/-- A hyphen of a host is in its canonical form, unless that is an IP address. -/
theorem text_of_hyphen (hh : host? text = some h) (hb : text.head? ≠ some '[') (hc : '-' ∈ text) :
    '-' ∈ h.text.toList ∨ ∀ c ∈ h.text.toList, c.isDigit = true ∨ c = '.' := by
  unfold host? at hh
  rw [if_neg hb] at hh
  obtain ⟨domain, hd, hh⟩ := Option.bind_eq_some_iff.1 hh
  split at hh
  · obtain ⟨address, -, rfl⟩ := Option.map_eq_some_iff.1 hh
    exact .inr fun c hc => mem_ipv4Text hc
  · cases hh
    rw [Host.text, String.toList_ofList]
    exact .inl (mem_asciiDomain rfl hc hd)

/-! ## The signs of a host -/

/-- Signs that the canonical form of a host may have: what is visible in ASCII, and no slash. -/
def isHostSign (c : Char) : Bool := 0x20 < c.toNat && c.toNat < 0x7f && c != '/'

theorem isHostSign_iff :
    isHostSign c = true ↔ (0x20 < c.toNat ∧ c.toNat < 0x7f) ∧ c ≠ '/' := by
  simp [isHostSign]

theorem solid_of_hostSign (hc : isHostSign c = true) : isBlank c = false := by
  have := (isHostSign_iff.1 hc).1
  simp only [isBlank, Bool.or_eq_false_iff, Bool.and_eq_false_iff, beq_eq_false_iff_ne, ne_eq,
    decide_eq_false_iff_not]
  omega

theorem hostSign_of_digit (hc : c.isDigit = true) : isHostSign c = true := by
  have := toNat_of_numeric (numeric_of_digit hc)
  refine isHostSign_iff.2 ⟨by omega, fun e => ?_⟩
  rw [e] at hc
  cases hc

theorem mem_toDigits {base n : Nat} (hb : 1 < base) (hm : c ∈ Nat.toDigits base n) :
    ∃ d < base, c = d.digitChar := by
  induction n using Nat.strongRecOn with
  | ind n ih =>
    rw [Nat.toDigits_eq_if hb] at hm
    split at hm
    · rename_i hn
      exact ⟨n, hn, List.mem_singleton.1 hm⟩
    · rcases List.mem_append.1 hm with hm | hm
      · exact ih (n / base) (Nat.div_lt_self (by omega) hb) hm
      · exact ⟨n % base, Nat.mod_lt _ (by omega), List.mem_singleton.1 hm⟩

def Signs (s : String) : Prop := ∀ c ∈ s.toList, isHostSign c = true

def isIpv6Sign (c : Char) : Bool := c = ':' || (List.range 16).any (c = ·.digitChar)

theorem isIpv6Sign_digitChar {d : Nat} (hd : d < 16) : isIpv6Sign d.digitChar = true :=
  Bool.or_eq_true_iff.2 (.inr (List.any_eq_true.2 ⟨d, List.mem_range.2 hd, decide_eq_true rfl⟩))

/-- What holds of a colon and of the hexadecimal digits holds of all signs of an IPv6 address. -/
theorem of_ipv6Sign {p : Char → Bool} (hc : isIpv6Sign c = true) (hcolon : p ':' = true)
    (hdigit : ∀ d < 16, p d.digitChar = true) : p c = true := by
  rcases Bool.or_eq_true_iff.1 hc with hc | hc
  · rw [of_decide_eq_true hc]
    exact hcolon
  · obtain ⟨d, hd, he⟩ := List.any_eq_true.1 hc
    rw [of_decide_eq_true he]
    exact hdigit d (List.mem_range.1 hd)

theorem mem_hex {n : Nat} (hm : c ∈ hex n) : ∃ d < 16, c = d.digitChar :=
  mem_toDigits (by decide) hm

theorem mem_groupsText {groups : List Nat} (hm : c ∈ (groupsText groups).toList) :
    isIpv6Sign c = true := by
  rcases mem_joined hm with hm | ⟨part, hp, hm⟩
  · rw [show c = ':' by simpa using hm]
    rfl
  · obtain ⟨g, -, rfl⟩ := List.mem_map.1 hp
    rw [String.toList_ofList] at hm
    obtain ⟨d, hd, rfl⟩ := mem_hex hm
    exact isIpv6Sign_digitChar hd

theorem mem_ipv6Text {groups : List Nat} (hm : c ∈ (ipv6Text groups).toList) :
    isIpv6Sign c = true := by
  unfold ipv6Text at hm
  dsimp only at hm
  split at hm
  · exact mem_groupsText hm
  · rw [String.toList_append, String.toList_append, List.mem_append, List.mem_append] at hm
    rcases hm with (hm | hm) | hm
    · exact mem_groupsText hm
    · rw [show c = ':' by simpa using hm]
      rfl
    · exact mem_groupsText hm

theorem toList_ipv6 (groups : List Nat) :
    (Host.ipv6 groups).text.toList = '[' :: ((ipv6Text groups).toList ++ [']']) := by
  simp [Host.text]

theorem signs_ipv6 (groups : List Nat) : Signs (Host.ipv6 groups).text := by
  intro c hm
  rw [toList_ipv6] at hm
  rcases List.mem_cons.1 hm with rfl | hm
  · rfl
  · rcases List.mem_append.1 hm with hm | hm
    · exact of_ipv6Sign (mem_ipv6Text hm) rfl (by decide)
    · rw [List.mem_singleton.1 hm]
      rfl

/-- Where control characters are escaped, a character was there before and is visible, or it belongs
to an escape. -/
theorem mem_escapeControls (hm : c ∈ escapeControls text) :
    (c ∈ text ∧ 0x20 ≤ c.toNat ∧ c.toNat < 0x7f) ∨ c = '%' ∨ ∃ n < 16, c = upperHexDigit n := by
  obtain ⟨x, hx, hm⟩ := List.mem_flatMap.1 hm
  split at hm
  · rename_i hr
    rw [List.mem_singleton.1 hm]
    exact .inl ⟨hx, hr⟩
  · obtain ⟨b, -, hm⟩ := List.mem_flatMap.1 hm
    have hb : b.toNat < 256 := b.toNat_lt
    simp only [escapeOctet, List.mem_cons, List.not_mem_nil, or_false] at hm
    rcases hm with rfl | rfl | rfl
    · exact .inr (.inl rfl)
    · exact .inr (.inr ⟨_, by omega, rfl⟩)
    · exact .inr (.inr ⟨_, by omega, rfl⟩)

theorem hostSign_of_escaped (hf : ∀ c ∈ text, forbiddenInHost c = false)
    (hm : c ∈ escapeControls text) : isHostSign c = true := by
  rcases mem_escapeControls hm with ⟨hm, hr⟩ | rfl | ⟨n, hn, rfl⟩
  · have hc := hf c hm
    have hblank : c.toNat ≠ 0x20 := fun e => by
      rw [show c = ' ' from Char.toNat_inj.1 e] at hc
      cases hc
    refine isHostSign_iff.2 ⟨by omega, fun e => ?_⟩
    rw [e] at hc
    cases hc
  · rfl
  · have hdigit : ∀ n < 16, isHostSign (upperHexDigit n) = true := by decide
    exact hdigit n hn

theorem host_cases {kind : Kind} (hh : readHost? kind text = some h) :
    (∃ groups, h = .ipv6 groups) ∨ (∃ address, h = .ipv4 address) ∨
      (∃ name, h = .name (String.ofList (escapeControls name)) ∧
        ∀ c ∈ name, forbiddenInHost c = false) ∨
      ∃ domain, h = .name (String.ofList domain) ∧ ∀ c ∈ domain, forbiddenInDomain c = false := by
  unfold readHost? at hh
  split at hh
  · unfold opaqueHost? at hh
    split at hh
    · obtain ⟨groups, -, rfl⟩ := Option.map_eq_some_iff.1 hh
      exact .inl ⟨groups, rfl⟩
    · split at hh <;> cases hh
      rename_i hf
      exact .inr (.inr (.inl ⟨text, rfl, fun c hc =>
        Bool.eq_false_iff.2 fun h => hf (List.any_eq_true.2 ⟨c, hc, h⟩)⟩))
  · unfold host? at hh
    split at hh
    · obtain ⟨groups, -, rfl⟩ := Option.map_eq_some_iff.1 hh
      exact .inl ⟨groups, rfl⟩
    · obtain ⟨domain, hd, hh⟩ := Option.bind_eq_some_iff.1 hh
      split at hh
      · obtain ⟨address, -, rfl⟩ := Option.map_eq_some_iff.1 hh
        exact .inr (.inl ⟨address, rfl⟩)
      · cases hh
        obtain ⟨_, _, _, _, _, _, _, hf⟩ := asciiDomain_cases hd
        exact .inr (.inr (.inr ⟨domain, rfl, hf⟩))

/-- The canonical form of a host has no white space and no slash. -/
theorem signs_text {kind : Kind} (hh : readHost? kind text = some h) : Signs h.text := by
  intro c hm
  rcases host_cases hh with ⟨groups, rfl⟩ | ⟨address, rfl⟩ | ⟨name, rfl, hf⟩ | ⟨domain, rfl, hf⟩
  · exact signs_ipv6 groups c hm
  · rcases mem_ipv4Text hm with hc | rfl
    · exact hostSign_of_digit hc
    · rfl
  · rw [Host.text, String.toList_ofList] at hm
    exact hostSign_of_escaped hf hm
  · rw [Host.text, String.toList_ofList] at hm
    have hf := hf c hm
    have hslash : c ≠ '/' := fun e => by
      rw [e] at hf
      cases hf
    simp only [forbiddenInDomain, Bool.or_eq_false_iff, decide_eq_false_iff_not] at hf
    exact isHostSign_iff.2 ⟨by omega, hslash⟩

/-! ## The shape of a host -/

theorem of_forbidden {p : Char → Bool} (hc : forbiddenInHost c = true)
    (hp : ['\x00', '\t', '\n', '\r', ' ', '#', '/', ':', '<', '>', '?', '@', '[', '\\', ']', '^',
      '|'].all p = true) : p c = true :=
  List.all_eq_true.1 hp c (List.contains_iff_mem.1 hc)

theorem allowed_of_digit (hc : c.isDigit = true) : forbiddenInHost c = false :=
  eq_false_of_ne_true fun hf => by
    have := of_forbidden (p := (!·.isDigit)) hf (by decide)
    simp [hc] at this

theorem allowed_of_domain (hc : forbiddenInDomain c = false) : forbiddenInHost c = false :=
  eq_false_of_ne_true fun hf => by
    cases hc.symm.trans (of_forbidden hf (by decide))

theorem allowed_of_escaped (hf : ∀ c ∈ text, forbiddenInHost c = false)
    (hm : c ∈ escapeControls text) : forbiddenInHost c = false := by
  rcases mem_escapeControls hm with ⟨hm, -⟩ | rfl | ⟨n, hn, rfl⟩
  · exact hf c hm
  · rfl
  · have hdigit : ∀ n < 16, forbiddenInHost (upperHexDigit n) = false := by decide
    exact hdigit n hn

/-- How the canonical form of a host is written: in brackets, or without any sign that divides an
address. -/
inductive Shape : List Char → Prop
  | plain {host} (h : ∀ c ∈ host, forbiddenInHost c = false) : Shape host
  | bracketed {inner} (h : ∀ c ∈ inner, isIpv6Sign c = true) : Shape ('[' :: (inner ++ [']']))

theorem shape_text {kind : Kind} (hh : readHost? kind text = some h) : Shape h.text.toList := by
  rcases host_cases hh with ⟨groups, rfl⟩ | ⟨address, rfl⟩ | ⟨name, rfl, hf⟩ | ⟨domain, rfl, hf⟩
  · rw [toList_ipv6]
    exact .bracketed fun _ => mem_ipv6Text
  · refine .plain fun c hm => ?_
    rcases mem_ipv4Text hm with hc | rfl
    · exact allowed_of_digit hc
    · rfl
  · rw [Host.text, String.toList_ofList]
    exact .plain fun c hm => allowed_of_escaped hf hm
  · rw [Host.text, String.toList_ofList]
    exact .plain fun c hm => allowed_of_domain (hf c hm)

/-- The canonical form of a host has a colon only behind an opening bracket. -/
theorem text_of_colon {kind : Kind} (hh : readHost? kind text = some h)
    (hc : ':' ∈ h.text.toList) : h.text.toList.head? = some '[' := by
  have hs := shape_text hh
  generalize h.text.toList = host at hs hc ⊢
  cases hs with
  | plain hf => cases hf ':' hc
  | bracketed => rfl

end Url
end GridKeeper
