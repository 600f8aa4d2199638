import GridKeeper.Proofs.Hosts
import GridKeeper.Proofs.Texts

/-!
# The host and the port of an address, as they are written

An address is read in one pass that drops tabs and line breaks, and what comes of its host is the
canonical form. `spelled` finds the stretch of the address that the host and the port were read
from, with everything that stands in it. What was read is what is written there, less the tabs and
line breaks (`spelled_read`).

**Results.**
* `spelled_read`: the host of an address is the canonical form of the host as it is written, and the
  port is the number that is written, if digits are.
* `opens_of_parse`: how an address without breaks divides.
* `spelled_usual`, `spelledIn_slashes`: in an address of the usual shape the host and the port are
  what stands behind `://` and the user part.
-/
namespace GridKeeper.Url

open Text

variable {kind : Kind} {text a b : List Char} {c : Char}

/-! ## Breaks -/

theorem break_cases (h : isBreak c = true) : c = '\t' ∨ c = '\n' ∨ c = '\r' := by
  simpa [isBreak, or_assoc] using h

theorem not_break_of_high (h : 0x20 < c.toNat) : isBreak c = false := by
  by_contra hb
  rcases break_cases (Bool.not_eq_false _ ▸ hb) with rfl | rfl | rfl <;> revert h <;> decide

theorem not_break_of_solid (h : isBlank c = false) : isBreak c = false := by
  by_contra hb
  rcases break_cases (Bool.not_eq_false _ ▸ hb) with rfl | rfl | rfl <;> cases h

@[simp] theorem withoutBreaks_append (a b : List Char) :
    withoutBreaks (a ++ b) = withoutBreaks a ++ withoutBreaks b := List.filter_append a b

theorem withoutBreaks_of_none (h : ∀ c ∈ text, isBreak c = false) : withoutBreaks text = text :=
  List.filter_eq_self.2 fun c hc => by simp [h c hc]

theorem mem_of_withoutBreaks (h : c ∈ withoutBreaks text) : c ∈ text := List.mem_of_mem_filter h

theorem mem_withoutBreaks (h : c ∈ text) (hc : isBreak c = false) : c ∈ withoutBreaks text :=
  List.mem_filter.2 ⟨h, by simp [hc]⟩

theorem withoutBreaks_dropCounted (n : Nat) (text : List Char) :
    withoutBreaks (dropCounted n text) = (withoutBreaks text).drop n := by
  induction text generalizing n with
  | nil => cases n <;> rfl
  | cons c cs ih =>
    cases n with
    | zero => rfl
    | succ n =>
      simp only [dropCounted]
      split
      · rename_i hc
        rw [ih (n + 1)]
        simp [withoutBreaks, hc]
      · rename_i hc
        rw [ih n]
        simp [withoutBreaks, hc]

theorem dropCounted_of_none (h : ∀ c ∈ text, isBreak c = false) (n : Nat) :
    dropCounted n text = text.drop n := by
  induction text generalizing n with
  | nil => cases n <;> rfl
  | cons c cs ih =>
    cases n with
    | zero => rfl
    | succ n =>
      simp only [dropCounted, h c (.head _), Bool.false_eq_true, if_false, List.drop_succ_cons]
      exact ih (fun x hx => h x (.tail _ hx)) n

/-- Dropping breaks does not change how far characters go that breaks are among. -/
theorem withoutBreaks_takeWhile {p : Char → Bool} (hp : ∀ c, isBreak c = true → p c = true)
    (text : List Char) :
    withoutBreaks (text.takeWhile p) = (withoutBreaks text).takeWhile p := by
  induction text with
  | nil => rfl
  | cons c cs ih =>
    cases hb : isBreak c with
    | true =>
      rw [List.takeWhile_cons, if_pos (hp c hb)]
      simpa [withoutBreaks, hb] using ih
    | false =>
      cases hc : p c with
      | true => simpa [withoutBreaks, hb, hc] using ih
      | false => simp [withoutBreaks, hb, hc]

theorem withoutBreaks_dropWhile (p : Char → Bool) (text : List Char) :
    withoutBreaks (text.dropWhile fun c => p c || isBreak c) =
      (withoutBreaks text).dropWhile p := by
  induction text with
  | nil => rfl
  | cons c cs ih =>
    cases hb : isBreak c with
    | true =>
      rw [List.dropWhile_cons, if_pos (by simp [hb])]
      simpa [withoutBreaks, hb] using ih
    | false =>
      cases hc : p c with
      | true => simpa [withoutBreaks, hb, hc] using ih
      | false => simp [withoutBreaks, hb, hc]

theorem not_ends_of_break (h : isBreak c = true) (kind : Kind) :
    endsAuthority kind c = false := by
  rcases break_cases h with rfl | rfl | rfl <;> cases kind <;> rfl

theorem withoutBreaks_spanHost (kind : Kind) (inside : Bool) (text : List Char) :
    spanHost kind inside (withoutBreaks text) =
      (withoutBreaks (spanHost kind inside text).1,
        withoutBreaks (spanHost kind inside text).2) := by
  induction text generalizing inside with
  | nil => rfl
  | cons c cs ih =>
    cases hb : isBreak c with
    | true =>
      have he : endsAuthority kind c = false := not_ends_of_break hb kind
      have hne : c ≠ ':' ∧ c ≠ '[' ∧ c ≠ ']' := by
        rcases break_cases hb with rfl | rfl | rfl <;> decide
      have := ih inside
      simpa [spanHost, withoutBreaks, hb, he, hne] using this
    | false =>
      simp only [spanHost, withoutBreaks, List.filter_cons, hb, Bool.not_false, if_true] at ih ⊢
      split
      · simp [hb]
      · simp [hb, ih]

/-! ## Where the host and the port are written -/

/-- What stands behind the last `@`, or everything. -/
def behindLast (text : List Char) : List Char :=
  match cutLast? '@' text with
  | some (_, behind) => behind
  | none => text

/-- The host and the port of an address of the given kind as they are written, the port with its
colon; `text` is what stands behind the colon of the scheme. A file has no port. -/
def spelledIn (kind : Kind) (text : List Char) : List Char × List Char :=
  let inner := match kind with
    | .special => text.dropWhile fun c => isSlash kind c || isBreak c
    | _ => dropCounted 2 text
  let authority := inner.takeWhile (!endsAuthority kind ·)
  match kind with
  | .file => (authority, [])
  | _ =>
    let (host, port) := spanHost kind false (behindLast authority)
    (host, port.takeWhile (!endsAuthority .special ·))

/-- The host and the port of an address as they are written, the port with its colon. -/
def spelled (address : List Char) : List Char × List Char :=
  let text := trimmed (trim address)
  match scheme? (withoutBreaks text) with
  | some scheme => spelledIn (kindOf scheme) (dropCounted (scheme.length + 1) text)
  | none => ([], [])

/-! ## How an authority is read -/

theorem mem_behindLast (h : c ∈ behindLast text) : c ∈ text := by
  unfold behindLast at h
  split at h
  · rename_i before behind hcut
    rw [(cutLast_eq_some.1 hcut).1]
    exact List.mem_append_right _ (.tail _ h)
  · exact h

theorem withoutBreaks_behindLast (text : List Char) :
    withoutBreaks (behindLast text) = behindLast (withoutBreaks text) := by
  unfold behindLast
  cases hcut : cutLast? '@' text with
  | some x =>
    obtain ⟨before, behind⟩ := x
    obtain ⟨rfl, hb⟩ := cutLast_eq_some.1 hcut
    have : cutLast? '@' (withoutBreaks (before ++ '@' :: behind)) =
        some (withoutBreaks before, withoutBreaks behind) := by
      refine cutLast_eq_some.2 ⟨?_, fun h => hb (mem_of_withoutBreaks h)⟩
      rw [withoutBreaks_append]
      rfl
    rw [this]
  | none =>
    have : cutLast? '@' (withoutBreaks text) = none :=
      cutLast_eq_none.2 fun h => cutLast_eq_none.1 hcut (mem_of_withoutBreaks h)
    rw [this]

/-- Behind the user part comes what is written of the host and the port, and the rest. -/
theorem behindUser_eq (kind : Kind) (text : List Char) :
    behindUser kind text = behindLast (text.takeWhile (!endsAuthority kind ·)) ++
      text.dropWhile (!endsAuthority kind ·) := by
  unfold behindUser behindLast
  cases hcut : cutLast? '@' (text.takeWhile (!endsAuthority kind ·)) with
  | some x => simp only [hcut]
  | none => simp only [hcut, List.takeWhile_append_dropWhile]

theorem spanHost_append {tail : List Char} (hb : ∀ c ∈ text, endsAuthority kind c = false)
    (ht : ∀ c, tail.head? = some c → endsAuthority kind c = true) (inside : Bool) :
    spanHost kind inside (text ++ tail) =
      ((spanHost kind inside text).1, (spanHost kind inside text).2 ++ tail) := by
  induction text generalizing inside with
  | nil =>
    cases tail with
    | nil => rfl
    | cons c tail => simp [spanHost, ht c rfl]
  | cons c cs ih =>
    have hc : endsAuthority kind c = false := hb c (.head _)
    simp only [List.cons_append, spanHost, hc, Bool.or_false]
    split
    · rfl
    · rw [ih fun x hx => hb x (.tail _ hx)]

theorem spanHost_parts (hb : ∀ c ∈ text, endsAuthority kind c = false) (inside : Bool) :
    (spanHost kind inside text).1 ++ (spanHost kind inside text).2 = text ∧
      ((spanHost kind inside text).2 = [] ∨
        ∃ rest, (spanHost kind inside text).2 = ':' :: rest) := by
  induction text generalizing inside with
  | nil => exact ⟨rfl, .inl rfl⟩
  | cons c cs ih =>
    have hc : endsAuthority kind c = false := hb c (.head _)
    simp only [spanHost, hc, Bool.or_false]
    split
    · rename_i h
      simp only [Bool.and_eq_true, decide_eq_true_eq] at h
      exact ⟨rfl, .inr ⟨cs, by rw [h.1]⟩⟩
    · obtain ⟨hp, hr⟩ := ih (fun x hx => hb x (.tail _ hx))
        (if c = '[' then true else if c = ']' then false else inside)
      exact ⟨by rw [List.cons_append, hp], hr⟩

theorem ends_special (h : endsAuthority kind c = true) : endsAuthority .special c = true := by
  cases kind with
  | special | file => exact h
  | other =>
    simp only [endsAuthority, isSlash, Bool.or_eq_true, decide_eq_true_eq] at h
    rcases h with ((rfl | h) | rfl) | rfl
    · rfl
    · cases h
    · rfl
    · rfl

theorem takeWhile_append_of_head {p : Char → Bool} {tail : List Char}
    (ht : ∀ c, tail.head? = some c → p c = false) :
    (text ++ tail).takeWhile p = text.takeWhile p := by
  induction text with
  | nil =>
    cases tail with
    | nil => rfl
    | cons c tail => simp [ht c rfl]
  | cons c cs ih => simp only [List.cons_append, List.takeWhile_cons, ih]

/-- What `port`, a port as it is written with its colon, is read as. No digits are no port. -/
inductive Spells : List Char → Option Nat → Prop
  | none : Spells [] none
  | empty : Spells [':'] none
  | digits {digits p} (h : readDigits? digits = some p) (hp : p ≤ max16) :
    Spells (':' :: digits) (some p)

theorem spells_of_port {rest tail : List Char} {written : Option Nat}
    (hr : rest = [] ∨ ∃ r, rest = ':' :: r)
    (ht : ∀ c, tail.head? = some c → endsAuthority .special c = true)
    (h : port? (rest ++ tail) = some written) :
    Spells (rest.takeWhile (!endsAuthority .special ·)) written := by
  rcases hr with rfl | ⟨r, rfl⟩
  · rw [List.nil_append] at h
    have hw : written = none := by
      unfold port? at h
      split at h
      · cases ht ':' rfl
      · exact (Option.some.inj h).symm
    rw [hw]
    exact .none
  · have htake : (r ++ tail).takeWhile (!endsAuthority .special ·) =
        r.takeWhile (!endsAuthority .special ·) :=
      takeWhile_append_of_head fun c hc => by simp [ht c hc]
    have hcolon : (':' :: r).takeWhile (!endsAuthority .special ·) =
        ':' :: r.takeWhile (!endsAuthority .special ·) :=
      List.takeWhile_cons_of_pos (by rfl)
    simp only [port?, List.cons_append, htake] at h
    rw [hcolon]
    split at h
    · rename_i he
      cases h
      rw [List.isEmpty_iff.1 he]
      exact .empty
    · obtain ⟨p, hp, rfl⟩ := Option.map_eq_some_iff.1 h
      obtain ⟨hd, hle⟩ := Option.filter_eq_some_iff.1 hp
      exact .digits hd (of_decide_eq_true hle)

/-- The host and the port of an authority are read from what is written of them. -/
theorem authority_read {h : Host} {written : Option Nat}
    (ha : authority? kind text = some (some h, written)) :
    let parts := spanHost kind false (behindLast (text.takeWhile (!endsAuthority kind ·)))
    readHost? kind parts.1 = some h ∧
      Spells (parts.2.takeWhile (!endsAuthority .special ·)) written := by
  have hb : ∀ c ∈ behindLast (text.takeWhile (!endsAuthority kind ·)),
      endsAuthority kind c = false := fun c hc => by
    simpa using List.mem_takeWhile_imp (mem_behindLast hc)
  have ht : ∀ c, (text.dropWhile (!endsAuthority kind ·)).head? = some c →
      endsAuthority kind c = true := fun c hc => by
    have := List.head?_dropWhile_not (!endsAuthority kind ·) text
    rw [hc] at this
    simpa using this
  intro parts
  unfold authority? at ha
  rw [behindUser_eq, spanHost_append hb ht] at ha
  dsimp only at ha
  split at ha
  · split at ha <;> cases ha
  · obtain ⟨h', hh, ha⟩ := Option.bind_eq_some_iff.1 ha
    obtain ⟨written', hp, he⟩ := Option.map_eq_some_iff.1 ha
    cases he
    exact ⟨hh, spells_of_port (spanHost_parts hb false).2 (fun c hc => ends_special (ht c hc)) hp⟩

/-! ## How a whole address is read -/

theorem authority_read_breaks {h : Host} {written : Option Nat}
    (ha : authority? kind (withoutBreaks text) = some (some h, written)) :
    let parts := spanHost kind false (behindLast (text.takeWhile (!endsAuthority kind ·)))
    readHost? kind (withoutBreaks parts.1) = some h ∧
      Spells (withoutBreaks (parts.2.takeWhile (!endsAuthority .special ·))) written := by
  have hpass : ∀ kind c, isBreak c = true → (!endsAuthority kind c) = true := fun kind c hc => by
    rw [not_ends_of_break hc kind]
    rfl
  obtain ⟨hh, hs⟩ := authority_read ha
  rw [← withoutBreaks_takeWhile (hpass kind), ← withoutBreaks_behindLast,
    withoutBreaks_spanHost] at hh hs
  rw [← withoutBreaks_takeWhile (hpass .special)] at hs
  exact ⟨hh, hs⟩

theorem fileHost_read {h : Host} (hf : fileHost? text = some (some h)) :
    host? ((withoutBreaks text).takeWhile (!endsAuthority .file ·)) = some h := by
  unfold fileHost? at hf
  dsimp only at hf
  split at hf
  · cases hf
  · obtain ⟨h', hh, hf⟩ := Option.map_eq_some_iff.1 hf
    split at hf <;> cases hf
    exact hh

theorem spelledIn_read {h : Host} {written : Option Nat}
    (hr : rest? kind text = some (some h, written)) :
    readHost? kind (withoutBreaks (spelledIn kind text).1) = some h ∧
      Spells (withoutBreaks (spelledIn kind text).2) written := by
  cases kind with
  | special =>
    have ha : authority? .special (withoutBreaks (text.dropWhile fun c =>
        isSlash .special c || isBreak c)) = some (some h, written) := by
      rw [withoutBreaks_dropWhile]
      exact hr
    exact authority_read_breaks ha
  | file =>
    simp only [rest?] at hr
    split at hr
    · obtain ⟨h', hf, he⟩ := Option.map_eq_some_iff.1 hr
      cases he
      refine ⟨?_, .none⟩
      have hh := fileHost_read hf
      rw [← withoutBreaks_takeWhile fun c hc => by rw [not_ends_of_break hc .file]; rfl] at hh
      exact hh
    · cases hr
  | other =>
    simp only [rest?] at hr
    split at hr
    · have ha : authority? .other (withoutBreaks (dropCounted 2 text)) =
          some (some h, written) := by
        rw [withoutBreaks_dropCounted]
        exact hr
      exact authority_read_breaks ha
    · cases hr

theorem written_of_file {address : List Char} {url : Url} (hu : parse? address = some url)
    (hk : kindOf url.scheme = .file) : url.written = none := by
  unfold parse? at hu
  obtain ⟨scheme, -, hu⟩ := Option.bind_eq_some_iff.1 hu
  obtain ⟨⟨host, written⟩, hr, rfl⟩ := Option.map_eq_some_iff.1 hu
  change kindOf scheme = .file at hk
  rw [hk] at hr
  simp only [rest?] at hr
  split at hr
  · obtain ⟨_, -, he⟩ := Option.map_eq_some_iff.1 hr
    cases he
    rfl
  · cases hr
    rfl

/-- The host of an address is the canonical form of the host as it is written, and the port is the
number that is written, if digits are. -/
theorem spelled_read {address : List Char} {url : Url} {h : Host}
    (hu : parse? (trim address) = some url) (hh : url.host = some h) :
    readHost? (kindOf url.scheme) (withoutBreaks (spelled address).1) = some h ∧
      Spells (withoutBreaks (spelled address).2) url.written := by
  unfold parse? at hu
  obtain ⟨scheme, hs, hu⟩ := Option.bind_eq_some_iff.1 hu
  obtain ⟨⟨host, written⟩, hr, rfl⟩ := Option.map_eq_some_iff.1 hu
  cases hh
  have he : spelled address =
      spelledIn (kindOf scheme) (dropCounted (scheme.length + 1) (trimmed (trim address))) := by
    simp only [spelled, hs]
  rw [he]
  exact spelledIn_read hr

theorem slash_ends (kind : Kind) : endsAuthority kind '/' = true := by
  cases kind <;> rfl

theorem not_ends_of_mem {inner : List Char} (h : c ∈ inner.takeWhile (!endsAuthority kind ·)) :
    endsAuthority kind c = false := by
  simpa using List.mem_takeWhile_imp h

/-- What is written of the host and the port in an authority. -/
theorem spanHost_shape (hb : ∀ c ∈ text, endsAuthority kind c = false) :
    let parts := spanHost kind false text
    let port := parts.2.takeWhile (!endsAuthority .special ·)
    (port = [] ∨ ∃ rest, port = ':' :: rest) ∧ '/' ∉ parts.1 ++ port := by
  intro parts port
  obtain ⟨hp, hr⟩ := spanHost_parts hb false
  have hs : '/' ∉ parts.1 := fun h => by
    have h : '/' ∈ text := hp ▸ List.mem_append_left _ h
    cases (hb '/' h).symm.trans (slash_ends kind)
  refine ⟨?_, fun h => ?_⟩
  · rcases hr with hr | ⟨rest, hr⟩
    · exact .inl (by simp only [port, parts, hr, List.takeWhile_nil])
    · refine .inr ⟨rest.takeWhile (!endsAuthority .special ·), ?_⟩
      simp only [port, parts, hr]
      exact List.takeWhile_cons_of_pos (by rfl)
  · rcases List.mem_append.1 h with h | h
    · exact hs h
    · cases (not_ends_of_mem h).symm.trans (slash_ends .special)

/-- The port is written behind a colon if at all, and no slash is in it or in the host. -/
theorem spelledIn_shape (kind : Kind) (text : List Char) :
    ((spelledIn kind text).2 = [] ∨ ∃ rest, (spelledIn kind text).2 = ':' :: rest) ∧
      '/' ∉ (spelledIn kind text).1 ++ (spelledIn kind text).2 := by
  cases kind with
  | file =>
    refine ⟨.inl rfl, fun h => ?_⟩
    have h : '/' ∈ (dropCounted 2 text).takeWhile (!endsAuthority .file ·) := by
      simpa [spelledIn] using h
    cases (not_ends_of_mem h).symm.trans (slash_ends .file)
  | special => exact spanHost_shape fun c hc => not_ends_of_mem (mem_behindLast hc)
  | other => exact spanHost_shape fun c hc => not_ends_of_mem (mem_behindLast hc)

theorem spelled_shape (address : List Char) :
    ((spelled address).2 = [] ∨ ∃ rest, (spelled address).2 = ':' :: rest) ∧
      '/' ∉ (spelled address).1 ++ (spelled address).2 := by
  unfold spelled
  dsimp only
  split
  · exact spelledIn_shape _ _
  · exact ⟨.inl rfl, nofun⟩

/-! ## Addresses without breaks -/

/-- How an address without breaks is read: `scheme` is what is written before its first colon and
`rest` what is read behind it; control characters and blanks around both are left out. -/
structure Opens (text : List Char) (url : Url) (lead scheme rest tail : List Char) : Prop where
  split : text = lead ++ scheme ++ ':' :: (rest ++ tail)
  lead_low : ∀ c ∈ lead, c.toNat ≤ 0x20
  tail_low : ∀ c ∈ tail, c.toNat ≤ 0x20
  letter : ∃ first more, scheme = first :: more ∧ first.isAlpha = true
  scheme_eq : url.scheme = String.ofList (lowerAscii scheme)
  read : rest? (kindOf url.scheme) rest = some (url.host, url.written)

theorem scheme_eq_some {scheme : String} (h : scheme? text = some scheme) :
    ∃ rest, text = text.takeWhile isSchemeChar ++ ':' :: rest ∧
      scheme = String.ofList (lowerAscii (text.takeWhile isSchemeChar)) ∧
      ∃ first more, text.takeWhile isSchemeChar = first :: more ∧ first.isAlpha = true := by
  unfold scheme? at h
  split at h
  · rename_i first rest hfirst hrest
    split at h
    · rename_i hletter
      refine ⟨rest, ?_, (Option.some.inj h).symm, ?_⟩
      · rw [← hrest, List.takeWhile_append_dropWhile]
      · cases text with
        | nil => cases hfirst
        | cons c cs =>
          cases hfirst
          refine ⟨first, cs.takeWhile isSchemeChar, ?_, hletter⟩
          exact List.takeWhile_cons_of_pos (by simp [isSchemeChar, Char.isAlphanum, hletter])
    · cases h
  · cases h

theorem opens_of_parse {url : Url} (hb : ∀ c ∈ text, isBreak c = false)
    (hu : parse? text = some url) :
    ∃ lead scheme rest tail, Opens text url lead scheme rest tail := by
  obtain ⟨lead, tail, hsplit, hlead, htail⟩ := strip_split (fun c => decide (c.toNat ≤ 0x20)) text
  change text = lead ++ trimmed text ++ tail at hsplit
  have hin : ∀ c ∈ trimmed text, isBreak c = false := fun c hc =>
    hb c (hsplit ▸ List.mem_append_left _ (List.mem_append_right _ hc))
  unfold parse? at hu
  obtain ⟨_, hs, hu⟩ := Option.bind_eq_some_iff.1 hu
  obtain ⟨⟨host, written⟩, hr, rfl⟩ := Option.map_eq_some_iff.1 hu
  rw [withoutBreaks_of_none hin] at hs
  rw [dropCounted_of_none hin] at hr
  obtain ⟨rest, hparts, rfl, hletter⟩ := scheme_eq_some hs
  generalize (trimmed text).takeWhile isSchemeChar = scheme at hparts hletter hr ⊢
  rw [hparts, String.length_ofList, lowerAscii, List.length_map, List.drop_length_add_append,
    List.drop_succ_cons, List.drop_zero] at hr
  refine ⟨lead, scheme, rest, tail, ?_, ?_, ?_, hletter, rfl, hr⟩
  · rw [hsplit, hparts]
    simp
  · exact fun c hc => of_decide_eq_true (hlead c hc)
  · exact fun c hc => of_decide_eq_true (htail c hc)

theorem slashes_of_other {h : Host} {written : Option Nat} (hb : ∀ c ∈ text, isBreak c = false)
    (hr : rest? .other text = some (some h, written)) : ∃ rest, text = '/' :: '/' :: rest := by
  simp only [rest?, withoutBreaks_of_none hb] at hr
  split at hr
  · rename_i hs
    unfold hasTwoSlashes at hs
    split at hs
    · simp [isSlash] at hs
      exact ⟨_, by rw [hs.1, hs.2]⟩
    · cases hs
  · cases hr

theorem slash_of_file {h : Host} {written : Option Nat} (hb : ∀ c ∈ text, isBreak c = false)
    (hr : rest? .file text = some (some h, written)) :
    ∃ slash rest, text = slash :: rest ∧ isSlash .file slash = true := by
  simp only [rest?, withoutBreaks_of_none hb] at hr
  split at hr
  · rename_i hs
    unfold hasTwoSlashes at hs
    split at hs
    · exact ⟨_, _, rfl, (Bool.and_eq_true _ _ ▸ hs).1⟩
    · cases hs
  · cases hr

/-- Where none of the signs stands that an authority is cut at, all is host. -/
theorem spelledIn_plain (h : ∀ c ∈ text, endsAuthority .special c = false ∧ isBreak c = false)
    (hu : '@' ∉ text) (hc : ':' ∉ text) : spelledIn .special text = (text, []) := by
  have hdrop : (text.dropWhile fun c => isSlash .special c || isBreak c) = text := by
    refine List.dropWhile_eq_self_iff.2 fun hl => ?_
    obtain ⟨he, hb⟩ := h _ (List.getElem_mem hl)
    simp only [endsAuthority, Bool.or_eq_false_iff] at he
    simp [he.1.1, hb]
  have htake : text.takeWhile (!endsAuthority .special ·) = text :=
    List.takeWhile_eq_self_iff.2 fun c hm => by simp [(h c hm).1]
  have hbehind : behindLast text = text := by
    simp only [behindLast, cutLast_eq_none.2 hu]
  have hspan : spanHost .special false text = (text, []) := by
    obtain ⟨hp, hr⟩ := spanHost_parts (fun c hm => (h c hm).1) false
    rcases hr with hr | ⟨rest, hr⟩
    · rw [hr, List.append_nil] at hp
      exact Prod.ext hp hr
    · rw [hr] at hp
      exact absurd (hp ▸ List.mem_append_right _ (.head _)) hc
  simp only [spelledIn, hdrop, htake, hbehind, hspan, List.takeWhile_nil]

/-! ## Addresses of the usual shape -/

/-- The usual shape of an address: `scheme://authority`, and behind it nothing, or a path, a query or
a fragment. -/
inductive Usual : List Char → Prop
  | intro {scheme authority tail} (hs : ∀ c ∈ scheme, isSchemeChar c = true)
    (hne : authority ≠ [])
    (ha : ∀ c ∈ authority, 0x20 < c.toNat ∧ endsAuthority .special c = false)
    (ht : ∀ c, tail.head? = some c → c = '/' ∨ c = '?' ∨ c = '#') :
    Usual (scheme ++ ':' :: '/' :: '/' :: (authority ++ tail))

theorem high_of_schemeChar (h : isSchemeChar c = true) : 0x20 < c.toNat := by
  have hle : ∀ d : Char, d.val ≤ c.val → 0x20 < d.val.toNat → 0x20 < c.toNat := fun d hd hn =>
    Nat.lt_of_lt_of_le hn (UInt32.le_iff_toNat_le.1 hd)
  simp only [isSchemeChar, Bool.or_eq_true, decide_eq_true_eq] at h
  rcases h with ((h | rfl) | rfl) | rfl
  · rcases Bool.or_eq_true_iff.1 h with h | h
    · rcases Bool.or_eq_true_iff.1 h with h | h
      · exact hle 'A' (of_decide_eq_true h).1 (by decide)
      · exact hle 'a' (of_decide_eq_true (Bool.and_eq_true_iff.1 h).1) (by decide)
    · exact hle '0' (of_decide_eq_true (Bool.and_eq_true_iff.1 h).1) (by decide)
  · decide
  · decide
  · decide

theorem dropCounted_append (h : ∀ c ∈ a, isBreak c = false) : dropCounted a.length (a ++ b) = b := by
  induction a with
  | nil => cases b <;> rfl
  | cons c a ih =>
    simp only [List.length_cons, List.cons_append, dropCounted, h c (.head _), Bool.false_eq_true,
      if_false]
    exact ih fun x hx => h x (.tail _ hx)

/-- Trimming leaves alone what begins and ends in a visible character, and takes away from what
stands behind it only. -/
theorem trimmed_append {first last : Char} (hf : a.head? = some first) (hfirst : 0x20 < first.toNat)
    (hl : a.getLast? = some last) (hlast : 0x20 < last.toNat) (b : List Char) :
    ∃ b' tail, trimmed (a ++ b) = a ++ b' ∧ b = b' ++ tail := by
  have hdrop : (a ++ b).dropWhile (fun c => decide (c.toNat ≤ 0x20)) = a ++ b := by
    cases a with
    | nil => cases hf
    | cons x a =>
      cases hf
      exact List.dropWhile_cons_of_neg (by simpa using hfirst)
  obtain ⟨tail, hsplit, hlow⟩ := dropEndWhile_split (fun c => decide (c.toNat ≤ 0x20)) (a ++ b)
  have htrim : trimmed (a ++ b) = dropEndWhile (fun c => decide (c.toNat ≤ 0x20)) (a ++ b) :=
    congrArg (dropEndWhile _) hdrop
  rw [← htrim] at hsplit
  generalize trimmed (a ++ b) = inner at hsplit
  rcases List.append_eq_append_iff.1 hsplit with ⟨b', hb, rfl⟩ | ⟨cut, rfl, rfl⟩
  · exact ⟨b', tail, hb, rfl⟩
  · cases cut with
    | nil => exact ⟨[], b, by rw [List.append_nil, List.append_nil], rfl⟩
    | cons x cut =>
      -- the last character would be among those that are cut off
      rw [List.getLast?_append_of_ne_nil _ (List.cons_ne_nil x cut)] at hl
      have := hlow last (List.mem_append_left _ (List.mem_of_getLast? hl))
      simp only [decide_eq_true_eq] at this
      omega

theorem not_ends_of_special (h : endsAuthority .special c = false) : endsAuthority kind c = false :=
  eq_false_of_ne_true fun he => by
    cases h.symm.trans (ends_special he)

theorem takeWhile_authority (kind : Kind) (ha : ∀ c ∈ a, endsAuthority .special c = false)
    (hb : ∀ c, b.head? = some c → c = '/' ∨ c = '?' ∨ c = '#') :
    (a ++ b).takeWhile (!endsAuthority kind ·) = a := by
  rw [takeWhile_append_of_head fun c hc => ?_]
  · exact List.takeWhile_eq_self_iff.2 fun c hc => by simp [not_ends_of_special (ha c hc)]
  · rcases hb c hc with rfl | rfl | rfl <;> cases kind <;> rfl

/-- Behind two slashes, what is written of the host and the port is the authority without the user
part. -/
theorem spelledIn_slashes (hk : kind ≠ .file) (hne : a ≠ [])
    (ha : ∀ c ∈ a, isBreak c = false ∧ endsAuthority .special c = false)
    (hb : ∀ c, b.head? = some c → c = '/' ∨ c = '?' ∨ c = '#') :
    (spelledIn kind ('/' :: '/' :: (a ++ b))).1 ++ (spelledIn kind ('/' :: '/' :: (a ++ b))).2 =
      behindLast a := by
  have hplain : ∀ kind, ∀ c ∈ a, endsAuthority kind c = false := fun kind c hc =>
    not_ends_of_special (ha c hc).2
  have htake : ∀ kind, (a ++ b).takeWhile (!endsAuthority kind ·) = a := fun kind =>
    takeWhile_authority kind (fun c hc => (ha c hc).2) hb
  have hspan : ∀ kind, (spanHost kind false (behindLast a)).1 ++
      (spanHost kind false (behindLast a)).2.takeWhile (!endsAuthority .special ·) =
        behindLast a := fun kind => by
    obtain ⟨hp, -⟩ := spanHost_parts (fun c hc => hplain kind c (mem_behindLast hc)) false
    have hport : ∀ c ∈ (spanHost kind false (behindLast a)).2,
        endsAuthority .special c = false := fun c hc =>
      hplain .special c (mem_behindLast (hp ▸ List.mem_append_right _ hc))
    rw [List.takeWhile_eq_self_iff.2 fun c hc => by simp [hport c hc], hp]
  cases kind with
  | file => exact absurd rfl hk
  | other =>
    have hdrop : dropCounted 2 ('/' :: '/' :: (a ++ b)) = a ++ b :=
      dropCounted_append (a := ['/', '/']) (by simp [isBreak])
    simp only [spelledIn, hdrop, htake]
    exact hspan .other
  | special =>
    have hdrop : ('/' :: '/' :: (a ++ b)).dropWhile
        (fun c => isSlash .special c || isBreak c) = a ++ b := by
      cases a with
      | nil => exact absurd rfl hne
      | cons x a =>
        obtain ⟨hx, he⟩ := ha x (.head _)
        simp only [endsAuthority, Bool.or_eq_false_iff] at he
        rw [List.dropWhile_cons_of_pos (by rfl), List.dropWhile_cons_of_pos (by rfl)]
        exact List.dropWhile_cons_of_neg (by simp [hx, he.1.1])
    simp only [spelledIn, hdrop, htake]
    exact hspan .special

theorem spelledIn_file (ha : ∀ c ∈ a, endsAuthority .special c = false)
    (hb : ∀ c, b.head? = some c → c = '/' ∨ c = '?' ∨ c = '#') :
    spelledIn .file ('/' :: '/' :: (a ++ b)) = (a, []) := by
  have hdrop : dropCounted 2 ('/' :: '/' :: (a ++ b)) = a ++ b :=
    dropCounted_append (a := ['/', '/']) (by simp [isBreak])
  simp only [spelledIn, hdrop, takeWhile_authority .file ha hb]

section
variable {scheme authority tail : List Char}

theorem takeWhile_scheme (hs : ∀ c ∈ scheme, isSchemeChar c = true) (rest : List Char) :
    (scheme ++ ':' :: rest).takeWhile isSchemeChar = scheme := by
  rw [List.takeWhile_append_of_pos hs, List.takeWhile_cons_of_neg (by decide), List.append_nil]

/-- An address of the usual shape is not trimmed but at the end of what follows the authority. -/
theorem trimmed_usual (hs : ∀ c ∈ scheme, isSchemeChar c = true) (hne : authority ≠ [])
    (ha : ∀ c ∈ authority, 0x20 < c.toNat) (tail : List Char) :
    ∃ tail' cut, tail = tail' ++ cut ∧
      trimmed (scheme ++ ':' :: '/' :: '/' :: (authority ++ tail)) =
        scheme ++ ':' :: '/' :: '/' :: (authority ++ tail') := by
  obtain ⟨first, hf, hfirst⟩ : ∃ first, (scheme ++ ':' :: '/' :: '/' :: authority).head? =
      some first ∧ 0x20 < first.toNat := by
    cases scheme with
    | nil => exact ⟨':', rfl, by decide⟩
    | cons c scheme => exact ⟨c, rfl, high_of_schemeChar (hs c (.head _))⟩
  have hl : (scheme ++ ':' :: '/' :: '/' :: authority).getLast? =
      some (authority.getLast hne) := by
    have he : scheme ++ ':' :: '/' :: '/' :: authority =
        (scheme ++ [':', '/', '/']) ++ authority := by simp
    rw [he, List.getLast?_append_of_ne_nil _ hne, List.getLast?_eq_some_getLast hne]
  obtain ⟨tail', cut, htrim, hcut⟩ := trimmed_append hf hfirst hl
    (ha _ (List.getLast_mem hne)) tail
  refine ⟨tail', cut, hcut, ?_⟩
  simpa using htrim

/-- In an address of the usual shape, the host and the port are looked for in the authority. -/
theorem spelled_usual {address : List Char} {url : Url}
    (htext : trim address = scheme ++ ':' :: '/' :: '/' :: (authority ++ tail))
    (hs : ∀ c ∈ scheme, isSchemeChar c = true) (hne : authority ≠ [])
    (ha : ∀ c ∈ authority, 0x20 < c.toNat)
    (ht : ∀ c, tail.head? = some c → c = '/' ∨ c = '?' ∨ c = '#')
    (hu : parse? (trim address) = some url) :
    ∃ tail', (∀ c, tail'.head? = some c → c = '/' ∨ c = '?' ∨ c = '#') ∧
      spelled address = spelledIn (kindOf url.scheme) ('/' :: '/' :: (authority ++ tail')) := by
  have hbs : ∀ c ∈ scheme, isBreak c = false := fun c hc =>
    not_break_of_high (high_of_schemeChar (hs c hc))
  obtain ⟨tail', cut, rfl, htrim⟩ := trimmed_usual hs hne ha tail
  have ht' : ∀ c, tail'.head? = some c → c = '/' ∨ c = '?' ∨ c = '#' := fun c hc =>
    ht c (by rw [List.head?_append, hc]; rfl)
  rw [← htext] at htrim
  unfold parse? at hu
  obtain ⟨name, hname, hu⟩ := Option.bind_eq_some_iff.1 hu
  obtain ⟨_, -, rfl⟩ := Option.map_eq_some_iff.1 hu
  have hwithout : withoutBreaks (trimmed (trim address)) =
      scheme ++ ':' :: withoutBreaks ('/' :: '/' :: (authority ++ tail')) := by
    rw [htrim, withoutBreaks_append, withoutBreaks_of_none hbs]
    rfl
  have hlen : name.length = scheme.length := by
    obtain ⟨_, -, rfl, -⟩ := scheme_eq_some hname
    rw [hwithout, takeWhile_scheme hs, String.length_ofList, lowerAscii, List.length_map]
  have hdrop : dropCounted (name.length + 1) (trimmed (trim address)) =
      '/' :: '/' :: (authority ++ tail') := by
    have hbreak : ∀ c ∈ scheme ++ [':'], isBreak c = false := fun c hc => by
      rcases List.mem_append.1 hc with hc | hc
      · exact hbs c hc
      · rw [List.mem_singleton.1 hc]; rfl
    have := dropCounted_append (b := '/' :: '/' :: (authority ++ tail')) hbreak
    rw [hlen, htrim]
    simpa using this
  exact ⟨tail', ht', by simp only [spelled, hname, hdrop]⟩

end

end GridKeeper.Url
