import GridKeeper.Proofs.DirectoryEdits
import GridKeeper.Proofs.Provenance

/-!
# Keys in print

Counts are kept by key, answers list nodes as they are printed, and what was printed is handed back
as a key. This works because a printed key names its key and no other: there is no `://` in it, so it
is never taken for an address, and its last colon is the one before the port.

Of a text that is read as a key three things do not count: white space around it, the case of
letters, and how the port is spelled, with zeros before it, with a plus sign, or as minus zero. Of
an address only the white space does not count.

**Results.**
* `readable_iff`: the keys that are read from texts are the legible ones.
* `parse_congr`: texts that say the same are read alike.
* `printed_keys`: keys, nodes and what is printed of them agree.
-/
namespace GridKeeper

/-! ## Texts that say the same -/

namespace Node.Key

open Text

/-- The two texts say the same key, if they say one. They differ in the white space around them, or,
where they are no addresses, in the case of letters or in the spelling of the port. -/
inductive Alike : List Char → List Char → Prop
  | spaced {before after : List Char} (value : List Char) (hb : ∀ c ∈ before, isBlank c = true)
      (ha : ∀ c ∈ after, isBlank c = true) : Alike value (before ++ value ++ after)
  | cased {a b : List Char} (hu : ¬ [':', '/', '/'] <:+: a) (h : lowerAscii a = lowerAscii b) :
      Alike a b
  | spelled {host port port' : List Char} {i : Int} (hu : ¬ [':', '/', '/'] <:+: host)
      (h : Spells i port) (h' : Spells i port') : Alike (host ++ ':' :: port) (host ++ ':' :: port')
  | symm {a b : List Char} (h : Alike a b) : Alike b a
  | trans {a b c : List Char} (h : Alike a b) (h' : Alike b c) : Alike a c

variable {a b value host port : List Char} {k k' : Key} {i : Int}

theorem unmarked_trim (h : ¬ [':', '/', '/'] <:+: a) : ¬ [':', '/', '/'] <:+: trim a := fun hm => by
  obtain ⟨before, after, hsplit, -, -⟩ := trim_split a
  rw [hsplit] at h
  exact h (hm.trans (List.infix_append before (trim a) after))

theorem parse_of_unmarked (h : ¬ [':', '/', '/'] <:+: a) :
    parse? (String.ofList a) = ofPair? (trim a) := by
  have hcut : (cutFirst? [':', '/', '/'] (trim a)).isSome = false :=
    Bool.eq_false_iff.2 fun hm => unmarked_trim h (cutFirst_isSome.1 hm)
  simp only [parse?, String.toList_ofList, hcut, Bool.false_eq_true, if_false]

theorem ofPair_lowerAscii (value : List Char) : ofPair? (lowerAscii value) = ofPair? value := by
  rw [ofPair?, cutLast_lowerAscii rfl, ofPair?]
  cases cutLast? ':' value with
  | none => rfl
  | some p =>
    obtain ⟨host, port⟩ := p
    have hblank : (lowerAscii host).any isBlank = host.any isBlank := by
      rw [lowerAscii, List.any_map]
      exact congrArg _ (funext isBlank_toLower)
    have hempty : (lowerAscii host).isEmpty = host.isEmpty := List.isEmpty_map
    simp only [Option.map_some, Option.bind_some, readSigned_lowerAscii, hblank, hempty, Key.of,
      String.toList_ofList, lowerAscii_lowerAscii]

theorem numeric_of_spells (h : Spells i port) : ∀ c ∈ port, isNumeric c = true :=
  (numeric_of_readSigned (readSigned_eq_some.2 ⟨h, by omega, Int.lt_add_one_of_le Int.le_natAbs⟩ :
    readSigned? (i.natAbs + 1) port = some i)).2

/-- A pair is read by the number that its port spells, in whatever spelling. -/
theorem parse_of_spells (hu : ¬ [':', '/', '/'] <:+: host) (h : Spells i port) :
    parse? (String.ofList (host ++ ':' :: port)) =
      ((some i).filter fun i => -(half32 : Int) ≤ i ∧ i < half32).bind fun i =>
        if (host.dropWhile isBlank).isEmpty || (host.dropWhile isBlank).any isBlank then none
        else some (Key.of (String.ofList (host.dropWhile isBlank)) i) := by
  have hnum := numeric_of_spells h
  have hsolid : ∀ c ∈ ':' :: port, isBlank c = false :=
    List.forall_mem_cons.2 ⟨rfl, fun c hc => solid_of_numeric (hnum c hc)⟩
  have hcut : cutLast? ':' (host.dropWhile isBlank ++ ':' :: port) =
      some (host.dropWhile isBlank, port) := cutLast_eq_some.2 ⟨rfl, colon_not_numeric hnum⟩
  rw [parse_of_unmarked (unmarked_append hu hnum),
    trim_append_of_solid (List.cons_ne_nil _ _) hsolid, ofPair?, hcut, Option.bind_some,
    ← readSigned_of_spells h]

/-- **Texts that say the same key are read alike,** or none of them is read. -/
theorem parse_congr (h : Alike a b) : parse? (String.ofList a) = parse? (String.ofList b) := by
  induction h with
  | spaced value hb ha => simp only [parse?, String.toList_ofList, trim_append hb ha]
  | @cased a b hu h =>
    have hu' : ¬ [':', '/', '/'] <:+: b := fun hm => hu <|
      marked_of_lowerAscii (h ▸ hm.map Char.toLower : [':', '/', '/'] <:+: lowerAscii a)
    rw [parse_of_unmarked hu, parse_of_unmarked hu', ← ofPair_lowerAscii, ← trim_lowerAscii, h,
      trim_lowerAscii, ofPair_lowerAscii]
  | spelled hu h h' => rw [parse_of_spells hu h, parse_of_spells hu h']
  | symm _ ih => exact ih.symm
  | trans _ _ ih ih' => exact ih.trans ih'

/-! ## Keys in use -/

/-- A key that is in use: it was read from a text, or it is the key of a node. -/
def InUse (k : Key) : Prop := (∃ raw, parse? raw = some k) ∨ ∃ n : Node, n.Genuine ∧ n.key = k

theorem InUse.legible (h : k.InUse) : k.Legible := by
  rcases h with ⟨raw, h⟩ | ⟨n, ⟨address, hn⟩, rfl⟩
  · exact legible_of_parse h
  · exact legible_of_node hn

/-- A key can be read from a text if it can be read from its own. -/
theorem readable_iff : (∃ raw, parse? raw = some k) ↔ k.Legible :=
  ⟨fun ⟨_, h⟩ => legible_of_parse h, fun h => ⟨k.text, parse_text h⟩⟩

theorem eq_of_text (h : k.InUse) (h' : k'.InUse) (ht : k.text = k'.text) : k = k' :=
  Option.some.inj ((parse_text h.legible).symm.trans (ht ▸ parse_text h'.legible))

/-- **Keys, nodes and what is printed of them agree.** -/
theorem printed_keys :
    (∀ k : Key, k.InUse → parse? k.text = some k) ∧
    (∀ n : Node, n.Genuine → parse? n.text = some n.key) ∧
    (∀ n m : Node, n.same m = true ↔ n.key = m.key) ∧
    (∀ k k' : Key, k.InUse → k'.InUse → k.text = k'.text → k = k') ∧
    ∀ a b : List Char, Alike a b → parse? (String.ofList a) = parse? (String.ofList b) :=
  ⟨fun _ h => parse_text h.legible, fun _ h => h.parse_text, fun _ _ => same_iff,
    fun _ _ => eq_of_text, fun _ _ => parse_congr⟩

/-- A node is listed with its host in brackets, and is found again under the key that a session says
in capitals, with blanks around it and a port of its own spelling. -/
theorem printed_keys_bracketed :
    Node.parse? "https://[2001:DB8::1]:443/" = some ⟨"https", "[2001:db8::1]", some 443⟩ ∧
    parse? "[2001:db8::1]:443" = some ⟨"[2001:db8::1]", 443⟩ ∧
    parse? "\t[2001:DB8::1]:+00443 " = some ⟨"[2001:db8::1]", 443⟩ := by
  have hn : Node.parse? "https://[2001:DB8::1]:443/" =
      some ⟨"https", "[2001:db8::1]", some 443⟩ := by decide +kernel
  have hread := printed_keys.2.1 ⟨"https", "[2001:db8::1]", some 443⟩ ⟨_, hn⟩
  have htext : Node.text ⟨"https", "[2001:db8::1]", some 443⟩ = "[2001:db8::1]:443" := by
    decide +kernel
  rw [htext] at hread
  have hkey : Node.key ⟨"https", "[2001:db8::1]", some 443⟩ = ⟨"[2001:db8::1]", 443⟩ := by
    decide +kernel
  rw [hkey] at hread
  have hunmarked : ¬ [':', '/', '/'] <:+: "[2001:db8::1]".toList := by decide +kernel
  have hplain : "[2001:db8::1]:443".toList = "[2001:db8::1]".toList ++ ':' :: digitsOf 0 443 := by
    decide +kernel
  have hplus : "[2001:db8::1]:+00443".toList =
      "[2001:db8::1]".toList ++ ':' :: '+' :: digitsOf 2 443 := by decide +kernel
  have hspelled := Alike.spelled hunmarked (.plain 0 443) (.plus 2 443)
  rw [← hplain, ← hplus] at hspelled
  have hcased : Alike "[2001:db8::1]:+00443".toList "[2001:DB8::1]:+00443".toList :=
    .cased (by decide +kernel) (by decide +kernel)
  have hspaced := @Alike.spaced ['\t'] [' '] "[2001:DB8::1]:+00443".toList
    (List.forall_mem_singleton.2 rfl) (List.forall_mem_singleton.2 rfl)
  have hshown : String.ofList (['\t'] ++ "[2001:DB8::1]:+00443".toList ++ [' ']) =
      "\t[2001:DB8::1]:+00443 " := by decide +kernel
  have halike := printed_keys.2.2.2.2 _ _ ((hspelled.trans hcased).trans hspaced)
  rw [hshown, String.ofList_toList, hread] at halike
  exact ⟨hn, hread, halike.symm⟩

end Node.Key
end GridKeeper
