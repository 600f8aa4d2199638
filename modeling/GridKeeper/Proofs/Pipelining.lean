import GridKeeper.Proofs.Grammar
import GridKeeper.Proofs.KeyTexts

/-!
# Requests that are sent and read

A request is sent in one spelling, and that one is read back. Requests that are sent one behind the
other are read one by one, and what is behind the last of them stays where it is. This holds of all
requests that can be read at all: the key of such a request is legible, and its address can stand on
a line.

**Results.**
* `readable_iff`: which requests can be read.
* `form_lines`: the lines of such a request have the form of it.
* `readAll_encoded`: requests are read as they were sent, to the octet.
-/
namespace GridKeeper.Wire

variable {req : Request} {texts : List String} {limit : Option Nat}

/-! ## Requests that can be read -/

namespace Request

def key? : Request → Option Node.Key
  | .call (.addSession k) | .call (.removeSession k) | .call (.sessionCount k)
  | .call (.resetSessions k) => some k
  | _ => none

def address? : Request → Option String
  | .call (.addNode address) | .call (.removeNode address) => some address
  | _ => none

/-- Some feed makes the reader come to the request. -/
def Readable (req : Request) : Prop :=
  ∃ (limit : Option Nat) (r r' : Reader), r.read? limit = some (.ok req, r')

/-- The key of the request is legible, and its address can stand on a line. -/
def Plain (req : Request) : Prop :=
  (∀ k ∈ req.key?, k.Legible) ∧ ∀ address ∈ req.address?, Clean address

theorem plain_of_nameless (hk : req.key? = none) (ha : req.address? = none) : req.Plain := by
  simp [Plain, hk, ha]

theorem plain_of_key {k : Node.Key} (hk : req.key? = some k) (ha : req.address? = none)
    (h : k.Legible) : req.Plain := by
  simp [Plain, hk, ha, h]

theorem plain_of_address {address : String} (hk : req.key? = none)
    (ha : req.address? = some address) (h : Clean address) : req.Plain := by
  simp [Plain, hk, ha, h]

end Request

open Request

theorem plain_of_form (hf : Form texts req) (hc : ∀ t ∈ texts, Clean t) : req.Plain := by
  cases hf with
  | probe | sessions | resetAll | nodes => exact plain_of_nameless rfl rfl
  | pending ht ha hw =>
    simp only [pendingActions, List.mem_cons, Prod.mk.injEq, List.not_mem_nil, or_false] at hw
    rcases hw with ⟨-, rfl⟩ | ⟨-, rfl⟩ | ⟨-, rfl⟩ | ⟨-, rfl⟩ <;> exact plain_of_nameless rfl rfl
  | session ht ha hw hk =>
    have hk := Node.Key.legible_of_parse hk
    simp only [sessionActions, List.mem_cons, Prod.mk.injEq, List.not_mem_nil, or_false] at hw
    rcases hw with ⟨-, rfl⟩ | ⟨-, rfl⟩ | ⟨-, rfl⟩ <;> exact plain_of_key rfl rfl hk
  | resetOne ht ha hs hk => exact plain_of_key rfl rfl (Node.Key.legible_of_parse hk)
  | node ht ha hw =>
    have hc := hc _ (.tail _ (.tail _ (.head _)))
    simp only [nodesActions, List.mem_cons, Prod.mk.injEq, List.not_mem_nil, or_false] at hw
    rcases hw with ⟨-, rfl⟩ | ⟨-, rfl⟩ <;> exact plain_of_address rfl rfl hc

/-- The lines that are sent for a request have the form of it. -/
theorem form_lines (hp : req.Plain) : Form req.lines req := by
  have hparse : ∀ k ∈ req.key?, Node.Key.parse? k.text = some k :=
    fun k hm => Node.Key.parse_text (hp.1 k hm)
  have hincrease : Says Verb.increase.word "INCREASE" := rfl
  have hdecrease : Says Verb.decrease.word "DECREASE" := rfl
  have hcount : Says Verb.count.word "COUNT" := rfl
  have hreset : Says Verb.reset.word "RESET" := rfl
  cases req with
  | probe => exact .probe rfl
  | call op =>
    cases op with
    | addPending => exact .pending rfl hincrease (.head _)
    | removePending => exact .pending rfl hdecrease (.tail _ (.head _))
    | pendingCount => exact .pending rfl hcount (.tail _ (.tail _ (.head _)))
    | resetPending => exact .pending rfl hreset (.tail _ (.tail _ (.tail _ (.head _))))
    | addSession k => exact .session rfl hincrease (.head _) (hparse k rfl)
    | removeSession k => exact .session rfl hdecrease (.tail _ (.head _)) (hparse k rfl)
    | sessionCount k => exact .session rfl hcount (.tail _ (.tail _ (.head _))) (hparse k rfl)
    | resetSessions k => exact .resetOne rfl rfl rfl (hparse k rfl)
    | resetAllSessions => exact .resetAll rfl rfl rfl
    | knownHosts => exact .sessions rfl rfl
    | addNode address => exact .node rfl hincrease (.head _)
    | removeNode address => exact .node rfl hdecrease (.tail _ (.head _))
    | listNodes => exact .nodes rfl rfl

theorem clean_of_solid {text : String} (h : ∀ c ∈ text.toList, Text.isBlank c = false) :
    Clean text := by
  refine ⟨fun hm => ?_, fun hm => ?_⟩
  · cases h _ hm
  · cases h _ (List.mem_of_getLast? hm)

theorem clean_lines (hp : req.Plain) : ∀ line ∈ req.lines, Clean line := by
  have htopic (t : Topic) : Clean t.word := by cases t <;> decide
  have hverb (v : Verb) : Clean v.word := by cases v <;> decide
  have hkey : ∀ k ∈ req.key?, Clean k.text := fun k hm => clean_of_solid (hp.1 k hm).solid_text
  have htwo {a b : String} (ha : Clean a) (hb : Clean b) : ∀ line ∈ [a, b], Clean line :=
    List.forall_mem_cons.2 ⟨ha, List.forall_mem_singleton.2 hb⟩
  have hthree {a b c : String} (ha : Clean a) (hb : Clean b) (hc : Clean c) :
      ∀ line ∈ [a, b, c], Clean line := List.forall_mem_cons.2 ⟨ha, htwo hb hc⟩
  cases req with
  | probe => exact List.forall_mem_singleton.2 (htopic _)
  | call op =>
    cases op with
    | addPending | removePending | pendingCount | resetPending | knownHosts | listNodes =>
      exact htwo (htopic _) (hverb _)
    | addSession k | removeSession k | sessionCount k =>
      exact hthree (htopic _) (hverb _) (hkey k rfl)
    | resetSessions k =>
      exact List.forall_mem_cons.2 ⟨htopic _, hthree (hverb _) (hverb _) (hkey k rfl)⟩
    | resetAllSessions => exact hthree (htopic _) (hverb _) (hverb _)
    | addNode address | removeNode address =>
      exact hthree (htopic _) (hverb _) (hp.2 address rfl)

/-! ## What is sent -/

theorem encode_join (parts : List String) : Text.encodeUtf8 (String.join parts).toList =
    (parts.map fun part => Text.encodeUtf8 part.toList).flatten := by
  have hfrom : ∀ (parts : List String) (start : String),
      Text.encodeUtf8 (parts.foldl (· ++ ·) start).toList = Text.encodeUtf8 start.toList ++
        (parts.map fun part => Text.encodeUtf8 part.toList).flatten := by
    intro parts
    induction parts with
    | nil => simp
    | cons part parts ih =>
      intro start
      rw [List.foldl_cons, ih, String.toList_append, Text.encodeUtf8_append, List.append_assoc]
      rfl
  exact hfrom parts ""

theorem encode_octets (req : Request) :
    Text.encodeUtf8 req.encode.toList = (req.lines.map lineOctets).flatten := by
  rw [Request.encode, encode_join, List.map_map]
  refine congrArg List.flatten (List.map_congr_left fun line _ => ?_)
  rw [Function.comp, String.toList_append, Text.encodeUtf8_append]
  rfl

theorem cutLines_octets (hc : ∀ t ∈ texts, Clean t) (rest : List UInt8) :
    cutLines ((texts.map lineOctets).flatten ++ rest) = texts.map lineOctets ++ cutLines rest := by
  induction texts with
  | nil => rfl
  | cons text texts ih =>
    rw [List.map_cons, List.flatten_cons, List.append_assoc, cutLines_of_clean (hc text (.head _)),
      ih fun t ht => hc t (.tail _ ht)]
    rfl

/-! ## What is read of it -/

namespace Reader

variable {r r' : Reader} {left : List (List UInt8)} {e : Expecting}

/-- What is still to come is there in time, if time counts. -/
def Prompt (limit : Option Nat) (r : Reader) : Prop :=
  limit = none ∨ ∀ a ∈ r.feed.arrivals, a.1 ≤ r.now

theorem prompt_of_sure {next : List (List UInt8)} (hs : r.Sure limit next) : r.Prompt limit := by
  rcases hs with ⟨hlim, -⟩ | ⟨-, ht⟩
  · exact .inl hlim
  · exact ht

theorem lineOctets_whole : ∀ octets ∈ texts.map lineOctets, 10 ∈ octets := by
  intro octets hm
  obtain ⟨text, -, rfl⟩ := List.mem_map.1 hm
  exact List.mem_append_right _ (.head _)

theorem lineText_octets (hc : ∀ t ∈ texts, Clean t) :
    (texts.map lineOctets).map lineText = texts.map .ok := by
  rw [List.map_map]
  exact List.map_congr_left fun text hm => lineText_of_clean (hc text hm)

/-- A request is read off the lines of its form, whatever else ends them. -/
theorem read_of_lines (hf : Form texts req) {taken : List (List UInt8)}
    (ht : taken.map lineText = texts.map .ok) (hw : ∀ line ∈ taken, 10 ∈ line)
    (hl : r.lines = taken ++ left) (hp : r.Prompt limit) :
    ∃ r', r.read? limit = some (.ok req, r') ∧ r'.lines = left ∧ r'.Prompt limit := by
  obtain ⟨init, last, e, rfl, hr, hlast⟩ := form_iff.1 hf
  rw [List.map_append, List.map_singleton] at ht
  obtain ⟨front, back, rfl, hfront, hback⟩ := List.map_eq_append_iff.1 ht
  obtain ⟨line, rfl, hline⟩ := List.map_eq_singleton_iff.1 hback
  rw [List.append_assoc] at hl
  obtain ⟨r₁, hread, hleft, -, -, hsure⟩ := readFrom_of_reaches hr hl hfront (.inr ⟨hw, hp⟩)
  obtain ⟨r', hnext, hlines, -, -, hsure⟩ := nextLine_of_sure hleft hsure
  rw [hline] at hnext
  exact ⟨r', hread.trans (readFrom_of_complete hnext hlast), hlines, prompt_of_sure hsure⟩

theorem read_of_form (hf : Form texts req) (hc : ∀ t ∈ texts, Clean t)
    (hl : r.lines = texts.map lineOctets ++ left) (hp : r.Prompt limit) :
    ∃ r', r.read? limit = some (.ok req, r') ∧ r'.lines = left ∧ r'.Prompt limit :=
  read_of_lines hf (lineText_octets hc) lineOctets_whole hl hp

/-- A request that is read stood on lines of its form. -/
theorem form_of_readFrom (h : r.readFrom? limit e = some (.ok req, r')) :
    ∃ init last mid, Expecting.Reaches e init mid ∧ mid.accept last = .ok (.complete req) ∧
      ∀ t ∈ init ++ [last], Clean t := by
  fun_induction readFrom? limit e r with
  | case1 | case2 | case3 => cases h
  | case4 e r line r₁ hn request ha =>
    cases h
    exact ⟨[], line, e, .refl, ha, List.forall_mem_singleton.2 (clean_of_nextLine hn)⟩
  | case5 e r line r₁ hn next ha hd ih =>
    obtain ⟨init, last, mid, hr, hlast, hc⟩ := ih h
    exact ⟨line :: init, last, mid, .step ha hr, hlast,
      List.forall_mem_cons.2 ⟨clean_of_nextLine hn, hc⟩⟩

end Reader

open Reader

theorem bytes_atOnce (bytes : List UInt8) (stays : Bool) :
    (Feed.atOnce bytes stays).bytes = bytes := by
  simp [Feed.bytes, Feed.atOnce, Function.comp_def]

theorem prompt_atOnce (limit : Option Nat) (bytes : List UInt8) (stays : Bool) :
    ({ feed := .atOnce bytes stays } : Reader).Prompt limit := by
  refine .inr fun a ha => ?_
  obtain ⟨b, -, rfl⟩ := List.mem_map.1 ha
  exact Nat.le_refl _

theorem lines_of_bytes {r : Reader} {trailing : List UInt8} (hp : req.Plain)
    (hb : r.feed.bytes = Text.encodeUtf8 req.encode.toList ++ trailing) :
    r.lines = req.lines.map lineOctets ++ cutLines trailing := by
  rw [Reader.lines, hb, encode_octets, cutLines_octets (clean_lines hp)]

/-- **The requests that can be read** are those whose key is legible and whose address can stand on
a line. -/
theorem readable_iff : req.Readable ↔ req.Plain := by
  constructor
  · rintro ⟨limit, r, r', h⟩
    obtain ⟨init, last, mid, hr, hlast, hc⟩ := form_of_readFrom h
    exact plain_of_form (form_iff.2 ⟨init, last, mid, rfl, hr, hlast⟩) hc
  · intro hp
    have hb : (Feed.atOnce (Text.encodeUtf8 req.encode.toList) false).bytes =
        Text.encodeUtf8 req.encode.toList ++ [] := by
      rw [bytes_atOnce, List.append_nil]
    have hl := lines_of_bytes (r := { feed := .atOnce _ false }) hp hb
    obtain ⟨r', hread, -⟩ := read_of_form (form_lines hp) (clean_lines hp) hl (.inl rfl)
    exact ⟨none, _, r', hread⟩

/-! ## One request behind the other -/

/-- Reads as many requests, one behind the other. The result is `none` if that takes forever. -/
def Reader.readAll? (limit : Option Nat) :
    Nat → Reader → Option (List (Except Fault Request) × Reader)
  | 0, r => some ([], r)
  | n + 1, r =>
    (r.read? limit).bind fun (result, r) =>
      (readAll? limit n r).map fun (results, r) => (result :: results, r)

theorem readAll_of_plain {reqs : List Request} {r : Reader} {trailing : List UInt8}
    (hp : ∀ req ∈ reqs, req.Plain)
    (hb : r.feed.bytes = Text.encodeUtf8 (String.join (reqs.map Request.encode)).toList ++ trailing)
    (ht : r.Prompt limit) :
    ∃ r', r.readAll? limit reqs.length = some (reqs.map .ok, r') ∧ r'.feed.bytes = trailing := by
  induction reqs generalizing r with
  | nil => exact ⟨r, rfl, hb⟩
  | cons req reqs ih =>
    have hhead := hp req (.head _)
    rw [List.map_cons, encode_join, List.map_cons, List.flatten_cons, ← encode_join,
      List.append_assoc] at hb
    obtain ⟨r₁, hread, hlines, ht⟩ :=
      read_of_form (form_lines hhead) (clean_lines hhead) (lines_of_bytes hhead hb) ht
    obtain ⟨r', hall, hrest⟩ := ih (fun req hm => hp req (.tail _ hm))
      (by rw [bytes_eq_flatten, hlines, flatten_cutLines]) ht
    refine ⟨r', ?_, hrest⟩
    simp only [List.length_cons, Reader.readAll?, hread, Option.bind_some, hall, Option.map_some,
      List.map_cons]

/-- **Requests are read as they were sent.** Whatever stands behind the requests, and whether or not
the connection stays open, the requests come back in their order, and all that stood behind them is
left. A limit does no harm where everything is there. Requests that can be read are, at the least,
all those whose key comes from a text or from the address of a node, and whose address has no line
feed and no carriage return at its end. -/
theorem readAll_encoded :
    (∀ (limit : Option Nat) (reqs : List Request) (trailing : List UInt8) (r : Reader),
      (∀ req ∈ reqs, req.Readable) →
      r.feed.bytes =
        Text.encodeUtf8 (String.join (reqs.map Request.encode)).toList ++ trailing →
      (limit = none ∨ ∀ a ∈ r.feed.arrivals, a.1 ≤ r.now) →
      ∃ r', r.readAll? limit reqs.length = some (reqs.map .ok, r') ∧ r'.feed.bytes = trailing) ∧
    ∀ req : Request,
      (∀ k ∈ req.key?, (∃ raw, Node.Key.parse? raw = some k) ∨
        ∃ address n, Node.parse? address = some n ∧ n.key = k) →
      (∀ address ∈ req.address?,
        '\n' ∉ address.toList ∧ address.toList.getLast? ≠ some '\r') →
      req.Readable := by
  constructor
  · intro limit reqs trailing r hr hb ht
    exact readAll_of_plain (fun req hm => readable_iff.1 (hr req hm)) hb ht
  · intro req hk ha
    refine readable_iff.2 ⟨fun k hm => ?_, ha⟩
    rcases hk k hm with ⟨raw, h⟩ | ⟨address, n, hn, rfl⟩
    · exact Node.Key.legible_of_parse h
    · exact Node.Key.legible_of_node hn

/-- A key with colons and a slash in its host, and an address with a carriage return in it, are read
from an open connection with octets behind them that are not UTF-8. -/
theorem readAll_encoded_odd :
    let reqs : List Request :=
      [.call (.resetSessions ⟨"a:b:/c", -7⟩), .call (.addNode "x\ry "), .probe]
    let octets := Text.encodeUtf8 (String.join (reqs.map Request.encode)).toList ++ [0xff, 13]
    let r : Reader := { feed := .atOnce octets true }
    (∀ req ∈ reqs, req.Readable) ∧
      ∃ r', r.readAll? (some 5) 3 = some (reqs.map .ok, r') ∧ r'.feed.bytes = [0xff, 13] := by
  intro reqs octets r
  have hkey : Node.Key.parse? "A:b:/C:-7" = some ⟨"a:b:/c", -7⟩ := by decide +kernel
  have hr : ∀ req ∈ reqs, req.Readable := by
    refine List.forall_mem_cons.2 ⟨?_, List.forall_mem_cons.2 ⟨?_, List.forall_mem_singleton.2 ?_⟩⟩
    · exact readAll_encoded.2 _ (fun k hm => Option.some.inj hm ▸ .inl ⟨_, hkey⟩) nofun
    · exact readAll_encoded.2 _ nofun fun address hm => Option.some.inj hm ▸ by decide
    · exact readAll_encoded.2 _ nofun nofun
  have htime : ∀ a ∈ r.feed.arrivals, a.1 ≤ r.now := by
    intro a ha
    obtain ⟨b, -, rfl⟩ := List.mem_map.1 ha
    exact Nat.le_refl _
  exact ⟨hr, readAll_encoded.1 (some 5) reqs [0xff, 13] r hr (bytes_atOnce _ _) (.inr htime)⟩

end GridKeeper.Wire
