import GridKeeper.Text.Cut
import GridKeeper.Text.Normal
import GridKeeper.Text.Utf8
import GridKeeper.Url.Direction
import GridKeeper.Url.Joiner
import GridKeeper.Url.Punycode
import GridKeeper.Url.Repertoire

/-!
# Domain names

A domain name is brought into the one ASCII form under which it is compared: letters are replaced
by what they stand for, and a label with letters outside ASCII becomes `xn--` and its Punycode. A
label that is written in that form already has to stand for a label that could have been written
without it. In the end no character may be left that separates the parts of an address.
-/
namespace GridKeeper.Url

/-- A name with every character replaced by what it stands for, and with every letter composed. -/
def canonicalName? (name : List Char) : Option (List Char) :=
  (name.mapM canonicalChar?).map fun images => Text.normalize images.flatten

/-- A label longer than this has no Punycode. -/
def maxLabel : Nat := 1000

/-- A Punycode longer than this is not read. -/
def maxCode : Nat := 2000

/-- Whether a label with letters outside ASCII is well formed: every character stands for itself,
letters are composed, a mark has a letter before it, and joiners are where they have an effect. -/
def isWellFormed (label : List Char) : Bool :=
  label.all (fun c => canonicalChar? c = some [c]) && Text.normalize label = label &&
    !label.head?.any Text.isMark && joinersFit [] label && label.length ≤ maxLabel

/-- The marker of a label in Punycode. -/
def punyMarker : List Char := ['x', 'n', '-', '-']

structure Label where
  letters : List Char
  ascii : List Char

/-- Reads one canonical label. -/
def label? (text : List Char) : Option Label :=
  match Text.behind? punyMarker text with
  | some code =>
    if code.length ≤ maxCode then
      (punyDecode? code).bind fun letters =>
        if letters.all (·.toNat < 0x80) || !isWellFormed letters then none
        else some ⟨letters, text⟩
    else none
  | none =>
    if text.all (·.toNat < 0x80) then some ⟨text, text⟩
    else if isWellFormed text then some ⟨text, punyMarker ++ punyEncode text⟩
    else none

/-- Characters that a domain name in ASCII form must not hold. -/
def forbiddenInDomain (c : Char) : Bool :=
  c.toNat ≤ 0x20 || 0x7f ≤ c.toNat ||
    ['#', '%', '/', ':', '<', '>', '?', '@', '[', '\\', ']', '^', '|'].contains c

/-- Labels with a dot between neighbours. -/
def dotted : List (List Char) → List Char
  | [] => []
  | [label] => label
  | label :: rest => label ++ '.' :: dotted rest

/-- The ASCII form of a domain name given in UTF-8. It is never empty. -/
def asciiDomain? (bytes : List UInt8) : Option (List Char) :=
  match Text.decodeUtf8 bytes with
  | .error _ => none
  | .ok name =>
    ((canonicalName? name).bind fun name => (Text.pieces '.' name).mapM label?).bind
      fun labels =>
        let domain := dotted (labels.map Label.ascii)
        if domain.isEmpty || domain.any forbiddenInDomain ||
            !keepDirections (labels.map Label.letters) then none
        else some domain

end GridKeeper.Url
