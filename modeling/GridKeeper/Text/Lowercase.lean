import GridKeeper.Text.LowercaseData

/-!
# Lower case beyond ASCII

Names of settings and words for truth values are compared in lower case over all of Unicode. Each
letter is mapped by itself, except that a capital sigma takes its final form at the end of a word:
behind a cased letter and before none, marks and apostrophes not counting.
-/
namespace GridKeeper.Text

/-- Whether the first character that is not ignored for case is a cased letter. -/
def casedFirst (cs : List Char) : Bool :=
  match cs.dropWhile fun c => inRanges c.toNat caseIgnorableRanges with
  | [] => false
  | c :: _ => inRanges c.toNat casedRanges

/-- The lower-case form of one character, without regard to its neighbours. -/
def lowerChar (c : Char) : List Char :=
  if c.toNat < 0x80 then [c.toLower]
  else if c.toNat = 0x130 then ['i', '\u0307']
  else match shifted? c.toNat lowerRuns with
    | some n => [Char.ofNat n]
    | none => [c]

/-- Lower case of `rest`, which follows the characters `before`, the nearest first. -/
def lowercaseFrom (before : List Char) : List Char → List Char
  | [] => []
  | c :: rest =>
    let here := if c = 'Σ' then
        (if casedFirst before && !casedFirst rest then ['ς'] else ['σ'])
      else lowerChar c
    here ++ lowercaseFrom (c :: before) rest

/-- The lower-case form of a text. -/
def lowercase (s : String) : String := String.ofList (lowercaseFrom [] s.toList)

end GridKeeper.Text
