import GridKeeper.Job
import GridKeeper.Text.Numeral

/-!
# Conditions

A condition is written in words: comparisons of texts and of numbers, questions about files, and
`!`, `-a`, `-o` and parentheses that join them. The words are read from the front; a word counts as
an operator unless what follows shows that it is an operand.
-/
namespace GridKeeper.Job.Condition

/-! ## Operators -/

/-- What a word can be apart from an operand. -/
inductive Sign where
  | negation
  | conjunction
  | disjunction
  | opening
  | closing
  | question (letter : Char)
  | comparison (name : List Char)
deriving Repr, DecidableEq

def questions : List Char := "bcdefghknprstuwxzGLOS".toList

def comparisons : List String :=
  ["=", "!=", "<", ">", "-eq", "-ne", "-lt", "-le", "-gt", "-ge", "-nt", "-ot", "-ef"]

/-- The operator that a word is. -/
def sign? (word : List Char) : Option Sign :=
  match word with
  | ['!'] => some .negation
  | ['-', 'a'] => some .conjunction
  | ['-', 'o'] => some .disjunction
  | ['('] => some .opening
  | [')'] => some .closing
  | _ =>
    if comparisons.contains (String.ofList word) then some (.comparison word)
    else match word with
      | ['-', letter] => if questions.contains letter then some (.question letter) else none
      | _ => none

/-- Whether an operator compares two operands. -/
def Sign.isComparison : Sign → Bool
  | comparison _ => true
  | _ => false

/-- What the first word is, `none` for an operand. A question without an operand is an operand
itself, as is one before a comparison; so is a parenthesis that nothing follows. -/
def front? (words : List (List Char)) : Option Sign :=
  match words with
  | [] => none
  | word :: rest =>
    match sign? word with
    | some (.question letter) =>
      match rest with
      | [] => none
      | [_] => some (.question letter)
      | next :: _ => if (sign? next).any Sign.isComparison then none else some (.question letter)
    | some .opening => if rest.isEmpty then none else some .opening
    | found => found

/-! ## Answers -/

/-- The number that an operand is, blanks around it allowed. -/
def number? (cs : List Char) : Option Int :=
  let isBlank := fun c => c = ' ' || c = '\t' || c = '\n'
  Text.readSigned? Text.half64 (((cs.dropWhile isBlank).reverse.dropWhile isBlank).reverse)

inductive Fault where
  | notNumber (operand : List Char)
  | lacksOperand (sign : List Char)
  | unexpected (word : List Char)
  | unclosed
deriving Repr, DecidableEq

def Fault.text : Fault → List Char
  | notNumber operand => octets "Illegal number: " ++ operand
  | lacksOperand sign => sign ++ octets ": argument expected"
  | unexpected word => word ++ octets ": unexpected operator"
  | unclosed => octets "closing paren expected"

def numberOf (operand : List Char) : Except Fault Int :=
  match number? operand with
  | some i => .ok i
  | none => .error (.notNumber operand)

/-- The answer to a question about one operand. Nothing that a job sees is a terminal, a pipe or a
link. -/
def answer (w : World) (letter : Char) (operand : List Char) : Except Fault Bool :=
  let entry := (w.files.find (textOf operand)).toOption
  match letter with
  | 'n' => .ok (operand ≠ [])
  | 'z' => .ok (operand = [])
  | 't' => (numberOf operand).map fun _ => false
  | 'e' | 'r' | 'w' | 'O' | 'G' => .ok entry.isSome
  | 'd' => .ok (entry = some .directory)
  | 'f' => .ok (match entry with
    | some (.file n _) => !w.files.isDevice n
    | _ => false)
  | 'c' => .ok (match entry with
    | some (.file n _) => w.files.isDevice n
    | _ => false)
  | 's' => .ok (match entry with
    | some (.file n isProgram) => isProgram || w.content n ≠ []
    | some .directory => true
    | none => false)
  | 'x' => .ok (match entry with
    | some (.file _ isProgram) => isProgram
    | some .directory => true
    | none => false)
  | _ => .ok false

/-- How two operands compare. Of two files none is older than the other. -/
def compare (w : World) (name a b : List Char) : Except Fault Bool :=
  let numbers := fun (holds : Int → Int → Bool) => do return holds (← numberOf a) (← numberOf b)
  let file := fun path => w.files.file? (textOf path)
  match String.ofList name with
  | "=" => .ok (a = b)
  | "!=" => .ok (a ≠ b)
  | "<" => .ok (String.ofList a < String.ofList b)
  | ">" => .ok (String.ofList b < String.ofList a)
  | "-eq" => numbers fun m n => m = n
  | "-ne" => numbers fun m n => m ≠ n
  | "-lt" => numbers fun m n => m < n
  | "-le" => numbers fun m n => m ≤ n
  | "-gt" => numbers fun m n => n < m
  | "-ge" => numbers fun m n => n ≤ m
  | "-ef" => .ok ((file a).isSome && file a = file b)
  | _ => .ok false

/-! ## Reading -/

/-- What has been read of a condition: whether it holds, and the words behind it. -/
abbrev Reading := Except Fault (Bool × List (List Char))

mutual

def alternatives (w : World) : Nat → List (List Char) → Reading
  | 0, _ => .error .unclosed
  | n + 1, words => do
    let (a, rest) ← conjuncts w n words
    if front? rest = some .disjunction then
      let (b, rest) ← alternatives w n (rest.drop 1)
      return (a || b, rest)
    else return (a, rest)

/-- Reads what must hold together. -/
def conjuncts (w : World) : Nat → List (List Char) → Reading
  | 0, _ => .error .unclosed
  | n + 1, words => do
    let (a, rest) ← negations w n words
    if front? rest = some .conjunction then
      let (b, rest) ← conjuncts w n (rest.drop 1)
      return (a && b, rest)
    else return (a, rest)

def negations (w : World) : Nat → List (List Char) → Reading
  | 0, _ => .error .unclosed
  | n + 1, words => do
    if front? words = some .negation then
      let (a, rest) ← negations w n (words.drop 1)
      return (!a, rest)
    else primary w n words

def primary (w : World) : Nat → List (List Char) → Reading
  | 0, _ => .error .unclosed
  | n + 1, words =>
    match front? words, words with
    | _, [] => .ok (false, [])
    | some .opening, _ :: inner => do
      if front? inner = some .closing then return (false, inner.drop 1)
      let (a, rest) ← alternatives w n inner
      if front? rest = some .closing then return (a, rest.drop 1) else throw .unclosed
    | some (.question letter), _ :: operand :: rest => do
      return (← answer w letter operand, rest)
    | _, a :: rest =>
      match front? rest, rest with
      | some (.comparison name), _ :: b :: rest => do
        return (← compare w name a b, rest)
      | some (.comparison name), _ => .error (.lacksOperand name)
      | _, _ => .ok (a ≠ [], rest)

end

def read (w : World) (words : List (List Char)) : Except Fault Bool := do
  let (a, rest) ← alternatives w (4 * words.length + 8) words
  match rest with
  | [] => return a
  | word :: _ => throw (.unexpected ((words[words.length - rest.length - 1]?).getD word))

/-- Whether a condition holds. With three words a comparison in the middle comes before all else;
with three or four, parentheses around the others or a negation of them. -/
def holds (w : World) (words : List (List Char)) : Except Fault Bool :=
  let small := fun (first last : List Char) (inner : List (List Char)) =>
    if first = ['('] ∧ last = [')'] then read w inner
    else if first = ['!'] then (read w (inner ++ [last])).map (!·)
    else read w words
  match words with
  | [] => .ok false
  | [a, middle, b] =>
    if (sign? middle).any Sign.isComparison then compare w middle a b else small a b [middle]
  | [a, b, c, d] => small a d [b, c]
  | _ => read w words

end GridKeeper.Job.Condition
