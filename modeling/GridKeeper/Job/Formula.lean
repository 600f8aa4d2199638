import GridKeeper.Text.Numeral

/-!
# Formulas

Whole numbers of 64 bits, parameters, and the operators between them. Operators have ranks: those of
a higher rank are applied first, and those of the same rank from left to right.
-/
namespace GridKeeper.Job

inductive Formula where
  | number (i : Int)
  | name (cs : List Char)
  | unary (sign : Char) (a : Formula)
  | binary (sign : String) (a b : Formula)
  | choice (condition a b : Formula)
  /-- Gives a parameter the value of a formula, or of what an operator makes of both. -/
  | assign (name : List Char) (sign : String) (a : Formula)
deriving Repr, DecidableEq, Inhabited

namespace Formula

/-! ## Tokens -/

inductive Token where
  | number (i : Int)
  | name (cs : List Char)
  | sign (text : String)
deriving Repr, DecidableEq

/-- The signs, longer ones before those that they begin with. -/
def signs : List String :=
  ["<<=", ">>=", "<<", ">>", "<=", ">=", "==", "!=", "&&", "||", "+=", "-=", "*=", "/=", "%=", "&=",
    "^=", "|=", "+", "-", "*", "/", "%", "<", ">", "&", "^", "|", "!", "~", "?", ":", "=", "(", ")"]

/-- The number that digits are: hexadecimal behind `0x`, octal behind `0`. -/
def literal? (cs : List Char) : Option Nat :=
  match cs with
  | '0' :: x :: rest =>
    if x = 'x' ∨ x = 'X' then if rest.isEmpty then none else Text.readBase? 16 rest
    else Text.readBase? 8 (x :: rest)
  | _ => Text.readDigits? cs

/-- A number as it is kept in 64 bits. -/
def wrapped (i : Int) : Int := Int.bmod i (2 * Text.half64)

/-- A number that is too large is the largest there is. -/
def bounded (n : Nat) : Int := if Text.half64 ≤ n then Text.half64 - 1 else n

def tokens? : Nat → List Char → Option (List Token)
  | _, [] => some []
  | 0, _ => none
  | n + 1, c :: rest =>
    if c = ' ' ∨ c = '\t' ∨ c = '\n' then tokens? n rest
    else
      let isPart := fun (d : Char) => d.isAlphanum || d = '_'
      let word := (c :: rest).takeWhile isPart
      let behind := (c :: rest).dropWhile isPart
      if c.isDigit then
        (literal? word).bind fun i => (tokens? n behind).map (.number (bounded i) :: ·)
      else if isPart c then (tokens? n behind).map (.name word :: ·)
      else
        (signs.find? fun s => s.toList.isPrefixOf (c :: rest)).bind fun s =>
          (tokens? n ((c :: rest).drop s.length)).map (.sign s :: ·)

/-! ## Reading -/

/-- The ranks of the operators that stand between two formulas. -/
def rank? (sign : String) : Option Nat :=
  match sign with
  | "||" => some 1
  | "&&" => some 2
  | "|" => some 3
  | "^" => some 4
  | "&" => some 5
  | "==" | "!=" => some 6
  | "<" | "<=" | ">" | ">=" => some 7
  | "<<" | ">>" => some 8
  | "+" | "-" => some 9
  | "*" | "/" | "%" => some 10
  | _ => none

/-- The operator of an assignment; the plain one has none. -/
def assignment? (sign : String) : Option String :=
  if ["=", "+=", "-=", "*=", "/=", "%=", "&=", "^=", "|=", "<<=", ">>="].contains sign then
    some (String.ofList sign.toList.dropLast)
  else none

mutual

/-- Reads a whole formula, with the choice that its value may lead to. -/
def read? : Nat → List Token → Option (Formula × List Token)
  | 0, _ => none
  | n + 1, ts =>
    match ts with
    | .name cs :: .sign s :: rest =>
      match assignment? s with
      | some sign => (read? n rest).map fun (a, rest) => (.assign cs sign a, rest)
      | none => chosen? n ts
    | _ => chosen? n ts

/-- Reads a formula without an assignment at its front. -/
def chosen? : Nat → List Token → Option (Formula × List Token)
  | 0, _ => none
  | n + 1, ts => do
    let (condition, rest) ← ranked? n 1 ts
    match rest with
    | .sign "?" :: rest =>
      let (a, rest) ← read? n rest
      match rest with
      | .sign ":" :: rest =>
        let (b, rest) ← read? n rest
        return (.choice condition a b, rest)
      | _ => none
    | _ => return (condition, rest)

/-- Reads formulas joined by operators of a rank or of higher ones. -/
def ranked? : Nat → Nat → List Token → Option (Formula × List Token)
  | 0, _, _ => none
  | n + 1, rank, ts => do
    let (a, rest) ← operand? n ts
    continued? n rank a rest

/-- Reads on behind a formula. -/
def continued? : Nat → Nat → Formula → List Token → Option (Formula × List Token)
  | 0, _, _, _ => none
  | n + 1, rank, a, ts =>
    match ts with
    | .sign s :: rest =>
      match rank? s with
      | some r =>
        if r < rank then some (a, ts)
        else do
          let (b, rest) ← ranked? n (r + 1) rest
          continued? n rank (.binary s a b) rest
      | none => some (a, ts)
    | _ => some (a, ts)

def operand? : Nat → List Token → Option (Formula × List Token)
  | 0, _ => none
  | n + 1, ts =>
    match ts with
    | .number i :: rest => some (.number i, rest)
    | .name cs :: rest => some (.name cs, rest)
    | .sign "(" :: rest => do
      let (a, rest) ← read? n rest
      match rest with
      | .sign ")" :: rest => return (a, rest)
      | _ => none
    | .sign s :: rest =>
      match s.toList with
      | [c] =>
        if ['+', '-', '!', '~'].contains c then
          (operand? n rest).map fun (a, rest) => (.unary c a, rest)
        else none
      | _ => none
    | [] => none

end

inductive Lack where
  | formula
  | ending
deriving Repr, DecidableEq

def parse (cs : List Char) : Except Lack Formula :=
  match (tokens? cs.length cs).bind fun ts => read? (16 * ts.length + 16) ts with
  | none => .error .formula
  | some (a, rest) => if rest.isEmpty then .ok a else .error .ending

/-! ## Values -/

inductive Fault where
  | divisionByZero
  | notNumber (text : List Char)
deriving Repr, DecidableEq

def held (text : List Char) : Except Fault Int :=
  let isBlank := fun c => c = ' ' || c = '\t' || c = '\n'
  let cs := ((text.dropWhile isBlank).reverse.dropWhile isBlank).reverse
  let digits := if cs.head? = some '-' ∨ cs.head? = some '+' then cs.drop 1 else cs
  match cs.isEmpty, literal? digits with
  | true, _ => .ok 0
  | false, some n =>
    .ok (if cs.head? = some '-' then max (-(n : Int)) (-(Text.half64 : Int)) else bounded n)
  | false, none => .error (.notNumber text)

def ofBool (b : Bool) : Int := if b then 1 else 0

/-- What an operator on bits makes of two numbers. -/
def bits (f : Nat → Nat → Nat) (a b : Int) : Int :=
  let natural := fun (i : Int) => (i % (2 * (Text.half64 : Int))).toNat
  wrapped (f (natural a) (natural b))

def apply (sign : String) (a b : Int) : Except Fault Int :=
  let places := (b % 64).toNat
  match sign with
  | "+" => .ok (wrapped (a + b))
  | "-" => .ok (wrapped (a - b))
  | "*" => .ok (wrapped (a * b))
  | "/" => if b = 0 then .error .divisionByZero else .ok (wrapped (a.tdiv b))
  | "%" => if b = 0 then .error .divisionByZero else .ok (a.tmod b)
  | "<<" => .ok (wrapped (a * (Nat.pow 2 places : Nat)))
  | ">>" => .ok (a / (Nat.pow 2 places : Nat))
  | "<" => .ok (ofBool (a < b))
  | "<=" => .ok (ofBool (a ≤ b))
  | ">" => .ok (ofBool (b < a))
  | ">=" => .ok (ofBool (b ≤ a))
  | "==" => .ok (ofBool (a = b))
  | "!=" => .ok (ofBool (a ≠ b))
  | "&" => .ok (bits Nat.land a b)
  | "^" => .ok (bits Nat.xor a b)
  | "|" => .ok (bits Nat.lor a b)
  | _ => .ok b

/-- The value of a parameter: the one it got, else what it holds. -/
def current (texts : List Char → List Char) (cs : List Char) :
    StateT (List (List Char × Int)) (Except Fault) Int := do
  match (← get).lookup cs with
  | some i => return i
  | none => held (texts cs)

/-- The value of a formula, where parameters hold texts; beside it stand the parameters that got a
value, the last ones first. -/
def value (texts : List Char → List Char) : Formula →
    StateT (List (List Char × Int)) (Except Fault) Int
  | number i => return i
  | name cs => current texts cs
  | unary sign a => do
    let i ← value texts a
    match sign with
    | '-' => return wrapped (-i)
    | '!' => return ofBool (i = 0)
    | '~' => return -i - 1
    | _ => return i
  | binary "&&" a b => do
    if (← value texts a) = 0 then return 0 else return ofBool ((← value texts b) ≠ 0)
  | binary "||" a b => do
    if (← value texts a) ≠ 0 then return 1 else return ofBool ((← value texts b) ≠ 0)
  | binary sign a b => do
    let i ← value texts a
    let j ← value texts b
    apply sign i j
  | choice condition a b => do
    if (← value texts condition) ≠ 0 then value texts a else value texts b
  | assign cs sign a => do
    let i ← value texts a
    let j ← if sign.isEmpty then pure i else do apply sign (← current texts cs) i
    modify ((cs, j) :: ·)
    return j

end Formula
end GridKeeper.Job
