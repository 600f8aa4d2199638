import GridKeeper.Text.Blank
import GridKeeper.Text.Numeral
import GridKeeper.Text.Scan

/-!
# Dates and times in TOML

A date, a time, or both with or without an offset from universal time. In the canonical form a `T`
stands between date and time, fractions of a second have at most nine digits and no trailing zeros,
and universal time is `Z`. A moment that is given as a text of its own may go a little further than
one in a document: its hour may be 24, and its offset is bound only as a whole.
-/
namespace GridKeeper.Toml

structure Date where
  year : Nat
  month : Nat
  day : Nat
deriving Repr, DecidableEq

/-- A time of day, with a fraction of a second in nanoseconds. -/
structure Time where
  hour : Nat
  minute : Nat
  second : Nat
  nanosecond : Nat
deriving Repr, DecidableEq

inductive Offset where
  | universal
  | minutes (m : Int)
deriving Repr, DecidableEq

/-! ## Canonical form -/

def Date.text (d : Date) : String :=
  Text.padded 4 d.year ++ "-" ++ Text.padded 2 d.month ++ "-" ++ Text.padded 2 d.day

/-- A time as written; a fraction has no zeros at its end. -/
def Time.text (t : Time) : String :=
  let fraction := Text.dropEndWhile (· = '0') (Text.padded 9 t.nanosecond).toList
  Text.padded 2 t.hour ++ ":" ++ Text.padded 2 t.minute ++ ":" ++ Text.padded 2 t.second ++
    if t.nanosecond = 0 then "" else "." ++ String.ofList fraction

def Offset.text : Offset → String
  | universal => "Z"
  | minutes m =>
    (if m < 0 then "-" else "+") ++ Text.padded 2 (m.natAbs / 60) ++ ":" ++
      Text.padded 2 (m.natAbs % 60)

/-! ## Reading -/

structure Reach where
  /-- The last hour of a day. -/
  hour : Nat
  /-- The largest hours, the largest minutes and the largest sum of minutes of an offset. -/
  offset : Nat × Nat × Nat

def Reach.written : Reach := ⟨23, 23, 59, 1439⟩

def Reach.quoted : Reach := ⟨24, 99, 99, 1440⟩

def daysIn (year month : Nat) : Nat :=
  match month with
  | 2 => if year % 4 = 0 ∧ (year % 100 ≠ 0 ∨ year % 400 = 0) then 29 else 28
  | 4 | 6 | 9 | 11 => 30
  | _ => 31

/-- Takes two digits for a number in a range. -/
def pair? (lo hi : Nat) : Text.Scan Nat := fun cs =>
  (Text.fixedDigits? 2 cs).filter fun (n, _) => lo ≤ n ∧ n ≤ hi

def date? : Text.Scan Date := fun cs => do
  let (year, cs) ← Text.fixedDigits? 4 cs
  let (_, cs) ← Text.char? '-' cs
  let (month, cs) ← pair? 1 12 cs
  let (_, cs) ← Text.char? '-' cs
  let (day, cs) ← pair? 1 (daysIn year month) cs
  return (⟨year, month, day⟩, cs)

/-- The nanoseconds of a fraction; digits behind the ninth do not count. -/
def nanoseconds (digits : List Char) : Nat :=
  let digits := digits.take 9
  Text.digitsValue digits * Nat.pow 10 (9 - digits.length)

/-- Takes a time of day. The second may be a leap second. -/
def time? (reach : Reach) : Text.Scan Time := fun cs => do
  let (hour, cs) ← pair? 0 reach.hour cs
  let (_, cs) ← Text.char? ':' cs
  let (minute, cs) ← pair? 0 59 cs
  let (_, cs) ← Text.char? ':' cs
  let (second, cs) ← pair? 0 60 cs
  match cs with
  | '.' :: rest =>
    let digits := rest.takeWhile Char.isDigit
    if digits.isEmpty then some (⟨hour, minute, second, 0⟩, cs)
    else some (⟨hour, minute, second, nanoseconds digits⟩, rest.dropWhile Char.isDigit)
  | _ => some (⟨hour, minute, second, 0⟩, cs)

/-- Takes hours and minutes. -/
def distance? (reach : Reach) : Text.Scan Nat := fun cs => do
  let (hours, minutes, total) := reach.offset
  let (hour, cs) ← pair? 0 hours cs
  let (_, cs) ← Text.char? ':' cs
  let (minute, cs) ← pair? 0 minutes cs
  if 60 * hour + minute ≤ total then some (60 * hour + minute, cs) else none

def offset? (reach : Reach) : Text.Scan Offset
  | 'Z' :: rest | 'z' :: rest => some (.universal, rest)
  | '+' :: rest => (distance? reach rest).map fun (m, rest) => (.minutes m, rest)
  | '-' :: rest => (distance? reach rest).map fun (m, rest) => (.minutes (-(m : Int)), rest)
  | _ => none

def timeBehind? (reach : Reach) : Text.Scan String
  | mark :: rest =>
    if mark = 'T' ∨ mark = 't' ∨ mark = ' ' then
      (time? reach rest).map fun (t, rest) =>
        match offset? reach rest with
        | some (o, rest) => ("T" ++ t.text ++ o.text, rest)
        | none => ("T" ++ t.text, rest)
    else none
  | [] => none

/-- Takes a date, a time, or both, and gives the canonical form. -/
def moment? (reach : Reach) : Text.Scan String := fun cs =>
  match date? cs with
  | some (d, rest) =>
    match timeBehind? reach rest with
    | some (t, rest) => some (d.text ++ t, rest)
    | none => some (d.text, rest)
  | none => (time? reach cs).map fun (t, rest) => (t.text, rest)

def momentText? (text : String) : Option String :=
  match moment? .quoted text.toList with
  | some (m, []) => some m
  | _ => none

end GridKeeper.Toml
