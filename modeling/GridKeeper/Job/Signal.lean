import GridKeeper.Text.Numeral

/-!
# Signals

Signals have numbers and names. A job that does not care for a signal is ended by it, is halted by
it or goes on.
-/
namespace GridKeeper.Job

/-- What a signal does to a job that does not care for it. -/
inductive Effect where
  | ends
  | halts
  | nothing
deriving Repr, DecidableEq

structure Signal where
  number : Nat
  name : String
  effect : Effect
deriving Repr, DecidableEq

namespace Signal

/-- The signals in the order of their numbers. -/
def all : List Signal :=
  [⟨1, "HUP", .ends⟩, ⟨2, "INT", .ends⟩, ⟨3, "QUIT", .ends⟩, ⟨4, "ILL", .ends⟩, ⟨5, "TRAP", .ends⟩,
    ⟨6, "ABRT", .ends⟩, ⟨7, "BUS", .ends⟩, ⟨8, "FPE", .ends⟩, ⟨9, "KILL", .ends⟩,
    ⟨10, "USR1", .ends⟩, ⟨11, "SEGV", .ends⟩, ⟨12, "USR2", .ends⟩, ⟨13, "PIPE", .ends⟩,
    ⟨14, "ALRM", .ends⟩, ⟨15, "TERM", .ends⟩, ⟨16, "STKFLT", .ends⟩, ⟨17, "CHLD", .nothing⟩,
    ⟨18, "CONT", .nothing⟩, ⟨19, "STOP", .halts⟩, ⟨20, "TSTP", .halts⟩, ⟨21, "TTIN", .halts⟩,
    ⟨22, "TTOU", .halts⟩, ⟨23, "URG", .nothing⟩, ⟨24, "XCPU", .ends⟩, ⟨25, "XFSZ", .ends⟩,
    ⟨26, "VTALRM", .ends⟩, ⟨27, "PROF", .ends⟩, ⟨28, "WINCH", .nothing⟩, ⟨29, "POLL", .ends⟩,
    ⟨30, "PWR", .ends⟩, ⟨31, "SYS", .ends⟩]

/-- The numbers of signals that nothing can be done about. -/
def inevitable : List Nat := [9, 19]

/-- The signal of some number. Behind those that have a name stand others that end a job. -/
def numbered? (n : Nat) : Option Signal :=
  if 32 ≤ n ∧ n ≤ 64 then some ⟨n, toString n, .ends⟩ else all.find? (·.number = n)

/-- The number of the signal that a name or a number means. No signal has the number zero. -/
def number? (cs : List Char) : Option Nat :=
  match Text.readDigits? cs with
  | some n => if n = 0 ∨ (numbered? n).isSome then some n else none
  | none =>
    let name := String.ofList (cs.map Char.toUpper)
    (all.find? fun s => s.name = name).map (·.number)

end Signal
end GridKeeper.Job
