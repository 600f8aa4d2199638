import GridKeeper.Text.Cut
import GridKeeper.Text.Numeral

/-!
# Options

A command line is made of options and words. An option is given by its name behind two dashes, with
its value as the next argument or behind an equals sign, and it can be given once only. An argument
that begins with a dash is no value and no word, unless it is a single dash; behind two dashes
alone, all arguments are words. Some words are commands, with a command line of their own behind
them.

Arguments are looked at one by one, and the first that is wrong, or that asks for help, decides. The
value of an option is looked at together with the argument behind it; where that is a command, it
is looked at last of all.
-/
namespace GridKeeper.CommandLine

/-- Why a command line is not carried out. -/
inductive Stop where
  | misuse
  | help
  | version
deriving Repr, DecidableEq

structure Choice where
  name : String
  takes : String → Bool

structure Grammar where
  choices : List Choice := []
  /-- The largest number of words, if there is one. -/
  words : Option Nat := some 0
  versioned : Bool := false
  commands : List String := []

structure Arguments where
  values : List (String × String) := []
  words : List String := []
  /-- An option with its value, which has not been looked at. -/
  pending : Option (String × String) := none
deriving Repr, DecidableEq

namespace Arguments

def value? (a : Arguments) (name : String) : Option String := a.values.lookup name

def add (g : Grammar) (a : Arguments) (name value : String) : Except Stop Arguments :=
  if (a.value? name).isSome || !g.choices.any (fun o => o.name = name && o.takes value) then
    .error .misuse
  else .ok { a with values := a.values ++ [(name, value)] }

/-- Looks at the option whose value has not been looked at. -/
def settle (g : Grammar) (a : Arguments) : Except Stop Arguments :=
  match a.pending with
  | none => .ok a
  | some (name, value) => { a with pending := none }.add g name value

def addWords (g : Grammar) (a : Arguments) (words : List String) : Except Stop Arguments :=
  let words := a.words ++ words
  if g.words.any (· < words.length) then .error .misuse else .ok { a with words := words }

/-- Whether an argument can be the value of an option, or a word. -/
def isPlain (arg : String) : Bool := arg = "-" || arg.toList.head? ≠ some '-'

/-- What a flag asks for: one by its name, or letters of which the first decides. -/
def flag (g : Grammar) (arg : String) : Stop :=
  match arg.toList.drop 1 with
  | 'h' :: _ => .help
  | 'V' :: _ => if g.versioned then .version else .misuse
  | _ =>
    if arg = "--help" then .help
    else if arg = "--version" ∧ g.versioned then .version
    else .misuse

/-- Reads arguments up to the first command, which is kept with all that follows it. -/
def read (g : Grammar) (a : Arguments) : List String → Except Stop (Arguments × List String)
  | [] => (a.settle g).map (·, [])
  | arg :: rest =>
    if g.commands.contains arg then .ok (a, arg :: rest)
    else match a.settle g with
      | .error stop => .error stop
      | .ok a =>
        if arg = "--" then (a.addWords g rest).map (·, [])
        else if isPlain arg then
          match a.addWords g [arg] with
          | .ok a => read g a rest
          | .error stop => .error stop
        else match Text.behind? ['-', '-'] arg.toList with
          | none => .error (flag g arg)
          | some body =>
            match Text.cutFirst? ['='] body, rest with
            | some (name, value), rest =>
              match a.add g (String.ofList name) (String.ofList value) with
              | .ok a => read g a rest
              | .error stop => .error stop
            | none, value :: rest =>
              if g.choices.any (·.name = String.ofList body) then
                if isPlain value then
                  read g { a with pending := some (String.ofList body, value) } rest
                else .error .misuse
              else .error (flag g arg)
            | none, [] => .error (flag g arg)

end Arguments

/-- A port among the values of options. It may be written with either sign. -/
def portOf? (value : String) : Option Nat :=
  (Text.readSigned? Text.half64 value.toList).bind fun i =>
    if 0 ≤ i ∧ i ≤ Text.max16 then some i.toNat else none

/-- What a program leaves behind when it ends. -/
structure Finish where
  code : Nat
  out : String := ""
  err : String := ""
deriving Repr, DecidableEq

/-- The exit code of a program that did what it was told. -/
def successCode : Nat := 0

def failureCode : Nat := 1

/-- The exit code of a program whose command line was not understood. -/
def misuseCode : Nat := 2

/-- The exit code of a program that came to a sudden end. -/
def crashCode : Nat := 101

/-- How a program with the given name ends that does not carry its command line out. -/
def Stop.finish (name : String) : Stop → Finish
  | misuse => { code := misuseCode }
  | help => { code := successCode }
  | version => { code := successCode, out := name ++ " 0.1.0\n" }

/-- What programs find around them: files by their paths, and the variables of the environment. -/
structure Surroundings where
  file : String → Option (List UInt8)
  environment : List (String × String)

end GridKeeper.CommandLine
