/-!
# ASCII case

Hosts, command words and status words are compared without regard to the case of the letters
`A` to `Z`; all other characters count as they are.
-/
namespace GridKeeper.Text

/-- Lower case, ASCII letters only. -/
def lowerAscii (cs : List Char) : List Char := cs.map Char.toLower

/-- Upper case, ASCII letters only. -/
def upperAscii (cs : List Char) : List Char := cs.map Char.toUpper

/-- Equality up to the case of ASCII letters. -/
def sameLetters (a b : List Char) : Bool := lowerAscii a == lowerAscii b

end GridKeeper.Text
