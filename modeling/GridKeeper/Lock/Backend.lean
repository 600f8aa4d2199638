import GridKeeper.Text.Case

/-!
# What the lock is made of

The lock is either a file that only one process can have locked, or a port of the local host that
only one process can listen on.
-/
namespace GridKeeper.Lock

inductive Backend where
  | file
  | socket
deriving Repr, DecidableEq

namespace Backend

def word : Backend → String
  | file => "file"
  | socket => "socket"

def every : List Backend := [file, socket]

/-- The kind of lock that is used if nothing else is said. -/
def usual : Backend := file

/-- The kind of lock whose word is exactly `text`. -/
def named? (text : String) : Option Backend := every.find? (·.word = text)

/-- Reads the word for a kind of lock in either case (`LockBackend.from_str`). An unknown word is
reported in lower case. -/
def read (text : String) : Except String Backend :=
  let lower := String.ofList (Text.lowerAscii text.toList)
  match named? lower with
  | some b => .ok b
  | none => .error s!"unknown lock backend '{lower}' (expected file or socket)"

end Backend
end GridKeeper.Lock
