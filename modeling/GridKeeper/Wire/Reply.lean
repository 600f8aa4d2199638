import GridKeeper.Text.Cut
import GridKeeper.Wire.Fault

/-!
# Replies

A reply has two lines: a status and a message. A reply is read leniently: the status in either case
and with white space around it, the message without white space at its end, and a message that is
missing as an empty one.
-/
namespace GridKeeper.Wire

inductive Reply where
  | success (message : String)
  | error (message : String)
deriving Repr, DecidableEq

namespace Reply

/-- The status of a request that was carried out. -/
def successWord : String := "SUCCESS"

/-- The status of a request that was refused. -/
def errorWord : String := "ERROR"

/-- The first line of a reply. -/
def status : Reply → String
  | success _ => successWord
  | error _ => errorWord

/-- The second line of a reply. -/
def message : Reply → String
  | success m | error m => m

/-- Whether the request was carried out. -/
def isSuccess : Reply → Bool
  | success _ => true
  | error _ => false

def encode (r : Reply) : String := r.status ++ "\n" ++ r.message ++ "\n"

def display (r : Reply) : String := r.status ++ " " ++ r.message

/-- Reads a reply from its first two lines; what follows them is not looked at. -/
def decode (raw : String) : Except Fault Reply :=
  let lines := Text.lines raw.toList
  let status := Text.trim (lines.headD [])
  let message := String.ofList (Text.trimEnd ((lines.drop 1).headD []))
  if Text.sameLetters status successWord.toList then .ok (success message)
  else if Text.sameLetters status errorWord.toList then .ok (error message)
  else .error (.malformedReply raw)

end Reply
end GridKeeper.Wire
