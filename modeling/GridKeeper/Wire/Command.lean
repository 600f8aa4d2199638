import GridKeeper.Text.Blank
import GridKeeper.Text.Case

/-!
# Command words

A request is made of lines. Its first line names a topic, the next ones name what is to be done.
Command words are read without regard to ASCII case and to white space around them.
-/
namespace GridKeeper.Wire

/-- What a request is about (`TopCommand`). -/
inductive Topic where
  | pending
  | session
  | nodes
  | test
deriving Repr, DecidableEq

/-- What is to be done, and to what a reset applies (`SubCommand`). -/
inductive Verb where
  | increase
  | decrease
  | list
  | count
  | reset
  | all
  | node
deriving Repr, DecidableEq

def Topic.word : Topic → String
  | pending => "PENDING"
  | session => "SESSION"
  | nodes => "NODES"
  | test => "TEST"

def Verb.word : Verb → String
  | increase => "INCREASE"
  | decrease => "DECREASE"
  | list => "LIST"
  | count => "COUNT"
  | reset => "RESET"
  | all => "ALL"
  | node => "NODE"

def Topic.every : List Topic := [pending, session, nodes, test]

def Verb.every : List Verb := [increase, decrease, list, count, reset, all, node]

def wordOf (line : String) : List Char := Text.upperAscii (Text.trim line.toList)

/-- The topic that a line names (`TopCommand.parse`). -/
def Topic.read? (line : String) : Option Topic :=
  Topic.every.find? fun t => t.word.toList = wordOf line

/-- The verb that a line names (`SubCommand.parse`). -/
def Verb.read? (line : String) : Option Verb :=
  Verb.every.find? fun v => v.word.toList = wordOf line

end GridKeeper.Wire
