import GridKeeper.Lock.Store

/-!
# Tokens

Who gets the lock gets a token, and with it the resource behind the lock, until the token is
released or dropped. A token that is released is dropped as well, and one that holds nothing lets go
of nothing.
-/
namespace GridKeeper.Lock

/-- The right to what a lock guards, and the resource that is held for it (`LockToken`). -/
structure Token where
  lock : Handle
  held : Option Resource
deriving Repr, DecidableEq

namespace Token

/-- Lets go of the resource, if one is held. -/
def drop (t : Token) (s : Store) : Token × Store :=
  match t.held with
  | some r => ({ t with held := none }, s.unlock r)
  | none => (t, s)

/-- Lets go of the resource before the token is dropped (`LockToken.release`). -/
def release (t : Token) (s : Store) : Token × Store :=
  let (t, s) := t.drop s
  t.drop s

end Token

/-! ## Tokens in use -/

/-- What is done with locks and tokens; a token is told by its place among those handed out. -/
inductive Move where
  | attempt (lock : Handle)
  | release (place : Nat)
  | drop (place : Nat)
  /-- From now on other ports, or the same in another order, are given to those who take any. -/
  | offer (ports : List Nat)
deriving Repr, DecidableEq

/-- Where locks live, and the tokens that were handed out, in the order in which they were. -/
structure Custody where
  store : Store
  tokens : List Token := []
deriving Repr, DecidableEq

namespace Custody

def change (c : Custody) (place : Nat) (act : Token → Store → Token × Store) : Custody :=
  match c.tokens[place]? with
  | none => c
  | some t => ⟨(act t c.store).2, c.tokens.set place (act t c.store).1⟩

def step (c : Custody) : Move → Custody
  | .attempt lock =>
    match lock.tryNow c.store with
    | (.ok r, s) => ⟨s, c.tokens ++ [⟨lock, some r⟩]⟩
    | (.error _, s) => { c with store := s }
  | .release place => c.change place Token.release
  | .drop place => c.change place Token.drop
  | .offer ports => { c with store := { c.store with ports := ports } }

def run (moves : List Move) (c : Custody) : Custody := moves.foldl step c

end Custody
end GridKeeper.Lock
