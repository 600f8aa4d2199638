import GridKeeper.Node.Key
import GridKeeper.Text.Blank
import GridKeeper.Text.Cut
import GridKeeper.Url

/-!
# Nodes

A node of the grid is given by an address such as `http://10.0.0.5:4444`. Of the address only the
scheme, the host and the port are kept. Two nodes are the same if they agree in the host, the case
of ASCII letters aside, and in the port; the scheme tells nothing.

A port that is the default of its scheme is a port all the same: sessions on `a.com:80` are counted
under the port 80, not under the absence of a port. An address read as a URL does not show such a
port, and so the address is looked at once more as it stands.
-/
namespace GridKeeper

/-- A node of the grid (`NodeIdentity`). -/
structure Node where
  scheme : String
  host : String
  port : Option Nat
deriving Repr, DecidableEq

namespace Node

/-- The port that stands in a trimmed address behind `://`: behind the last colon of the authority,
or behind its closing bracket (`written_port`). The user part ends at the last `@`. -/
def writtenPort? (address : List Char) : Option Nat :=
  (Text.cutFirst? [':', '/', '/'] address).bind fun (_, rest) =>
    let authority := rest.takeWhile fun c => c ≠ '/' ∧ c ≠ '?' ∧ c ≠ '#'
    let hostPort := match Text.cutLast? '@' authority with
      | some (_, behind) => behind
      | none => authority
    let port : Option (List Char) := match Text.cutLast? ']' hostPort with
      | some (_, behind) => Text.behind? [':'] behind
      | none => (Text.cutLast? ':' hostPort).map Prod.snd
    port.bind (Text.readUnsigned? Text.max16)

/-- Reads the address of a node: a URL with a host (`NodeIdentity.parse`). White space around it
does not count. -/
def parse? (address : String) : Option Node :=
  let trimmed := Text.trim address.toList
  (Url.parse? trimmed).bind fun url =>
    (url.host.map Url.Host.text).bind fun host =>
      if host.isEmpty then none
      else some ⟨url.scheme, host, url.port <|> writtenPort? trimmed⟩

/-- The port as a number, which is -1 if there is none. -/
def portNumber (n : Node) : Int :=
  match n.port with
  | some p => p
  | none => Key.noPort

/-- The key under which sessions on the node are counted. -/
def key (n : Node) : Key := Key.of n.host n.portNumber

/-- The node as it is listed, `host:port`, with the host as the address had it. -/
def text (n : Node) : String := n.host ++ ":" ++ toString n.portNumber

/-- Whether two nodes are the same: the same port, and the same host up to case. -/
def same (a b : Node) : Bool :=
  a.portNumber == b.portNumber && Text.sameLetters a.host.toList b.host.toList

end Node
end GridKeeper
