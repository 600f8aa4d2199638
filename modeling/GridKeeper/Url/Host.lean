import GridKeeper.Url.Domain
import GridKeeper.Url.Ipv4
import GridKeeper.Url.Ipv6
import GridKeeper.Url.Percent

/-!
# Hosts

A host is a domain name, an IPv4 address, an IPv6 address in brackets, or, under a scheme of which
nothing is known, a text that only has to keep clear of the characters with a meaning of their own.
-/
namespace GridKeeper.Url

inductive Host where
  | name (text : String)
  | ipv4 (address : Nat)
  | ipv6 (groups : List Nat)
deriving Repr, DecidableEq

/-- The host in canonical form. -/
def Host.text : Host → String
  | name text => text
  | ipv4 address => ipv4Text address
  | ipv6 groups => "[" ++ ipv6Text groups ++ "]"

def bracketed? (text : List Char) : Option (List Char) :=
  match text with
  | '[' :: rest => if rest.getLast? = some ']' then some rest.dropLast else none
  | _ => none

/-- The host of an address whose scheme has rules for hosts. -/
def host? (text : List Char) : Option Host :=
  if text.head? = some '[' then (bracketed? text).bind ipv6? |>.map .ipv6
  else
    (asciiDomain? (unescape (Text.encodeUtf8 text))).bind fun domain =>
      if endsInNumber domain then (ipv4? domain).map .ipv4
      else some (.name (String.ofList domain))

def forbiddenInHost (c : Char) : Bool :=
  ['\x00', '\t', '\n', '\r', ' ', '#', '/', ':', '<', '>', '?', '@', '[', '\\', ']', '^',
    '|'].contains c

/-- The host of an address under any other scheme. It may be empty. -/
def opaqueHost? (text : List Char) : Option Host :=
  if text.head? = some '[' then (bracketed? text).bind ipv6? |>.map .ipv6
  else if text.any forbiddenInHost then none
  else some (.name (String.ofList (escapeControls text)))

end GridKeeper.Url
