import GridKeeper.Node

/-!
# Node keys in texts

A session names its node by `host:port`, an IPv6 host in brackets, or by the address of the node.
What has `://` in it is taken for an address.
-/
namespace GridKeeper.Node.Key

/-- Reads `host:port`: the port stands behind the last colon, it is a signed number of 32 bits, and
the host is not empty and has no white space. -/
def ofPair? (value : List Char) : Option Key :=
  (Text.cutLast? ':' value).bind fun (host, port) =>
    (Text.readSigned? Text.half32 port).bind fun port =>
      if host.isEmpty || host.any Text.isBlank then none
      else some (Key.of (String.ofList host) port)

/-- Reads a key (`NodeKey.from_str`). White space around it does not count. -/
def parse? (raw : String) : Option Key :=
  let value := Text.trim raw.toList
  if (Text.cutFirst? [':', '/', '/'] value).isSome then
    (Node.parse? (String.ofList value)).map Node.key
  else ofPair? value

end GridKeeper.Node.Key
