import GridKeeper.Text.Blank
import GridKeeper.Text.Case
import GridKeeper.Url.Host

/-!
# Addresses

A URL without a base, as far as its scheme, host and port go. Six schemes have rules of their own:
their addresses take either slash in any number before the host, their hosts are domain names or IP
addresses, and all but `file` have a default port. Of any other scheme's address only one that goes
on with two slashes has a host.

The port kept here is the one that stands in the address, also where it is the default of the
scheme.
-/
namespace GridKeeper

/-- The parts of an address that tell where it leads. -/
structure Url where
  scheme : String
  /-- The host; an empty host is none. -/
  host : Option Url.Host
  /-- The port that stands behind the host. -/
  written : Option Nat
deriving Repr, DecidableEq

namespace Url

/-! ## Schemes -/

/-- How addresses of a scheme are read. -/
inductive Kind where
  /-- A scheme with rules for hosts and a default port. -/
  | special
  /-- Files, on a host or on none. -/
  | file
  | other
deriving Repr, DecidableEq

def defaultPort? (scheme : String) : Option Nat :=
  match scheme with
  | "http" | "ws" => some 80
  | "https" | "wss" => some 443
  | "ftp" => some 21
  | _ => none

/-- How addresses of `scheme` are read. -/
def kindOf (scheme : String) : Kind :=
  if scheme = "file" then .file
  else if (defaultPort? scheme).isSome then .special
  else .other

/-- The port as an address shows it: the default port of the scheme is not shown. -/
def port (u : Url) : Option Nat := if u.written = defaultPort? u.scheme then none else u.written

def isSchemeChar (c : Char) : Bool :=
  c.isAlphanum || c = '+' || c = '-' || c = '.'

/-- The scheme in lower case, which a colon ends. -/
def scheme? (text : List Char) : Option String :=
  match text.head?, text.dropWhile isSchemeChar with
  | some first, ':' :: _ =>
    if first.isAlpha then some (String.ofList (Text.lowerAscii (text.takeWhile isSchemeChar)))
    else none
  | _, _ => none

/-! ## The authority -/

def isSlash (kind : Kind) (c : Char) : Bool := c = '/' || (kind != .other && c = '\\')

def endsAuthority (kind : Kind) (c : Char) : Bool := isSlash kind c || c = '?' || c = '#'

/-- The text behind the user part, which goes up to the last `@` of the authority. -/
def behindUser (kind : Kind) (text : List Char) : List Char :=
  let authority := text.takeWhile (!endsAuthority kind ·)
  match Text.cutLast? '@' authority with
  | some (_, rest) => rest ++ text.dropWhile (!endsAuthority kind ·)
  | none => text

/-- Whether the authority has a user part, be it empty. -/
def hasUser (kind : Kind) (text : List Char) : Bool :=
  (text.takeWhile (!endsAuthority kind ·)).contains '@'

/-- The host and the text behind it: a colon ends the host outside brackets only. -/
def spanHost (kind : Kind) : Bool → List Char → List Char × List Char
  | _, [] => ([], [])
  | inside, c :: cs =>
    if (c = ':' && !inside) || endsAuthority kind c then ([], c :: cs)
    else
      let inside := if c = '[' then true else if c = ']' then false else inside
      let (host, rest) := spanHost kind inside cs
      (c :: host, rest)

/-- A port: digits up to the end of the authority, where either slash counts under every scheme.
No digits are no port. The outer option is a fault, the inner one the absence of a port. -/
def port? (text : List Char) : Option (Option Nat) :=
  match text with
  | ':' :: rest =>
    let digits := rest.takeWhile (!endsAuthority .special ·)
    if digits.isEmpty then some none
    else ((Text.readDigits? digits).filter (· ≤ Text.max16)).map some
  | _ => some none

/-- The host and the port of an address, from behind the slashes. A user part or a port needs a
host, and so does every address of a special scheme. -/
def authority? (kind : Kind) (text : List Char) : Option (Option Host × Option Nat) :=
  let (host, rest) := spanHost kind false (behindUser kind text)
  if host.isEmpty then
    if kind = .special || hasUser kind text || rest.head? = some ':' then none
    else some (none, none)
  else
    (if kind = .other then opaqueHost? host else host? host).bind fun h =>
      (port? rest).map fun p => (some h, p)

/-! ## Files -/

/-- A drive letter: a letter and a colon, or a bar in place of the colon. -/
def isDrive : List Char → Bool
  | [letter, mark] => letter.isAlpha && (mark = ':' || mark = '|')
  | _ => false

/-- Whether a path segment goes back one segment. -/
def isDoubleDot (segment : List Char) : Bool :=
  let s := Text.lowerAscii segment
  ["..", ".%2e", "%2e.", "%2e%2e"].any (·.toList = s)

/-- Whether a path segment stays where it is. -/
def isSingleDot (segment : List Char) : Bool :=
  let s := Text.lowerAscii segment
  [".", "%2e"].any (·.toList = s)

/-- Tabs and line breaks, which count nowhere in an address. -/
def isBreak (c : Char) : Bool := c = '\t' || c = '\n' || c = '\r'

/-- The characters that count. -/
def withoutBreaks (text : List Char) : List Char := text.filter (!isBreak ·)

/-- The text behind the first `n` characters that count. -/
def dropCounted : Nat → List Char → List Char
  | 0, text => text
  | _ + 1, [] => []
  | n + 1, c :: cs => if isBreak c then dropCounted (n + 1) cs else dropCounted n cs

/-- Whether a segment goes on behind a drive letter, with a break directly between. -/
def breaksBehindDrive (segment : List Char) : Bool :=
  let rest := dropCounted 2 segment
  match (withoutBreaks segment).take 2 with
  | [letter, ':'] => letter.isAlpha && rest.head?.any isBreak && !(withoutBreaks rest).isEmpty
  | _ => false

/-- Whether a path of a file begins with a drive letter, once its dot segments are resolved; `above`
are the segments that lead to the rest, the nearest first. A drive letter is never left again, and
where a break stands behind one it is no beginning but a directory. -/
def reachesDrive (above : List (List Char)) : List (List Char) → Bool
  | [] => false
  | segment :: rest =>
    let name := withoutBreaks segment
    if isDoubleDot name then
      reachesDrive (if above.head?.any isDrive then above else above.tail) rest
    else if isSingleDot name then reachesDrive above rest
    else if above.isEmpty && isDrive name then true
    else if above.isEmpty && breaksBehindDrive segment then false
    else reachesDrive (name :: above) rest

def segments (path : List Char) : List (List Char) :=
  let path := path.takeWhile fun c => c ≠ '?' ∧ c ≠ '#'
  Text.pieces '/' ((dropCounted 1 path).map fun c => if c = '\\' then '/' else c)

/-- The host of a file, from behind the slashes. The local host is none, and so is the host of a
path that begins with a drive letter. -/
def fileHost? (text : List Char) : Option (Option Host) :=
  let host := (withoutBreaks text).takeWhile (!endsAuthority .file ·)
  if host.isEmpty || isDrive host then some none
  else
    (host? host).map fun h =>
      let behind := segments (dropCounted host.length text)
      if h = .name "localhost" || reachesDrive [] behind then none
      else some h

/-! ## Whole addresses -/

/-- Without control characters and blanks at the ends. -/
def trimmed (text : List Char) : List Char :=
  let outer := fun c : Char => c.toNat ≤ 0x20
  Text.dropEndWhile outer (text.dropWhile outer)

def hasTwoSlashes (kind : Kind) : List Char → Bool
  | a :: b :: _ => isSlash kind a && isSlash kind b
  | _ => false

/-- Reads an address of the given kind from behind the colon of its scheme. -/
def rest? (kind : Kind) (text : List Char) : Option (Option Host × Option Nat) :=
  let counted := withoutBreaks text
  match kind with
  | .special => authority? kind (counted.dropWhile (isSlash kind))
  | .file =>
    if hasTwoSlashes kind counted then (fileHost? (dropCounted 2 text)).map fun h => (h, none)
    else some (none, none)
  | .other =>
    if hasTwoSlashes kind counted then authority? kind (counted.drop 2) else some (none, none)

/-- Reads an address. -/
def parse? (text : List Char) : Option Url :=
  let text := trimmed text
  (scheme? (withoutBreaks text)).bind fun scheme =>
    let rest := dropCounted (scheme.length + 1) text
    (rest? (kindOf scheme) rest).map fun (host, written) => ⟨scheme, host, written⟩

end Url
end GridKeeper
