import PreviewSync.Signature.Resource
import PreviewSync.Text.Decimal

/-!
# Addresses

How a transport reads the address of a request: the server to connect to, and the target that is
sent to it. Reading follows the rules for addresses with a host: blanks around the text and line
breaks within do not count, backslashes are slashes, dot segments are resolved, and what may not
stand in an address is percent-encoded.

## Main Definitions

* `Wire.Address` — scheme, server and request target
* `Wire.resolve` — the segments of a path without its dot segments
* `Wire.Address.read?` — the address that a text states
-/

namespace PreviewSync.Wire

/-- Scheme, server and request target. The target is a text that is sent as it is; a service is only
there when it is not left to the scheme. -/
structure Address where
  secure : Bool
  host : String
  service : Option Nat
  target : String
deriving Repr, DecidableEq

/-- The slash, and the backslash that counts as one. -/
def isSeparator (c : Char) : Bool :=
  c == '/' || c == '\\'

/-- A control character or a blank. -/
def isMargin (c : Char) : Bool :=
  c.toNat ≤ 32

/-- A tab or a line break. -/
def isBreak (c : Char) : Bool :=
  c == '\t' || c == '\n' || c == '\r'

/-- Percent-encodes the bytes outside visible ASCII and those of a class. -/
def encodeOutside (reserved : Char → Bool) (text : List Char) : List Char :=
  (Bytes.ofText (String.ofList text)).flatMap fun b =>
    let c := Char.ofNat b.toNat
    if b ≤ 32 ∨ 127 ≤ b ∨ reserved c then
      ['%', Hex.upper (b.toNat / 16), Hex.upper (b.toNat % 16)]
    else [c]

/-- What may not stand in a path. -/
def isReservedInPath (c : Char) : Bool :=
  ['"', '#', '<', '>', '?', '\x60', '\x7b', '\x7d'].contains c

/-- What may not stand in a query. -/
def isReservedInQuery (c : Char) : Bool :=
  ['"', '#', '<', '>', '\x27'].contains c

/-- A segment with its dots written out. A dot segment counts as one also where its dots are
percent-encoded, so encoding does not protect against it. -/
def writeDots : List Char → List Char
  | '%' :: '2' :: e :: rest =>
    if e = 'e' ∨ e = 'E' then '.' :: writeDots rest else '%' :: writeDots ('2' :: e :: rest)
  | c :: rest => c :: writeDots rest
  | [] => []
termination_by segment => segment.length

/-- The segment that stands for the present place. -/
def isSingleDot (segment : List Char) : Bool :=
  writeDots segment == ['.']

/-- The segment that stands for the place above. -/
def isDoubleDot (segment : List Char) : Bool :=
  writeDots segment == ['.', '.']

/-- Parts a text at its separators. -/
def splitSegments : List Char → List (List Char)
  | [] => [[]]
  | c :: rest =>
    if isSeparator c then [] :: splitSegments rest
    else
      match splitSegments rest with
      | segment :: segments => (c :: segment) :: segments
      | [] => [[c]]

/-- The segments of a path without its dot segments. A dot segment at the end leaves an empty one
behind, so the path still ends with a slash. Above the first segment there is no place to go to, and
such dots are dropped. The segments decided so far are kept in reverse. -/
def resolve (read : List (List Char)) : List (List Char) → List (List Char)
  | [] => read.reverse
  | segment :: rest =>
    let read :=
      if isDoubleDot segment then
        if rest.isEmpty then [] :: read.drop 1 else read.drop 1
      else if isSingleDot segment then
        if rest.isEmpty then [] :: read else read
      else segment :: read
    resolve read rest

/-- The path that a text states. -/
def readPath (text : List Char) : List Char :=
  let segments := match text with
    | c :: rest => if isSeparator c then splitSegments rest else splitSegments text
    | [] => [[]]
  (resolve [] segments).flatMap fun segment => '/' :: encodeOutside isReservedInPath segment

/-- The request target: a path, and a query unless it is empty. What follows a number sign is not
sent. -/
def readTarget (text : List Char) : List Char :=
  let sent := text.takeWhile (· != '#')
  let path := readPath (sent.takeWhile (· != '?'))
  let query := (sent.dropWhile (· != '?')).drop 1
  if query.isEmpty then path else path ++ '?' :: encodeOutside isReservedInQuery query

/-- The number of the service that a text states behind a host; none is the usual one of the
scheme. -/
def readService? : List Char → Option (Option Nat)
  | [] => some none
  | [':'] => some none
  | ':' :: digits => ((Decimal.digits? digits).filter (· < 65536)).map some
  | _ => none

/-- What may not stand in the name of a host. -/
def isForbiddenInHost (c : Char) : Bool :=
  c.toNat ≤ 32 || c.toNat == 127
    || ['#', '%', '/', ':', '<', '>', '?', '@', '[', '\\', ']', '^', '|'].contains c

/-- Host and number of the service, without the name of a user in front of them. -/
def readServer? (authority : List Char) : Option (String × Option Nat) :=
  let server := (authority.reverse.takeWhile (· != '@')).reverse
  match server with
  | '[' :: rest =>
    let inner := rest.takeWhile (· != ']')
    match rest.dropWhile (· != ']') with
    | _ :: rest =>
      (readService? rest).map fun service => (String.ofList ('[' :: inner ++ [']']), service)
    | [] => none
  | _ =>
    let host := server.takeWhile (· != ':')
    if host.isEmpty || host.any isForbiddenInHost then none
    else
      (readService? (server.dropWhile (· != ':'))).map fun service => (String.ofList host, service)

/-- The scheme of an address, and what follows its colon. -/
def readScheme? (text : List Char) : Option (Bool × List Char) :=
  let scheme := String.ofList ((text.takeWhile (· != ':')).map Char.toLower)
  match text.dropWhile (· != ':') with
  | _ :: rest =>
    if scheme = "http" then some (false, rest)
    else if scheme = "https" then some (true, rest)
    else none
  | [] => none

/-- What ends the part of an address that names the server. -/
def endsAuthority (c : Char) : Bool :=
  isSeparator c || c == '?' || c == '#'

/-- The address that a text states. Any number of slashes may stand in front of the server, and
backslashes among them, so what follows the scheme is a server or nothing. -/
def Address.read? (text : String) : Option Address := do
  let signs := ((Text.trim isMargin text).toList).filter fun c => !isBreak c
  let (secure, rest) ← readScheme? signs
  let rest := rest.dropWhile isSeparator
  let (host, service) ← readServer? (rest.takeWhile fun c => !endsAuthority c)
  let target := readTarget (rest.dropWhile fun c => !endsAuthority c)
  some ⟨secure, host, service, String.ofList target⟩

end PreviewSync.Wire
