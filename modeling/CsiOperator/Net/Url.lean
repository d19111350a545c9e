import CsiOperator.Idna.Process
/-!
Checking that a text is an absolute URL, by the WHATWG URL standard.

Only whether the text parses matters here, and why not. Leading and trailing controls and
spaces are dropped and tabs and line breaks removed throughout. A scheme comes first: a letter,
then letters, digits, `+`, `-` and `.`, then a colon. What follows cannot fail except in the
authority, which the special schemes (`http`, `https`, `ws`, `wss`, `ftp`) always have after any
slashes or backslashes, other schemes have after `//`, and `file` has after two slashes or
backslashes.

An authority is the text up to the first `/`, `?` or `#` (or backslash, for a special scheme).
Up to its last `@` are the credentials, which are never refused; they count as given unless
they are a lone `:`. Then comes the host, up to a colon outside brackets, and an optional port.
A special host is a bracketed IPv6 address or a domain, percent-decoded and converted to ASCII
by IDNA, which must not come out empty and, when it ends in a number, must be an IPv4 address.
Other schemes take an opaque host, which must not hold a forbidden host code point. An empty
host is an error for special schemes, before a port, and after credentials. A port is up to
five digits, at most 65535, ended by the end or by `/`, `\`, `?` or `#`.

A `file` URL's host is the text up to the first `/`, `\`, `?` or `#`, colons and `@` included;
an empty host or a drive letter means there is none.
-/

namespace CsiOperator.Url

/-- Why a text is not a URL. -/
inductive UrlError where
  | emptyHost
  | idna
  | invalidPort
  | invalidIpv4
  | invalidIpv6
  | invalidDomainCharacter
  | relativeWithoutBase
deriving DecidableEq, Repr, Inhabited

/-- How the error is described. -/
def UrlError.message : UrlError → String
  | .emptyHost => "empty host"
  | .idna => "invalid international domain name"
  | .invalidPort => "invalid port number"
  | .invalidIpv4 => "invalid IPv4 address"
  | .invalidIpv6 => "invalid IPv6 address"
  | .invalidDomainCharacter => "invalid domain character"
  | .relativeWithoutBase => "relative URL without a base"

/-- The kinds of scheme: `file`, the other special schemes, and the rest. -/
inductive SchemeKind where
  | file
  | special
  | other
deriving DecidableEq, Repr, Inhabited

/-- The kind of a scheme, given in lowercase. -/
def SchemeKind.of (scheme : String) : SchemeKind :=
  if scheme == "file" then .file
  else if ["http", "https", "ws", "wss", "ftp"].contains scheme then .special
  else .other

/-- Whether a character may continue a scheme. -/
def isSchemeChar (c : Char) : Bool := c.isAlphanum || c == '+' || c == '-' || c == '.'

/-- The code points no opaque host may contain. -/
def forbiddenHostChar (c : Char) : Bool :=
  c.toNat == 0 || c == '\t' || c == '\n' || c == '\r' || c == ' ' || c == '#' || c == '/' ||
    c == ':' || c == '<' || c == '>' || c == '?' || c == '@' || c == '[' || c == '\\' || c == ']' ||
    c == '^' || c == '|'

/-! ## IPv4 -/

/-- The value of a hexadecimal digit. -/
def hexDigit? (c : Char) : Option Nat :=
  if c.isDigit then some (c.toNat - 48)
  else if 'a' ≤ c ∧ c ≤ 'f' then some (c.toNat - 87)
  else if 'A' ≤ c ∧ c ≤ 'F' then some (c.toNat - 55)
  else none

/-- Reads one IPv4 part: decimal, `0x` hexadecimal or `0` octal. An error for a malformed part;
none for one beyond 32 bits. -/
def ipv4Number (s : String) : Except Unit (Option Nat) :=
  if s.isEmpty then .error ()
  else
    let cs := s.toList
    let (radix, ds) := match cs with
      | '0' :: 'x' :: r | '0' :: 'X' :: r => (16, r)
      | '0' :: r@(_ :: _) => (8, r)
      | r => (10, r)
    if ds.isEmpty then .ok (some 0)
    else
      match ds.mapM hexDigit? with
      | none => .error ()
      | some vs =>
        if vs.any (· ≥ radix) then .error ()
        else
          let n := vs.foldl (fun n d => n * radix + d) 0
          .ok (if n < Nat.pow 2 32 then some n else none)

/-- Whether a domain ends in a number, and so must be an IPv4 address. -/
def endsInNumber (domain : String) : Bool :=
  let parts := (domain.splitOn ".").reverse
  let last := match parts with
    | "" :: next :: _ => some next
    | "" :: [] => none
    | l :: _ => some l
    | [] => none
  match last with
  | none => false
  | some l => (!l.isEmpty && l.all Char.isDigit) || (ipv4Number l matches .ok _)

/-- Checks an IPv4 address in the lenient URL form: up to four parts, all but the last at most
255, the last filling the bytes left. -/
def checkIpv4 (s : String) : Except UrlError Unit := do
  let parts := s.splitOn "."
  let parts := if parts.getLast? == some "" then parts.dropLast else parts
  if parts.length > 4 then throw .invalidIpv4
  let numbers ← parts.mapM fun p =>
    match ipv4Number p with
    | .ok (some n) => pure n
    | _ => throw .invalidIpv4
  match numbers.reverse with
  | [] => throw .invalidIpv4
  | last :: rest =>
    if last ≥ Nat.pow 256 (4 - rest.length) then throw .invalidIpv4
    if rest.any (· > 255) then throw .invalidIpv4

/-! ## IPv6 -/

/-- Reads up to four hexadecimal digits: how many there are, and the rest. -/
def hexPiece (cs : List Char) : Nat × List Char :=
  let n := (cs.take 4).takeWhile (hexDigit? · |>.isSome) |>.length
  (n, cs.drop n)

/-- Reads the dotted IPv4 ending of an IPv6 address: four decimal numbers up to 255 without
leading zeros, separated by full stops, two pieces' worth. `seen` counts the numbers ended by a
full stop, and `current` is the value of the number being read, none before its first digit. -/
def ipv4Tail : (cs : List Char) → (seen : Nat) → (current : Option Nat) → Bool
  | [], seen, current => current.isSome && seen + 1 == 4
  | c :: rest, seen, current =>
    if c.isDigit then
      let d := c.toNat - 48
      match current with
      | none => ipv4Tail rest seen (some d)
      | some 0 => false
      | some v => if v * 10 + d > 255 then false else ipv4Tail rest seen (some (v * 10 + d))
    else if c == '.' then current.isSome && seen + 1 < 4 && ipv4Tail rest (seen + 1) none
    else false

/-- Reads the pieces of an IPv6 address after the first: `pieces` counts those read, and
`compressed` tells whether `::` has been seen. -/
def ipv6Pieces : (cs : List Char) → (pieces : Nat) → (compressed : Bool) → Bool
  | [], pieces, compressed => compressed || pieces == 8
  | c :: rest, pieces, compressed =>
    if pieces == 8 then false
    else if c == ':' then
      if compressed then false else ipv6Pieces rest (pieces + 1) true
    else
      let (n, after) := hexPiece (c :: rest)
      match after with
      | '.' :: _ =>
        n != 0 && pieces ≤ 6 && ipv4Tail (c :: rest) 0 none && (compressed || pieces + 2 == 8)
      | ':' :: more =>
        if more.isEmpty then false
        else if more.length < rest.length + 1 then ipv6Pieces more (pieces + 1) compressed
        else false
      | [] => compressed || pieces + 1 == 8
      | _ => false
termination_by cs => cs.length

/-- Whether a text (without its brackets) is an IPv6 address. -/
def isIpv6 (s : String) : Bool :=
  match s.toList with
  | ':' :: ':' :: rest => ipv6Pieces rest 1 true
  | ':' :: _ => false
  | cs => cs.length ≥ 2 && ipv6Pieces cs 0 false

/-! ## Hosts -/

/-- The value of a hexadecimal digit byte. -/
def hexByte? (b : UInt8) : Option UInt8 :=
  if 48 ≤ b && b ≤ 57 then some (b - 48)
  else if 97 ≤ b && b ≤ 102 then some (b - 87)
  else if 65 ≤ b && b ≤ 70 then some (b - 55)
  else none

/-- Percent-decodes bytes, holding what follows a `%` until it is known to be an escape: none
holds nothing, `some none` a `%`, and `some (some a)` a `%` and the digit `a`. A `%` that does
not start an escape stands for itself, and reading goes on right after it. -/
def decodeFrom : List UInt8 → Option (Option UInt8) → List UInt8
  | [], none => []
  | [], some none => [37]
  | [], some (some a) => [37, a]
  | x :: rest, none => if x == 37 then decodeFrom rest (some none) else x :: decodeFrom rest none
  | x :: rest, some none =>
    if (hexByte? x).isSome then decodeFrom rest (some (some x))
    else if x == 37 then 37 :: decodeFrom rest (some none)
    else 37 :: x :: decodeFrom rest none
  | x :: rest, some (some a) =>
    match hexByte? a, hexByte? x with
    | some p, some q => (p * 16 + q) :: decodeFrom rest none
    | _, _ =>
      if x == 37 then 37 :: a :: decodeFrom rest (some none) else 37 :: a :: x :: decodeFrom rest none

/-- Percent-decodes a text as bytes: `%` and two hexadecimal digits stand for a byte. -/
def percentDecode (s : String) : ByteArray := ⟨(decodeFrom s.toUTF8.toList none).toArray⟩

/-- Checks a bracketed host. -/
def checkBracketed (host : String) : Except UrlError Unit :=
  if !host.endsWith "]" then throw .invalidIpv6
  else if isIpv6 ((host.drop 1).dropEnd 1).toString then pure ()
  else throw .invalidIpv6

/-- Checks the host of a special URL. -/
def checkHost (host : String) : Except UrlError Unit := do
  if host.startsWith "[" then checkBracketed host
  else
    match Idna.toAscii (percentDecode host) with
    | none => throw .idna
    | some domain =>
      if domain.isEmpty then throw .emptyHost
      if endsInNumber domain then checkIpv4 domain

/-- Checks the opaque host of a URL with another scheme, telling whether it is empty. -/
def checkOpaqueHost (host : String) : Except UrlError Bool :=
  if host.startsWith "[" then do
    checkBracketed host
    pure false
  else if host.toList.any forbiddenHostChar then throw .invalidDomainCharacter
  else pure host.isEmpty

/-- Checks a port: digits up to the end or to `/`, `\`, `?` or `#`, at most 65535. -/
def checkPort : (cs : List Char) → (value : Nat) → Except UrlError Unit
  | [], _ => pure ()
  | c :: rest, value =>
    if c.isDigit then
      let v := value * 10 + (c.toNat - 48)
      if v > 65535 then throw .invalidPort else checkPort rest v
    else if c == '/' || c == '\\' || c == '?' || c == '#' then pure ()
    else throw .invalidPort

/-- Splits a host from what follows it: the host ends at a colon outside brackets, or where the
authority ends. -/
def splitHost (ends : Char → Bool) : (cs : List Char) → (inside : Bool) → List Char × List Char
  | [], _ => ([], [])
  | c :: rest, inside =>
    if (c == ':' && !inside) || ends c then ([], c :: rest)
    else
      let inside := if c == '[' then true else if c == ']' then false else inside
      let (h, after) := splitHost ends rest inside
      (c :: h, after)

/-- The position of the last `@` in a list. -/
def lastAt (cs : List Char) : Option Nat :=
  (cs.reverse.findIdx? (· == '@')).map fun j => cs.length - 1 - j

/-- Checks the authority of a URL that is not a `file` URL, and what follows it up to the
path. -/
def checkAuthority (input : List Char) (special : Bool) : Except UrlError Unit := do
  let ends (c : Char) : Bool := c == '/' || c == '?' || c == '#' || (special && c == '\\')
  let authority := input.takeWhile (!ends ·)
  let (credentials, remaining) ← match lastAt authority with
    | none => pure (false, input)
    | some 0 =>
      let rest := input.drop 1
      match rest with
      | c :: _ => if ends c then throw .emptyHost else pure (false, rest)
      | [] => pure (false, rest)
    | some k => pure (authority.take k != [':'], input.drop (k + 1))
  let (host, after) := splitHost ends remaining false
  let empty ← if special then do
      if host.isEmpty then throw .emptyHost
      checkHost (String.ofList host)
      pure false
    else checkOpaqueHost (String.ofList host)
  match after with
  | ':' :: port =>
    if empty then throw .emptyHost
    checkPort port 0
  | _ => pure ()
  if empty && credentials then throw .emptyHost

/-- Whether a host is a drive letter: a letter and a colon or bar. -/
def isDriveLetter (cs : List Char) : Bool :=
  match cs with
  | [a, b] => a.isAlpha && (b == ':' || b == '|')
  | _ => false

/-- Checks what follows the scheme of a `file` URL. -/
def checkFile (rest : List Char) : Except UrlError Unit :=
  let slash (c : Char) : Bool := c == '/' || c == '\\'
  match rest with
  | a :: b :: more =>
    if slash a && slash b then
      let host := more.takeWhile fun c => !(c == '/' || c == '\\' || c == '?' || c == '#')
      if host.isEmpty || isDriveLetter host then pure () else checkHost (String.ofList host)
    else pure ()
  | _ => pure ()

/-- The text a URL parser reads: without leading and trailing controls and spaces, and without
tabs and line breaks. -/
def cleaned (input : String) : List Char :=
  let trimmed := ((input.toList.dropWhile (·.toNat ≤ 0x20)).reverse.dropWhile (·.toNat ≤ 0x20)).reverse
  trimmed.filter fun c => c != '\t' && c != '\n' && c != '\r'

/-- Checks that a text is an absolute URL. -/
def check (input : String) : Except UrlError Unit := do
  let cs := cleaned input
  let scheme := match cs with
    | c :: _ => if c.isAlpha then cs.takeWhile isSchemeChar else []
    | [] => []
  match scheme, cs.drop scheme.length with
  | _ :: _, ':' :: rest =>
    match SchemeKind.of (String.ofList (scheme.map Char.toLower)) with
    | .file => checkFile rest
    | .special => checkAuthority (rest.dropWhile fun c => c == '/' || c == '\\') true
    | .other =>
      match rest with
      | '/' :: '/' :: authority => checkAuthority authority false
      | _ => pure ()
  | _, _ => throw .relativeWithoutBase

end CsiOperator.Url
