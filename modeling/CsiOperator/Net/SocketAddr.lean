/-!
Socket addresses: an IPv4 or IPv6 address with a port, read from and written as text.

The reading follows the usual strict grammar: four decimal octets without leading zeros, or
an IPv6 address in brackets with at most one `::`, an optional embedded IPv4 tail and an
optional `%scope`; then `:` and a decimal port. The writing is canonical: IPv6 groups in
lowercase hexadecimal with the longest run of two or more zero groups shortened to `::`, and
IPv4-mapped addresses written with their IPv4 tail.
-/

namespace CsiOperator.Net

/-- A socket address. -/
inductive SocketAddr where
  | v4 (octets : List Nat) (port : Nat)
  | v6 (groups : List Nat) (scope : Nat) (port : Nat)
deriving DecidableEq, Repr, Inhabited

/-- A reader of a prefix of a text: the value and the rest, or nothing. -/
abbrev Scan (α : Type) := List Char → Option (α × List Char)

namespace Scan

/-- Reads one given character. -/
def char (c : Char) : Scan Unit
  | d :: rest => if c == d then some ((), rest) else none
  | [] => none

/-- The value of a digit in a radix of at most sixteen. -/
def digitValue (radix : Nat) (c : Char) : Option Nat :=
  let v := if c.isDigit then some (c.toNat - '0'.toNat)
    else if 'a' ≤ c ∧ c ≤ 'f' then some (c.toNat - 'a'.toNat + 10)
    else if 'A' ≤ c ∧ c ≤ 'F' then some (c.toNat - 'A'.toNat + 10)
    else none
  v.bind fun d => if d < radix then some d else none

/-- Reads the digits at the front of a text, with their values. -/
def digits (radix : Nat) : List Char → List Nat × List Char
  | c :: rest =>
    match digitValue radix c with
    | some d => let (ds, r) := digits radix rest; (d :: ds, r)
    | none => ([], c :: rest)
  | [] => ([], [])

/-- Reads a number below `bound` of at most `maxDigits` digits; a leading zero is refused
before further digits unless `zeroPrefix`. -/
def number (radix bound : Nat) (maxDigits : Option Nat) (zeroPrefix : Bool) : Scan Nat := fun cs =>
  let (ds, rest) := digits radix cs
  let value := ds.foldl (fun n d => n * radix + d) 0
  let tooLong := match maxDigits with
    | some m => ds.length > m
    | none => false
  -- each further digit only raises the value, so a final value below the bound never passed it
  if ds.isEmpty || tooLong || value ≥ bound then none
  else if !zeroPrefix && ds.head? == some 0 && ds.length > 1 then none
  else some (value, rest)

/-- Reads four dotted decimal octets. -/
def ipv4 : Scan (List Nat) := fun cs => do
  let (a, r) ← number 10 256 (some 3) false cs
  let ((), r) ← char '.' r
  let (b, r) ← number 10 256 (some 3) false r
  let ((), r) ← char '.' r
  let (c, r) ← number 10 256 (some 3) false r
  let ((), r) ← char '.' r
  let (d, r) ← number 10 256 (some 3) false r
  pure ([a, b, c, d], r)

/-- Reads up to `limit` colon-separated groups, the last two of which may be an embedded IPv4
address; says whether such an address ended the groups. -/
def groups (limit : Nat) (i : Nat) (cs : List Char) : List Nat × Bool × List Char :=
  match limit with
  | 0 => ([], false, cs)
  | limit + 1 =>
    let sep : Scan Unit := fun cs => if i > 0 then char ':' cs else some ((), cs)
    let v4 := if limit ≥ 1 then (do
        let ((), r) ← sep cs
        ipv4 r) else none
    match v4 with
    | some ([a, b, c, d], r) => ([a * 256 + b, c * 256 + d], true, r)
    | _ =>
      match (do let ((), r) ← sep cs; number 16 65536 (some 4) true r) with
      | some (g, r) =>
        let (gs, tail, r) := groups limit (i + 1) r
        (g :: gs, tail, r)
      | none => ([], false, cs)

/-- Reads an IPv6 address: eight groups, or a head and a tail around `::`. -/
def ipv6 : Scan (List Nat) := fun cs =>
  let (head, headV4, r) := groups 8 0 cs
  if head.length == 8 then some (head, r)
  else if headV4 then none
  else do
    let ((), r) ← char ':' r
    let ((), r) ← char ':' r
    let (tail, _, r) := groups (8 - (head.length + 1)) 0 r
    pure (head ++ List.replicate (8 - head.length - tail.length) 0 ++ tail, r)

/-- Reads `:` and a port. -/
def port : Scan Nat := fun cs => do
  let ((), r) ← char ':' cs
  number 10 65536 none true r

/-- Reads an IPv4 socket address. -/
def socketV4 : Scan SocketAddr := fun cs => do
  let (ip, r) ← ipv4 cs
  let (p, r) ← port r
  pure (.v4 ip p, r)

/-- Reads a bracketed IPv6 socket address. -/
def socketV6 : Scan SocketAddr := fun cs => do
  let ((), r) ← char '[' cs
  let (ip, r) ← ipv6 r
  let (scope, r) := match (do let ((), r) ← char '%' r; number 10 4294967296 none true r) with
    | some (s, r) => (s, r)
    | none => (0, r)
  let ((), r) ← char ']' r
  let (p, r) ← port r
  pure (.v6 ip scope p, r)

end Scan

namespace SocketAddr

/-- Reads a whole text as a socket address. -/
def parse? (s : String) : Option SocketAddr :=
  let cs := s.toList
  match Scan.socketV4 cs with
  | some (a, []) => some a
  | _ =>
    match Scan.socketV6 cs with
    | some (a, []) => some a
    | _ => none

/-- Lowercase hexadecimal digits of a number. -/
def hex (n : Nat) : String := String.ofList (Nat.toDigits 16 n)

/-- The first longest run of zero groups, as its start and length. -/
def zeroRun (gs : List Nat) : Nat × Nat :=
  let step := fun (acc : (Nat × Nat) × (Nat × Nat) × Nat) (g : Nat) =>
    let ((bs, bl), (cs, cl), i) := acc
    if g == 0 then
      let cur := if cl == 0 then (i, 1) else (cs, cl + 1)
      let best := if cur.2 > bl then cur else (bs, bl)
      (best, cur, i + 1)
    else ((bs, bl), (0, 0), i + 1)
  (gs.foldl step ((0, 0), (0, 0), 0)).1

/-- Groups written in hexadecimal, colon separated. -/
def hexGroups (gs : List Nat) : String := ":".intercalate (gs.map hex)

/-- The text of an IPv6 address. -/
def ipv6Text (gs : List Nat) : String :=
  match gs with
  | [0, 0, 0, 0, 0, 65535, hi, lo] =>
    "::ffff:" ++ toString (hi / 256) ++ "." ++ toString (hi % 256) ++ "." ++
      toString (lo / 256) ++ "." ++ toString (lo % 256)
  | _ =>
    let (start, len) := zeroRun gs
    if len > 1 then hexGroups (gs.take start) ++ "::" ++ hexGroups (gs.drop (start + len))
    else hexGroups gs

/-- The text of a socket address. -/
def render : SocketAddr → String
  | .v4 os p => ".".intercalate (os.map toString) ++ ":" ++ toString p
  | .v6 gs scope p =>
    "[" ++ ipv6Text gs ++ (if scope == 0 then "" else "%" ++ toString scope) ++ "]:" ++ toString p

end SocketAddr

end CsiOperator.Net
