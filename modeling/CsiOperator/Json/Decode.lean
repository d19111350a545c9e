import CsiOperator.Json
import CsiOperator.Json.Write
import CsiOperator.Text.Quoted
import CsiOperator.Number.Shortest
/-!
Typed reading of JSON values. A reader either returns a value of its type or says why it
cannot: the value has the wrong type, is out of range, names an unknown variant, or lacks a
required member. A failure records the path from the root to the part that failed, so a reader
of text can also say where.

The messages follow the usual wording of typed JSON readers: "invalid type: string \"x\",
expected i32", "missing field `name`", "unknown variant `x`, expected one of `a`, `b`".
-/

namespace CsiOperator

/-- A step from a value to one of its parts. -/
inductive PathStep where
  | key (name : String)
  | index (i : Nat)
deriving DecidableEq, Repr, Inhabited

/-- What a reader found where it expected something else. -/
inductive Unexpected where
  | bool (b : Bool)
  | int (n : Int)
  | float (text : String)
  | str (s : String)
  | null
  /-- The empty value of a format without null, such as a YAML `~`. -/
  | unit
  | seq
  | map
  /-- A value described in words of its own. -/
  | other (description : String)
deriving DecidableEq, Repr, Inhabited

namespace Unexpected

/-- How the found value is described. -/
def describe : Unexpected → String
  | .bool b => "boolean `" ++ (if b then "true" else "false") ++ "`"
  | .int n => "integer `" ++ toString n ++ "`"
  | .float t => "floating point `" ++ t ++ "`"
  | .str s => "string " ++ Text.quoted s
  | .null => "null"
  | .unit => "unit value"
  | .seq => "sequence"
  | .map => "map"
  | .other d => d

/-- What a JSON value is, as a reader describes it. -/
def ofJson : Json → Unexpected
  | .null => .null
  | .bool b => .bool b
  | .int n => .int n
  | .num n m e => .float (Binary64.ofDecimal n m e).jsonText
  | .str s => .str s
  | .arr _ => .seq
  | .obj _ => .map

end Unexpected

/-- Why a value could not be read. -/
inductive DecodeFault where
  | invalidType (found : Unexpected) (expected : String)
  | invalidValue (found : Unexpected) (expected : String)
  | missingField (name : String)
  | duplicateField (name : String)
  | unknownVariant (name : String) (expected : List String)
  | other (message : String)
deriving DecidableEq, Repr, Inhabited

namespace DecodeFault

/-- The backquoted names of the expected variants, comma separated. -/
def variantList : List String → String
  | [] => "no variants"
  | vs => "one of " ++ ", ".intercalate (vs.map fun v => "`" ++ v ++ "`")

/-- How the fault is described. -/
def message : DecodeFault → String
  | .invalidType u e => "invalid type: " ++ u.describe ++ ", expected " ++ e
  | .invalidValue u e => "invalid value: " ++ u.describe ++ ", expected " ++ e
  | .missingField n => "missing field `" ++ n ++ "`"
  | .duplicateField n => "duplicate field `" ++ n ++ "`"
  | .unknownVariant n vs => "unknown variant `" ++ n ++ "`, expected " ++ variantList vs
  | .other m => m

end DecodeFault

/-- A reading failure and the path to the part that caused it. -/
structure DecodeError where
  path : List PathStep := []
  fault : DecodeFault
deriving DecidableEq, Repr, Inhabited

/-- The description of a reading failure, without position. -/
def DecodeError.message (e : DecodeError) : String := e.fault.message

/-- A typed reader of JSON values. -/
abbrev Reader (α : Type) := Json → Except DecodeError α

namespace Reader

/-- Fails with a fault at the current value. -/
def fail {α : Type} (f : DecodeFault) : Except DecodeError α := .error { fault := f }

/-- A wrong-type failure for a value. -/
def wrongType {α : Type} (j : Json) (expected : String) : Except DecodeError α :=
  fail (.invalidType (.ofJson j) expected)

/-- Runs a reader on a part, recording the step to it. -/
def inside {α : Type} (step : PathStep) (r : Reader α) : Reader α := fun j =>
  match r j with
  | .ok a => .ok a
  | .error e => .error { e with path := step :: e.path }

/-- Reads a string. -/
def string : Reader String
  | .str s => .ok s
  | j => wrongType j "a string"

/-- Reads a boolean. -/
def bool : Reader Bool
  | .bool b => .ok b
  | j => wrongType j "a boolean"

/-- Reads an integer within `[lo, hi]`; `name` is the integer type's name. -/
def intIn (lo hi : Int) (name : String) : Reader Int
  | .int n => if lo ≤ n ∧ n ≤ hi then .ok n else fail (.invalidValue (.int n) name)
  | j => wrongType j name

/-- Reads a signed 32-bit integer. -/
def i32 : Reader Int := intIn (-2147483648) 2147483647 "i32"

/-- Reads a signed 64-bit integer. -/
def i64 : Reader Int := intIn (-9223372036854775808) 9223372036854775807 "i64"

/-- Reads an unsigned 64-bit integer. -/
def u64 : Reader Nat := fun j => (intIn 0 18446744073709551615 "u64" j).map Int.toNat

/-- Reads an unsigned 32-bit integer. -/
def u32 : Reader Nat := fun j => (intIn 0 4294967295 "u32" j).map Int.toNat

/-- Reads any value as it is. -/
def any : Reader Json := .ok

/-- Reads `null` as nothing and anything else with `r`. -/
def option {α : Type} (r : Reader α) : Reader (Option α)
  | .null => .ok none
  | j => (r j).map some

/-- Reads the items of an array with `r`, the failing index recorded. -/
def list {α : Type} (r : Reader α) : Reader (List α)
  | .arr xs =>
    let rec go (i : Nat) : List Json → Except DecodeError (List α)
      | [] => .ok []
      | x :: rest => do
        let a ← inside (.index i) r x
        let as ← go (i + 1) rest
        pure (a :: as)
    go 0 xs
  | j => wrongType j "a sequence"

/-- Inserts into a list sorted by key, replacing an equal key. -/
def insertSorted {α : Type} (k : String) (v : α) : List (String × α) → List (String × α)
  | [] => [(k, v)]
  | (k', v') :: rest =>
    if k = k' then (k, v) :: rest
    else if k < k' then (k, v) :: (k', v') :: rest
    else (k', v') :: insertSorted k v rest

/-- Reads an object as a map sorted by key; a repeated key keeps its last value. -/
def sortedMap {α : Type} (r : Reader α) : Reader (List (String × α))
  | .obj ms => do
    let rec go : List (String × Json) → Except DecodeError (List (String × α))
      | [] => .ok []
      | (k, v) :: rest => do
        let a ← inside (.key k) r v
        let as ← go rest
        pure ((k, a) :: as)
    let pairs ← go ms
    pure (pairs.foldl (fun acc (k, a) => insertSorted k a acc) [])
  | j => wrongType j "a map"

/-- Reads a list of texts. -/
def strs : Reader (List String) := list string

/-- Reads a map of texts, sorted by key. -/
def strMap : Reader (List (String × String)) := sortedMap string

/-- Reads a string naming one of the variants of an enumeration. -/
def variant {α : Type} (enumName : String) (table : List (String × α)) : Reader α
  | .str s =>
    match table.find? (·.1 == s) with
    | some (_, a) => .ok a
    | none => fail (.unknownVariant s (table.map (·.1)))
  | .obj [(s, _)] =>
    match table.find? (·.1 == s) with
    | some (_, a) => .ok a
    | none => fail (.unknownVariant s (table.map (·.1)))
  | j => let _ := enumName; wrongType j "string or map"

/-- The first failure met while reading a record's members, with its rank: a member that
cannot be read ranks by its position in the input, and a missing member ranks after every
member, so that the failure reported is the one a reader walking the input meets first. -/
abbrev RecordScan := StateM (Option (Nat × DecodeError))

/-- The members of an object being read as a record. -/
structure Members where
  items : List (String × Json)

namespace Members

/-- The position and value of the first member with a key. -/
def locate (ms : Members) (key : String) : Option (Nat × Json) :=
  let rec go (i : Nat) : List (String × Json) → Option (Nat × Json)
    | [] => none
    | (k, v) :: rest => if k == key then some (i, v) else go (i + 1) rest
  go 0 ms.items

/-- The position of a second member with a key, if the key is repeated. -/
def repeated (ms : Members) (key : String) : Option Nat :=
  let rec go (i : Nat) (seen : Bool) : List (String × Json) → Option Nat
    | [] => none
    | (k, _) :: rest =>
      if k == key then (if seen then some i else go (i + 1) true rest) else go (i + 1) seen rest
  go 0 false ms.items

end Members

/-- Of two ranked failures, the one of lower rank; the first on a tie. -/
def earlier {ε : Type} : Option (Nat × ε) → Option (Nat × ε) → Option (Nat × ε)
  | some (r, e), some (r2, e2) => if r2 < r then some (r2, e2) else some (r, e)
  | some f, none => some f
  | none, g => g

/-- Records a failure of rank `rank` unless one of a lower rank is already recorded. -/
def note (rank : Nat) (e : DecodeError) : RecordScan Unit :=
  modify (earlier · (some (rank, e)))

/-- Reads an object as a record named `what`; the body reads its members. -/
def record {α : Type} [Inhabited α] (what : String) (body : Members → RecordScan α) : Reader α
  | .obj ms =>
    match (body ⟨ms⟩).run none with
    | (_, some (_, e)) => .error e
    | (a, none) => .ok a
  | j => wrongType j what

/-- Reads a present member, noting a repeated key or a failure at the member's position. -/
def present {α : Type} [Inhabited α] (ms : Members) (key : String) (i : Nat) (v : Json)
    (r : Reader α) : RecordScan α := do
  if let some j := ms.repeated key then note j { fault := .duplicateField key }
  match inside (.key key) r v with
  | .ok a => pure a
  | .error e => do note i e; pure default

/-- A required member. -/
def req {α : Type} [Inhabited α] (ms : Members) (key : String) (r : Reader α) : RecordScan α :=
  match ms.locate key with
  | some (i, v) => present ms key i v r
  | none => do note ms.items.length { fault := .missingField key }; pure default

/-- A member that may be absent. -/
def opt {α : Type} (ms : Members) (key : String) (r : Reader α) : RecordScan (Option α) :=
  match ms.locate key with
  | some (i, v) => present ms key i v (fun j => (r j).map some)
  | none => pure none

/-- A member that takes a default value when absent. -/
def dflt {α : Type} (ms : Members) (key : String) (d : α) (r : Reader α) : RecordScan α :=
  (·.getD d) <$> opt ms key r

/-- An optional member where `null` also reads as absent. -/
def optNull {α : Type} (ms : Members) (key : String) (r : Reader α) : RecordScan (Option α) :=
  (·.join) <$> opt ms key (option r)

end Reader

end CsiOperator
