import CsiOperator.Json.Decode
import CsiOperator.Json.Text
import CsiOperator.Time
/-!
Schemas of Kubernetes object types, and reading a document through one.

A schema lists the members a type knows, in the order it writes them, and whether each is
required. Reading a document through a schema checks the type of every known member, drops
the members the type does not know, drops optional members that are `null`, and writes the
rest in schema order. An absent member is left out when optional, is an error when required,
and reads as its type's empty value when defaulted, as the Kubernetes API types do.
-/

namespace CsiOperator.Kube

/-- How a member is treated when it is absent. -/
inductive Presence where
  /-- Absent or `null`: left out. -/
  | optional
  /-- Absent: an error. -/
  | required
  /-- Absent: the type's empty value, which is always written. -/
  | defaulted
deriving DecidableEq, Repr, Inhabited

/-- The shape of a Kubernetes type. -/
inductive Schema where
  | string
  | boolean
  | int32
  | int64
  /-- A number or a string, such as a port. -/
  | intOrString
  /-- A point in time, written in whole seconds. -/
  | time
  /-- A point in time, written with microseconds. -/
  | microTime
  /-- Any value, kept as it is. -/
  | any
  | list (item : Schema)
  /-- A map with text keys, written in key order. -/
  | map (value : Schema)
  /-- A record: its name, and each member with its presence and schema, in written order. -/
  | record (name : String) (fields : List (String × Presence × Schema))
deriving Repr, Inhabited

namespace Schema

mutual
/-- The empty value of a defaulted member: a record's empty value holds its own defaulted
members. -/
def emptyValue : Schema → Json
  | .list _ => .arr []
  | .map _ => .obj []
  | .string => .str ""
  | .boolean => .bool false
  | .int32 | .int64 | .intOrString => .int 0
  | .record _ fs => .obj (emptyMembers fs)
  | _ => .null

/-- The defaulted members of an empty record. -/
def emptyMembers : List (String × Presence × Schema) → List (String × Json)
  | [] => []
  | (_, .optional, _) :: rest => emptyMembers rest
  | (k, _, s) :: rest => (k, emptyValue s) :: emptyMembers rest
end

/-- Reads an instant written as text; `what` names the type in errors. -/
def instant (what : String) (p : Instant.Precision) : Reader Json
  | .str s =>
    match Instant.read s with
    | .ok t => .ok (.str (t.render p))
    | .error e => Reader.fail (.other e.message)
  | j => Reader.wrongType j what

/-- Reads array items with a reader. -/
def readItems (r : Reader Json) (i : Nat) : List Json → Except DecodeError (List Json)
  | [] => .ok []
  | x :: rest => do
    let y ← Reader.inside (.index i) r x
    let ys ← readItems r (i + 1) rest
    pure (y :: ys)

/-- Reads map entries with a reader. -/
def readEntries (r : Reader Json) : List (String × Json) → Except DecodeError (List (String × Json))
  | [] => .ok []
  | (k, v) :: rest => do
    let y ← Reader.inside (.key k) r v
    let ys ← readEntries r rest
    pure ((k, y) :: ys)

mutual
/-- Reads a document through a schema. -/
def read : Schema → Reader Json
  | .string => fun j => (Reader.string j).map .str
  | .boolean => fun j => (Reader.bool j).map .bool
  | .int32 => fun j => (Reader.i32 j).map .int
  | .int64 => fun j => (Reader.i64 j).map .int
  | .intOrString => fun j =>
    match j with
    | .int n => (Reader.i32 (.int n)).map .int
    | .str s => .ok (.str s)
    | other => Reader.wrongType other "IntOrString"
  | .time => instant "a date and time" .seconds
  | .microTime => instant "a date and time" .micros
  | .any => .ok
  | .list s =>
    let r := read s
    fun j =>
      match j with
      | .arr xs => (readItems r 0 xs).map .arr
      | other => Reader.wrongType other "a sequence"
  | .map s =>
    let r := read s
    fun j =>
      match j with
      | .obj ms => (readEntries r ms).map fun es =>
          .obj (es.foldl (fun acc (k, v) => Reader.insertSorted k v acc) [])
      | other => Reader.wrongType other "a map"
  | .record name fs => fun j =>
    match j with
    | .obj ms =>
      match readFields ms fs with
      | (_, some (_, e)) => .error e
      | (ys, none) => .ok (.obj ys)
    | other => Reader.wrongType other name

/-- Reads the known members of a record and writes them in schema order. A member that
cannot be read is reported with its position in the input, and a missing required member
after all of them, so that the failure reported is the one met first in input order. -/
def readFields (ms : List (String × Json)) :
    List (String × Presence × Schema) → List (String × Json) × Option (Nat × DecodeError)
  | [] => ([], none)
  | (key, presence, s) :: rest =>
    let (others, fault) := readFields ms rest
    let located : Option (Nat × Json) := (ms.zipIdx.find? (·.1.1 == key)).map fun ((_, v), i) => (i, v)
    match located, presence with
    | some (_, Json.null), .optional => (others, fault)
    | some (_, Json.null), .defaulted => ((key, emptyValue s) :: others, fault)
    | some (i, v), _ =>
      match Reader.inside (.key key) (read s) v with
      | .ok y => ((key, y) :: others, fault)
      | .error e => (others, Reader.earlier (some (i, e)) fault)
    | none, .optional => (others, fault)
    | none, .defaulted => ((key, emptyValue s) :: others, fault)
    | none, .required =>
      (others, Reader.earlier (some (ms.length, { fault := .missingField key })) fault)
end

mutual
/-- The form of a type for reading JSON text: its records take only objects, and each member
may be absent, `null` or repeated. Times are read as texts. -/
def form : Schema → JsonText.Form
  | .string | .time | .microTime => .string
  | .boolean => .bool
  | .int32 => .int (-2147483648) 2147483647 "i32"
  | .int64 => .int (-9223372036854775808) 9223372036854775807 "i64"
  | .intOrString => .intOrString
  | .any => .any
  | .list s => .list (form s)
  | .map s => .map (form s)
  | .record name fs => .record name (memberForms fs) false

/-- The forms of a record's members. -/
def memberForms : List (String × Presence × Schema) → List (String × JsonText.Form × Bool)
  | [] => []
  | (k, _, s) :: rest => (k, form s, true) :: memberForms rest
end

end Schema

/-- A record schema. -/
def record (name : String) (fs : List (String × Presence × Schema)) : Schema := .record name fs

/-- An optional member. -/
def opt (key : String) (s : Schema) : String × Presence × Schema := (key, .optional, s)

/-- A required member. -/
def req (key : String) (s : Schema) : String × Presence × Schema := (key, .required, s)

/-- A member that reads as empty when absent. -/
def dfl (key : String) (s : Schema) : String × Presence × Schema := (key, .defaulted, s)

/-- Optional text members. -/
def optStrs (keys : List String) : List (String × Presence × Schema) := keys.map (opt · .string)

/-- A list of texts. -/
def strList : Schema := .list .string

/-- A map of texts. -/
def strMap : Schema := .map .string

end CsiOperator.Kube
