import CsiOperator.Yaml.Node
import CsiOperator.Yaml.Resolve
/-!
Typed reading of YAML documents.

A reader takes a node to a value of its type or says why it cannot, naming the path to the
refused part (`drivers[0].name`) and the mark where that part begins. Text readers accept any
scalar; boolean readers accept only the plain words `true` and `false`; an empty plain scalar
reads as an empty sequence or record.

Records are read member by member in the order of the text: the failure reported is the
first one met in that order, and a missing member is reported only when no member failed.
Members a record does not know are skipped, but a syntax error inside them still counts.
-/

namespace CsiOperator.Yaml

/-- Why a YAML document could not be read. -/
inductive YamlError where
  | malformed (e : SyntaxError)
  | decode (path : List PathStep) (fault : DecodeFault) (mark : Mark)
  | moreThanOneDocument
deriving DecidableEq, Repr, Inhabited

namespace YamlError

/-- The text of a path: member names joined by dots, indices in brackets, and `.` for the
root. -/
def pathText (path : List PathStep) : String :=
  match path with
  | [] => "."
  | _ =>
    path.foldl (fun acc step =>
      match step with
      | .key k => (if acc.isEmpty then "" else acc ++ ".") ++ k
      | .index i => (if acc.isEmpty then "." else acc) ++ "[" ++ toString i ++ "]") ""

/-- How the error is described. -/
def message : YamlError → String
  | .malformed e => e.message
  | .decode path fault m =>
    let p := pathText path
    (if p == "." then "" else p ++ ": ") ++ fault.message ++
      (if m.isStart then "" else " at " ++ m.describe)
  | .moreThanOneDocument => "deserializing from YAML containing more than one document is not supported"

/-- A failure one step further down. -/
def under (step : PathStep) : YamlError → YamlError
  | .decode path f m => .decode (step :: path) f m
  | e => e

end YamlError

/-- A typed reader of YAML nodes. -/
abbrev YReader (α : Type) := Node → Except YamlError α

namespace YReader

/-- Runs a reader on a part, recording the step to it. -/
def inside {α : Type} (step : PathStep) (r : YReader α) : YReader α := fun n =>
  match r n with
  | .error (.decode path f m) => .error (.decode (step :: path) f m)
  | other => other

/-- The full name of the core schema's tag that demands a boolean. -/
def boolTag : String := "tag:yaml.org,2002:bool"

/-- The full name of the core schema's tag that demands an integer. -/
def intTag : String := "tag:yaml.org,2002:int"

/-- The full name of the core schema's tag that demands a float. -/
def floatTag : String := "tag:yaml.org,2002:float"

/-- The full name of the core schema's tag that demands a null. -/
def nullTag : String := "tag:yaml.org,2002:null"

/-- The boolean a text spells, in one of three spellings. -/
def boolWord? (t : String) : Option Bool :=
  if t == "true" || t == "True" || t == "TRUE" then some true
  else if t == "false" || t == "False" || t == "FALSE" then some false
  else none

/-- What a scalar stands for when it is taken for a value of any kind. A tag of the core
schema demands its kind and refuses a text that does not spell one; a plain scalar without a
tag, or with a local one, is resolved as untagged; any other scalar is a string. -/
def scalarValue (t : String) (style : ScalarStyle) (tag : Option String) :
    Except DecodeFault Resolved :=
  match tag with
  | some g =>
    if g == boolTag then
      match boolWord? t with
      | some b => .ok (.bool b)
      | none => .error (.invalidValue (.str t) "a boolean")
    else if g == intTag then
      match resolveInt t with
      | some r => .ok r
      | none => .error (.invalidValue (.str t) "an integer")
    else if g == floatTag then
      match resolveFloat t with
      | some x => .ok (.float x)
      | none => .error (.invalidValue (.str t) "a float")
    else if g == nullTag then
      if t == "~" || t == "null" || t == "Null" || t == "NULL" then .ok .null
      else .error (.invalidValue (.str t) "null")
    else if g.startsWith "!" && style == .plain then .ok (resolvePlain t)
    else .ok .str
  | none => .ok (if style == .plain then resolvePlain t else .str)

/-- The mark of a node. -/
def markOf : Node → Mark
  | .scalar _ _ _ m | .seq _ m _ | .map _ m _ => m
  | .broken e => e.problemMark

/-- The refusal of a node by a reader expecting something else. A scalar is described by what
it stands for, and one whose tag refuses it is reported for that. -/
def refusal (n : Node) (expected : String) : YamlError :=
  match n with
  | .broken e => .malformed e
  | .scalar t style tag m =>
    match scalarValue t style tag with
    | .ok r => .decode [] (.invalidType (r.unexpected t) expected) m
    | .error f => .decode [] f m
  | .seq _ m _ => .decode [] (.invalidType .seq expected) m
  | .map _ m _ => .decode [] (.invalidType .map expected) m

/-- Refuses a node, expecting something else. -/
def wrongType {α : Type} (n : Node) (expected : String) : Except YamlError α :=
  .error (refusal n expected)

/-- Whether a node is an empty plain scalar, which reads as an empty collection whatever its
tag. -/
def isEmptyPlain : Node → Bool
  | .scalar "" .plain _ _ => true
  | _ => false

/-- Reads any scalar as its text. -/
def string : YReader String
  | .scalar t _ _ _ => .ok t
  | n => wrongType n "a string"

/-- Reads a boolean word: from a plain scalar whatever its tag, or from a literal block
tagged as a boolean. -/
def bool : YReader Bool
  | n@(.scalar t style tag _) =>
    if style == .plain || (style == .literal && tag == some boolTag) then
      match boolWord? t with
      | some b => .ok b
      | none => wrongType n "a boolean"
    else wrongType n "a boolean"
  | n => wrongType n "a boolean"

/-- Reads the items of a sequence. -/
def list {α : Type} (r : YReader α) : YReader (List α) := fun n =>
  match n with
  | .seq items _ _ =>
    let rec go (i : Nat) : List Node → Except YamlError (List α)
      | [] => .ok []
      | x :: rest => do
        let a ← inside (.index i) r x
        let as ← go (i + 1) rest
        pure (a :: as)
    go 0 items
  | _ => if isEmptyPlain n then .ok [] else wrongType n "a sequence"

/-- Reads a list of texts. -/
def strs : YReader (List String) := list string

/-- The first syntax error inside a node. -/
def brokenIn : Node → Option SyntaxError
  | .broken e => some e
  | .scalar .. => none
  | .seq items _ _ => brokenItems items
  | .map entries _ _ => brokenEntries entries
where
  brokenItems : List Node → Option SyntaxError
    | [] => none
    | n :: rest => (brokenIn n).or (brokenItems rest)
  brokenEntries : List (Node × Node) → Option SyntaxError
    | [] => none
    | (k, v) :: rest => (brokenIn k).or ((brokenIn v).or (brokenEntries rest))

/-- The failure of taking a node tagged with a local tag for a value of any kind: such a tag
would name a variant of an enumeration. -/
def enumInput (m : Mark) : YamlError :=
  .decode [] (.other "untagged and internally tagged enums do not support enum input") m

/-- Whether a tag is a local one. -/
def isLocalTag (tag : Option String) : Bool := (tag.map (·.startsWith "!")).getD false

/-- The first failure met while a node is taken for a value of any kind, as a record keeps the
members it does not know when another record is flattened into it: a syntax error, a local
tag, a scalar its tag refuses, or an integer beyond 64 bits. -/
def anyValueError? : Node → Option YamlError
  | .broken e => some (.malformed e)
  | .scalar t style tag m =>
    if isLocalTag tag then some (enumInput m)
    else match scalarValue t style tag with
      | .error f => some (.decode [] f m)
      | .ok (.wideInt n signed) =>
        some (.decode [] (.invalidType ((Resolved.wideInt n signed).unexpected t) "any value") m)
      | .ok _ => none
  | .seq items m tag => if isLocalTag tag then some (enumInput m) else anyItems 0 items
  | .map entries m tag => if isLocalTag tag then some (enumInput m) else anyEntries entries
where
  anyItems (i : Nat) : List Node → Option YamlError
    | [] => none
    | n :: rest => ((anyValueError? n).map (YamlError.under (.index i))).or (anyItems (i + 1) rest)
  anyEntries : List (Node × Node) → Option YamlError
    | [] => none
    | (k, v) :: rest =>
      let underKey (e : YamlError) : YamlError := match k with
        | .scalar t _ _ _ => e.under (.key t)
        | _ => e
      (anyValueError? k).or (((anyValueError? v).map underKey).or (anyEntries rest))

/-- The first failure met while reading a record, ranked as for JSON records. -/
abbrev Scan := StateM (Option (Nat × YamlError))

/-- Records a failure of rank `rank` unless one of a lower rank is already recorded. -/
def note (rank : Nat) (e : YamlError) : Scan Unit := modify (Reader.earlier · (some (rank, e)))

/-- The members of a mapping being read as a record. -/
structure Members where
  entries : List (Node × Node)
  mark : Mark
  /-- The member names the record knows. -/
  known : List String

namespace Members

/-- The key text of an entry, if its key is a scalar. -/
def keyText : Node × Node → Option String
  | (.scalar t _ _ _, _) => some t
  | _ => none

/-- The positions and values of the entries with a key. -/
def lookup (ms : Members) (key : String) : List (Nat × Node) :=
  (ms.entries.zipIdx.filter fun (e, _) => keyText e == some key).map fun ((_, v), i) => (i, v)

/-- A failure at the record itself. -/
def fault (ms : Members) (f : DecodeFault) : YamlError := .decode [] f ms.mark

/-- Reads a present member, noting a repeated key or a failure at the member's position. -/
def present {α : Type} [Inhabited α] (ms : Members) (key : String) (found : List (Nat × Node))
    (r : YReader α) : Scan (Option α) := do
  match found with
  | [] => pure none
  | (i, v) :: rest =>
    if let (j, _) :: _ := rest then note j (ms.fault (.duplicateField key))
    match inside (.key key) r v with
    | .ok a => pure (some a)
    | .error e => do note i e; pure (some default)

/-- A required member. -/
def req {α : Type} [Inhabited α] (ms : Members) (key : String) (r : YReader α) : Scan α := do
  match ← ms.present key (ms.lookup key) r with
  | some a => pure a
  | none => do note ms.entries.length (ms.fault (.missingField key)); pure default

/-- A member that takes a default value when absent. -/
def dflt {α : Type} [Inhabited α] (ms : Members) (key : String) (d : α) (r : YReader α) : Scan α :=
  (·.getD d) <$> ms.present key (ms.lookup key) r

/-- A text member of a record flattened into this one: taken from the members this record does
not know, and read after all of them. -/
def flatStr (ms : Members) (key : String) : Scan String := do
  let found := (ms.lookup key).filter fun _ => !ms.known.contains key
  let rank (i : Nat) := ms.entries.length + 1 + i
  match found with
  | [] => pure ""
  | (i, v) :: rest =>
    if let (j, _) :: _ := rest then note (rank j) (ms.fault (.duplicateField key))
    match v with
    | .scalar t style tag _ =>
      match scalarValue t style tag with
      | .ok .str => pure t
      | .ok r => do note (rank i) (ms.fault (.invalidType (r.unexpected t) "a string")); pure ""
      | .error _ => pure ""
    | .broken _ => pure ""
    | .seq .. => do note (rank i) (ms.fault (.invalidType .seq "a string")); pure ""
    | .map .. => do note (rank i) (ms.fault (.invalidType .map "a string")); pure ""

end Members

/-- Reads a mapping as a record named `what` knowing the members `known`; the body reads
them. With `keepsOthers`, another record is flattened into this one, and the members this one
does not know are kept for it as values of any kind, which they must be; otherwise they are
skipped. -/
def recordOf {α : Type} [Inhabited α] (keepsOthers : Bool) (what : String) (known : List String)
    (body : Members → Scan α) : YReader α := fun n =>
  let run (entries : List (Node × Node)) (m : Mark) : Except YamlError α :=
    let ms : Members := { entries, mark := m, known }
    let checks : Scan Unit := ms.entries.zipIdx.forM fun ((k, v), i) => do
      match k with
      | .broken e => note i (.malformed e)
      | .scalar t _ _ _ =>
        if known.contains t then pure ()
        else if keepsOthers then
          match anyValueError? v with
          | some e => note i (e.under (.key t))
          | none => pure ()
        else
          match brokenIn v with
          | some e => note i (.malformed e)
          | none => pure ()
      | other => note i (refusal other "field identifier")
    match (do checks; body ms).run none with
    | (_, some (_, e)) => .error e
    | (a, none) => .ok a
  match n with
  | .map entries m _ => run entries m
  | _ => if isEmptyPlain n then run [] (markOf n) else wrongType n what

/-- Reads a mapping as a record, skipping the members it does not know. -/
def record {α : Type} [Inhabited α] (what : String) (known : List String)
    (body : Members → Scan α) : YReader α :=
  recordOf false what known body

/-- Reads a mapping as a record into which another is flattened. -/
def flatRecord {α : Type} [Inhabited α] (what : String) (known : List String)
    (body : Members → Scan α) : YReader α :=
  recordOf true what known body

end YReader

/-- Reads the single document of a YAML text. An empty text reads as an empty document. -/
def readDocument {α : Type} (r : YReader α) (text : String) : Except YamlError α :=
  let st := Stream.ofText text
  match st.first with
  | none =>
    match st.error with
    | some e => .error (.malformed e)
    | none => r (.scalar "" .plain none {})
  | some n => do
    let a ← r n
    if let some e := st.error then throw (.malformed e)
    if st.more then throw .moreThanOneDocument
    pure a

end CsiOperator.Yaml
