import CsiOperator.Kube.Kind
import CsiOperator.Kube.Meta
import CsiOperator.Error
/-!
A cluster held in memory: objects as documents keyed by kind, namespace and name, with the
bookkeeping of an API server. Creation assigns uids and resource versions; updates keep the
stored status, uid and resource version; merge patches apply to stored objects; every write
is recorded; failures can be injected per verb and kind. Reads never fail. The server also
reports the API groups it serves and its version.

The namespace of a cluster-scoped object is the empty text; a namespaced object without one
lives in `default`. One counter numbers the uids of seeded and created objects.

A cluster can also stand for an API server that cannot be reached: then every request fails
with a connection error.
-/

namespace CsiOperator.Cluster

/-- A kind of write. -/
inductive Verb where
  | create
  | update
  | updateStatus
  | delete
  | patch
deriving DecidableEq, Repr, Inhabited

/-- The name of a write, as recorded. -/
def Verb.name : Verb → String
  | .create => "create"
  | .update => "update"
  | .updateStatus => "update_status"
  | .delete => "delete"
  | .patch => "patch"

/-- The write with a name. -/
def Verb.ofName? : String → Option Verb
  | "create" => some .create
  | "update" => some .update
  | "update_status" => some .updateStatus
  | "delete" => some .delete
  | "patch" => some .patch
  | _ => none

/-- Where an object is stored. -/
structure Key where
  kind : ResourceKind
  ns : String
  name : String
deriving DecidableEq, Repr, Inhabited

/-- Keys are ordered by kind name, namespace and name. -/
def Key.before (a b : Key) : Bool :=
  a.kind.name < b.kind.name ||
    (a.kind.name == b.kind.name && (a.ns < b.ns ||
      (a.ns == b.ns && a.name < b.name)))

/-- One recorded write. -/
structure Write where
  verb : Verb
  kind : ResourceKind
  name : String
deriving DecidableEq, Repr, Inhabited

/-- A write that is made to fail. -/
structure Failure where
  verb : Verb
  kind : ResourceKind
  message : String
deriving DecidableEq, Repr, Inhabited

end CsiOperator.Cluster

namespace CsiOperator

open Cluster in
/-- A cluster's objects and bookkeeping. -/
structure Cluster where
  /-- The stored objects, in key order. -/
  objects : List (Cluster.Key × Json) := []
  writes : List Cluster.Write := []
  failures : List Cluster.Failure := []
  /-- The number of the last uid assigned. -/
  lastUid : Nat := 0
  /-- Whether the API server can be reached. -/
  online : Bool := true
  /-- The API groups the server serves. -/
  apiGroups : List String := []
  /-- The major and minor version the server reports. -/
  serverVersion : String × String := ("1", "17")
deriving Inhabited

/-- Computations against a cluster; a failure keeps the writes made before it. -/
abbrev ClusterM := ExceptT OperatorError (StateM Cluster)

namespace Cluster

/-- The key of an object of a kind in a namespace. -/
def keyFor (k : ResourceKind) (ns : Option String) (name : String) : Key :=
  { kind := k, ns := if k.namespaced then ns.getD "default" else "", name }

/-- The key of an object of a kind. -/
def keyOf (k : ResourceKind) (obj : Json) : Key := keyFor k (Meta.namespace? obj) (Meta.nameAny obj)

/-- Puts an object under a key, keeping the key order. -/
def putObject (objs : List (Key × Json)) (key : Key) (v : Json) : List (Key × Json) :=
  match objs with
  | [] => [(key, v)]
  | (k, w) :: rest =>
    if k == key then (key, v) :: rest
    else if key.before k then (key, v) :: (k, w) :: rest
    else (k, w) :: putObject rest key v

/-- The stored object under a key. -/
def find? (c : Cluster) (key : Key) : Option Json := (c.objects.find? (·.1 == key)).map (·.2)

/-- A failure the server answers with. -/
def apiError (code : Nat) (reason message : String) : OperatorError :=
  .api (ApiFailure.failure message reason code)

/-- The next uid. -/
def freshUid : StateM Cluster String := do
  let c ← get
  set { c with lastUid := c.lastUid + 1 }
  pure ("uid-" ++ toString (c.lastUid + 1))

/-- Fails a request when the server cannot be reached. -/
def reach : ClusterM Unit := do
  if !(← get).online then throw (.api .unreachable)

/-- Fails a write that is made to fail. -/
def checkFailure (verb : Verb) (k : ResourceKind) : ClusterM Unit := do
  match (← get).failures.find? (fun f => f.verb == verb && f.kind == k) with
  | some f => throw (apiError 500 "InternalError" f.message)
  | none => pure ()

/-- Records a write. -/
def record (verb : Verb) (key : Key) : StateM Cluster Unit :=
  modify fun c => { c with writes := c.writes ++ [{ verb, kind := key.kind, name := key.name }] }

/-- Sets one metadata member of a document that has metadata. -/
def setMeta (obj : Json) (field : String) (v : Json) : Json :=
  match obj.get? "metadata" with
  | some md@(.obj _) => obj.set "metadata" (md.set field v)
  | _ => obj

/-- A numeral without its leading plus sign, if it has one. -/
def unsigned : List Char → List Char
  | '+' :: ds => ds
  | ds => ds

/-- Reads a resource version as an unsigned 64-bit number: decimal digits after an optional
plus sign, and no more than the largest such number. -/
def readVersion? (v : String) : Option Nat :=
  let ds := unsigned v.toList
  let n := Nat.ofDigitChars 10 ds 0
  if !ds.isEmpty && ds.all Char.isDigit && decide (n ≤ JsonText.u64Max) then some n else none

/-- The number an object's resource version stands for; a missing or unreadable one counts as
zero. -/
def versionOf (obj : Json) : Nat :=
  (((Meta.of obj).strOpt "resourceVersion").bind readVersion?).getD 0

/-- The version after one more write; the count wraps to zero past the largest 64-bit number. -/
def succVersion (n : Nat) : Nat := if n < JsonText.u64Max then n + 1 else 0

/-- Raises the resource version by one. -/
def bumpVersion (obj : Json) : Json :=
  setMeta obj "resourceVersion" (.str (toString (succVersion (versionOf obj))))

/-- Stores an object as it is, status included, without recording a write: it gets a uid when
it has none, and the default namespace when it is namespaced and has none. -/
def insert (k : ResourceKind) (obj : Json) : StateM Cluster Unit := do
  let obj ← if (Meta.uid? obj).isNone then do
      let uid ← freshUid
      pure (Meta.setField obj "uid" (.str uid))
    else pure obj
  let obj := if k.namespaced && (Meta.namespace? obj).isNone then Meta.setField obj "namespace" (.str "default") else obj
  modify fun c => { c with objects := putObject c.objects (keyOf k obj) obj }

/-- A cluster holding objects, stored as `insert` stores them, that fails the given requests. -/
def seeded (objects : List (ResourceKind × Json)) (failures : List Failure) : Cluster :=
  { ((objects.forM fun (k, v) => insert k v).run {}).2 with failures }

/-- The object of a kind with a name. -/
def get (k : ResourceKind) (ns : Option String) (name : String) : ClusterM (Option Json) := do
  reach
  pure ((← MonadState.get).find? (keyFor k ns name))

/-- The objects of a kind, within a namespace when one is given, that carry every label of a
selector; in key order. -/
def list (k : ResourceKind) (ns : Option String) (selector : List (String × String)) :
    ClusterM (List Json) := do
  reach
  let c ← MonadState.get
  pure ((c.objects.filter fun (key, obj) =>
    key.kind == k && (!k.namespaced || ns.all (· == key.ns)) &&
      Labels.satisfy (Meta.labels? obj) selector).map (·.2))

/-- Creates an object: it must not exist; its status is dropped and it gets a new uid. -/
def create (k : ResourceKind) (obj : Json) : ClusterM Json := do
  reach
  let key := keyOf k obj
  checkFailure .create k
  if ((← MonadState.get).find? key).isSome then
    throw (apiError 409 "AlreadyExists" (k.name ++ " \"" ++ key.name ++ "\" already exists"))
  let uid ← freshUid
  let v := setMeta (obj.erase "status") "uid" (.str uid)
  let v := if k.namespaced then setMeta v "namespace" (.str key.ns) else v
  let v := bumpVersion v
  record .create key
  modify fun c => { c with objects := putObject c.objects key v }
  pure v

/-- Replaces an object that exists, keeping its stored status, uid and resource version. -/
def update (k : ResourceKind) (obj : Json) : ClusterM Json := do
  reach
  let key := keyOf k obj
  checkFailure .update k
  let some existing := (← MonadState.get).find? key
    | throw (apiError 404 "NotFound" (k.name ++ " \"" ++ key.name ++ "\" not found"))
  let v := match existing.get? "status" with
    | some st => obj.set "status" st
    | none => obj.erase "status"
  let v := match (Meta.of existing).get? "uid" with
    | some uid => setMeta v "uid" uid
    | none => v
  let v := match (Meta.of existing).get? "resourceVersion" with
    | some rv => setMeta v "resourceVersion" rv
    | none => v
  let v := bumpVersion v
  record .update key
  modify fun c => { c with objects := putObject c.objects key v }
  pure v

/-- Deletes an object; deleting a missing object succeeds and records nothing. -/
def delete (k : ResourceKind) (ns : Option String) (name : String) : ClusterM Unit := do
  reach
  let key := keyFor k ns name
  checkFailure .delete k
  if ((← MonadState.get).find? key).isSome then
    record .delete key
    modify fun c => { c with objects := c.objects.filter (·.1 != key) }

/-- Replaces only the status of an object that exists. -/
def updateStatus (k : ResourceKind) (obj : Json) : ClusterM Json := do
  reach
  let key := keyOf k obj
  checkFailure .updateStatus k
  let some existing := (← MonadState.get).find? key
    | throw (apiError 404 "NotFound" (k.name ++ " \"" ++ key.name ++ "\" not found"))
  let v := bumpVersion (existing.set "status" ((obj.get? "status").getD .null))
  record .updateStatus key
  modify fun c => { c with objects := putObject c.objects key v }
  pure v

/-- Applies a merge patch to an object that exists. -/
def patch (k : ResourceKind) (ns : Option String) (name : String) (p : Json) : ClusterM Json := do
  reach
  let key := keyFor k ns name
  checkFailure .patch k
  let some existing := (← MonadState.get).find? key
    | throw (apiError 404 "NotFound" (k.name ++ " \"" ++ key.name ++ "\" not found"))
  let v := bumpVersion (Json.mergePatch existing p)
  record .patch key
  modify fun c => { c with objects := putObject c.objects key v }
  pure v

/-- The API groups the server serves. -/
def listApiGroups : ClusterM (List String) := do
  reach
  pure (← MonadState.get).apiGroups

/-- The major and minor version the server reports. -/
def version : ClusterM (String × String) := do
  reach
  pure (← MonadState.get).serverVersion

/-- Every stored object, kind by kind in the listing order, each kind in key order. -/
def dump (c : Cluster) : List Json :=
  ResourceKind.stored.flatMap fun k => (c.objects.filter (·.1.kind == k)).map (·.2)

end Cluster

end CsiOperator
