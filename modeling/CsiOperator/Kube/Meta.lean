import CsiOperator.Kube.Types
/-!
Object metadata, read and changed as a document: names, namespace, labels, annotations,
finalizers, owner references and the server-assigned uid and resource version.
-/

namespace CsiOperator.Meta

/-- The metadata of an object. -/
def of (obj : Json) : Json := (obj.get? "metadata").getD (.obj [])

/-- Replaces the metadata of an object. -/
def setOf (obj : Json) (md : Json) : Json := obj.set "metadata" md

/-- Changes the metadata of an object. -/
def modify (obj : Json) (f : Json → Json) : Json := setOf obj (f (of obj))

/-- The object's name, if set. -/
def name? (obj : Json) : Option String := (of obj).strOpt "name"

/-- The object's name, or its name prefix, or the empty text. -/
def nameAny (obj : Json) : String :=
  (name? obj).getD (((of obj).strOpt "generateName").getD "")

/-- The object's namespace, if set. -/
def namespace? (obj : Json) : Option String := (of obj).strOpt "namespace"

/-- The object's uid, if set. -/
def uid? (obj : Json) : Option String := (of obj).strOpt "uid"

/-- The object's labels, if set. -/
def labels? (obj : Json) : Option (List (String × String)) :=
  ((of obj).get? "labels").map Json.strMembers

/-- The object's annotations, if set. -/
def annotations? (obj : Json) : Option (List (String × String)) :=
  ((of obj).get? "annotations").map Json.strMembers

/-- The object's finalizers; none when unset. -/
def finalizers (obj : Json) : List String := (((of obj).get? "finalizers").map Json.strList).getD []

/-- Whether deletion of the object has been requested. -/
def beingDeleted (obj : Json) : Bool := ((of obj).get? "deletionTimestamp").isSome

/-- The object's owner references; none when unset. -/
def ownerReferences (obj : Json) : List Json := ((of obj).get? "ownerReferences").bind Json.items? |>.getD []

/-- Sets one metadata member. -/
def setField (obj : Json) (key : String) (v : Json) : Json := modify obj (·.set key v)

/-- Sets the annotations. -/
def setAnnotations (obj : Json) (as : List (String × String)) : Json :=
  setField obj "annotations" (Json.strMap as)

/-- Sets the finalizers. -/
def setFinalizers (obj : Json) (fs : List String) : Json := setField obj "finalizers" (Json.strs fs)

end CsiOperator.Meta

namespace CsiOperator.Labels

/-- A label selector's text: `key=value` pairs in key order, comma separated. -/
def selectorText (labels : List (String × String)) : String :=
  ",".intercalate ((labels.foldl (fun acc (k, v) => Reader.insertSorted k v acc) []).map
    fun (k, v) => k ++ "=" ++ v)

/-- Whether labels carry every pair of a selector. -/
def satisfy (labels : Option (List (String × String))) (selector : List (String × String)) : Bool :=
  selector.all fun (k, v) => ((labels.getD []).find? (·.1 == k)).map (·.2) == some v

end CsiOperator.Labels
