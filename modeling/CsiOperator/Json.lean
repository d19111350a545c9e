/-!
JSON documents. Kubernetes objects, the operator's configuration files and the status it
writes are all JSON documents, so one value type carries them through the library.

Object members keep the order in which they were read or built: a writer that must follow a
schema's field order (the spec hash, YAML output) builds the members in that order. Integers
and numbers written with a fraction or an exponent stay apart, because typed readers accept
one where they refuse the other.
-/

namespace CsiOperator

/-- A JSON value. `num negative d e` is the number `±d · 10^e`, written with a fraction or
exponent; its sign is kept apart so that negative zero has one. -/
inductive Json where
  | null
  | bool (b : Bool)
  | int (n : Int)
  | num (negative : Bool) (digits : Nat) (exponent : Int)
  | str (s : String)
  | arr (items : List Json)
  | obj (members : List (String × Json))
deriving Inhabited, Repr

namespace Json

mutual
/-- Structural equality: members are compared in order. -/
def beq : Json → Json → Bool
  | .null, .null => true
  | .bool a, .bool b => a == b
  | .int a, .int b => a == b
  | .num n d e, .num n' d' e' => n == n' && d == d' && e == e'
  | .str a, .str b => a == b
  | .arr xs, .arr ys => beqItems xs ys
  | .obj xs, .obj ys => beqMembers xs ys
  | _, _ => false

/-- `beq` on item lists. -/
def beqItems : List Json → List Json → Bool
  | [], [] => true
  | x :: xs, y :: ys => beq x y && beqItems xs ys
  | _, _ => false

/-- `beq` on member lists. -/
def beqMembers : List (String × Json) → List (String × Json) → Bool
  | [], [] => true
  | (k, x) :: xs, (l, y) :: ys => k == l && beq x y && beqMembers xs ys
  | _, _ => false
end

instance : BEq Json := ⟨beq⟩

/-- The value of the first member named `key`, if this is an object that has one. -/
def get? : Json → String → Option Json
  | .obj ms, key => (ms.find? (·.1 == key)).map (·.2)
  | _, _ => none

/-- The value at a path of member names. -/
def getPath? (j : Json) : List String → Option Json
  | [] => some j
  | k :: ks => (j.get? k).bind (·.getPath? ks)

/-- The members of an object, or none. -/
def members? : Json → Option (List (String × Json))
  | .obj ms => some ms
  | _ => none

/-- The members of an object; any other value has none. -/
def members (j : Json) : List (String × Json) := j.members?.getD []

/-- The items of an array, or none. -/
def items? : Json → Option (List Json)
  | .arr xs => some xs
  | _ => none

/-- The text of a string value, or none. -/
def str? : Json → Option String
  | .str s => some s
  | _ => none

/-- The truth value of a boolean, or none. -/
def bool? : Json → Option Bool
  | .bool b => some b
  | _ => none

/-- The value of an integer, or none. -/
def int? : Json → Option Int
  | .int n => some n
  | _ => none

/-- Whether this is `null`. -/
def isNull : Json → Bool
  | .null => true
  | _ => false

/-- A member that is absent or `null` reads as missing. -/
def field? (j : Json) (key : String) : Option Json :=
  match j.get? key with
  | some .null => none
  | other => other

/-- A string member, `""` when missing or not a string. -/
def strD (j : Json) (key : String) : String := ((j.get? key).bind str?).getD ""

/-- A boolean member, `false` when missing or not a boolean. -/
def boolD (j : Json) (key : String) : Bool := ((j.get? key).bind bool?).getD false

/-- An array member, empty when missing or not an array. -/
def arrD (j : Json) (key : String) : List Json := ((j.get? key).bind items?).getD []

/-- Replaces the first member named `key` in place, or appends one. -/
def setMember (ms : List (String × Json)) (key : String) (v : Json) : List (String × Json) :=
  if ms.any (·.1 == key) then
    let rec go : List (String × Json) → List (String × Json)
      | [] => []
      | (k, x) :: rest => if k == key then (k, v) :: rest else (k, x) :: go rest
    go ms
  else ms ++ [(key, v)]

/-- Sets a member of an object; any other value becomes an object with that one member. -/
def set (j : Json) (key : String) (v : Json) : Json :=
  .obj (setMember j.members key v)

/-- Removes every member named `key`. -/
def erase (j : Json) (key : String) : Json :=
  match j with
  | .obj ms => .obj (ms.filter (·.1 != key))
  | other => other

/-- An object from members whose values may be absent: absent ones are left out. -/
def fields (ms : List (String × Option Json)) : Json :=
  .obj (ms.filterMap fun (k, v) => v.map (k, ·))

/-- An array of strings. -/
def strs (xs : List String) : Json := .arr (xs.map .str)

/-- An object of string members. -/
def strMap (ms : List (String × String)) : Json := .obj (ms.map fun (k, v) => (k, .str v))

/-- The string members of an object, in order; other members are skipped. -/
def strMembers (j : Json) : List (String × String) :=
  j.members.filterMap fun (k, v) => v.str?.map (k, ·)

/-- An optional string member of a read document. -/
def strOpt (j : Json) (key : String) : Option String := (j.get? key).bind str?

/-- An optional boolean member of a read document. -/
def boolOpt (j : Json) (key : String) : Option Bool := (j.get? key).bind bool?

/-- An optional integer member of a read document. -/
def intOpt (j : Json) (key : String) : Option Int := (j.get? key).bind int?

/-- A list of texts. -/
def strList (j : Json) : List String := (j.items?.getD []).filterMap str?

/-- An optional member of a document, written only when present. -/
def optStr (o : Option String) : Option Json := o.map .str

mutual
/-- Applies a JSON merge patch: a patch object sets or (with `null`) removes members,
recursively; any other patch replaces the target. -/
def mergePatch : Json → Json → Json
  | target, .obj ps => .obj (patchMembers target.members ps)
  | _, p => p

/-- The member list of `mergePatch`. -/
def patchMembers (base : List (String × Json)) : List (String × Json) → List (String × Json)
  | [] => base
  | (k, .null) :: rest => patchMembers (base.filter (·.1 != k)) rest
  | (k, v) :: rest =>
    let old := ((base.find? (·.1 == k)).map (·.2)).getD .null
    patchMembers (setMember base k (mergePatch old v)) rest
end

end Json

end CsiOperator
