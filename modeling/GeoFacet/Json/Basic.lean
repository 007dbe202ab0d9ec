import GeoFacet.Decimal.Read

/-!
# Document values

A document value keeps whole numbers apart from doubles. The members of an object that was read
stand in document order; a *settled* value has the members of every object in ascending order of
their keys, each key once, the last one written winning. Every value the library builds is settled.
-/

namespace GeoFacet

/-- A document value. -/
inductive Json where
  | null
  | bool (b : Bool)
  /-- a whole number of the signed or unsigned 64-bit range -/
  | int (n : Int)
  /-- a finite double -/
  | float (x : Float)
  | text (s : String)
  | list (items : List Json)
  | object (members : List (String × Json))
  deriving Inhabited

namespace Json

/-! ## Equality -/

mutual

/-- Equality of values; a whole number differs from a double of the same size. -/
def beq : Json → Json → Bool
  | .null, .null => true
  | .bool a, .bool b => a == b
  | .int a, .int b => a == b
  | .float a, .float b => a == b
  | .text a, .text b => a == b
  | .list a, .list b => beqItems a b
  | .object a, .object b => beqMembers a b
  | _, _ => false

def beqItems : List Json → List Json → Bool
  | [], [] => true
  | a :: as, b :: bs => beq a b && beqItems as bs
  | _, _ => false

def beqMembers : List (String × Json) → List (String × Json) → Bool
  | [], [] => true
  | (k, a) :: as, (l, b) :: bs => k == l && beq a b && beqMembers as bs
  | _, _ => false

end

instance : BEq Json := ⟨beq⟩

/-! ## Objects -/

/-- Puts a member into an ascending list of members, in place of one with the same key. -/
def insertMember (key : String) (value : Json) : List (String × Json) → List (String × Json)
  | [] => [(key, value)]
  | (k, v) :: rest =>
    if key < k then (key, value) :: (k, v) :: rest
    else if key = k then (key, value) :: rest
    else (k, v) :: insertMember key value rest

/-- The settled object with the given members; of two with one key the later stays. -/
def ofMembers (members : List (String × Json)) : Json :=
  .object (members.foldl (fun acc m => insertMember m.1 m.2 acc) [])

/-- The object with the members that are present. -/
def ofPresent (members : List (String × Option Json)) : Json :=
  ofMembers (members.filterMap fun (k, v) => v.map (k, ·))

mutual

/-- The settled form of a value that was read. -/
def settled : Json → Json
  | .list items => .list (settledItems items)
  | .object members => ofMembers (settledMembers members)
  | v => v

def settledItems : List Json → List Json
  | [] => []
  | v :: rest => settled v :: settledItems rest

def settledMembers : List (String × Json) → List (String × Json)
  | [] => []
  | (k, v) :: rest => (k, settled v) :: settledMembers rest

end

/-! ## Building and looking inside -/

/-- A double, or null where it is not finite. -/
def ofFloat (x : Float) : Json := if x.isFinite then .float x else .null

def ofNat (n : Nat) : Json := .int n

/-- The value, or null. -/
def ofOption {α : Type} (encode : α → Json) (a : Option α) : Json :=
  (a.map encode).getD .null

/-- The members of an object, none for any other value. -/
def members : Json → List (String × Json)
  | .object ms => ms
  | _ => []

/-- The member of that name, if the value is an object that has one. -/
def get? (v : Json) (key : String) : Option Json :=
  v.members.lookup key

/-- The member of that name, or null. -/
def member (v : Json) (key : String) : Json := (v.get? key).getD .null

def isNull : Json → Bool
  | .null => true
  | _ => false

def asText? : Json → Option String
  | .text s => some s
  | _ => none

def asList? : Json → Option (List Json)
  | .list items => some items
  | _ => none

/-- A whole number from zero up. -/
def asNat? : Json → Option Nat
  | .int n => if 0 ≤ n then some n.toNat else none
  | _ => none

/-- A whole number of the signed 64-bit range. -/
def asInt64? : Json → Option Int
  | .int n => if n ≤ Int64.maxValue.toInt then some n else none
  | _ => none

/-- Any number, as the nearest double. -/
def asFloat? : Json → Option Float
  | .int n => some (Float.ofInt n)
  | .float x => some x
  | _ => none

end Json

end GeoFacet
