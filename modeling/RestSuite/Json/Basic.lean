import RestSuite.OrderedMap

/-!
# JSON values

The values that scripts, bindings and bodies are made of. A number is an integer between `-2 ^ 63`
and `2 ^ 64 - 1`, or a float; the two kinds are never equal, so `1` and `1.0` differ. Objects keep
the order of their members, but `Json.same` does not look at it.
-/

namespace RestSuite

/-- A JSON number. -/
inductive Number where
  /-- An integer that fits a signed or an unsigned word of 64 bits. -/
  | integer (value : Int)
      (fits : -0x8000000000000000 ≤ value ∧ value < 0x10000000000000000)
  /-- A number with a fraction, an exponent or a value out of range, and minus zero. -/
  | real (value : Float)
  deriving DecidableEq

namespace Number

/-- A natural number, or zero if it does not fit. -/
def ofNat (n : Nat) : Number :=
  if h : n < 0x10000000000000000 then .integer n (by omega) else .integer 0 (by omega)

/-- Equal numbers of one kind. Floats are compared by value, so both zeros are equal. -/
def same : Number → Number → Bool
  | .integer a _, .integer b _ => a == b
  | .real a, .real b => a == b
  | _, _ => false

/-- The number if it is an integer that is not negative. -/
def natural? : Number → Option Nat
  | .integer value _ => if 0 ≤ value then some value.toNat else none
  | .real _ => none

/-- The nearest float. -/
def toFloat : Number → Float
  | .integer (.ofNat n) _ => (UInt64.ofNat n).toFloat
  | .integer (.negSucc n) _ => -(UInt64.ofNat (n + 1)).toFloat
  | .real value => value

end Number

/-- A JSON value. -/
inductive Json where
  | null
  | bool (value : Bool)
  | number (value : Number)
  | string (value : String)
  | array (items : List Json)
  | object (members : List (String × Json))

namespace Json

instance : Inhabited Json := ⟨.null⟩

/-- A natural number as a value. -/
def ofNat (n : Nat) : Json :=
  .number (.ofNat n)

/-- The word for the kind of a value. -/
def kind : Json → String
  | .null => "null"
  | .bool _ => "boolean"
  | .number _ => "number"
  | .string _ => "string"
  | .array _ => "array"
  | .object _ => "object"

/-- The member of an object with the given name. -/
def field? : Json → String → Option Json
  | .object members, name => OrderedMap.get? members name
  | _, _ => none

/-- The item of an array at the given index. -/
def item? : Json → Nat → Option Json
  | .array items, index => items[index]?
  | _, _ => none

/-- The text of a string. -/
def text? : Json → Option String
  | .string value => some value
  | _ => none

/-- The value of an integer that is not negative. -/
def natural? : Json → Option Nat
  | .number n => n.natural?
  | _ => none

/-- The nearest float of a number. -/
def float? : Json → Option Float
  | .number n => some n.toFloat
  | _ => none

/-! ## Equality -/

mutual

/-- Structural equality that ignores the order of object members. -/
def same : Json → Json → Bool
  | .null, .null => true
  | .bool a, .bool b => a == b
  | .number a, .number b => a.same b
  | .string a, .string b => a == b
  | .array as, .array bs => sameItems as bs
  | .object as, .object bs => as.length == bs.length && sameMembers as bs
  | _, _ => false

/-- Items are equal one by one. -/
def sameItems : List Json → List Json → Bool
  | [], [] => true
  | a :: as, b :: bs => same a b && sameItems as bs
  | _, _ => false

/-- Every member is found, with an equal value, among the others. -/
def sameMembers : List (String × Json) → List (String × Json) → Bool
  | [], _ => true
  | (name, a) :: as, bs =>
    (match OrderedMap.get? bs name with
      | some b => same a b
      | none => false) && sameMembers as bs

end

/-! ## Size and shape -/

mutual

/-- No object in the value has two members of one name. -/
def Distinct : Json → Prop
  | .array items => DistinctItems items
  | .object members => OrderedMap.Distinct members ∧ DistinctMembers members
  | _ => True

/-- `Distinct` of every item. -/
def DistinctItems : List Json → Prop
  | [] => True
  | item :: rest => Distinct item ∧ DistinctItems rest

/-- `Distinct` of every member's value. -/
def DistinctMembers : List (String × Json) → Prop
  | [] => True
  | (_, value) :: rest => Distinct value ∧ DistinctMembers rest

end

mutual

/-- How many containers are nested in the value. -/
def depth : Json → Nat
  | .array items => depthItems items + 1
  | .object members => depthMembers members + 1
  | _ => 0

/-- The greatest depth among items. -/
def depthItems : List Json → Nat
  | [] => 0
  | item :: rest => max (depth item) (depthItems rest)

/-- The greatest depth among members. -/
def depthMembers : List (String × Json) → Nat
  | [] => 0
  | (_, value) :: rest => max (depth value) (depthMembers rest)

end

end Json

end RestSuite
