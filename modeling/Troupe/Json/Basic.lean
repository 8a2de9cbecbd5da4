import Troupe.Binary64
import Troupe.Id

/-!
# JSON values

Numbers are whole numbers that fit 64 bits, signed or unsigned, or finite doubles; the two
kinds never equal each other, and the two zeros of the doubles do.  The fields of an object
are kept in increasing key order, by code points, which is also the order in which everything
visits them.  `Json.same` is equality in this sense; `Json.Canonical` says that every object
of a value is in order.
-/

namespace Troupe

/-- The whole numbers that a JSON number can hold exactly: those of 64 bits, signed or
unsigned. -/
def Number.Fits (n : Int) : Prop := -0x8000000000000000 ≤ n ∧ n < 0x10000000000000000

instance (n : Int) : Decidable (Number.Fits n) := inferInstanceAs (Decidable (_ ∧ _))

/-- A JSON number. -/
inductive Number where
  /-- A whole number of 64 bits. -/
  | int (value : Int) (fits : Number.Fits value)
  /-- A finite double. -/
  | float (value : Float) (finite : value.isFinite = true)
deriving DecidableEq

namespace Number

/-- The whole number, if it fits. -/
def ofInt? (n : Int) : Option Number := if fits : Fits n then some (.int n fits) else none

/-- The double, if it is finite. -/
def ofFloat? (x : Float) : Option Number :=
  if finite : x.isFinite = true then some (.float x finite) else none

/-- A count, at most 2⁶⁴ − 1. -/
def ofNat (n : Nat) : Number :=
  .int (min n 0xffffffffffffffff) ⟨by omega, by omega⟩

instance : Inhabited Number := ⟨ofNat 0⟩

/-- The nearest double. -/
def toFloat : Number → Float
  | .int n _ => Float.ofInt n
  | .float x _ => x

/-- The value as a signed 64-bit whole number; a double is none. -/
def toInt64? : Number → Option Int
  | .int n _ => if n < 0x8000000000000000 then some n else none
  | .float _ _ => none

/-- The value as an unsigned 64-bit whole number; a double is none. -/
def toUInt64? : Number → Option UInt64
  | .int n _ => if 0 ≤ n then some (UInt64.ofNat n.toNat) else none
  | .float _ _ => none

/-- Whether the value has no fractional part. -/
def isWhole : Number → Bool
  | .int _ _ => true
  | .float x _ => (Binary64.ofFloat x).isWhole

/-- Equality within a kind; zeros of both signs are equal. -/
def same : Number → Number → Bool
  | .int a _, .int b _ => a == b
  | .float a _, .float b _ => a == b
  | _, _ => false

end Number

/-- A JSON value. -/
inductive Json where
  /-- The null value. -/
  | null
  /-- A truth value. -/
  | bool (value : Bool)
  /-- A number. -/
  | num (value : Number)
  /-- A text. -/
  | str (text : String)
  /-- A list of values. -/
  | arr (items : List Json)
  /-- Named values, by increasing name. -/
  | obj (fields : List (String × Json))
deriving Inhabited

namespace Json

mutual

/-- Equality of values: numbers by `Number.same`, everything else by structure. -/
def same : Json → Json → Bool
  | .null, .null => true
  | .bool a, .bool b => a == b
  | .num a, .num b => a.same b
  | .str a, .str b => a == b
  | .arr a, .arr b => sameItems a b
  | .obj a, .obj b => sameFields a b
  | _, _ => false

/-- Equality of lists of values. -/
def sameItems : List Json → List Json → Bool
  | [], [] => true
  | a :: as, b :: bs => a.same b && sameItems as bs
  | _, _ => false

/-- Equality of lists of fields. -/
def sameFields : List (String × Json) → List (String × Json) → Bool
  | [], [] => true
  | (k, a) :: as, (l, b) :: bs => k == l && a.same b && sameFields as bs
  | _, _ => false

end

instance : BEq Json := ⟨same⟩

mutual

/-- Every object in the value has its fields in strictly increasing key order. -/
def Canonical : Json → Prop
  | .arr items => CanonicalItems items
  | .obj fields => Assoc.Sorted fields ∧ CanonicalFields fields
  | _ => True

/-- Every item of a list is canonical. -/
def CanonicalItems : List Json → Prop
  | [] => True
  | item :: rest => Canonical item ∧ CanonicalItems rest

/-- Every value of a list of fields is canonical. -/
def CanonicalFields : List (String × Json) → Prop
  | [] => True
  | (_, value) :: rest => Canonical value ∧ CanonicalFields rest

end

/-- The object with no fields. -/
def empty : Json := .obj []

/-- An object from fields in any order; of two fields with one name the later wins. -/
def record (fields : List (String × Json)) : Json := .obj (Assoc.ofList fields)

/-- A list of texts. -/
def strings (texts : List String) : Json := .arr (texts.map .str)

/-- A count. -/
def count (n : Nat) : Json := .num (.ofNat n)

/-- An identifier as text. -/
def id (id : Id) : Json := .str id.text

/-- The text, if the value is one. -/
def string? : Json → Option String
  | .str text => some text
  | _ => none

/-- The truth value, if the value is one. -/
def bool? : Json → Option Bool
  | .bool b => some b
  | _ => none

/-- The number, if the value is one. -/
def number? : Json → Option Number
  | .num n => some n
  | _ => none

/-- The items, if the value is a list. -/
def items? : Json → Option (List Json)
  | .arr items => some items
  | _ => none

/-- The fields, if the value is an object. -/
def fields? : Json → Option (List (String × Json))
  | .obj fields => some fields
  | _ => none

/-- The unsigned 64-bit whole number, if the value is one. -/
def uint64? (value : Json) : Option UInt64 := value.number?.bind Number.toUInt64?

/-- The signed 64-bit whole number, if the value is one. -/
def int64? (value : Json) : Option Int := value.number?.bind Number.toInt64?

/-- The nearest double, if the value is a number. -/
def float? (value : Json) : Option Float := value.number?.map Number.toFloat

/-- The identifier that the value spells, if it is a text that does. -/
def id? (value : Json) : Option Id := value.string?.bind Id.ofText?

/-- Whether the value is an object. -/
def isObject : Json → Bool
  | .obj _ => true
  | _ => false

/-- Whether the value is a text. -/
def isString : Json → Bool
  | .str _ => true
  | _ => false

/-- Whether the value is null. -/
def isNull : Json → Bool
  | .null => true
  | _ => false

/-- The value of a field; a value that is no object has none. -/
def field? (value : Json) (name : String) : Option Json :=
  match value with
  | .obj fields => Assoc.find? name fields
  | _ => none

/-- The item at a position; a value that is no list has none. -/
def item? (value : Json) (index : Nat) : Option Json :=
  match value with
  | .arr items => items[index]?
  | _ => none

/-- Put a field into an object; any other value stays as it is. -/
def setField (value : Json) (name : String) (content : Json) : Json :=
  match value with
  | .obj fields => .obj (Assoc.insert name content fields)
  | other => other

/-- Texts of a list, other items left out. -/
def stringItems (items : List Json) : List String := items.filterMap string?

@[simp] theorem field?_obj (fields : List (String × Json)) (name : String) :
    (Json.obj fields).field? name = Assoc.find? name fields := rfl

end Json

end Troupe
