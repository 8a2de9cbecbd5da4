import Troupe.Expr.Parser

/-!
# The values of expressions

Signed 64-bit whole numbers are computed with exactly; a result that does not fit, an inexact
quotient and any other number fall back to doubles.  Numbers are compared as doubles.  `+`
joins texts when one operand is a text, and the logical operators yield truth values and
look at their right operand only if they need it.
-/

namespace Troupe

namespace Json

/-- Whether a value counts as true: not null, not false, not zero and not the empty text. -/
def truthy : Json → Bool
  | .null => false
  | .bool b => b
  | .num n => !(n.toFloat == 0)
  | .str text => !text.isEmpty
  | .arr _ => true
  | .obj _ => true

/-- The text of a value inside a longer text: a text stands for itself and null for nothing. -/
def display : Json → String
  | .str text => text
  | .null => ""
  | other => other.text

/-- Equality in expressions: two numbers are compared as doubles, anything else by `same`. -/
def looselyEqual (left right : Json) : Bool :=
  match left.float?, right.float? with
  | some a, some b => a == b
  | _, _ => left.same right

end Json

namespace Expr

/-- What stands at a path; null where the path leads nowhere. -/
def lookup (scope : Json) : List Segment → Json
  | [] => scope
  | .key name :: rest =>
    match scope.field? name with
    | some inner => lookup inner rest
    | none => .null
  | .index position :: rest =>
    match scope.item? position with
    | some inner => lookup inner rest
    | none => .null

/-- A whole number, if it fits a signed 64-bit word. -/
def fitting? (n : Int) : Option Json :=
  if -0x8000000000000000 ≤ n ∧ n < 0x8000000000000000 then (Number.ofInt? n).map .num else none

/-- A double as a value. -/
def finite (x : Float) : Except TypeFault Json :=
  match Number.ofFloat? x with
  | some n => .ok (.num n)
  | none => .error .notFinite

/-- The opposite number. -/
def negated (value : Json) : Except TypeFault Json :=
  match value.int64?.bind fun n => fitting? (-n) with
  | some result => .ok result
  | none =>
    match value.float? with
    | some x => finite (-x)
    | none => .error .negation

/-- The exact result of an operation on whole numbers, if it has one that fits.  The quotient
of the least number by −1 does not fit, and with it the remainder is not taken either. -/
def wholeResult? (operator : Operator) (a b : Int) : Option Json :=
  match operator with
  | .add => fitting? (a + b)
  | .subtract => fitting? (a - b)
  | .multiply => fitting? (a * b)
  | .divide => if b ≠ 0 ∧ Int.tmod a b = 0 then fitting? (Int.tdiv a b) else none
  | .remainder =>
    if b ≠ 0 ∧ ¬(a = -0x8000000000000000 ∧ b = -1) then fitting? (Int.tmod a b) else none
  | _ => none

/-- Two values as doubles. -/
def floats (left right : Json) : Except TypeFault (Float × Float) :=
  match left.float?, right.float? with
  | some a, some b => .ok (a, b)
  | _, _ => .error (.notNumbers left right)

/-- Arithmetic on doubles. -/
def floatResult (operator : Operator) (a b : Float) : Except TypeFault Json :=
  match operator with
  | .subtract => finite (a - b)
  | .multiply => finite (a * b)
  | .divide => if b == 0 then .error .divisionByZero else finite (a / b)
  | .remainder =>
    if b == 0 then .error .divisionByZero
    else finite (Binary64.remainder (.ofFloat a) (.ofFloat b)).toFloat
  | _ => finite (a + b)

/-- Arithmetic: on whole numbers where that is exact, else on doubles. -/
def arithmetic (operator : Operator) (left right : Json) : Except TypeFault Json :=
  let whole := do wholeResult? operator (← left.int64?) (← right.int64?)
  match whole with
  | some result => .ok result
  | none => do
    let (a, b) ← floats left right
    floatResult operator a b

/-- The order of two texts, by code points, or of two numbers, as doubles. -/
def ordering (left right : Json) : Except TypeFault Ordering :=
  match left, right with
  | .str a, .str b => .ok (if a < b then .lt else if a = b then .eq else .gt)
  | _, _ => do
    let (a, b) ← floats left right
    if a < b then return .lt
    else if b < a then return .gt
    else if a == b then return .eq
    else .error .notComparable

/-- What an operator makes of the values of its operands. -/
def apply (operator : Operator) (left right : Json) : Except TypeFault Json :=
  match operator with
  | .or => .ok (.bool (left.truthy || right.truthy))
  | .and => .ok (.bool (left.truthy && right.truthy))
  | .equal => .ok (.bool (left.looselyEqual right))
  | .notEqual => .ok (.bool !(left.looselyEqual right))
  | .less => return .bool (← ordering left right).isLT
  | .lessEqual => return .bool (← ordering left right).isLE
  | .greater => return .bool (← ordering left right).isGT
  | .greaterEqual => return .bool (← ordering left right).isGE
  | .add =>
    if left.isString || right.isString then .ok (.str (left.display ++ right.display))
    else arithmetic .add left right
  | operator => arithmetic operator left right

/-- The value of an expression in a scope. -/
def eval (scope : Json) : Expr → Except TypeFault Json
  | .literal value => .ok value
  | .path segments => .ok (lookup scope segments)
  | .not operand => return .bool !(← eval scope operand).truthy
  | .negate operand => do negated (← eval scope operand)
  | .binary .or left right => do
    if (← eval scope left).truthy then return .bool true
    else return .bool (← eval scope right).truthy
  | .binary .and left right => do
    if (← eval scope left).truthy then return .bool (← eval scope right).truthy
    else return .bool false
  | .binary operator left right => do
    let left ← eval scope left
    let right ← eval scope right
    apply operator left right

/-- The value of the expression that a text spells. -/
def evaluate (source : String) (scope : Json) : Except ExprError Json :=
  match ofText source with
  | .error fault => .error (.parse source fault)
  | .ok expr =>
    match expr.eval scope with
    | .error fault => .error (.type source fault)
    | .ok value => .ok value

end Expr

end Troupe
