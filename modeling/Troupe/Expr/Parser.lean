import Troupe.Expr.Token

/-!
# The grammar of expressions

Six levels of binary operators, each associating to the left, over unary `!` and `-`, over
values, paths and parentheses.  A level is made from the next one by `binaryLevel`, so one
statement about `binaryLevel` covers all six.
-/

namespace Troupe.Expr

/-- The binary operators. -/
inductive Operator where
  | or
  | and
  | equal
  | notEqual
  | less
  | lessEqual
  | greater
  | greaterEqual
  | add
  | subtract
  | multiply
  | divide
  | remainder
deriving DecidableEq

end Troupe.Expr

namespace Troupe

open Troupe.Expr (Segment Symbol Operator Token)

/-- An expression. -/
inductive Expr where
  /-- A value. -/
  | literal (value : Json)
  /-- What stands at a path of the scope. -/
  | path (segments : List Segment)
  /-- The opposite truth value. -/
  | not (operand : Expr)
  /-- The number with the opposite sign. -/
  | negate (operand : Expr)
  /-- An operator between two expressions. -/
  | binary (operator : Operator) (left right : Expr)

namespace Expr

/-- The symbols of one level of binary operators, with their operators. -/
abbrev Level := List (Symbol × Operator)

/-- The six levels, loosest first. -/
def levels : List Level :=
  [[(.or, .or)],
    [(.and, .and)],
    [(.equal, .equal), (.notEqual, .notEqual)],
    [(.less, .less), (.lessEqual, .lessEqual), (.greater, .greater),
      (.greaterEqual, .greaterEqual)],
    [(.plus, .add), (.minus, .subtract)],
    [(.times, .multiply), (.slash, .divide), (.percent, .remainder)]]

/-- A function that reads an expression off the front of a list of tokens. -/
abbrev Reader := List Token → Except ParseFault (Expr × List Token)

/-- The operator of a level that comes first in the tokens, and what follows it. -/
def operatorAt? (level : Level) : List Token → Option (Operator × List Token)
  | .symbol symbol :: rest =>
    (level.find? fun entry => entry.1 == symbol).map fun entry => (entry.2, rest)
  | _ => none

/-- Read further operands of a level and join each to what is on its left. -/
def readOperands (level : Level) (next : Reader) : (fuel : Nat) → Expr → Reader
  | 0, left, tokens => .ok (left, tokens)
  | fuel + 1, left, tokens =>
    match operatorAt? level tokens with
    | none => .ok (left, tokens)
    | some (operator, rest) => do
      let (right, rest) ← next rest
      readOperands level next fuel (.binary operator left right) rest

/-- Read one level of binary operators over the next level. -/
def binaryLevel (level : Level) (next : Reader) : Reader := fun tokens => do
  let (left, rest) ← next tokens
  readOperands level next rest.length left rest

/-- Read all levels of binary operators over a reader of operands. -/
def binaryLevels (operand : Reader) : Reader := levels.foldr binaryLevel operand

/-- Read an operand: unary operators, a value, a path or an expression in parentheses.  Every
round uses up a token. -/
def readOperand : (fuel : Nat) → Reader
  | 0, _ => .error .unexpectedEnd
  | fuel + 1, tokens =>
    match tokens with
    | [] => .error .unexpectedEnd
    | .symbol .bang :: rest => do
      let (operand, rest) ← readOperand fuel rest
      return (.not operand, rest)
    | .symbol .minus :: rest => do
      let (operand, rest) ← readOperand fuel rest
      return (.negate operand, rest)
    | .number number :: rest => .ok (.literal (.num number), rest)
    | .text content :: rest => .ok (.literal (.str content), rest)
    | .literal value :: rest => .ok (.literal value, rest)
    | .path segments :: rest => .ok (.path segments, rest)
    | .opening :: rest => do
      let (inner, rest) ← binaryLevels (readOperand fuel) rest
      match rest with
      | .closing :: rest => return (inner, rest)
      | _ => .error .expectedClose
    | _ => .error .expectedValue

/-- Read a list of tokens as one expression. -/
def ofTokens (tokens : List Token) : Except ParseFault Expr := do
  let (expr, rest) ← binaryLevels (readOperand tokens.length) tokens
  if rest.isEmpty then return expr else .error .trailingInput

/-- Read a text as an expression. -/
def ofText (text : String) : Except ParseFault Expr := do
  ofTokens (← Token.ofText text)

end Expr

end Troupe
