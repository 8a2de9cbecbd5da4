import Troupe.Decimal.Notation
import Troupe.Json.Basic

/-!
# JSON text

The compact text of a value: no blanks, fields in key order, every character kept but quotes,
backslashes and control characters.
-/

namespace Troupe.Json

/-- The characters written for one character inside quotes. -/
def escape (c : Char) : List Char :=
  match c with
  | '"' => ['\\', '"']
  | '\\' => ['\\', '\\']
  | '\n' => ['\\', 'n']
  | '\r' => ['\\', 'r']
  | '\t' => ['\\', 't']
  | '\x08' => ['\\', 'b']
  | '\x0c' => ['\\', 'f']
  | c => if c < ' ' then '\\' :: 'u' :: Hex.digits 4 c.toNat else [c]

/-- A text in quotes. -/
def quoted (text : String) : List Char := '"' :: (text.toList.flatMap escape ++ ['"'])

/-- The digits of a whole number after its sign. -/
def intChars (n : Int) : List Char :=
  if n < 0 then '-' :: Nat.toDigits 10 n.natAbs else Nat.toDigits 10 n.natAbs

/-- The characters of a number. -/
def numberChars : Number → List Char
  | .int n _ => intChars n
  | .float x _ => (Notation.data.write x).toList

mutual

/-- The characters of a value. -/
def chars : Json → List Char
  | .null => ['n', 'u', 'l', 'l']
  | .bool true => ['t', 'r', 'u', 'e']
  | .bool false => ['f', 'a', 'l', 's', 'e']
  | .num n => numberChars n
  | .str text => quoted text
  | .arr [] => ['[', ']']
  | .arr (item :: rest) => '[' :: (chars item ++ itemsChars rest)
  | .obj [] => ['{', '}']
  | .obj ((name, value) :: rest) => '{' :: (quoted name ++ ':' :: (chars value ++ fieldsChars rest))

/-- Further items, each after a comma, and the closing bracket. -/
def itemsChars : List Json → List Char
  | [] => [']']
  | item :: rest => ',' :: (chars item ++ itemsChars rest)

/-- Further fields, each after a comma, and the closing brace. -/
def fieldsChars : List (String × Json) → List Char
  | [] => ['}']
  | (name, value) :: rest => ',' :: (quoted name ++ ':' :: (chars value ++ fieldsChars rest))

end

/-- The compact text of a value. -/
def text (value : Json) : String := String.ofList value.chars

end Troupe.Json
