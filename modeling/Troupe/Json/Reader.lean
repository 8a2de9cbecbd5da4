import Troupe.Json.Basic

/-!
# Reading JSON text

A whole number that fits 64 bits stays whole; anything else is a double, and so is `-0`.  A
double is read as its leading digits, as many as fit 64 bits, times or divided by a power of
ten, each step rounded to nearest; a number too large for a double is refused.  Lists and
objects nest at most 127 deep.

`Json.parse?` keeps the fields of an object as they stand in the text; `Json.ofText?` sorts
them, the later of two fields with one name winning.
-/

namespace Troupe.Json

/-- How deep lists and objects may nest, plus one. -/
def depthLimit : Nat := 128

/-- Drop leading blanks. -/
def skipBlanks (chars : List Char) : List Char :=
  chars.dropWhile fun c => c == ' ' || c == '\n' || c == '\t' || c == '\r'

/-- The value of a decimal digit. -/
def digitValue (c : Char) : Nat := c.toNat - '0'.toNat

/-- Read digits on from a number as long as the result fits 64 bits; the digits from the
first that does not fit are left over. -/
def gather (seen : Nat) : List Char → Nat × List Char
  | [] => (seen, [])
  | c :: rest =>
    if 10 * seen + digitValue c < 0x10000000000000000 then gather (10 * seen + digitValue c) rest
    else (seen, c :: rest)

/-- Multiply by a power of ten.  Beyond 10³⁰⁸ in either direction the power is taken in
several steps; a positive power that large is too much unless the number is zero. -/
def scaleBy : (fuel : Nat) → Float → Int → Option Float
  | 0, x, _ => some x
  | fuel + 1, x, exponent =>
    if exponent.natAbs ≤ 308 then
      let power := Float.ofScientific 1 false exponent.natAbs
      let scaled := if 0 ≤ exponent then x * power else x / power
      if scaled.isFinite then some scaled else none
    else if x == 0 then some x
    else if 0 ≤ exponent then none
    else scaleBy fuel (x / Float.ofScientific 1 false 308) (exponent + 308)

/-- A number in its written parts. -/
structure Lexeme where
  /-- Whether a minus sign comes first. -/
  negative : Bool
  /-- Digits before the point. -/
  whole : List Char
  /-- Digits after the point. -/
  fraction : Option (List Char)
  /-- The exponent. -/
  exponent : Option Int

/-- The double that a lexeme denotes. -/
def Lexeme.float? (lexeme : Lexeme) : Option Float :=
  let (significand, dropped) := gather 0 lexeme.whole
  let fraction := lexeme.fraction.getD []
  let (significand, unused) := gather significand fraction
  let places : Int := dropped.length - (fraction.length - unused.length)
  (scaleBy 4 (Float.ofNat significand) (places + lexeme.exponent.getD 0)).map fun x =>
    if lexeme.negative then -x else x

/-- The number that a lexeme denotes. -/
def Lexeme.number? (lexeme : Lexeme) : Option Number :=
  let magnitude := lexeme.whole.foldl (fun n c => 10 * n + digitValue c) 0
  let float := lexeme.float?.bind Number.ofFloat?
  match lexeme.fraction, lexeme.exponent, lexeme.negative with
  | none, none, false => (Number.ofInt? magnitude).or float
  | none, none, true =>
    if magnitude = 0 then float else (Number.ofInt? (-(magnitude : Int))).or float
  | _, _, _ => float

/-- Read an optional fraction: a point and at least one digit. -/
def readFraction? : List Char → Option (Option (List Char) × List Char)
  | '.' :: rest =>
    match rest.takeWhile Char.isDigit with
    | [] => none
    | digits => some (some digits, rest.dropWhile Char.isDigit)
  | chars => some (none, chars)

/-- Read the digits of an exponent. -/
def readExponentDigits? (negative : Bool) (chars : List Char) :
    Option (Option Int × List Char) :=
  match chars.takeWhile Char.isDigit with
  | [] => none
  | digits =>
    let magnitude := digits.foldl (fun (n : Nat) c => 10 * n + digitValue c) 0
    some (some (if negative then -(magnitude : Int) else magnitude), chars.dropWhile Char.isDigit)

/-- Read an optional exponent: the letter, an optional sign and at least one digit. -/
def readExponent? : List Char → Option (Option Int × List Char)
  | c :: rest =>
    if c == 'e' || c == 'E' then
      match rest with
      | '+' :: rest => readExponentDigits? false rest
      | '-' :: rest => readExponentDigits? true rest
      | rest => readExponentDigits? false rest
    else some (none, c :: rest)
  | [] => some (none, [])

/-- Read the written parts of a number.  A leading zero stands alone before the point. -/
def readLexeme? (chars : List Char) : Option (Lexeme × List Char) := do
  let (negative, chars) := match chars with
    | '-' :: rest => (true, rest)
    | chars => (false, chars)
  let whole := chars.takeWhile Char.isDigit
  let plain := match whole with
    | [] => false
    | '0' :: _ :: _ => false
    | _ => true
  if !plain then none
  else
    let (fraction, chars) ← readFraction? (chars.dropWhile Char.isDigit)
    let (exponent, chars) ← readExponent? chars
    some (⟨negative, whole, fraction, exponent⟩, chars)

/-- Read a number. -/
def readNumber? (chars : List Char) : Option (Number × List Char) := do
  let (lexeme, chars) ← readLexeme? chars
  let number ← lexeme.number?
  some (number, chars)

/-- Read four hexadecimal digits. -/
def readHex? (chars : List Char) : Option (Nat × List Char) :=
  if (chars.take 4).length < 4 then none
  else (Hex.number? 0 (chars.take 4)).map fun n => (n, chars.drop 4)

/-- Read the rest of a `\u` escape: one unit, or two that form a surrogate pair. -/
def readUnicode? (chars : List Char) : Option (Char × List Char) := do
  let (unit, chars) ← readHex? chars
  if 0xD800 ≤ unit ∧ unit < 0xDC00 then
    match chars with
    | '\\' :: 'u' :: chars =>
      let (low, chars) ← readHex? chars
      if 0xDC00 ≤ low ∧ low < 0xE000 then
        some (Char.ofNat (0x10000 + (unit - 0xD800) * 0x400 + (low - 0xDC00)), chars)
      else none
    | _ => none
  else if 0xDC00 ≤ unit ∧ unit < 0xE000 then none
  else some (Char.ofNat unit, chars)

/-- The character of a one-letter escape. -/
def escaped? : Char → Option Char
  | '"' => some '"'
  | '\\' => some '\\'
  | '/' => some '/'
  | 'b' => some '\x08'
  | 'f' => some '\x0c'
  | 'n' => some '\n'
  | 'r' => some '\r'
  | 't' => some '\t'
  | _ => none

/-- Read a text after its opening quote; `seen` holds the characters so far, last first. -/
def readText? : (fuel : Nat) → (seen : List Char) → List Char → Option (String × List Char)
  | 0, _, _ => none
  | fuel + 1, seen, chars =>
    match chars with
    | [] => none
    | '"' :: rest => some (String.ofList seen.reverse, rest)
    | '\\' :: 'u' :: rest =>
      match readUnicode? rest with
      | some (c, rest) => readText? fuel (c :: seen) rest
      | none => none
    | '\\' :: c :: rest =>
      match escaped? c with
      | some c => readText? fuel (c :: seen) rest
      | none => none
    | c :: rest => if c < ' ' || c == '\\' then none else readText? fuel (c :: seen) rest

/-- Read the items of a list after the first, up to the closing bracket. -/
def readItems? (readValue? : List Char → Option (Json × List Char)) :
    (fuel : Nat) → (seen : List Json) → List Char → Option (Json × List Char)
  | 0, _, _ => none
  | fuel + 1, seen, chars =>
    match skipBlanks chars with
    | ']' :: rest => some (.arr seen.reverse, rest)
    | ',' :: rest =>
      match readValue? (skipBlanks rest) with
      | some (item, rest) => readItems? readValue? fuel (item :: seen) rest
      | none => none
    | _ => none

section Fields

variable (readValue? : String → List Char → Option (Json × List Char))

/-- Read one field: a name in quotes, a colon and a value.  How the value is read may depend
on the name. -/
def readField? (chars : List Char) : Option ((String × Json) × List Char) :=
  match skipBlanks chars with
  | '"' :: rest => do
    let (name, rest) ← readText? (rest.length + 1) [] rest
    match skipBlanks rest with
    | ':' :: rest =>
      let (value, rest) ← readValue? name (skipBlanks rest)
      some ((name, value), rest)
    | _ => none
  | _ => none

/-- Read the fields of an object after the first, up to the closing brace. -/
def readFields? : (fuel : Nat) → (seen : List (String × Json)) → List Char →
    Option (Json × List Char)
  | 0, _, _ => none
  | fuel + 1, seen, chars =>
    match skipBlanks chars with
    | '}' :: rest => some (.obj seen.reverse, rest)
    | ',' :: rest =>
      match readField? readValue? rest with
      | some (field, rest) => readFields? fuel (field :: seen) rest
      | none => none
    | _ => none

/-- Read an object after its opening brace. -/
def readObject? (chars : List Char) : Option (Json × List Char) :=
  match skipBlanks chars with
  | '}' :: rest => some (.obj [], rest)
  | chars =>
    match readField? readValue? chars with
    | some (field, rest) => readFields? readValue? (rest.length + 1) [field] rest
    | none => none

end Fields

/-- Read a value that starts at the first character; `depth` more levels may open. -/
def readValue? : (depth : Nat) → List Char → Option (Json × List Char)
  | _, 'n' :: 'u' :: 'l' :: 'l' :: rest => some (.null, rest)
  | _, 't' :: 'r' :: 'u' :: 'e' :: rest => some (.bool true, rest)
  | _, 'f' :: 'a' :: 'l' :: 's' :: 'e' :: rest => some (.bool false, rest)
  | _, '"' :: rest =>
    (readText? (rest.length + 1) [] rest).map fun (text, rest) => (.str text, rest)
  | depth + 1, '[' :: rest =>
    if depth = 0 then none
    else
      match skipBlanks rest with
      | ']' :: rest => some (.arr [], rest)
      | rest =>
        match readValue? depth rest with
        | some (item, rest) => readItems? (readValue? depth) (rest.length + 1) [item] rest
        | none => none
  | depth + 1, '{' :: rest =>
    if depth = 0 then none else readObject? (fun _ => readValue? depth) rest
  | _, chars => (readNumber? chars).map fun (number, rest) => (.num number, rest)

/-- Read a text that holds one value, fields in the order of the text. -/
def parse? (text : String) : Option Json := do
  let (value, rest) ← readValue? depthLimit (skipBlanks text.toList)
  if (skipBlanks rest).isEmpty then some value else none

mutual

/-- Sort the fields of every object; of two fields with one name the later wins. -/
def arrange : Json → Json
  | .arr items => .arr (arrangeItems items)
  | .obj fields => .obj (Assoc.ofList (arrangeFields fields))
  | other => other

/-- Arrange every item of a list. -/
def arrangeItems : List Json → List Json
  | [] => []
  | item :: rest => arrange item :: arrangeItems rest

/-- Arrange every value of a list of fields. -/
def arrangeFields : List (String × Json) → List (String × Json)
  | [] => []
  | (name, value) :: rest => (name, arrange value) :: arrangeFields rest

end

/-- Read a text that holds one value. -/
def ofText? (text : String) : Option Json := (parse? text).map arrange

end Troupe.Json
