import Troupe.Error
import Troupe.Text.Classes

/-!
# Tokens of expressions

Numerals, texts in either quote, paths such as `context.items[0].title`, the words `true`,
`false` and `null`, operators and parentheses; blanks between them do not matter.
-/

namespace Troupe.Expr

/-- One step of a path. -/
inductive Segment where
  /-- The field with a name. -/
  | key (name : String)
  /-- The item at a position. -/
  | index (position : Nat)
deriving DecidableEq

/-- The operator symbols. -/
inductive Symbol where
  | or
  | and
  | equal
  | notEqual
  | lessEqual
  | greaterEqual
  | less
  | greater
  | plus
  | minus
  | times
  | slash
  | percent
  | bang
deriving DecidableEq

/-- A token. -/
inductive Token where
  /-- A numeral. -/
  | number (value : Number)
  /-- A text in quotes. -/
  | text (content : String)
  /-- A path into the scope. -/
  | path (segments : List Segment)
  /-- A word that stands for a value. -/
  | literal (value : Json)
  /-- An operator symbol. -/
  | symbol (symbol : Symbol)
  /-- An opening parenthesis. -/
  | opening
  /-- A closing parenthesis. -/
  | closing

namespace Token

/-- The number that decimal digits denote. -/
def numeral (digits : List Char) : Nat :=
  digits.foldl (fun n c => 10 * n + (c.toNat - '0'.toNat)) 0

/-- A row of digits and points as a number: a whole number if it has no point and fits a
signed 64-bit word, else the nearest double; with more than one point it is none. -/
def numberOf? (chars : List Char) : Option Number :=
  let whole := chars.takeWhile Char.isDigit
  match chars.dropWhile Char.isDigit with
  | [] =>
    let n := numeral whole
    if n < 0x8000000000000000 then Number.ofInt? n
    else Number.ofFloat? (Float.ofScientific n false 0)
  | _ :: fraction =>
    if fraction.all Char.isDigit then
      Number.ofFloat? (Float.ofScientific (numeral (whole ++ fraction)) true fraction.length)
    else none

/-- Whether a character can stand in a name. -/
def inName (c : Char) : Bool := Text.isLetterOrNumber c || c == '_'

/-- Read a name. -/
def readName (chars : List Char) : Except ParseFault (String × List Char) :=
  match chars.takeWhile inName with
  | [] => .error .expectedName
  | name => .ok (String.ofList name, chars.dropWhile inName)

/-- Read an index after its opening bracket. -/
def readIndex (chars : List Char) : Except ParseFault (Nat × List Char) :=
  match chars.takeWhile Char.isDigit, chars.dropWhile Char.isDigit with
  | [], _ => .error .expectedIndex
  | digits, ']' :: rest =>
    if numeral digits < 0x10000000000000000 then .ok (numeral digits, rest)
    else .error .indexOutOfRange
  | _, _ => .error .expectedIndex

/-- Read the steps of a path after its first name. -/
def readSteps : (fuel : Nat) → List Char → Except ParseFault (List Segment × List Char)
  | 0, chars => .ok ([], chars)
  | fuel + 1, chars =>
    match chars with
    | '.' :: rest => do
      let (name, rest) ← readName rest
      let (steps, rest) ← readSteps fuel rest
      return (.key name :: steps, rest)
    | '[' :: rest => do
      let (position, rest) ← readIndex rest
      let (steps, rest) ← readSteps fuel rest
      return (.index position :: steps, rest)
    | chars => .ok ([], chars)

/-- Read a path; the single words for truth values and null are literals. -/
def readPath (chars : List Char) : Except ParseFault (Token × List Char) := do
  let (name, rest) ← readName chars
  let (steps, rest) ← readSteps rest.length rest
  let token : Token :=
    match name, steps with
    | "true", [] => .literal (.bool true)
    | "false", [] => .literal (.bool false)
    | "null", [] => .literal .null
    | name, steps => .path (.key name :: steps)
  return (token, rest)

/-- Read a text after its opening quote.  A backslash keeps the next character as it is. -/
def readQuoted (quote : Char) : List Char → Except ParseFault (List Char × List Char)
  | [] => .error .unterminatedString
  | c :: rest =>
    if c = '\\' then
      match rest with
      | [] => .error .unterminatedString
      | next :: rest => do
        let (content, rest) ← readQuoted quote rest
        return (next :: content, rest)
    else if c = quote then .ok ([], rest)
    else do
      let (content, rest) ← readQuoted quote rest
      return (c :: content, rest)

/-- Read an operator symbol, the longest that fits. -/
def readSymbol : List Char → Except ParseFault (Token × List Char)
  | '|' :: '|' :: rest => .ok (.symbol .or, rest)
  | '&' :: '&' :: rest => .ok (.symbol .and, rest)
  | '=' :: '=' :: rest => .ok (.symbol .equal, rest)
  | '!' :: '=' :: rest => .ok (.symbol .notEqual, rest)
  | '<' :: '=' :: rest => .ok (.symbol .lessEqual, rest)
  | '>' :: '=' :: rest => .ok (.symbol .greaterEqual, rest)
  | '<' :: rest => .ok (.symbol .less, rest)
  | '>' :: rest => .ok (.symbol .greater, rest)
  | '+' :: rest => .ok (.symbol .plus, rest)
  | '-' :: rest => .ok (.symbol .minus, rest)
  | '*' :: rest => .ok (.symbol .times, rest)
  | '/' :: rest => .ok (.symbol .slash, rest)
  | '%' :: rest => .ok (.symbol .percent, rest)
  | '!' :: rest => .ok (.symbol .bang, rest)
  | '=' :: _ => .error .assignment
  | c :: _ => .error (.unexpectedCharacter c)
  | [] => .error .unexpectedEnd

/-- Read the token that starts with the first of the characters. -/
def read (c : Char) (rest : List Char) : Except ParseFault (Token × List Char) :=
  if c = '(' then .ok (.opening, rest)
  else if c = ')' then .ok (.closing, rest)
  else if c.isDigit then
    let inNumeral (c : Char) : Bool := c.isDigit || c == '.'
    let chars := c :: rest.takeWhile inNumeral
    match numberOf? chars with
    | some value => .ok (.number value, rest.dropWhile inNumeral)
    | none => .error (.invalidNumber (String.ofList chars))
  else if c = '\x27' ∨ c = '"' then do
    let (content, rest) ← readQuoted c rest
    return (.text (String.ofList content), rest)
  else if c = '$' then readPath rest
  else if c = '_' || Text.isLetter c then readPath (c :: rest)
  else readSymbol (c :: rest)

/-- Read tokens until the characters are used up. -/
def readAll : (fuel : Nat) → List Char → Except ParseFault (List Token)
  | 0, _ => .ok []
  | _ + 1, [] => .ok []
  | fuel + 1, c :: rest =>
    if Text.isBlank c then readAll fuel rest
    else do
      let (token, rest) ← read c rest
      return token :: (← readAll fuel rest)

/-- The tokens of a text.  Every token uses up a character, so as many rounds as there are
characters suffice. -/
def ofText (text : String) : Except ParseFault (List Token) :=
  readAll text.toList.length text.toList

end Token

end Troupe.Expr
