import Troupe.Json.Reader

/-!
# Passing over JSON text

A reader that has no use for a value passes over it.  Only the form of the text counts: lists
and objects are closed, texts are ended, numbers are spelled right.  How deep the value nests,
whether a number is too large for a double and whether an escape stands for a character do not
matter, so every value that can be read can be passed over, but not the other way round.
-/

namespace Troupe.Json

/-- Pass over a text after its opening quote. -/
def skipText? : List Char → Option (List Char)
  | [] => none
  | '"' :: rest => some rest
  | '\\' :: 'u' :: a :: b :: c :: d :: rest =>
    if [a, b, c, d].all fun digit => (Hex.value? digit).isSome then skipText? rest else none
  | '\\' :: c :: rest => if (escaped? c).isSome then skipText? rest else none
  | c :: rest => if c < ' ' || c == '\\' then none else skipText? rest

mutual

/-- Pass over a value that starts at the first character. -/
def skipFrom? : (fuel : Nat) → List Char → Option (List Char)
  | 0, _ => none
  | _ + 1, 'n' :: 'u' :: 'l' :: 'l' :: rest => some rest
  | _ + 1, 't' :: 'r' :: 'u' :: 'e' :: rest => some rest
  | _ + 1, 'f' :: 'a' :: 'l' :: 's' :: 'e' :: rest => some rest
  | _ + 1, '"' :: rest => skipText? rest
  | fuel + 1, '[' :: rest =>
    match skipBlanks rest with
    | ']' :: rest => some rest
    | rest => (skipFrom? fuel rest).bind (skipItems? fuel)
  | fuel + 1, '{' :: rest =>
    match skipBlanks rest with
    | '}' :: rest => some rest
    | rest => (skipField? fuel rest).bind (skipFields? fuel)
  | _ + 1, chars => (readLexeme? chars).map Prod.snd

/-- Pass over the items of a list after the first, and its closing bracket. -/
def skipItems? : (fuel : Nat) → List Char → Option (List Char)
  | 0, _ => none
  | fuel + 1, chars =>
    match skipBlanks chars with
    | ']' :: rest => some rest
    | ',' :: rest => (skipFrom? fuel (skipBlanks rest)).bind (skipItems? fuel)
    | _ => none

/-- Pass over a field: a name in quotes, a colon and a value. -/
def skipField? : (fuel : Nat) → List Char → Option (List Char)
  | 0, _ => none
  | fuel + 1, chars =>
    match skipBlanks chars with
    | '"' :: rest => do
      match skipBlanks (← skipText? rest) with
      | ':' :: rest => skipFrom? fuel (skipBlanks rest)
      | _ => none
    | _ => none

/-- Pass over the fields of an object after the first, and its closing brace. -/
def skipFields? : (fuel : Nat) → List Char → Option (List Char)
  | 0, _ => none
  | fuel + 1, chars =>
    match skipBlanks chars with
    | '}' :: rest => some rest
    | ',' :: rest => (skipField? fuel rest).bind (skipFields? fuel)
    | _ => none

end

/-- Pass over a value that starts at the first character.  Every step into a value uses up a
character, so as many as there are suffice. -/
def skipValue? (chars : List Char) : Option (List Char) := skipFrom? (chars.length + 1) chars

end Troupe.Json
