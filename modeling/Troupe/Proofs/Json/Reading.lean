import Mathlib.Tactic.Lemma
import Troupe.Json.Printer
import Troupe.Json.Reader
import Troupe.Proofs.Table

/-!
# Reading what was written

If the text of a value reads at all, it reads as the value, but for its numbers: a double may
come back as another one.  `Json.Reads` is this relation.  A text need not read: lists and
objects may nest too deep.

The reader of a number takes as many characters as it can, and nothing that may follow a value
is among them (`readNumber?_numeric`); what it leaves over of a number, no other reader takes.

## Main results

* `Json.readText?_escape`: a text in quotes reads as it was;
* `Json.readValue?_chars`: what a written value reads as.
-/

namespace Troupe.Json

lemma field?_record (fields : List (String × Json)) (name : String) :
    (record fields).field? name = Assoc.find? name fields.reverse :=
  Assoc.find?_ofList name fields

/-! ## Texts -/

lemma readHex?_digits {n : Nat} (small : n < 0x10000) (rest : List Char) :
    readHex? (Hex.digits 4 n ++ rest) = some (n, rest) := by
  have length : (Hex.digits 4 n).length = 4 := Hex.length_digits 4 n
  have front : (Hex.digits 4 n ++ rest).take 4 = Hex.digits 4 n := by
    rw [← length, List.take_left']
    exact length
  have back : (Hex.digits 4 n ++ rest).drop 4 = rest := by
    rw [← length, List.drop_left']
    exact length
  rw [readHex?, front, back, length, if_neg (by decide), Hex.number?_digits, Nat.mod_eq_of_lt small]
  rfl

/-- A control character is read from its number. -/
lemma readUnicode?_digits {c : Char} (control : c < ' ') (rest : List Char) :
    readUnicode? (Hex.digits 4 c.toNat ++ rest) = some (c, rest) := by
  have small : c.toNat < 32 := control
  rw [readUnicode?, readHex?_digits (Nat.lt_trans small (by decide))]
  simp only [Option.bind_eq_bind, Option.bind_some]
  rw [if_neg (by omega), if_neg (by omega), Char.ofNat_toNat]

lemma readText?_plain (fuel : Nat) (seen rest : List Char) {c : Char} (quote : c ≠ '"')
    (slash : c ≠ '\\') (printable : ¬ c < ' ') :
    readText? (fuel + 1) seen (c :: rest) = readText? fuel (c :: seen) rest := by
  rw [readText?, if_neg (by simpa [slash] using printable)]
  · exact quote
  · exact fun _ same _ => slash same
  · exact fun _ _ same _ => slash same

/-- What was written for a character reads as the character. -/
lemma readText?_escape (fuel : Nat) (seen : List Char) (c : Char) (rest : List Char) :
    readText? (fuel + 1) seen (escape c ++ rest) = readText? fuel (c :: seen) rest := by
  unfold escape
  split
  case h_8 quote slash _ _ _ _ _ =>
    split
    · rename_i control
      simp only [List.cons_append]
      rw [readText?, readUnicode?_digits control]
    · exact readText?_plain fuel seen rest quote slash ‹_›
  all_goals rfl

/-- If a text in quotes reads, it reads as it was. -/
lemma readText?_quoted {fuel : Nat} {seen text rest : List Char} {result : String × List Char}
    (read : readText? fuel seen (text.flatMap escape ++ '"' :: rest) = some result) :
    result = (String.ofList (seen.reverse ++ text), rest) := by
  induction text generalizing fuel seen with
  | nil =>
    cases fuel with
    | zero => cases read
    | succ fuel =>
      rw [List.append_nil]
      exact (Option.some.inj read).symm
  | cons c text ih =>
    cases fuel with
    | zero => cases read
    | succ fuel =>
      rw [List.flatMap_cons, List.append_assoc, readText?_escape] at read
      rw [ih read, List.reverse_cons, List.append_assoc]
      rfl

/-! ## Numbers -/

/-- Whether a character can stand in a number. -/
def numeric (c : Char) : Bool := c.isDigit || ['+', '-', '.', 'e', 'E'].contains c

lemma numeric_of_isDigit {c : Char} (digit : c.isDigit = true) : numeric c = true := by
  rw [numeric, digit]
  rfl

lemma numeric_toDigits (n : Nat) : ∀ c ∈ Nat.toDigits 10 n, numeric c = true := fun _ mem =>
  numeric_of_isDigit (Nat.isDigit_of_mem_toDigits (by decide) (by decide) mem)

lemma numeric_zeros (n : Nat) : ∀ c ∈ List.replicate n '0', numeric c = true := fun _ mem =>
  List.eq_of_mem_replicate mem ▸ rfl

lemma numeric_pointed (form : Notation) {digits : List Char}
    (numerics : ∀ c ∈ digits, numeric c = true) (first : Int) :
    ∀ c ∈ form.pointed digits first, numeric c = true := by
  unfold Notation.pointed
  dsimp only
  split
  · simp only [List.forall_mem_cons, List.forall_mem_append]
    exact ⟨rfl, rfl, numeric_zeros _, numerics⟩
  · have front : ∀ c ∈ digits.take (first.toNat + 1) ++
        List.replicate (first.toNat + 1 - digits.length) '0', numeric c = true :=
      List.forall_mem_append.2 ⟨fun c mem => numerics c (List.mem_of_mem_take mem), numeric_zeros _⟩
    split
    · split
      · refine List.forall_mem_append.2 ⟨front, ?_⟩
        exact List.forall_mem_cons.2 ⟨rfl, numeric_zeros 1⟩
      · exact front
    · refine List.forall_mem_append.2 ⟨front, List.forall_mem_cons.2 ⟨rfl, fun c mem => ?_⟩⟩
      exact numerics c (List.mem_of_mem_drop mem)

lemma numeric_scientific {digits : List Char} (numerics : ∀ c ∈ digits, numeric c = true)
    (first : Int) : ∀ c ∈ Notation.scientific digits first, numeric c = true := by
  have exponent : ∀ c ∈ 'e' :: (if first < 0 then '-' else '+') :: Nat.toDigits 10 first.natAbs,
      numeric c = true := by
    refine List.forall_mem_cons.2 ⟨rfl, List.forall_mem_cons.2 ⟨?_, numeric_toDigits _⟩⟩
    split <;> rfl
  match digits, numerics with
  | [], _ => exact exponent
  | [_], numerics => exact List.forall_mem_cons.2 ⟨numerics _ List.mem_cons_self, exponent⟩
  | _ :: _ :: _, numerics =>
    refine List.forall_mem_cons.2 ⟨numerics _ List.mem_cons_self, List.forall_mem_cons.2 ⟨rfl, ?_⟩⟩
    exact List.forall_mem_append.2 ⟨fun c mem => numerics c (List.mem_cons_of_mem _ mem), exponent⟩

/-- All characters of a number are numeric. -/
lemma numeric_numberChars (number : Number) : ∀ c ∈ numberChars number, numeric c = true := by
  have signed : ∀ (negative : Bool) (unsigned : List Char), (∀ c ∈ unsigned, numeric c = true) →
      ∀ c ∈ if negative = true then '-' :: unsigned else unsigned, numeric c = true := by
    intro negative unsigned numerics
    split
    · exact List.forall_mem_cons.2 ⟨rfl, numerics⟩
    · exact numerics
  cases number with
  | int n fits =>
    have digits := signed (decide (n < 0)) _ (numeric_toDigits n.natAbs)
    rw [numberChars, intChars]
    simpa only [decide_eq_true_eq] using digits
  | float x finite =>
    rw [numberChars, Notation.write, String.toList_ofList]
    refine signed _ _ ?_
    split
    · split
      · exact List.forall_mem_cons.2 ⟨rfl, List.forall_mem_cons.2 ⟨rfl, numeric_zeros 1⟩⟩
      · exact numeric_zeros 1
    · have either : ∀ (plainly : Bool) (digits : List Char) (first : Int),
          (∀ c ∈ digits, numeric c = true) →
          ∀ c ∈ if plainly = true then Notation.data.pointed digits first
            else Notation.scientific digits first, numeric c = true := by
        intro plainly digits first numerics
        split
        · exact numeric_pointed _ numerics _
        · exact numeric_scientific numerics _
      exact either _ _ _ (numeric_toDigits _)

/-- The text of a number is not empty. -/
lemma numberChars_ne_nil (number : Number) : numberChars number ≠ [] := by
  have signed : ∀ (negative : Bool) (unsigned : List Char), unsigned ≠ [] →
      (if negative = true then '-' :: unsigned else unsigned) ≠ [] := by
    intro negative unsigned some
    split
    · exact List.cons_ne_nil _ _
    · exact some
  cases number with
  | int n fits =>
    have digits := signed (decide (n < 0)) _ (Nat.toDigits_ne_nil : Nat.toDigits 10 n.natAbs ≠ [])
    rw [numberChars, intChars]
    simpa only [decide_eq_true_eq] using digits
  | float x finite =>
    rw [numberChars, Notation.write, String.toList_ofList]
    refine signed _ _ ?_
    split
    · split <;> exact List.cons_ne_nil _ _
    · have either : ∀ (plainly : Bool) (digits : List Char) (first : Int), digits ≠ [] →
          (if plainly = true then Notation.data.pointed digits first
            else Notation.scientific digits first) ≠ [] := by
        intro plainly digits first some
        obtain ⟨digit, rest, rfl⟩ := List.exists_cons_of_ne_nil some
        split
        · unfold Notation.pointed
          dsimp only
          split
          · exact List.cons_ne_nil _ _
          · split
            · split <;> exact List.cons_ne_nil _ _
            · exact List.cons_ne_nil _ _
        · cases rest <;> exact List.cons_ne_nil _ _
      exact either _ _ _ Nat.toDigits_ne_nil

/-- Some numeric characters have been read, and nothing else. -/
def Spends (chars rest : List Char) : Prop :=
  ∃ used, chars = used ++ rest ∧ ∀ c ∈ used, numeric c = true

lemma Spends.trans {chars middle rest : List Char} (first : Spends chars middle)
    (second : Spends middle rest) : Spends chars rest := by
  obtain ⟨used, rfl, numerics⟩ := first
  obtain ⟨more, rfl, numerics'⟩ := second
  exact ⟨used ++ more, (List.append_assoc ..).symm, List.forall_mem_append.2 ⟨numerics, numerics'⟩⟩

lemma Spends.cons {c : Char} {chars rest : List Char} (number : numeric c = true)
    (spends : Spends chars rest) : Spends (c :: chars) rest := by
  obtain ⟨used, rfl, numerics⟩ := spends
  exact ⟨c :: used, rfl, List.forall_mem_cons.2 ⟨number, numerics⟩⟩

protected lemma Spends.refl (chars : List Char) : Spends chars chars := ⟨[], rfl, by simp⟩

lemma spends_digits (chars : List Char) : Spends chars (chars.dropWhile Char.isDigit) :=
  ⟨chars.takeWhile Char.isDigit, List.takeWhile_append_dropWhile.symm, fun _ mem =>
    numeric_of_isDigit (List.all_eq_true.1 List.all_takeWhile _ mem)⟩

lemma readFraction?_spends {chars rest : List Char} {fraction : Option (List Char)}
    (read : readFraction? chars = some (fraction, rest)) : Spends chars rest := by
  unfold readFraction? at read
  split at read
  · split at read
    · cases read
    · cases read
      exact (spends_digits _).cons rfl
  · cases read
    exact .refl _

lemma readExponentDigits?_spends {negative : Bool} {chars rest : List Char} {exponent : Option Int}
    (read : readExponentDigits? negative chars = some (exponent, rest)) : Spends chars rest := by
  unfold readExponentDigits? at read
  split at read
  · cases read
  · cases read
    exact spends_digits _

lemma readExponent?_spends {chars rest : List Char} {exponent : Option Int}
    (read : readExponent? chars = some (exponent, rest)) : Spends chars rest := by
  unfold readExponent? at read
  split at read
  · split at read
    · rename_i letter
      refine Spends.cons ?_ ?_
      · rcases Bool.or_eq_true_iff.1 letter with same | same
        · rw [beq_iff_eq.1 same]
          rfl
        · rw [beq_iff_eq.1 same]
          rfl
      · split at read
        · exact (readExponentDigits?_spends read).cons rfl
        · exact (readExponentDigits?_spends read).cons rfl
        · exact readExponentDigits?_spends read
    · cases read
      exact .refl _
  · cases read
    exact .refl _

/-- The sign of a number, if there is one. -/
lemma spends_sign (chars : List Char) :
    Spends chars (match chars with
      | '-' :: rest => (true, rest)
      | chars => (false, chars)).2 := by
  split
  · exact (Spends.refl _).cons rfl
  · exact .refl _

lemma readLexeme?_spends {chars rest : List Char} {lexeme : Lexeme}
    (read : readLexeme? chars = some (lexeme, rest)) : Spends chars rest := by
  have sign := spends_sign chars
  unfold readLexeme? at read
  dsimp only at read
  split at read
  · cases read
  · cases read
  · simp only [Bool.not_true, Bool.false_eq_true, if_false, Option.bind_eq_bind,
      Option.bind_eq_some_iff, Option.some.injEq, Prod.exists, Prod.mk.injEq] at read
    obtain ⟨fraction, middle, fractionRead, exponent, last, exponentRead, -, rfl⟩ := read
    have whole := sign.trans (spends_digits _)
    exact whole.trans ((readFraction?_spends fractionRead).trans (readExponent?_spends exponentRead))

/-- The reader of a number takes numeric characters only. -/
theorem readNumber?_spends {chars rest : List Char} {number : Number}
    (read : readNumber? chars = some (number, rest)) : Spends chars rest := by
  simp only [readNumber?, Option.bind_eq_bind, Option.bind_eq_some_iff, Option.some.injEq,
    Prod.exists, Prod.mk.injEq] at read
  obtain ⟨lexeme, middle, lexemeRead, other, -, -, rfl⟩ := read
  exact readLexeme?_spends lexemeRead

/-- What may follow a value: the end, a comma or a closing bracket. -/
def Closing (rest : List Char) : Prop := ∀ c ∈ rest.head?, c ∈ [',', ']', '}']

/-- A part of a number is left over, which no other reader takes. -/
def Stuck (rest : List Char) : Prop := ∃ c tail, rest = c :: tail ∧ numeric c = true

lemma Closing.not_numeric {c : Char} {rest : List Char} (closing : Closing (c :: rest)) :
    numeric c = false := by
  have mem := closing c rfl
  simp only [List.mem_cons, List.not_mem_nil, or_false] at mem
  rcases mem with rfl | rfl | rfl <;> rfl

/-- A number is read to its end, or a part of it is left over. -/
lemma readNumber?_numberChars {number result : Number} {rest left : List Char}
    (closing : Closing rest) (read : readNumber? (numberChars number ++ rest) = some (result, left)) :
    left = rest ∨ Stuck left := by
  obtain ⟨used, same, numerics⟩ := readNumber?_spends read
  rcases List.append_eq_append_iff.1 same with ⟨more, eq, eq'⟩ | ⟨more, eq, eq'⟩
  · -- the reader may not take what follows the number
    cases more with
    | nil => exact .inl eq'.symm
    | cons c more =>
      subst eq'
      have number := numerics c (by simp [eq])
      rw [closing.not_numeric] at number
      cases number
  · cases more with
    | nil => exact .inl eq'
    | cons c more =>
      exact .inr ⟨c, _, eq', numeric_numberChars number c (by simp [eq])⟩

/-! ## Values -/

mutual

/-- The second value is the first one up to its numbers. -/
def Reads : Json → Json → Prop
  | .null, .null => True
  | .bool a, .bool b => a = b
  | .num _, .num _ => True
  | .str a, .str b => a = b
  | .arr a, .arr b => ReadsItems a b
  | .obj a, .obj b => ReadsFields a b
  | _, _ => False

/-- The items of the second list are those of the first one up to their numbers. -/
def ReadsItems : List Json → List Json → Prop
  | [], [] => True
  | a :: as, b :: bs => Reads a b ∧ ReadsItems as bs
  | _, _ => False

/-- The fields of the second list are those of the first one up to their numbers. -/
def ReadsFields : List (String × Json) → List (String × Json) → Prop
  | [], [] => True
  | (name, a) :: as, (other, b) :: bs => name = other ∧ Reads a b ∧ ReadsFields as bs
  | _, _ => False

end

lemma skipBlanks_cons {c : Char} (rest : List Char)
    (letter : (c == ' ' || c == '\n' || c == '\t' || c == '\r') = false) :
    skipBlanks (c :: rest) = c :: rest := by
  rw [skipBlanks, List.dropWhile_cons_of_neg (by simp [letter])]

lemma not_blank_of_numeric {c : Char} (number : numeric c = true) :
    (c == ' ' || c == '\n' || c == '\t' || c == '\r') = false := by
  refine Bool.eq_false_iff.2 fun blank => ?_
  simp only [Bool.or_eq_true, beq_iff_eq] at blank
  rcases blank with ((rfl | rfl) | rfl) | rfl <;> cases number

/-- The text of a value begins with no blank and no closing bracket. -/
lemma chars_head (value : Json) : ∃ c rest, value.chars = c :: rest ∧ c ≠ ']' ∧
    (c == ' ' || c == '\n' || c == '\t' || c == '\r') = false := by
  cases value with
  | null => exact ⟨'n', _, rfl, by decide, rfl⟩
  | bool value => cases value <;> exact ⟨_, _, rfl, by decide, rfl⟩
  | num number =>
    obtain ⟨c, rest, eq⟩ := List.exists_cons_of_ne_nil (numberChars_ne_nil number)
    have first := numeric_numberChars number c (by simp [eq])
    refine ⟨c, rest, eq, ?_, not_blank_of_numeric first⟩
    rintro rfl
    cases first
  | str text => exact ⟨'"', _, rfl, by decide, rfl⟩
  | arr items => cases items <;> exact ⟨'[', _, rfl, by decide, rfl⟩
  | obj fields => cases fields <;> exact ⟨'{', _, rfl, by decide, rfl⟩

lemma skipBlanks_chars (value : Json) (rest : List Char) :
    skipBlanks (value.chars ++ rest) = value.chars ++ rest := by
  obtain ⟨c, tail, eq, -, letter⟩ := chars_head value
  rw [eq]
  exact skipBlanks_cons _ letter

lemma closing_itemsChars (items : List Json) (rest : List Char) :
    Closing (itemsChars items ++ rest) := by
  cases items <;> simp [Closing, itemsChars]

lemma closing_fieldsChars (fields : List (String × Json)) (rest : List Char) :
    Closing (fieldsChars fields ++ rest) := by
  cases fields <;> simp [Closing, fieldsChars]

lemma readItems?_stuck {read : List Char → Option (Json × List Char)} {fuel : Nat}
    {seen : List Json} {chars : List Char} (stuck : Stuck chars) :
    readItems? read fuel seen chars = none := by
  obtain ⟨c, tail, rfl, number⟩ := stuck
  cases fuel with
  | zero => rfl
  | succ fuel =>
    rw [readItems?, skipBlanks_cons _ (not_blank_of_numeric number)]
    split
    · rename_i same
      cases same
      cases number
    · rename_i same
      cases same
      cases number
    · rfl

lemma readFields?_stuck {read : String → List Char → Option (Json × List Char)} {fuel : Nat}
    {seen : List (String × Json)} {chars : List Char} (stuck : Stuck chars) :
    readFields? read fuel seen chars = none := by
  obtain ⟨c, tail, rfl, number⟩ := stuck
  cases fuel with
  | zero => rfl
  | succ fuel =>
    rw [readFields?, skipBlanks_cons _ (not_blank_of_numeric number)]
    split
    · rename_i same
      cases same
      cases number
    · rename_i same
      cases same
      cases number
    · rfl

/-- What begins with a numeric character is read as a number. -/
lemma readValue?_numeric {c : Char} (number : numeric c = true) (depth : Nat) (rest : List Char) :
    readValue? depth (c :: rest) =
      (readNumber? (c :: rest)).map fun (number, rest) => (.num number, rest) := by
  rw [readValue?.eq_def]
  split <;> first | rfl | (rename_i same; cases same; cases number)

lemma readValue?_arr (depth : Nat) (rest : List Char) :
    readValue? (depth + 1) ('[' :: rest) =
      if depth = 0 then none
      else match skipBlanks rest with
        | ']' :: rest => some (.arr [], rest)
        | rest =>
          match readValue? depth rest with
          | some (item, rest) => readItems? (readValue? depth) (rest.length + 1) [item] rest
          | none => none := rfl

lemma readValue?_obj (depth : Nat) (rest : List Char) :
    readValue? (depth + 1) ('{' :: rest) =
      if depth = 0 then none else readObject? (fun _ => readValue? depth) rest := rfl

/-- A field that was written, if it reads at all: its name, and its value as that reads. -/
lemma readField?_quoted {depth : Nat} {name field : String} {value result : Json}
    {rest left : List Char}
    (read : readField? (fun _ => readValue? depth) (quoted name ++ ':' :: (value.chars ++ rest)) =
      some ((field, result), left)) :
    field = name ∧ readValue? depth (value.chars ++ rest) = some (result, left) := by
  rw [quoted, readField?, List.cons_append, skipBlanks_cons _ rfl] at read
  simp only [Option.bind_eq_bind, Option.bind_eq_some_iff, Prod.exists, List.append_assoc] at read
  obtain ⟨text, middle, textRead, fieldRead⟩ := read
  cases readText?_quoted textRead
  have colon : skipBlanks (([] : List Char).append (':' :: (value.chars ++ rest))) =
      ':' :: (value.chars ++ rest) := skipBlanks_cons _ rfl
  rw [colon] at fieldRead
  simp only [Option.bind_eq_some_iff, Prod.exists, Option.some.injEq, Prod.mk.injEq] at fieldRead
  obtain ⟨value', last, valueRead, ⟨rfl, rfl⟩, rfl⟩ := fieldRead
  rw [skipBlanks_chars] at valueRead
  exact ⟨String.ofList_toList, valueRead⟩

/-- The text of a number, if it reads: only a part of it may be left over. -/
lemma readValue?_num {number : Number} {depth : Nat} {rest left : List Char} {result : Json}
    (closing : Closing rest)
    (read : readValue? depth (numberChars number ++ rest) = some (result, left)) :
    (∃ other, result = .num other) ∧ (left = rest ∨ Stuck left) := by
  obtain ⟨c, tail, eq⟩ := List.exists_cons_of_ne_nil (numberChars_ne_nil number)
  have first := numeric_numberChars number c (by simp [eq])
  have same : readValue? depth (numberChars number ++ rest) =
      (readNumber? (numberChars number ++ rest)).map fun (number, rest) => (.num number, rest) := by
    rw [eq]
    exact readValue?_numeric first depth _
  rw [same, Option.map_eq_some_iff] at read
  obtain ⟨⟨other, left⟩, numberRead, done⟩ := read
  cases done
  exact ⟨⟨other, rfl⟩, readNumber?_numberChars closing numberRead⟩

/-- A list that is not empty, if it reads: its first item reads, and then the others. -/
lemma readValue?_arr_cons {item : Json} {depth : Nat} {rest left : List Char} {result : Json}
    (read : readValue? depth ('[' :: (item.chars ++ rest)) = some (result, left)) :
    ∃ depth fuel first middle, readValue? depth (item.chars ++ rest) = some (first, middle) ∧
      readItems? (readValue? depth) fuel [first] middle = some (result, left) := by
  cases depth with
  | zero => cases read
  | succ depth =>
    rw [readValue?_arr, skipBlanks_chars] at read
    split at read
    · cases read
    · split at read
      · -- no value begins with a closing bracket
        rename_i bracket
        obtain ⟨c, tail, eq, other, -⟩ := chars_head item
        rw [eq] at bracket
        cases bracket
        exact absurd rfl other
      · split at read
        · rename_i first middle firstRead
          exact ⟨depth, _, first, middle, firstRead, read⟩
        · cases read

/-- An object that is not empty, if it reads: its first field reads, and then the others. -/
lemma readValue?_obj_cons {name : String} {value : Json} {depth : Nat} {rest left : List Char}
    {result : Json}
    (read : readValue? depth ('{' :: (quoted name ++ ':' :: (value.chars ++ rest))) =
      some (result, left)) :
    ∃ depth fuel first middle, readValue? depth (value.chars ++ rest) = some (first, middle) ∧
      readFields? (fun _ => readValue? depth) fuel [(name, first)] middle =
        some (result, left) := by
  cases depth with
  | zero => cases read
  | succ depth =>
    have opens : skipBlanks (quoted name ++ ':' :: (value.chars ++ rest)) =
        quoted name ++ ':' :: (value.chars ++ rest) := skipBlanks_cons _ rfl
    rw [readValue?_obj] at read
    split at read
    · cases read
    · rw [readObject?, opens] at read
      split at read
      · rename_i brace
        cases brace
      · split at read
        · rename_i first middle firstRead
          obtain ⟨field, content⟩ := first
          obtain ⟨rfl, valueRead⟩ := readField?_quoted firstRead
          exact ⟨depth, _, content, middle, valueRead, read⟩
        · cases read

mutual

/-- If the text of a value reads, it reads as the value up to its numbers; only a part of a
number may be left over. -/
theorem readValue?_chars : ∀ (value : Json) {depth : Nat} {rest left : List Char} {result : Json},
    Closing rest → readValue? depth (value.chars ++ rest) = some (result, left) →
      value.Reads result ∧ (left = rest ∨ Stuck left)
  | .null, _, _, _, _, _, read => by
    simp only [chars, List.cons_append, List.nil_append, readValue?] at read
    cases read
    exact ⟨trivial, .inl rfl⟩
  | .bool true, _, _, _, _, _, read => by
    simp only [chars, List.cons_append, List.nil_append, readValue?] at read
    cases read
    exact ⟨rfl, .inl rfl⟩
  | .bool false, _, _, _, _, _, read => by
    simp only [chars, List.cons_append, List.nil_append, readValue?] at read
    cases read
    exact ⟨rfl, .inl rfl⟩
  | .num number, _, _, _, _, closing, read => by
    rw [chars] at read
    obtain ⟨⟨other, rfl⟩, leaves⟩ := readValue?_num closing read
    exact ⟨trivial, leaves⟩
  | .str text, _, rest, _, _, _, read => by
    simp only [chars, quoted, List.cons_append, readValue?, Option.map_eq_some_iff] at read
    obtain ⟨⟨other, left⟩, textRead, done⟩ := read
    cases done
    rw [List.append_assoc] at textRead
    cases readText?_quoted textRead
    exact ⟨String.ofList_toList.symm, .inl rfl⟩
  | .arr [], depth, rest, _, _, _, read => by
    cases depth with
    | zero => cases read
    | succ depth =>
      rw [chars, List.cons_append, readValue?_arr] at read
      split at read
      · cases read
      · cases read
        exact ⟨trivial, .inl rfl⟩
  | .arr (item :: items), _, rest, _, _, _, read => by
    rw [chars, List.cons_append, List.append_assoc] at read
    obtain ⟨depth, fuel, first, middle, firstRead, othersRead⟩ := readValue?_arr_cons read
    obtain ⟨head, same | stuck⟩ := readValue?_chars item (closing_itemsChars items rest) firstRead
    · subst same
      obtain ⟨more, tail, rfl, rfl⟩ := readItems?_chars items othersRead
      exact ⟨⟨head, tail⟩, .inl rfl⟩
    · -- where a part of a number is left over, the list does not go on
      rw [readItems?_stuck stuck] at othersRead
      cases othersRead
  | .obj [], depth, rest, _, _, _, read => by
    cases depth with
    | zero => cases read
    | succ depth =>
      rw [chars, List.cons_append, readValue?_obj] at read
      split at read
      · cases read
      · cases read
        exact ⟨trivial, .inl rfl⟩
  | .obj ((name, value) :: fields), _, rest, _, _, _, read => by
    rw [chars, List.cons_append, List.append_assoc, List.cons_append, List.append_assoc] at read
    obtain ⟨depth, fuel, first, middle, firstRead, othersRead⟩ := readValue?_obj_cons read
    obtain ⟨head, same | stuck⟩ := readValue?_chars value (closing_fieldsChars fields rest) firstRead
    · subst same
      obtain ⟨more, tail, rfl, rfl⟩ := readFields?_chars fields othersRead
      exact ⟨⟨rfl, head, tail⟩, .inl rfl⟩
    · rw [readFields?_stuck stuck] at othersRead
      cases othersRead

/-- The same for the items of a list after the first. -/
theorem readItems?_chars : ∀ (items : List Json) {depth fuel : Nat} {seen : List Json}
    {rest left : List Char} {result : Json},
    readItems? (readValue? depth) fuel seen (itemsChars items ++ rest) = some (result, left) →
      ∃ more, ReadsItems items more ∧ result = .arr (seen.reverse ++ more) ∧ left = rest
  | items, _, 0, _, _, _, _, read => nomatch read
  | [], _, fuel + 1, seen, rest, _, _, read => by
    rw [itemsChars, List.singleton_append, readItems?, skipBlanks_cons _ rfl] at read
    cases read
    exact ⟨[], trivial, by rw [List.append_nil], rfl⟩
  | item :: items, depth, fuel + 1, seen, rest, left, result, read => by
    rw [itemsChars, List.cons_append, readItems?, skipBlanks_cons _ rfl, List.append_assoc] at read
    simp only [skipBlanks_chars] at read
    split at read
    · rename_i next middle nextRead
      obtain ⟨head, same | stuck⟩ := readValue?_chars item (closing_itemsChars items rest) nextRead
      · subst same
        obtain ⟨more, tail, rfl, rfl⟩ := readItems?_chars items read
        exact ⟨next :: more, ⟨head, tail⟩, by simp, rfl⟩
      · rw [readItems?_stuck stuck] at read
        cases read
    · cases read

/-- The same for the fields of an object after the first. -/
theorem readFields?_chars : ∀ (fields : List (String × Json)) {depth fuel : Nat}
    {seen : List (String × Json)} {rest left : List Char} {result : Json},
    readFields? (fun _ => readValue? depth) fuel seen (fieldsChars fields ++ rest) =
        some (result, left) →
      ∃ more, ReadsFields fields more ∧ result = .obj (seen.reverse ++ more) ∧ left = rest
  | fields, _, 0, _, _, _, _, read => nomatch read
  | [], _, fuel + 1, seen, rest, _, _, read => by
    rw [fieldsChars, List.singleton_append, readFields?, skipBlanks_cons _ rfl] at read
    cases read
    exact ⟨[], trivial, by rw [List.append_nil], rfl⟩
  | (name, value) :: fields, depth, fuel + 1, seen, rest, left, result, read => by
    rw [fieldsChars, List.cons_append, readFields?, skipBlanks_cons _ rfl, List.append_assoc,
      List.cons_append, List.append_assoc] at read
    change (match readField? _ _ with
      | some (field, rest) => readFields? _ fuel (field :: seen) rest
      | none => none) = _ at read
    split at read
    · rename_i next middle nextRead
      obtain ⟨field, content⟩ := next
      obtain ⟨rfl, valueRead⟩ := readField?_quoted nextRead
      obtain ⟨head, same | stuck⟩ :=
        readValue?_chars value (closing_fieldsChars fields rest) valueRead
      · subst same
        obtain ⟨more, tail, rfl, rfl⟩ := readFields?_chars fields read
        exact ⟨(field, content) :: more, ⟨rfl, head, tail⟩, by simp, rfl⟩
      · rw [readFields?_stuck stuck] at read
        cases read
    · cases read

end

/-! ## Whole texts -/

/-- What a value may read as: its fields sorted, its numbers any. -/
def Survives (value result : Json) : Prop := ∃ middle, value.Reads middle ∧ result = middle.arrange

/-- If the text of a value reads at all, it reads as the value. -/
theorem ofText?_text {value result : Json} (read : ofText? value.text = some result) :
    value.Survives result := by
  rw [ofText?, Option.map_eq_some_iff] at read
  obtain ⟨middle, parsed, rfl⟩ := read
  simp only [parse?, text, String.toList_ofList, Option.bind_eq_bind, Option.bind_eq_some_iff,
    Prod.exists] at parsed
  obtain ⟨other, left, valueRead, done⟩ := parsed
  rw [← List.append_nil value.chars, skipBlanks_chars] at valueRead
  have closing : Closing [] := fun _ none => nomatch none
  obtain ⟨reads, rfl | ⟨c, tail, rfl, number⟩⟩ := readValue?_chars value closing valueRead
  · cases done
    exact ⟨middle, reads, rfl⟩
  · rw [skipBlanks_cons _ (not_blank_of_numeric number)] at done
    cases done

/-- What is read of a text is read of the characters that were written. -/
lemma ofText?_of_readValue? {value content : Json} {rest : List Char}
    (read : readValue? depthLimit (skipBlanks value.chars) = some (content, rest))
    (done : (skipBlanks rest).isEmpty = true) : ofText? value.text = some content.arrange := by
  simp only [ofText?, parse?, text, String.toList_ofList, read, Option.bind_eq_bind,
    Option.bind_some, done, if_true, Option.map_some]

namespace Survives

lemma str {text : String} {result : Json} (survives : (Json.str text).Survives result) :
    result = .str text := by
  obtain ⟨middle, reads, rfl⟩ := survives
  cases middle <;> first | exact congrArg Json.str (Eq.symm reads) | cases reads

lemma bool {value : Bool} {result : Json} (survives : (Json.bool value).Survives result) :
    result = .bool value := by
  obtain ⟨middle, reads, rfl⟩ := survives
  cases middle <;> first | exact congrArg Json.bool (Eq.symm reads) | cases reads

lemma arrangeFields_reads {fields read : List (String × Json)} (reads : ReadsFields fields read) :
    (arrangeFields read).map Prod.fst = fields.map Prod.fst ∧
      ∀ name, match Assoc.find? name fields, Assoc.find? name (arrangeFields read) with
        | some value, some content => value.Survives content
        | none, none => True
        | _, _ => False := by
  induction fields generalizing read with
  | nil =>
    cases read with
    | nil => exact ⟨rfl, fun _ => trivial⟩
    | cons => cases reads
  | cons field rest ih =>
    cases read with
    | nil => cases reads
    | cons other more =>
      obtain ⟨name, value⟩ := field
      obtain ⟨otherName, content⟩ := other
      obtain ⟨same, head, tail⟩ := reads
      cases same
      obtain ⟨names, values⟩ := ih tail
      refine ⟨by rw [arrangeFields, List.map_cons, List.map_cons, names], fun key => ?_⟩
      rw [arrangeFields, Assoc.find?_cons, Assoc.find?_cons]
      by_cases same : name = key
      · rw [if_pos same, if_pos same]
        exact ⟨_, head, rfl⟩
      · rw [if_neg same, if_neg same]
        exact values key

/-- The fields of an object survive one by one, if no name occurs twice. -/
lemma obj {fields : List (String × Json)} {result : Json}
    (survives : (Json.obj fields).Survives result) (nodup : (fields.map Prod.fst).Nodup) :
    ∃ new, result = .obj new ∧ Assoc.Sorted new ∧
      ∀ name, match Assoc.find? name fields, Assoc.find? name new with
        | some value, some content => value.Survives content
        | none, none => True
        | _, _ => False := by
  obtain ⟨middle, reads, rfl⟩ := survives
  cases middle with
  | obj read =>
    obtain ⟨names, values⟩ := arrangeFields_reads reads
    refine ⟨Assoc.ofList (arrangeFields read), rfl, Assoc.sorted_ofList _, fun name => ?_⟩
    rw [Assoc.find?_ofList, Assoc.find?_reverse name (names ▸ nodup)]
    exact values name
  | _ => cases reads

end Survives

/-- A value reads as it was written, its numbers too. -/
def Fixed (value : Json) : Prop := ∀ result, value.Survives result → result = value

lemma fixed_str (text : String) : (Json.str text).Fixed := fun _ => Survives.str

lemma fixed_arr {items : List Json} (all : ∀ item ∈ items, item.Fixed) : (Json.arr items).Fixed := by
  rintro _ ⟨middle, reads, rfl⟩
  cases middle with
  | arr read =>
    rw [arrange]
    refine congrArg Json.arr ?_
    induction items generalizing read with
    | nil => cases read <;> first | rfl | cases reads
    | cons item rest ih =>
      cases read with
      | nil => cases reads
      | cons first more =>
        rw [arrangeItems, all item List.mem_cons_self _ ⟨first, reads.1, rfl⟩,
          ih (fun item mem => all item (List.mem_cons_of_mem _ mem)) more reads.2]
  | _ => cases reads

lemma fixed_ids (list : List Id) : (Json.arr (list.map Json.id)).Fixed := fixed_arr fun item mem => by
  obtain ⟨id, -, rfl⟩ := List.mem_map.1 mem
  exact fixed_str _

/-- An object whose fields are in order is fixed if their values are. -/
lemma fixed_obj {fields : List (String × Json)} (sorted : Assoc.Sorted fields)
    (all : ∀ name value, Assoc.find? name fields = some value → value.Fixed) :
    (Json.obj fields).Fixed := by
  intro result survives
  obtain ⟨new, rfl, sortedNew, each⟩ := Survives.obj survives (Assoc.nodup_of_sorted sorted)
  refine congrArg Json.obj (Assoc.eq_of_find?_eq sortedNew sorted fun name => ?_)
  have kept := each name
  cases found : Assoc.find? name fields with
  | none =>
    rw [found] at kept
    cases there : Assoc.find? name new with
    | none => rfl
    | some content =>
      rw [there] at kept
      exact kept.elim
  | some value =>
    rw [found] at kept
    cases there : Assoc.find? name new with
    | none =>
      rw [there] at kept
      exact kept.elim
    | some content =>
      rw [there] at kept
      exact congrArg some (all name value found content kept)

lemma fixed_record {fields : List (String × Json)} (all : ∀ field ∈ fields, field.2.Fixed) :
    (record fields).Fixed := by
  refine fixed_obj (Assoc.sorted_ofList _) fun name value found => ?_
  rw [Assoc.find?_ofList] at found
  exact all (name, value) (List.mem_reverse.1 (Assoc.mem_of_find?_eq_some found))

end Troupe.Json
