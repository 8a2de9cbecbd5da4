import Troupe.Proofs.Json.Reading

/-!
# Where the quotes of a JSON text open and close

A reader that only keeps track of quotes and backslashes (`Json.Place`) is outside of quotes before
a JSON text and after it, and it comes upon a bar only inside of quotes (`Json.Walk`).  Two readers
that start on the two sides of a quote stay on the two sides of every quote, since the one changes
sides whenever the other does (`Json.Place.after_across`).  So what follows a bar in a JSON text is
never a JSON text itself: its reader would have to end on both sides.

## Main results

* `Json.walk_chars`: the walk through the text of a value;
* `Json.name_bar_text_inj`: a name, a bar and a JSON text can be told apart from what they make
  together, even if the name has bars in it.
-/

namespace Troupe.Json

/-- What a reader has to know of the quotes and backslashes before it. -/
structure Place where
  /-- Whether it is inside of quotes. -/
  quoted : Bool
  /-- Whether it is right after a backslash that escapes the next character. -/
  escaped : Bool
deriving DecidableEq

namespace Place

/-- Outside of quotes. -/
def outside : Place := ⟨false, false⟩

/-- Inside of quotes. -/
def inside : Place := ⟨true, false⟩

/-- The place on the other side of a quote. -/
def across (place : Place) : Place := ⟨!place.quoted, place.escaped⟩

/-- Read one character. -/
def step (place : Place) (c : Char) : Place :=
  if place.escaped then ⟨place.quoted, false⟩
  else if c = '\\' then ⟨place.quoted, true⟩
  else if c = '"' then place.across
  else place

/-- Read characters one after the other. -/
def after (place : Place) (chars : List Char) : Place := chars.foldl step place

lemma step_across (place : Place) (c : Char) : place.across.step c = (place.step c).across := by
  obtain ⟨quoted, escaped⟩ := place
  cases escaped with
  | true => rfl
  | false =>
    by_cases slash : c = '\\'
    · simp [step, across, slash]
    · by_cases quote : c = '"' <;> simp [step, across, slash, quote]

/-- Readers on the two sides of a quote stay on the two sides. -/
lemma after_across (place : Place) (chars : List Char) :
    place.across.after chars = (place.after chars).across := by
  induction chars generalizing place with
  | nil => rfl
  | cons c rest ih =>
    show (place.across.step c).after rest = ((place.step c).after rest).across
    rw [step_across, ih]

lemma after_append (place : Place) (front back : List Char) :
    place.after (front ++ back) = (place.after front).after back :=
  List.foldl_append

/-- The character changes nothing, unless it is escaped. -/
def Plain (c : Char) : Prop := c ≠ '\\' ∧ c ≠ '"'

instance (c : Char) : Decidable (Plain c) := inferInstanceAs (Decidable (_ ∧ _))

lemma step_of_plain {place : Place} {c : Char} (free : place.escaped = false) (plain : Plain c) :
    place.step c = place := by
  simp [step, free, plain.1, plain.2]

end Place

open Place (outside inside)

/-- Reading leads from a place to another one, and comes upon bars only inside of quotes. -/
inductive Walk : (start : Place) → (chars : List Char) → (finish : Place) → Prop
  /-- Nothing is read. -/
  | nil (place : Place) : Walk place [] place
  /-- A character is read. -/
  | cons {start finish : Place} {c : Char} {rest : List Char} (bar : c = '|' → start = inside)
    (walk : Walk (start.step c) rest finish) : Walk start (c :: rest) finish

namespace Walk

variable {start middle finish : Place} {c : Char} {chars front back : List Char}

lemma append (first : Walk start front middle) (second : Walk middle back finish) :
    Walk start (front ++ back) finish := by
  induction first with
  | nil => exact second
  | cons bar _ ih => exact .cons bar (ih second)

lemma after_eq (walk : Walk start chars finish) : start.after chars = finish := by
  induction walk with
  | nil => rfl
  | cons _ _ ih => exact ih

/-- A bar is read inside of quotes. -/
lemma after_eq_inside (walk : Walk start (front ++ '|' :: back) finish) :
    start.after front = inside := by
  induction front generalizing start with
  | nil =>
    cases walk with
    | cons bar _ => exact bar rfl
  | cons c rest ih =>
    cases walk with
    | cons _ walk => exact ih walk

/-- Outside of quotes a character is passed that is neither a quote nor a backslash nor a bar. -/
lemma outside_cons (plain : Place.Plain c ∧ c ≠ '|') (walk : Walk outside chars finish) :
    Walk outside (c :: chars) finish :=
  .cons (fun bar => absurd bar plain.2) (by rwa [Place.step_of_plain rfl plain.1])

/-- Inside of quotes a character is passed that is neither a quote nor a backslash. -/
lemma inside_cons (plain : Place.Plain c) (walk : Walk inside chars finish) :
    Walk inside (c :: chars) finish :=
  .cons (fun _ => rfl) (by rwa [Place.step_of_plain rfl plain])

/-- Inside of quotes a backslash takes any character but a bar with it. -/
lemma inside_escaped (noBar : c ≠ '|') (walk : Walk inside chars finish) :
    Walk inside ('\\' :: c :: chars) finish :=
  .cons (by decide) (.cons (fun bar => absurd bar noBar) walk)

/-- Characters that are neither quotes nor backslashes nor bars. -/
lemma outside_of_forall (plain : ∀ c ∈ chars, Place.Plain c ∧ c ≠ '|') :
    Walk outside chars outside := by
  induction chars with
  | nil => exact .nil _
  | cons c rest ih =>
    obtain ⟨first, others⟩ := List.forall_mem_cons.1 plain
    exact outside_cons first (ih others)

end Walk

/-! ## Texts and numbers -/

lemma plain_digits (count n : Nat) : ∀ c ∈ Hex.digits count n, Place.Plain c := by
  have digit : ∀ k < 16, Place.Plain (Hex.digit k) := by decide +kernel
  induction count generalizing n with
  | zero => nofun
  | succ count ih =>
    intro c mem
    rcases List.mem_append.1 mem with front | last
    · exact ih _ c front
    · rw [List.mem_singleton.1 last]
      exact digit _ (Nat.mod_lt _ (by decide))

lemma walk_of_plain {chars : List Char} (plain : ∀ c ∈ chars, Place.Plain c) :
    Walk inside chars inside := by
  induction chars with
  | nil => exact .nil _
  | cons c rest ih =>
    obtain ⟨first, others⟩ := List.forall_mem_cons.1 plain
    exact .inside_cons first (ih others)

/-- What is written for a character stays inside of quotes. -/
lemma walk_escape (c : Char) : Walk inside (escape c) inside := by
  have letter : ∀ c : Char, c ≠ '|' → Walk inside ['\\', c] inside := fun c noBar =>
    .inside_escaped noBar (.nil _)
  unfold escape
  split
  case h_8 quote slash _ _ _ _ _ =>
    split
    · exact .inside_escaped (by decide) (walk_of_plain (plain_digits 4 _))
    · exact .inside_cons ⟨slash, quote⟩ (.nil _)
  all_goals exact letter _ (by decide)

/-- A text in quotes. -/
lemma walk_quoted (text : String) : Walk outside (quoted text) outside := by
  have content : Walk inside (text.toList.flatMap escape) inside := by
    induction text.toList with
    | nil => exact .nil _
    | cons c rest ih => exact (walk_escape c).append ih
  exact .cons (by decide) (content.append (.cons (by decide) (.nil _)))

lemma walk_numberChars (number : Number) : Walk outside (numberChars number) outside := by
  refine .outside_of_forall fun c mem => ?_
  have number := numeric_numberChars number c mem
  refine ⟨⟨?_, ?_⟩, ?_⟩ <;>
    · rintro rfl
      cases number

/-! ## Values -/

mutual

/-- The text of a value ends outside of quotes, and its bars are inside. -/
theorem walk_chars (value : Json) : Walk outside (chars value) outside := by
  match value with
  | .null | .bool true | .bool false => exact .outside_of_forall (by simp [chars, Place.Plain])
  | .num number => exact walk_numberChars number
  | .str text => exact walk_quoted text
  | .arr [] | .obj [] => exact .outside_of_forall (by simp [chars, Place.Plain])
  | .arr (item :: rest) =>
    exact .outside_cons (by decide) ((walk_chars item).append (walk_itemsChars rest))
  | .obj ((name, value) :: rest) =>
    refine .outside_cons (by decide) ((walk_quoted name).append ?_)
    exact .outside_cons (by decide) ((walk_chars value).append (walk_fieldsChars rest))

/-- Further items. -/
theorem walk_itemsChars (items : List Json) : Walk outside (itemsChars items) outside := by
  match items with
  | [] => exact .outside_of_forall (by simp [itemsChars, Place.Plain])
  | item :: rest =>
    exact .outside_cons (by decide) ((walk_chars item).append (walk_itemsChars rest))

/-- Further fields. -/
theorem walk_fieldsChars (fields : List (String × Json)) :
    Walk outside (fieldsChars fields) outside := by
  match fields with
  | [] => exact .outside_of_forall (by simp [fieldsChars, Place.Plain])
  | (name, value) :: rest =>
    refine .outside_cons (by decide) ((walk_quoted name).append ?_)
    exact .outside_cons (by decide) ((walk_chars value).append (walk_fieldsChars rest))

end

/-- What follows a bar in the text of a value is not the text of a value. -/
theorem chars_ne_append_bar (value other : Json) (front : List Char) :
    value.chars ≠ front ++ '|' :: other.chars := by
  intro same
  have walk := walk_chars value
  rw [same] at walk
  have atBar := walk.after_eq_inside
  -- after the bar the reader is inside of quotes, where the reader of the other value is outside
  have finish := walk.after_eq
  rw [Place.after_append, atBar] at finish
  have crossed : inside.after other.chars = inside := by
    show outside.across.after other.chars = outside.across
    rw [Place.after_across, (walk_chars other).after_eq]
  have stays : inside.after ('|' :: other.chars) = inside := crossed
  rw [stays] at finish
  cases finish

/-- A name, a bar and the text of a value determine the name and the text. -/
theorem name_bar_text_inj {name name' : List Char} {value value' : Json} :
    name ++ '|' :: value.chars = name' ++ '|' :: value'.chars ↔
      name = name' ∧ value.chars = value'.chars := by
  constructor
  · intro same
    rcases List.append_eq_append_iff.1 same with ⟨more, longer, rest⟩ | ⟨more, longer, rest⟩
    · cases more with
      | nil => simp_all
      | cons c more => exact absurd (List.cons.inj rest).2 (chars_ne_append_bar _ _ more)
    · cases more with
      | nil => simp_all
      | cons c more => exact absurd (List.cons.inj rest).2 (chars_ne_append_bar _ _ more)
  · rintro ⟨rfl, same⟩
    rw [same]

end Troupe.Json
