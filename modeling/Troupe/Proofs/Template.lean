import Troupe.Proofs.Except
import Troupe.Template

/-!
# Templates that are meant literally

Every value is what some template resolves to, whatever the scope: the value itself, with one more
dollar sign in front of each of its texts that starts with one (`Template.escape`).  What a template
holds where a value may stand, at any depth, is said by `Template.Holds`, which does not look at the
names of fields; so a template with no dollar sign at the start of such a text stands for itself, and
a template resolves exactly if each expression among them has a value.

## Main results

* `Template.resolve_escape`: an escaped value resolves to the value;
* `Template.resolve_isOk_iff`: when a template resolves;
* `Template.resolves_literally`: both, with what becomes of lists and objects.
-/

namespace Troupe.Template

variable {scope : Json}

/-- The text starts with a dollar sign. -/
def Dollared (text : String) : Prop := text.toList.head? = some '$'

instance (text : String) : Decidable (Dollared text) := inferInstanceAs (Decidable (_ = _))

/-- The text spells an expression: after its dollar sign stands a source that does not start with
another one. -/
def Spells (text source : String) : Prop :=
  text.toList = '$' :: source.toList ∧ ¬ Dollared source

/-- One more dollar sign in front of a text that starts with one. -/
def escapeText (text : String) : String := if Dollared text then "$" ++ text else text

mutual

/-- A value with one more dollar sign in front of each text that starts with one, where a value may
stand; the names of fields are left alone. -/
def escape : Json → Json
  | .str text => .str (escapeText text)
  | .arr items => .arr (escapeItems items)
  | .obj fields => .obj (escapeFields fields)
  | other => other

/-- Escape every item of a list. -/
def escapeItems : List Json → List Json
  | [] => []
  | item :: rest => escape item :: escapeItems rest

/-- Escape the value of every field. -/
def escapeFields : List (String × Json) → List (String × Json)
  | [] => []
  | (name, value) :: rest => (name, escape value) :: escapeFields rest

end

/-- A text stands in a template where a value may stand, at any depth. -/
inductive Holds : (template : Json) → (text : String) → Prop
  /-- The template is the text. -/
  | text (text : String) : Holds (.str text) text
  /-- An item of a list holds it. -/
  | item {items : List Json} {item : Json} {text : String} (mem : item ∈ items)
    (holds : Holds item text) : Holds (.arr items) text
  /-- The value of a field holds it. -/
  | field {fields : List (String × Json)} {name : String} {value : Json} {text : String}
    (mem : (name, value) ∈ fields) (holds : Holds value text) : Holds (.obj fields) text

/-! ## Texts -/

lemma resolveText_of_not_dollared {text : String} (plain : ¬ Dollared text) :
    resolveText text scope = .ok (.str text) := by
  unfold resolveText
  unfold Dollared at plain
  split <;> simp_all

/-- A text after a doubled dollar sign keeps one of the two. -/
lemma resolveText_of_doubled {text : String} (dollared : Dollared text) :
    resolveText ("$" ++ text) scope = .ok (.str text) := by
  obtain ⟨rest, same⟩ := List.head?_eq_some_iff.1 dollared
  have doubled : ("$" ++ text).toList = '$' :: '$' :: rest := by
    rw [String.toList_append, same]
    rfl
  have kept : String.ofList ('$' :: rest) = text := by rw [← same, String.ofList_toList]
  rw [resolveText, doubled]
  simp only [kept]

lemma resolveText_of_spells {text source : String} (spells : Spells text source) :
    resolveText text scope = Expr.evaluate source scope := by
  obtain ⟨same, single⟩ := spells
  rw [resolveText, same]
  split
  · rename_i rest eq
    simp only [List.cons.injEq, true_and] at eq
    exact absurd (by rw [Dollared, eq]; rfl) single
  · rename_i eq
    simp only [List.cons.injEq, true_and] at eq
    rw [← eq, String.ofList_toList]
  · rename_i none
    exact absurd rfl (none source.toList)

/-- An escaped text resolves to the text. -/
lemma resolveText_escapeText (text : String) :
    resolveText (escapeText text) scope = .ok (.str text) := by
  unfold escapeText
  split
  · rename_i dollared
    exact resolveText_of_doubled dollared
  · rename_i plain
    exact resolveText_of_not_dollared plain

/-- A text that is no expression resolves. -/
lemma resolveText_isOk_iff (text : String) :
    (∃ value, resolveText text scope = .ok value) ↔
      ∀ source, Spells text source → ∃ value, Expr.evaluate source scope = .ok value := by
  constructor
  · rintro ⟨value, resolved⟩ source spells
    exact ⟨value, (resolveText_of_spells spells).symm.trans resolved⟩
  · intro evaluates
    by_cases dollared : Dollared text
    · obtain ⟨rest, same⟩ := List.head?_eq_some_iff.1 dollared
      by_cases again : Dollared (String.ofList rest)
      · have doubled : text = "$" ++ String.ofList rest := by
          rw [← String.toList_inj, same]
          simp
        rw [doubled, resolveText_of_doubled again]
        exact ⟨_, rfl⟩
      · have spells : Spells text (String.ofList rest) := ⟨by rw [same, String.toList_ofList], again⟩
        rw [resolveText_of_spells spells]
        exact evaluates _ spells
    · rw [resolveText_of_not_dollared dollared]
      exact ⟨_, rfl⟩

/-! ## Lists and objects -/

lemma resolve_arr_eq_ok {items : List Json} {value : Json} :
    resolve scope (.arr items) = .ok value ↔
      ∃ results, resolveItems scope items = .ok results ∧ .arr results = value := by
  simp only [resolve, bind_eq_ok, pure_eq_ok]

lemma resolve_obj_eq_ok {fields : List (String × Json)} {value : Json} :
    resolve scope (.obj fields) = .ok value ↔
      ∃ results, resolveFields scope fields = .ok results ∧ .obj results = value := by
  simp only [resolve, bind_eq_ok, pure_eq_ok]

lemma resolveItems_cons_eq_ok {item : Json} {rest results : List Json} :
    resolveItems scope (item :: rest) = .ok results ↔
      ∃ first, resolve scope item = .ok first ∧
        ∃ others, resolveItems scope rest = .ok others ∧ first :: others = results := by
  simp only [resolveItems, bind_eq_ok, pure_eq_ok]

lemma resolveFields_cons_eq_ok {name : String} {value : Json}
    {rest results : List (String × Json)} :
    resolveFields scope ((name, value) :: rest) = .ok results ↔
      ∃ first, resolve scope value = .ok first ∧
        ∃ others, resolveFields scope rest = .ok others ∧ (name, first) :: others = results := by
  simp only [resolveFields, bind_eq_ok, pure_eq_ok]

/-- A list resolves item by item. -/
lemma resolveItems_eq_ok {items results : List Json} :
    resolveItems scope items = .ok results ↔
      List.Forall₂ (fun item result => resolve scope item = .ok result) items results := by
  induction items generalizing results with
  | nil => simp [resolveItems, eq_comm]
  | cons item rest ih =>
    simp only [resolveItems_cons_eq_ok, ih, List.forall₂_cons_left_iff]
    constructor
    · rintro ⟨first, resolved, others, all, rfl⟩
      exact ⟨first, others, resolved, all, rfl⟩
    · rintro ⟨first, others, resolved, all, rfl⟩
      exact ⟨first, resolved, others, all, rfl⟩

/-- An object resolves field by field, and each field keeps its name. -/
lemma resolveFields_eq_ok {fields results : List (String × Json)} :
    resolveFields scope fields = .ok results ↔
      List.Forall₂ (fun field result => field.1 = result.1 ∧ resolve scope field.2 = .ok result.2)
        fields results := by
  induction fields generalizing results with
  | nil => simp [resolveFields, eq_comm]
  | cons field rest ih =>
    obtain ⟨name, value⟩ := field
    simp only [resolveFields_cons_eq_ok, ih, List.forall₂_cons_left_iff]
    constructor
    · rintro ⟨first, resolved, others, all, rfl⟩
      exact ⟨(name, first), others, ⟨rfl, resolved⟩, all, rfl⟩
    · rintro ⟨⟨_, first⟩, others, ⟨rfl, resolved⟩, all, rfl⟩
      exact ⟨first, resolved, others, all, rfl⟩

/-! ## Whole templates -/

mutual

/-- An escaped value resolves to the value. -/
theorem resolve_escape (value : Json) : resolve scope (escape value) = .ok value := by
  match value with
  | .str text => exact resolveText_escapeText text
  | .arr items => exact resolve_arr_eq_ok.2 ⟨items, resolveItems_escapeItems items, rfl⟩
  | .obj fields => exact resolve_obj_eq_ok.2 ⟨fields, resolveFields_escapeFields fields, rfl⟩
  | .null | .bool _ | .num _ => rfl

/-- Escaped items resolve to the items. -/
theorem resolveItems_escapeItems (items : List Json) :
    resolveItems scope (escapeItems items) = .ok items := by
  match items with
  | [] => rfl
  | item :: rest =>
    rw [escapeItems, resolveItems, resolve_escape item, resolveItems_escapeItems rest]
    rfl

/-- Escaped fields resolve to the fields. -/
theorem resolveFields_escapeFields (fields : List (String × Json)) :
    resolveFields scope (escapeFields fields) = .ok fields := by
  match fields with
  | [] => rfl
  | (name, value) :: rest =>
    rw [escapeFields, resolveFields, resolve_escape value, resolveFields_escapeFields rest]
    rfl

end

mutual

/-- A value none of whose texts starts with a dollar sign is its own template. -/
theorem escape_eq_self (value : Json) (plain : ∀ text, Holds value text → ¬ Dollared text) :
    escape value = value := by
  match value with
  | .str text => rw [escape, escapeText, if_neg (plain text (.text text))]
  | .arr items =>
    rw [escape, escapeItems_eq_self items fun item mem text holds => plain text (.item mem holds)]
  | .obj fields =>
    rw [escape, escapeFields_eq_self fields fun name value mem text holds =>
      plain text (.field mem holds)]
  | .null | .bool _ | .num _ => rfl

/-- The same of the items of a list. -/
theorem escapeItems_eq_self (items : List Json)
    (plain : ∀ item ∈ items, ∀ text, Holds item text → ¬ Dollared text) :
    escapeItems items = items := by
  match items with
  | [] => rfl
  | item :: rest =>
    obtain ⟨first, others⟩ := List.forall_mem_cons.1 plain
    rw [escapeItems, escape_eq_self item first, escapeItems_eq_self rest others]

/-- The same of the values of fields. -/
theorem escapeFields_eq_self (fields : List (String × Json))
    (plain : ∀ name value, (name, value) ∈ fields → ∀ text, Holds value text → ¬ Dollared text) :
    escapeFields fields = fields := by
  match fields with
  | [] => rfl
  | (name, value) :: rest =>
    rw [escapeFields, escape_eq_self value (plain name value List.mem_cons_self),
      escapeFields_eq_self rest fun name value mem => plain name value (List.mem_cons_of_mem _ mem)]

end

/-- Each expression that a template holds has a value. -/
def Evaluates (scope template : Json) : Prop :=
  ∀ text source, Holds template text → Spells text source →
    ∃ value, Expr.evaluate source scope = .ok value

lemma evaluates_arr {items : List Json} :
    Evaluates scope (.arr items) ↔ ∀ item ∈ items, Evaluates scope item := by
  constructor
  · intro all item mem text source holds
    exact all text source (.item mem holds)
  · intro all text source holds
    cases holds with
    | item mem holds => exact all _ mem text source holds

lemma evaluates_obj {fields : List (String × Json)} :
    Evaluates scope (.obj fields) ↔ ∀ field ∈ fields, Evaluates scope field.2 := by
  constructor
  · intro all field mem text source holds
    exact all text source (.field mem holds)
  · intro all text source holds
    cases holds with
    | field mem holds => exact all _ mem text source holds

mutual

/-- A template resolves exactly if each expression in it has a value. -/
theorem resolve_isOk_iff (template : Json) :
    (∃ value, resolve scope template = .ok value) ↔ Evaluates scope template := by
  match template with
  | .str text =>
    rw [resolve, resolveText_isOk_iff]
    constructor
    · intro all other source holds spells
      cases holds
      exact all source spells
    · intro all source
      exact all text source (.text text)
  | .arr items =>
    rw [evaluates_arr, ← resolveItems_isOk_iff items]
    simp [resolve_arr_eq_ok]
  | .obj fields =>
    rw [evaluates_obj, ← resolveFields_isOk_iff fields]
    simp [resolve_obj_eq_ok]
  | .null | .bool _ | .num _ => exact ⟨nofun, fun _ => ⟨_, rfl⟩⟩

/-- Items resolve exactly if each expression in them has a value. -/
theorem resolveItems_isOk_iff (items : List Json) :
    (∃ results, resolveItems scope items = .ok results) ↔ ∀ item ∈ items, Evaluates scope item := by
  match items with
  | [] => exact ⟨nofun, fun _ => ⟨_, rfl⟩⟩
  | item :: rest =>
    rw [List.forall_mem_cons, ← resolve_isOk_iff item, ← resolveItems_isOk_iff rest]
    simp only [resolveItems_cons_eq_ok]
    constructor
    · rintro ⟨results, first, resolved, others, all, rfl⟩
      exact ⟨⟨first, resolved⟩, others, all⟩
    · rintro ⟨⟨first, resolved⟩, others, all⟩
      exact ⟨first :: others, first, resolved, others, all, rfl⟩

/-- Fields resolve exactly if each expression in their values has a value. -/
theorem resolveFields_isOk_iff (fields : List (String × Json)) :
    (∃ results, resolveFields scope fields = .ok results) ↔
      ∀ field ∈ fields, Evaluates scope field.2 := by
  match fields with
  | [] => exact ⟨nofun, fun _ => ⟨_, rfl⟩⟩
  | (name, value) :: rest =>
    rw [List.forall_mem_cons, ← resolve_isOk_iff value, ← resolveFields_isOk_iff rest]
    simp only [resolveFields_cons_eq_ok]
    constructor
    · rintro ⟨results, first, resolved, others, all, rfl⟩
      exact ⟨⟨first, resolved⟩, others, all⟩
    · rintro ⟨⟨first, resolved⟩, others, all⟩
      exact ⟨(name, first) :: others, first, resolved, others, all, rfl⟩

end

/-- **Every value can be written as a literal template.**  In every scope its escaped form resolves
to it, and if none of its texts starts with a dollar sign, it resolves to itself.  A template resolves
exactly if each expression in it has a value; a list then keeps its length and an object the names of
its fields, each item and each value being what it resolves to by itself. -/
theorem resolves_literally (scope : Json) :
    (∀ value, resolve scope (escape value) = .ok value) ∧
    (∀ value, (∀ text, Holds value text → ¬ Dollared text) → resolve scope value = .ok value) ∧
    (∀ template, (∃ value, resolve scope template = .ok value) ↔
      ∀ text source, Holds template text → Spells text source →
        ∃ value, Expr.evaluate source scope = .ok value) ∧
    (∀ items value, resolve scope (.arr items) = .ok value → ∃ results, value = .arr results ∧
      results.length = items.length ∧
      List.Forall₂ (fun item result => resolve scope item = .ok result) items results) ∧
    (∀ fields value, resolve scope (.obj fields) = .ok value → ∃ results, value = .obj results ∧
      results.map Prod.fst = fields.map Prod.fst ∧
      List.Forall₂ (fun field result => field.1 = result.1 ∧ resolve scope field.2 = .ok result.2)
        fields results) := by
  refine ⟨resolve_escape, ?_, resolve_isOk_iff, ?_, ?_⟩
  · intro value plain
    have resolved : resolve scope (escape value) = .ok value := resolve_escape value
    rwa [escape_eq_self value plain] at resolved
  · intro items value resolved
    obtain ⟨results, each, rfl⟩ := resolve_arr_eq_ok.1 resolved
    have each := resolveItems_eq_ok.1 each
    exact ⟨results, rfl, each.length_eq.symm, each⟩
  · intro fields value resolved
    obtain ⟨results, each, rfl⟩ := resolve_obj_eq_ok.1 resolved
    have each := resolveFields_eq_ok.1 each
    have names : List.Forall₂ (· = ·) (fields.map Prod.fst) (results.map Prod.fst) := by
      rw [List.forall₂_map_left_iff, List.forall₂_map_right_iff]
      exact each.imp fun _ _ both => both.1
    exact ⟨results, rfl, (List.forall₂_eq_eq_eq ▸ names).symm, each⟩

namespace Sample

/-- Texts with one dollar sign and with two, under a name with one. -/
def prices : Json := .obj [("$low", .arr [.str "$5", .str "$$"])]

/-- The same without a dollar sign in front of a text. -/
def bare : Json := .obj [("$low", .arr [.str "5$"])]

/-- An expression that lacks an operand, in a list. -/
def broken : List Json := [.str "5", .str "$5 +"]

end Sample

/-- The prices can be written; without dollar signs they stand for themselves; and a list with a
broken expression does not resolve, though its other item does. -/
theorem resolves_literally_prices :
    escape Sample.prices = .obj [("$low", .arr [.str "$$5", .str "$$$"])] ∧
    resolve .null (escape Sample.prices) = .ok Sample.prices ∧
    (∀ text, Holds Sample.bare text → ¬ Dollared text) ∧
    resolve .null Sample.bare = .ok Sample.bare ∧
    resolve .null (.str "5") = .ok (.str "5") ∧
    ¬ ∃ value, resolve .null (.arr Sample.broken) = .ok value := by
  obtain ⟨escaped, plain, succeeds, -, -⟩ := resolves_literally .null
  have bare : ∀ text, Holds Sample.bare text → ¬ Dollared text := by
    rintro text (_ | _ | ⟨field, holds⟩)
    cases List.mem_singleton.1 field
    rcases holds with _ | ⟨item, holds⟩ | _
    cases List.mem_singleton.1 item
    cases holds
    decide
  refine ⟨rfl, escaped _, bare, plain _ bare, rfl, fun resolves => ?_⟩
  have last : Holds (.arr Sample.broken) "$5 +" :=
    .item (List.mem_cons_of_mem _ List.mem_cons_self) (.text _)
  obtain ⟨value, evaluated⟩ := (succeeds _).1 resolves "$5 +" "5 +" last ⟨rfl, by decide⟩
  have refused : (Expr.evaluate "5 +" .null).isOk = false := by decide +kernel
  rw [evaluated] at refused
  cases refused

end Troupe.Template
