import Troupe.Proofs.Except
import Troupe.Proofs.Json.Paths
import Troupe.Proofs.Schema.Conformance
import Troupe.Proofs.World.Session

/-!
# What tool parameters declare

A normalized declaration is an object schema with a type, properties and required names, and
normalizing it again leaves it as it is.  Of a loose declaration each field is a parameter: whether
it has to be given (`ToolDefinition.Requires`) and what its value has to conform to
(`ToolDefinition.Describes`) can be read off the field alone.  A payload that gives what is declared
(`ToolDefinition.Suits`) is what the tool's code is run on, and no other.

## Main results

* `ToolDefinition.Complete.normalize_eq`: a complete object schema is normal;
* `ToolDefinition.conforms_iff_suits`: what conforms to normalized parameters;
* `Engine.callTool_eq`: when the code of a tool is run;
* `ToolDefinition.parameters_mean`: all of it together.
-/

namespace Troupe

section Forall₂

variable {α β : Type} {R : α → β → Prop} {left : List α} {right : List β}

lemma exists_left_of_mem (all : List.Forall₂ R left right) {b : β} (mem : b ∈ right) :
    ∃ a ∈ left, R a b := by
  induction all with
  | nil => cases mem
  | cons first _ ih =>
    rcases List.mem_cons.1 mem with rfl | mem
    · exact ⟨_, List.mem_cons_self, first⟩
    · obtain ⟨a, there, related⟩ := ih mem
      exact ⟨a, List.mem_cons_of_mem _ there, related⟩

lemma exists_right_of_mem (all : List.Forall₂ R left right) {a : α} (mem : a ∈ left) :
    ∃ b ∈ right, R a b :=
  exists_left_of_mem all.flip mem

end Forall₂

namespace ToolDefinition

variable {tool name : String} {declared normal payload spec schema : Json}
variable {fields : List (String × Json)} {parameters : List (String × Json × Bool)}

/-! ## Loose declarations -/

/-- A declaration is loose: it is no object schema, neither by its properties nor by its type. -/
structure Loose (fields : List (String × Json)) : Prop where
  /-- It has no properties, -/
  properties : Assoc.find? "properties" fields = none
  /-- and its type is not that of objects. -/
  type : Assoc.find? "type" fields ≠ some (.str "object")

/-- A parameter that is declared like this has to be given. -/
inductive Requires : (spec : Json) → Prop
  /-- It is declared by the name of a type, -/
  | type (name : String) : Requires (.str name)
  /-- or by an object that neither marks it as optional nor has a default. -/
  | described {fields : List (String × Json)}
    (mandatory : Assoc.find? "optional" fields ≠ some (.bool true))
    (undefaulted : Assoc.find? "default" fields = none) : Requires (.obj fields)

/-- The schema of a parameter that is declared like this. -/
inductive Describes : (spec schema : Json) → Prop
  /-- A name is that of a type. -/
  | type (name : String) : Describes (.str name) (.obj [("type", .str name)])
  /-- An object is a schema, but for the mark that the parameter is optional. -/
  | described (fields : List (String × Json)) :
    Describes (.obj fields) (.obj (fields.filter fun field => field.1 ≠ "optional"))

/-- A payload gives what a loose declaration asks for: it is an object, it has every parameter that
has to be given, and the parameters that it has conform to their schemas. -/
def Suits (fields : List (String × Json)) (payload : Json) : Prop :=
  ∃ given, payload = .obj given ∧
    (∀ name spec, (name, spec) ∈ fields → Requires spec → ∃ content, (name, content) ∈ given) ∧
    ∀ name spec schema content, (name, spec) ∈ fields → Describes spec schema →
      (name, content) ∈ given → Schema.accepts schema content = true

/-- What a parameter is read as: its schema, and whether it has to be given. -/
def Reads (field : String × Json) (parameter : String × Json × Bool) : Prop :=
  parameter.1 = field.1 ∧ Describes field.2 parameter.2.1 ∧
    (parameter.2.2 = true ↔ Requires field.2)

/-- What equals a text or a truth value is that text or that truth value. -/
lemma eq_iff_same {literal content : Json} (plain : literal.isString ∨ ∃ b, literal = .bool b) :
    literal.same content = true ↔ content = literal := by
  rcases plain with plain | ⟨b, rfl⟩
  · cases literal with
    | str text => cases content <;> simp [Json.same, eq_comm (a := text)]
    | _ => cases plain
  · cases content <;> simp [Json.same, eq_comm (a := b)]

/-- Whether a field has a given text or truth value. -/
lemma holds_iff {literal : Json} (plain : literal.isString ∨ ∃ b, literal = .bool b) :
    ((Assoc.find? name fields).map literal.same).getD false = true ↔
      Assoc.find? name fields = some literal := by
  cases Assoc.find? name fields <;> simp [eq_iff_same plain]

lemma loose_iff : isSchema fields = false ↔ Loose fields := by
  rw [isSchema, Bool.or_eq_false_iff, Assoc.contains, ← Bool.not_eq_true, ← Bool.not_eq_true,
    holds_iff (.inl rfl), Option.not_isSome_iff_eq_none]
  exact ⟨fun loose => ⟨loose.1, loose.2⟩, fun loose => ⟨loose.properties, loose.type⟩⟩

/-- How one parameter is read. -/
lemma reads_parameter {isRequired : Bool}
    (read : parameter tool name spec = .ok (schema, isRequired)) :
    Reads (name, spec) (name, schema, isRequired) := by
  cases spec with
  | str type =>
    cases read
    exact ⟨rfl, .type type, fun _ => .type type, fun _ => rfl⟩
  | obj fields =>
    cases read
    have default : Assoc.contains "default" (Assoc.erase "optional" fields) = false ↔
        Assoc.find? "default" fields = none := by
      rw [Assoc.contains, Assoc.find?_erase, if_neg (by decide)]
      simp
    refine ⟨rfl, .described fields, ?_⟩
    dsimp only
    rw [Bool.and_eq_true, Bool.not_eq_true', Bool.not_eq_true', default, ← Bool.not_eq_true,
      holds_iff (.inr ⟨true, rfl⟩)]
    constructor
    · rintro ⟨mandatory, undefaulted⟩
      exact .described mandatory undefaulted
    · rintro (_ | ⟨mandatory, undefaulted⟩)
      exact ⟨mandatory, undefaulted⟩
  | _ => cases read

/-- What a loose declaration is read as. -/
lemma exists_parameters (loose : Loose fields)
    (accepted : normalize tool (.obj fields) = .ok normal) :
    ∃ parameters, normal = ofParameters parameters ∧ List.Forall₂ Reads fields parameters := by
  rw [normalize, if_neg (by simp [loose_iff.2 loose])] at accepted
  obtain ⟨parameters, read, eq⟩ := bind_eq_ok.1 accepted
  refine ⟨parameters, (pure_eq_ok.1 eq).symm, (mapM_eq_ok.1 read).imp ?_⟩
  rintro ⟨name, spec⟩ parameter read
  obtain ⟨⟨schema, isRequired⟩, first, eq⟩ := bind_eq_ok.1 read
  cases eq
  exact reads_parameter first

/-! ## The schema of parameters -/

/-- The names of the parameters that have to be given. -/
def requiredNames (parameters : List (String × Json × Bool)) : List String :=
  (parameters.filter fun parameter => parameter.2.2).map Prod.fst

/-- The schemas of parameters, by name. -/
def schemas (parameters : List (String × Json × Bool)) : List (String × Json) :=
  Assoc.ofList (parameters.map fun parameter => (parameter.1, parameter.2.1))

/-- What stands in the schema of parameters. -/
lemma find?_ofParameters (parameters : List (String × Json × Bool)) :
    ∃ keywords, ofParameters parameters = .obj keywords ∧ Assoc.Sorted keywords ∧
      ∀ keyword, Assoc.find? keyword keywords =
        if keyword = "type" then some (.str "object")
        else if keyword = "properties" then some (.obj (schemas parameters))
        else if keyword = "required" then some (.strings (requiredNames parameters))
        else none := by
  refine ⟨_, rfl, Assoc.sorted_ofList _, fun keyword => ?_⟩
  rw [Assoc.find?_ofList]
  simp only [List.reverse_cons, List.reverse_nil, List.nil_append, List.cons_append,
    Assoc.find?_cons, Assoc.find?_nil]
  by_cases type : keyword = "type"
  · simp [type]
  · by_cases properties : keyword = "properties"
    · simp [properties]
      rfl
    · simp [Ne.symm type, Ne.symm properties, type, properties, eq_comm]
      rfl

section Read

variable (read : List.Forall₂ Reads fields parameters)

include read

lemma names_eq : parameters.map Prod.fst = fields.map Prod.fst := by
  induction read with
  | nil => rfl
  | cons first _ ih => rw [List.map_cons, List.map_cons, ih, first.1]

/-- The names that are required are those of the parameters that have to be given. -/
lemma mem_requiredNames :
    name ∈ requiredNames parameters ↔ ∃ spec, (name, spec) ∈ fields ∧ Requires spec := by
  simp only [requiredNames, List.mem_map, List.mem_filter]
  constructor
  · rintro ⟨parameter, ⟨mem, required⟩, rfl⟩
    obtain ⟨⟨name, spec⟩, there, same, -, requires⟩ := exists_left_of_mem read mem
    exact ⟨spec, same ▸ there, requires.1 required⟩
  · rintro ⟨spec, mem, required⟩
    obtain ⟨parameter, there, same, -, requires⟩ := exists_right_of_mem read mem
    exact ⟨parameter, ⟨there, requires.2 required⟩, same⟩

lemma nodup_requiredNames (sorted : Assoc.Sorted fields) : (requiredNames parameters).Nodup := by
  have nodup := names_eq read ▸ Assoc.nodup_of_sorted sorted
  exact nodup.sublist (List.filter_sublist.map Prod.fst)

/-- The schema under a name is that of the parameter of this name. -/
lemma find?_schemas (sorted : Assoc.Sorted fields) :
    Assoc.find? name (schemas parameters) = some schema ↔
      ∃ spec, (name, spec) ∈ fields ∧ Describes spec schema := by
  have keys : ((parameters.map fun parameter => (parameter.1, parameter.2.1)).map
      Prod.fst).Nodup := by
    rw [List.map_map]
    exact names_eq read ▸ Assoc.nodup_of_sorted sorted
  rw [schemas, Assoc.find?_ofList, Assoc.find?_reverse name keys]
  constructor
  · intro found
    obtain ⟨parameter, mem, eq⟩ := List.mem_map.1 (Assoc.mem_of_find?_eq_some found)
    cases eq
    obtain ⟨⟨name, spec⟩, there, same, describes, -⟩ := exists_left_of_mem read mem
    exact ⟨spec, same ▸ there, describes⟩
  · rintro ⟨spec, mem, describes⟩
    obtain ⟨⟨other, schema', isRequired⟩, there, rfl, describes', -⟩ := exists_right_of_mem read mem
    have same : schema' = schema := by
      cases describes <;> cases describes' <;> rfl
    exact Assoc.find?_of_mem_nodup keys (List.mem_map.2 ⟨_, there, by rw [same]⟩)

/-- **What conforms to the parameters of a tool** is a payload that gives what is declared. -/
theorem conforms_iff_suits (sorted : Assoc.Sorted fields) :
    Schema.Conforms (ofParameters parameters) payload ↔ Suits fields payload := by
  obtain ⟨keywords, eq, -, found⟩ := find?_ofParameters parameters
  have type := found "type"
  have properties := found "properties"
  have required := found "required"
  simp only [reduceIte, String.reduceEq] at type properties required
  rw [eq]
  constructor
  · intro conforms
    cases conforms with
    | object obeys conform items =>
      obtain ⟨given, rfl⟩ : ∃ given, payload = .obj given := by
        have typed := obeys.type "object" type
        generalize named : "object" = name at typed
        cases typed with
        | object given => exact ⟨given, rfl⟩
        | _ => simp at named
      refine ⟨given, rfl, fun name spec mem requires => ?_,
        fun name spec schema content mem describes there => ?_⟩
      · have named := (mem_requiredNames read).2 ⟨spec, mem, requires⟩
        exact obeys.required _ given required rfl name (List.mem_map_of_mem named)
      · rw [Schema.accepts, List.isEmpty_iff, Schema.validate, Schema.violations_eq_nil]
        exact conform _ given properties rfl name schema content
          ((find?_schemas read sorted).2 ⟨spec, mem, describes⟩) there
  · rintro ⟨given, rfl, requires, conform⟩
    have obeys : Schema.Obeys keywords (.obj given) :=
      { type := fun name named => by
          cases type.symm.trans named
          exact .object given
        types := fun names named => by cases type.symm.trans named
        const := by simp [found]
        enum := by simp [found]
        minimum := by simp [found]
        maximum := by simp [found]
        minLength := by simp [found]
        maxLength := by simp [found]
        required := fun names fields' named same name mem => by
          cases same
          cases required.symm.trans named
          obtain ⟨name, there, eq⟩ := List.mem_map.1 mem
          cases eq
          obtain ⟨spec, mem, must⟩ := (mem_requiredNames read).1 there
          exact requires name spec mem must
        additional := by simp [found] }
    refine .object obeys (fun declared fields' named same name schema content stated there => ?_)
      (by simp)
    cases same
    cases properties.symm.trans named
    obtain ⟨spec, mem, describes⟩ := (find?_schemas read sorted).1 stated
    have accepted := conform name spec schema content mem describes there
    rwa [Schema.accepts, List.isEmpty_iff, Schema.validate, Schema.violations_eq_nil] at accepted

end Read

/-! ## Normal declarations -/

/-- A declaration is a complete object schema. -/
structure Complete (fields : List (String × Json)) : Prop where
  /-- Its fields are in order. -/
  sorted : Assoc.Sorted fields
  /-- It has the type of objects, -/
  type : Assoc.find? "type" fields = some (.str "object")
  /-- properties, -/
  properties : Assoc.contains "properties" fields
  /-- and required names. -/
  required : Assoc.contains "required" fields

/-- A complete object schema is normal. -/
lemma Complete.normalize_eq (complete : Complete fields) (tool : String) :
    normalize tool (.obj fields) = .ok (.obj fields) := by
  have schema : isSchema fields = true := by rw [isSchema, complete.properties, Bool.true_or]
  rw [normalize, if_pos schema, completed, Assoc.insert_eq_self complete.sorted complete.type,
    withDefault, withDefault, if_pos complete.properties, if_pos complete.required]

lemma sorted_withDefault (sorted : Assoc.Sorted fields) (content : Json) :
    Assoc.Sorted (withDefault name content fields) := by
  unfold withDefault
  split
  · exact sorted
  · exact Assoc.sorted_insert _ _ sorted

lemma find?_withDefault (content : Json) (other : String) :
    Assoc.find? other (withDefault name content fields) =
      if other = name then some ((Assoc.find? name fields).getD content)
      else Assoc.find? other fields := by
  unfold withDefault
  by_cases same : other = name
  · subst same
    rw [if_pos rfl]
    split
    · rename_i there
      obtain ⟨value, found⟩ := Option.isSome_iff_exists.1 there
      rw [found, Option.getD_some]
    · rename_i missing
      rw [Assoc.find?_insert, if_pos rfl, Option.not_isSome_iff_eq_none.1 missing, Option.getD_none]
  · rw [if_neg same]
    split
    · rfl
    · rw [Assoc.find?_insert, if_neg (Ne.symm same)]

/-- What a declaration is normalized to is complete. -/
lemma exists_complete (canonical : declared.Canonical)
    (accepted : normalize tool declared = .ok normal) :
    ∃ fields, normal = .obj fields ∧ Complete fields := by
  have loosely : ∀ parameters, ∃ fields,
      ofParameters parameters = .obj fields ∧ Complete fields := by
    intro parameters
    obtain ⟨keywords, eq, sorted, found⟩ := find?_ofParameters parameters
    exact ⟨keywords, eq, sorted, by simp [found], by simp [Assoc.contains, found],
      by simp [Assoc.contains, found]⟩
  cases declared with
  | null =>
    cases accepted
    exact loosely []
  | obj fields =>
    by_cases schema : isSchema fields = true
    · rw [normalize, if_pos schema] at accepted
      cases accepted
      have sorted : Assoc.Sorted (Assoc.insert "type" (.str "object") fields) :=
        Assoc.sorted_insert _ _ canonical.1
      exact ⟨_, rfl, sorted_withDefault (sorted_withDefault sorted _) _,
        by simp [find?_withDefault, Assoc.find?_insert],
        by simp [Assoc.contains, find?_withDefault], by simp [Assoc.contains, find?_withDefault]⟩
    · obtain ⟨parameters, rfl, -⟩ :=
        exists_parameters (loose_iff.1 (Bool.eq_false_iff.2 schema)) accepted
      exact loosely parameters
  | _ => cases accepted

end ToolDefinition

/-! ## Calls -/

namespace World

/-- A call of a tool that exists has been counted. -/
def withCall (world : World) : World :=
  { world with tools := { world.tools with
      stats := { world.tools.stats with total := world.tools.stats.total + 1 } } }

/-- The call was one whose payload did not conform. -/
def withRejection (world : World) : World :=
  { world with tools := { world.tools with
      stats := { world.tools.stats with rejected := world.tools.stats.rejected + 1 } } }

end World

namespace Engine

variable {world : World} {name : String} {tool : Tool}

/-- Run the code of a tool on a payload, and note how that ended. -/
def runCode (engine : Engine) (tool : Tool) (view : ActorView) (payload : Json) :
    Run (Except ToolError Json) := do
  let result ← engine.runScript (tool.code view payload)
  modify fun world => { world with tools := world.tools.endCall result }
  return result

/-- The call of a tool runs its code if the payload conforms to its parameters; otherwise the
violations are told, and nothing but the counts changes. -/
lemma callTool_eq (engine : Engine) (view : ActorView) (payload : Json)
    (found : world.tools.tools.find? name = some tool) :
    engine.callTool name view payload world =
      if Schema.accepts tool.definition.parameters payload then
        engine.runCode tool view payload world.withCall
      else .ok (.error (.validation name (Schema.validate tool.definition.parameters payload)))
        world.withCall.withRejection := by
  rw [callTool, Run.modifyGet_bind, ToolRegistry.beginCall, found, Schema.accepts]
  dsimp only
  cases Schema.validate tool.definition.parameters payload <;> rfl

end Engine

namespace ToolDefinition

/-- **Tool parameters mean what they declare.**  What a declaration is normalized to is normal.
Of a loose declaration the parameters are required that have neither a default nor a mark as
optional; and the code of a tool that is declared so is run on the payloads that give what is
declared, each parameter conforming to its own schema, while any other payload is refused with
what is wrong. -/
theorem parameters_mean {name description : String} {declared : Json.Document}
    {definition : ToolDefinition}
    (accepted : declare name description declared.value = .ok definition) :
    (∀ other, normalize other definition.parameters = .ok definition.parameters) ∧
    ∀ fields, declared.value = .obj fields → Loose fields →
      (∃ names, definition.parameters.field? "required" = some (.strings names) ∧ names.Nodup ∧
        ∀ parameter, parameter ∈ names ↔ ∃ spec, (parameter, spec) ∈ fields ∧ Requires spec) ∧
      ∀ (engine : Engine) (world : World) (code : ToolCode) (called : String) (view : ActorView)
        (payload : Json), world.tools.tools.find? called = some ⟨definition, code⟩ →
        (Suits fields payload → engine.callTool called view payload world =
          engine.runCode ⟨definition, code⟩ view payload world.withCall) ∧
        (¬ Suits fields payload → ∃ errors, errors ≠ [] ∧
          engine.callTool called view payload world =
            .ok (.error (.validation called errors)) world.withCall.withRejection) := by
  obtain ⟨declared, canonical⟩ := declared
  obtain ⟨normal, normalized, eq⟩ := bind_eq_ok.1 accepted
  cases eq
  dsimp only at normalized ⊢
  constructor
  · obtain ⟨fields, rfl, complete⟩ := exists_complete canonical normalized
    exact complete.normalize_eq
  · rintro fields rfl loose
    have sorted : Assoc.Sorted fields := canonical.1
    obtain ⟨parameters, rfl, read⟩ := exists_parameters loose normalized
    constructor
    · obtain ⟨keywords, eq, -, found⟩ := find?_ofParameters parameters
      refine ⟨requiredNames parameters, ?_, nodup_requiredNames read sorted,
        fun parameter => mem_requiredNames read⟩
      rw [eq, Json.field?_obj, found]
      rfl
    · intro engine world code called view payload found
      have suits :
          Schema.accepts (ofParameters parameters) payload = true ↔ Suits fields payload := by
        rw [Schema.accepts, List.isEmpty_iff, Schema.validate, Schema.violations_eq_nil,
          conforms_iff_suits read sorted]
      rw [engine.callTool_eq view payload found]
      refine ⟨fun gives => by rw [if_pos (suits.2 gives)], fun lacks => ?_⟩
      have refused : ¬ Schema.accepts (ofParameters parameters) payload = true :=
        fun conforms => lacks (suits.1 conforms)
      rw [if_neg refused]
      exact ⟨_, fun none => refused (List.isEmpty_iff.2 none), rfl⟩

namespace Sample

/-- Three parameters: one with a default, one that is marked as optional, and one that is declared
by its type alone. -/
def posting : List (String × Json) :=
  [("limit", .obj [("default", .count 10), ("type", .str "integer")]),
    ("note", .obj [("optional", .bool true), ("type", .str "string")]), ("text", .str "string")]

/-- The declaration of these. -/
def declaration : Json.Document := .ofParsed (.obj posting)

lemma not_requires_limit :
    ¬ Requires (.obj [("default", .count 10), ("type", .str "integer")]) := by
  intro requires
  cases requires with
  | described _ undefaulted => cases undefaulted

/-- A runtime with a tool of this declaration, which answers with its payload. -/
def posted (definition : ToolDefinition) : World :=
  { World.new {} (.empty ⟨.ofNat, 0⟩) ⟨.ofNat, 0⟩ ⟨0, 0⟩ with
    tools := ToolRegistry.register {} ⟨definition, fun _ payload => .done (.ok payload)⟩ }

/-- The text alone. -/
def brief : Json := .obj [("text", .str "hello")]

/-- The text, with a limit that is no number. -/
def unlimited : Json := .obj [("limit", .str "none"), ("text", .str "hello")]

end Sample

/-- The text alone is enough for the tool to be run; with a limit that is no number it is not. -/
theorem parameters_mean_posting :
    ∃ definition, declare "post" "" Sample.declaration.value = .ok definition ∧
      Loose Sample.posting ∧ normalize "post" definition.parameters = .ok definition.parameters ∧
      (∃ names, definition.parameters.field? "required" = some (.strings names) ∧
        "text" ∈ names ∧ "limit" ∉ names) ∧
      Suits Sample.posting Sample.brief ∧ ¬ Suits Sample.posting Sample.unlimited ∧
      (engine 0).callTool "post" ⟨.ofNat 3, .empty⟩ Sample.brief (Sample.posted definition) =
        (engine 0).runCode ⟨definition, fun _ payload => .done (.ok payload)⟩
          ⟨.ofNat 3, .empty⟩ Sample.brief (Sample.posted definition).withCall ∧
      ∃ errors, (engine 0).callTool "post" ⟨.ofNat 3, .empty⟩ Sample.unlimited
          (Sample.posted definition) =
        .ok (.error (.validation "post" errors))
          (Sample.posted definition).withCall.withRejection := by
  have loose : Loose Sample.posting := ⟨rfl, by simp [Sample.posting, Assoc.find?_cons]⟩
  obtain ⟨definition, accepted⟩ : ∃ definition,
      declare "post" "" Sample.declaration.value = .ok definition := ⟨_, rfl⟩
  have registered : (Sample.posted definition).tools.tools.find? "post" =
      some ⟨definition, fun _ payload => .done (.ok payload)⟩ := by
    obtain ⟨normal, -, eq⟩ := bind_eq_ok.1 accepted
    cases eq
    rfl
  obtain ⟨normal, means⟩ := parameters_mean accepted
  obtain ⟨⟨names, found, -, named⟩, calls⟩ := means Sample.posting rfl loose
  have suits : Suits Sample.posting Sample.brief := by
    refine ⟨_, rfl, fun name spec mem requires => ?_,
      fun name spec schema content mem describes there => ?_⟩
    · simp only [Sample.posting, List.mem_cons, Prod.mk.injEq, List.not_mem_nil, or_false] at mem
      rcases mem with ⟨-, rfl⟩ | ⟨-, rfl⟩ | ⟨rfl, -⟩
      · exact absurd requires Sample.not_requires_limit
      · cases requires with
        | described mandatory => exact absurd rfl mandatory
      · exact ⟨.str "hello", List.mem_cons_self⟩
    · simp only [Sample.posting, List.mem_cons, Prod.mk.injEq, List.not_mem_nil, or_false]
        at mem there
      obtain ⟨rfl, rfl⟩ := there
      have text : spec = .str "string" := by simpa using mem
      subst text
      cases describes
      decide +kernel
  have lacks : ¬ Suits Sample.posting Sample.unlimited := by
    rintro ⟨given, same, -, conform⟩
    cases same
    have accepts := conform "limit" _ _ (.str "none") List.mem_cons_self (.described _)
      List.mem_cons_self
    revert accepts
    decide +kernel
  refine ⟨definition, accepted, loose, normal _, ⟨names, found, ?_, ?_⟩, suits, lacks, ?_, ?_⟩
  · exact (named "text").2 ⟨.str "string", by simp [Sample.posting], .type _⟩
  · intro mem
    obtain ⟨spec, mem, requires⟩ := (named "limit").1 mem
    have limit : spec = .obj [("default", .count 10), ("type", .str "integer")] := by
      simpa [Sample.posting] using mem
    subst limit
    exact Sample.not_requires_limit requires
  · exact (calls _ _ _ _ _ _ registered).1 suits
  · obtain ⟨errors, -, refused⟩ := (calls _ _ _ _ _ _ registered).2 lacks
    exact ⟨errors, refused⟩

end ToolDefinition

end Troupe
