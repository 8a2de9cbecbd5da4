import Troupe.Json.Printer

/-!
# Checking values against schemas

A schema is a JSON value: `true` allows every value, `false` none, and an object constrains
by the keywords `type`, `const`, `enum`, `minimum`, `maximum`, `minLength`, `maxLength`,
`required`, `properties`, `additionalProperties` and `items`.  A keyword that does not apply
to the kind of value, or whose own value has the wrong shape, constrains nothing; unknown
keywords are ignored.

`Schema.violations` lists in words what is wrong with a value, and where; a value conforms
when the list is empty.  Bounds of numbers are compared as doubles and lengths of texts in
characters.
-/

namespace Troupe

/-- The name of the kind of a value. -/
def Json.kindName : Json → String
  | .null => "null"
  | .bool _ => "boolean"
  | .num _ => "number"
  | .str _ => "string"
  | .arr _ => "array"
  | .obj _ => "object"

namespace Schema

/-- Whether a value has the type that a schema names. -/
def hasType (value : Json) (name : String) : Bool :=
  match value with
  | .num n => name == "number" || (name == "integer" && n.isWhole)
  | other => name == other.kindName

/-- The type names that a `type` keyword allows; none at all allows every value. -/
def allowedTypes : Json → List String
  | .str name => [name]
  | .arr names => Json.stringItems names
  | _ => []

/-- What the `type` keyword says against a value. -/
def typeViolation? (keyword : Option Json) (value : Json) (path : String) : Option String :=
  let allowed := (keyword.map allowedTypes).getD []
  if allowed.isEmpty || allowed.any (hasType value) then none
  else
    let names := String.intercalate " or " allowed
    some s!"{path}: expected {names}, found {value.kindName}"

/-- What the `const` keyword says against a value. -/
def constViolations (keyword : Option Json) (value : Json) (path : String) : List String :=
  match keyword with
  | some constant =>
    if constant.same value then [] else [s!"{path}: must equal {constant.text}"]
  | none => []

/-- What the `enum` keyword says against a value. -/
def enumViolations (keyword : Option Json) (value : Json) (path : String) : List String :=
  match keyword with
  | some (.arr options) =>
    if options.any fun option => option.same value then []
    else [s!"{path}: not one of the allowed values"]
  | _ => []

/-- What `minimum` and `maximum` say against a number. -/
def boundViolations (least most : Option Json) (value : Json) (path : String) : List String :=
  match value.float? with
  | none => []
  | some x =>
    let number := Notation.plain.write x
    let below :=
      match least.bind Json.float? with
      | some bound =>
        if x < bound then [s!"{path}: {number} is less than {Notation.plain.write bound}"] else []
      | none => []
    let above :=
      match most.bind Json.float? with
      | some bound =>
        if bound < x then [s!"{path}: {number} is greater than {Notation.plain.write bound}"]
        else []
      | none => []
    below ++ above

/-- What `minLength` and `maxLength` say against a text. -/
def lengthViolations (least most : Option Json) (value : Json) (path : String) : List String :=
  match value with
  | .str text =>
    let below :=
      match least.bind Json.uint64? with
      | some bound =>
        if text.length < bound.toNat then [s!"{path}: shorter than {bound.toNat}"] else []
      | none => []
    let above :=
      match most.bind Json.uint64? with
      | some bound =>
        if bound.toNat < text.length then [s!"{path}: longer than {bound.toNat}"] else []
      | none => []
    below ++ above
  | _ => []

/-- What the `required` keyword says against the fields of an object. -/
def requiredViolations (keyword : Option Json) (fields : List (String × Json)) (path : String) :
    List String :=
  match keyword with
  | some (.arr names) =>
    ((Json.stringItems names).filter fun name => !Assoc.contains name fields).map fun name =>
      s!"{path}: missing required property '{name}'"
  | _ => []

/-- What `additionalProperties: false` says against the fields of an object. -/
def additionalViolations (keyword properties : Option Json) (fields : List (String × Json))
    (path : String) : List String :=
  match keyword with
  | some (.bool false) =>
    let declared := (properties.bind Json.fields?).getD []
    (fields.filter fun field => !Assoc.contains field.1 declared).map fun field =>
      s!"{path}: unexpected property '{field.1}'"
  | _ => []

mutual

/-- What a schema says against a value that stands at a path. -/
def violations (value : Json) (schema : Json) (path : String) : List String :=
  match schema with
  | .bool true => []
  | .bool false => [s!"{path}: no value is allowed"]
  | .obj keywords =>
    let keyword (name : String) : Option Json := Assoc.find? name keywords
    match typeViolation? (keyword "type") value path with
    | some violation => [violation]
    | none =>
      constViolations (keyword "const") value path
        ++ enumViolations (keyword "enum") value path
        ++ boundViolations (keyword "minimum") (keyword "maximum") value path
        ++ lengthViolations (keyword "minLength") (keyword "maxLength") value path
        ++ match value with
          | .obj fields =>
            requiredViolations (keyword "required") fields path
              ++ propertyViolations fields (keyword "properties") path
              ++ additionalViolations (keyword "additionalProperties") (keyword "properties")
                fields path
          | .arr items => itemViolations items (keyword "items") 0 path
          | _ => []
  | _ => [s!"{path}: schema must be an object or boolean"]

/-- What the schemas under `properties` say against the fields that they name. -/
def propertyViolations (fields : List (String × Json)) (properties : Option Json)
    (path : String) : List String :=
  match fields with
  | [] => []
  | (name, value) :: rest =>
    (match properties.bind fun declared => declared.field? name with
      | some schema => violations value schema s!"{path}.{name}"
      | none => [])
      ++ propertyViolations rest properties path

/-- What the schema under `items` says against each item, from a position on. -/
def itemViolations (items : List Json) (schema : Option Json) (index : Nat) (path : String) :
    List String :=
  match items with
  | [] => []
  | item :: rest =>
    (match schema with
      | some schema => violations item schema s!"{path}[{index}]"
      | none => [])
      ++ itemViolations rest schema (index + 1) path

end

/-- What a schema says against a value. -/
def validate (schema value : Json) : List String := violations value schema "$"

/-- Whether a value conforms to a schema. -/
def accepts (schema value : Json) : Bool := (validate schema value).isEmpty

end Schema

end Troupe
