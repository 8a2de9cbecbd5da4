import Troupe.Json.Basic

/-!
# Merge patches

A patch that is no object replaces its target.  A patch that is one is applied to the target
object field by field: null removes a field, any other value is merged into it, and fields
that the patch does not name stay.  `Json.diff` finds a patch that turns one value into
another; it compares values by `Json.same`.
-/

namespace Troupe.Json

/-- The fields of an object; any other value has none. -/
def fieldsOf : Json → List (String × Json)
  | .obj fields => fields
  | _ => []

mutual

/-- Merge a patch into a value. -/
def merge (target : Json) : (patch : Json) → Json
  | .obj patch => .obj (mergeFields target.fieldsOf patch)
  | patch => patch

/-- Merge the fields of a patch into fields, one after the other. -/
def mergeFields (target : List (String × Json)) : (patch : List (String × Json)) →
    List (String × Json)
  | [] => target
  | (name, value) :: rest =>
    let target :=
      if value.isNull then Assoc.erase name target
      else Assoc.insert name (merge ((Assoc.find? name target).getD .null) value) target
    mergeFields target rest

end

/-- Null for every field that the new fields lack. -/
def removals (before after : List (String × Json)) : List (String × Json) :=
  (before.filter fun field => !Assoc.contains field.1 after).map fun field => (field.1, .null)

mutual

/-- A patch that turns one value into another. -/
def diff (before : Json) : (after : Json) → Json
  | .obj new =>
    match before with
    | .obj old => .obj (diffFields old (Assoc.ofList (removals old new)) new)
    | _ => .obj new
  | after => after

/-- Add to a patch what turns old fields into new ones: equal values need nothing, two
objects are compared in turn, and any other new value stands for itself. -/
def diffFields (old patch : List (String × Json)) : (new : List (String × Json)) →
    List (String × Json)
  | [] => patch
  | (name, value) :: rest =>
    let patch :=
      match Assoc.find? name old with
      | some previous =>
        if previous.same value then patch
        else if previous.isObject && value.isObject then
          Assoc.insert name (diff previous value) patch
        else Assoc.insert name value patch
      | none => Assoc.insert name value patch
    diffFields old patch rest

end

end Troupe.Json
