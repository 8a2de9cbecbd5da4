import Troupe.Action.Basic

/-!
# Named lists of actions

A definition may name lists of actions, and actions refer to them.  A set of named lists is
accepted only if every reference inside it is declared and none leads back to its own list,
so that running a list always ends.
-/

namespace Troupe

/-- The named lists of a definition. -/
structure NamedActions where
  /-- The lists by name. -/
  lists : Table String (List Action)

namespace NamedActions

/-- The list of a name. -/
def find? (named : NamedActions) (name : String) : Option (List Action) := named.lists.find? name

/-- The names that a list of actions refers to, in order. -/
def references (actions : List Action) : List String :=
  actions.filterMap fun action =>
    match action with
    | .named name => some name
    | _ => none

/-- Every reference in a list of actions is declared. -/
def checkReferences (named : NamedActions) (actions : List Action) : Except ConfigError Unit :=
  match (references actions).find? fun name => !named.lists.contains name with
  | some name => .error (.unknownNamedAction name)
  | none => .ok ()

/-- Walk the references of a name depth first.  `path` holds the names on the way from the
start, `done` those that were walked to the end; the answer is `done` with what was added.
A path longer than the number of lists must repeat a name, so that many levels suffice. -/
def visit (named : NamedActions) : (levels : Nat) → (path done : List String) →
    (name : String) → Except ConfigError (List String)
  | 0, _, _, name => .error (.recursiveNamedAction name)
  | levels + 1, path, done, name =>
    if done.contains name then .ok done
    else if path.contains name then .error (.recursiveNamedAction name)
    else
      match named.find? name with
      | none => .error (.unknownNamedAction name)
      | some list => do
        let done ← (references list).foldlM (visit named levels (name :: path)) done
        return name :: done

/-- No list leads back to itself, and every reference in the lists is declared. -/
def checkCycles (named : NamedActions) : Except ConfigError Unit := do
  let _ ← named.lists.keys.foldlM (named.visit (named.lists.size + 1) []) []
  return ()

/-- Read the named lists of a definition. -/
def ofJson (value : Option Json) : Except ConfigError NamedActions := do
  let fields ← match value with
    | none => .ok []
    | some .null => .ok []
    | some (.obj fields) => .ok fields
    | some other =>
      .error (.invalidBehavior s!"'actions' must be an object, found {other.text}")
  let lists ← fields.mapM fun field => do
    let list ← Action.listOf (some field.2)
    return (field.1, list)
  let named : NamedActions := ⟨Table.ofList lists⟩
  named.checkCycles
  return named

end NamedActions

end Troupe
