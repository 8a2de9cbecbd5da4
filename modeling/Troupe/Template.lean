import Troupe.Expr.Eval

/-!
# Templates

A template is a JSON value in which every text that starts with a dollar sign is an
expression; a doubled dollar sign stands for one that is meant literally.  Keys of objects
are never expressions.  Expressions see a scope with the actor's context, the payload of the
event as `item`, and the latest result.
-/

namespace Troupe.Template

/-- The scope of expressions. -/
def scope (context item result : Json) : Json :=
  .obj [("context", context), ("item", item), ("result", result)]

/-- Resolve a text: an expression, an escaped dollar sign, or the text itself. -/
def resolveText (text : String) (scope : Json) : Except ExprError Json :=
  match text.toList with
  | '$' :: '$' :: rest => .ok (.str (String.ofList ('$' :: rest)))
  | '$' :: source => Expr.evaluate (String.ofList source) scope
  | _ => .ok (.str text)

mutual

/-- Resolve every expression in a template, in order; the first that fails decides. -/
def resolve (scope : Json) : (template : Json) → Except ExprError Json
  | .str text => resolveText text scope
  | .arr items => return .arr (← resolveItems scope items)
  | .obj fields => return .obj (← resolveFields scope fields)
  | other => .ok other

/-- Resolve every item of a list. -/
def resolveItems (scope : Json) : List Json → Except ExprError (List Json)
  | [] => .ok []
  | item :: rest => do
    let item ← resolve scope item
    return item :: (← resolveItems scope rest)

/-- Resolve the value of every field. -/
def resolveFields (scope : Json) : List (String × Json) →
    Except ExprError (List (String × Json))
  | [] => .ok []
  | (name, value) :: rest => do
    let value ← resolve scope value
    return (name, value) :: (← resolveFields scope rest)

end

end Troupe.Template
