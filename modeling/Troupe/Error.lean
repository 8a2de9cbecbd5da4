import Troupe.Json.Printer

/-!
# Errors

One type of causes for each part of the runtime, and the wording of each in one function.
`ActionError` is what a failed action turns into: a kind and a text, carried as the payload
of an ERROR event.
-/

namespace Troupe

/-- Why a target does not lead to an inbox. -/
inductive RoutingError where
  /-- The target is no identifier. -/
  | invalidTarget (target : String)
  /-- The actor has no configuration record. -/
  | configUnreadable (actor : Id)
  /-- The configuration record names no inbox. -/
  | missingInbox (actor : Id)
  /-- The inbox object is gone. -/
  | inboxNotFound (inbox : Id)
deriving DecidableEq

namespace RoutingError

/-- The wording of a routing error. -/
def message : RoutingError → String
  | .invalidTarget target => s!"target '{target}' is not an object identifier"
  | .configUnreadable actor => s!"configuration for actor {actor.text} could not be read"
  | .missingInbox actor => s!"actor {actor.text} has no valid inbox"
  | .inboxNotFound inbox => s!"inbox {inbox.text} does not exist"

end RoutingError

/-- Why a store refuses an operation. -/
inductive StoreError where
  /-- There is no such object. -/
  | notFound (id : Id)
  /-- The object may not be written. -/
  | permissionDenied (id : Id) (reason : String)
  /-- The operation does not fit the object. -/
  | invalidOperation (reason : String)
deriving DecidableEq

namespace StoreError

/-- The object is protected from writes. -/
def writeProtected (id : Id) : StoreError := .permissionDenied id "object is write-protected"

/-- An update needs an object as its patch. -/
def patchNotObject : StoreError := .invalidOperation "update patch must be an object"

/-- A push needs an object to push into. -/
def notRecord (id : Id) : StoreError := .invalidOperation s!"object {id.text} is not a record"

/-- A push needs a list, or nothing, in its field. -/
def notList (field : String) : StoreError :=
  .invalidOperation s!"field '{field}' is not an array"

/-- The wording of a store error. -/
def message : StoreError → String
  | .notFound id => s!"object {id.text} not found"
  | .permissionDenied id reason => s!"permission denied on {id.text}: {reason}"
  | .invalidOperation reason => s!"invalid operation: {reason}"

end StoreError

/-- Why a tool call fails. -/
inductive ToolError where
  /-- No tool has the name. -/
  | notFound (name : String)
  /-- The payload does not conform to the parameters. -/
  | validation (tool : String) (errors : List String)
  /-- The tool turns the caller away. -/
  | permissionDenied (tool reason : String)
  /-- The tool ran and failed. -/
  | executionFailed (tool reason : String)
deriving DecidableEq

namespace ToolError

/-- The wording of a tool error. -/
def message : ToolError → String
  | .notFound name => s!"tool not found: {name}"
  | .validation tool errors =>
    let list := String.intercalate "; " errors
    s!"invalid input for tool '{tool}': {list}"
  | .permissionDenied tool reason => s!"permission denied for tool '{tool}': {reason}"
  | .executionFailed tool reason => s!"tool '{tool}' execution failed: {reason}"

end ToolError

/-- The tags of actions. -/
inductive ActionTag where
  | ctx
  | op
  | tell
  | ask
  | function
  | guard
  | named
  | invoke
deriving DecidableEq

namespace ActionTag

/-- Every tag. -/
def all : List ActionTag := [.ctx, .op, .tell, .ask, .function, .guard, .named, .invoke]

/-- The word for a tag. -/
def name : ActionTag → String
  | .ctx => "ctx"
  | .op => "op"
  | .tell => "tell"
  | .ask => "ask"
  | .function => "function"
  | .guard => "guard"
  | .named => "named"
  | .invoke => "invoke"

/-- The tag that a word stands for. -/
def ofName? (word : String) : Option ActionTag := all.find? fun tag => tag.name == word

end ActionTag

/-- Why a definition or a configuration record cannot be used. -/
inductive ConfigError where
  /-- An action does not have exactly one known tag. -/
  | actionShape (found : String)
  /-- An action's configuration is malformed. -/
  | invalidAction (tag : ActionTag) (reason : String)
  /-- A named list is not declared. -/
  | unknownNamedAction (name : String)
  /-- A named list refers back to itself. -/
  | recursiveNamedAction (name : String)
  /-- A transition leads to a state that is not declared. -/
  | unknownState (source target : String)
  /-- A behavior definition is malformed. -/
  | invalidBehavior (reason : String)
  /-- A configuration record does not decode. -/
  | invalidActor (actor : Id)
deriving DecidableEq

namespace ConfigError

/-- The wording of a configuration error. -/
def message : ConfigError → String
  | .actionShape found => s!"action must carry exactly one tag, found {found}"
  | .invalidAction tag reason => s!"invalid '{tag.name}' action: {reason}"
  | .unknownNamedAction name => s!"unknown named action '{name}'"
  | .recursiveNamedAction name => s!"named action '{name}' is recursive"
  | .unknownState source target => s!"state '{source}' transitions to unknown state '{target}'"
  | .invalidBehavior reason => s!"invalid behavior: {reason}"
  | .invalidActor actor =>
    s!"invalid actor configuration for {actor.text}: the record does not decode"

end ConfigError

/-- Why the text of an expression has no reading. -/
inductive ParseFault where
  /-- A quote is not closed. -/
  | unterminatedString
  /-- No token starts with the character. -/
  | unexpectedCharacter (c : Char)
  /-- A single equals sign. -/
  | assignment
  /-- A name is missing in a path. -/
  | expectedName
  /-- An index is not a row of digits in brackets. -/
  | expectedIndex
  /-- An index does not fit 64 bits. -/
  | indexOutOfRange
  /-- A numeral is malformed or too large. -/
  | invalidNumber (text : String)
  /-- The expression stops where a value is needed. -/
  | unexpectedEnd
  /-- A value is needed in place of this token. -/
  | expectedValue
  /-- A parenthesis is not closed. -/
  | expectedClose
  /-- Something follows a complete expression. -/
  | trailingInput
  /-- A reason given in words by another reader. -/
  | other (reason : String)
deriving DecidableEq

namespace ParseFault

/-- The wording of a fault. -/
def message : ParseFault → String
  | .unterminatedString => "unterminated string"
  | .unexpectedCharacter c =>
    let text := String.singleton c
    s!"unexpected character '{text}'"
  | .assignment => "use '==' for comparison"
  | .expectedName => "expected identifier"
  | .expectedIndex => "expected numeric index"
  | .indexOutOfRange => "index out of range"
  | .invalidNumber text => s!"invalid number '{text}'"
  | .unexpectedEnd => "unexpected end of expression"
  | .expectedValue => "expected a value"
  | .expectedClose => "expected ')'"
  | .trailingInput => "unexpected trailing input"
  | .other reason => reason

end ParseFault

/-- Why operands do not fit an operator. -/
inductive TypeFault where
  /-- Only numbers can be negated. -/
  | negation
  /-- Both operands must be numbers. -/
  | notNumbers (left right : Json)
  /-- The divisor is zero. -/
  | divisionByZero
  /-- The result is too large for a double. -/
  | notFinite
  /-- The two numbers have no order. -/
  | notComparable
  /-- A reason given in words by another evaluator. -/
  | other (reason : String)

namespace TypeFault

/-- The wording of a fault. -/
def message : TypeFault → String
  | .negation => "cannot negate a non-number"
  | .notNumbers left right => s!"expected numbers, found {left.text} and {right.text}"
  | .divisionByZero => "division by zero"
  | .notFinite => "result is not a finite number"
  | .notComparable => "numbers are not comparable"
  | .other reason => reason

end TypeFault

/-- Why an expression has no value; each error carries the expression's text. -/
inductive ExprError where
  /-- The text has no reading. -/
  | parse (source : String) (fault : ParseFault)
  /-- The operands do not fit an operator. -/
  | type (source : String) (fault : TypeFault)

namespace ExprError

/-- The wording of an expression error. -/
def message : ExprError → String
  | .parse source fault => s!"cannot parse expression '{source}': {fault.message}"
  | .type source fault => s!"type error in '{source}': {fault.message}"

end ExprError

/-- An error of the runtime as a whole. -/
inductive RuntimeError where
  /-- A message could not be routed. -/
  | routing (cause : RoutingError)
  /-- The store refused an operation. -/
  | store (cause : StoreError)
  /-- A tool call failed. -/
  | tool (cause : ToolError)
  /-- A definition or a configuration record cannot be used. -/
  | config (cause : ConfigError)
  /-- A part of the runtime is missing. -/
  | infrastructure (reason : String)
deriving DecidableEq

namespace RuntimeError

/-- The wording of a runtime error. -/
def message : RuntimeError → String
  | .routing cause => s!"Routing error: {cause.message}"
  | .store cause => s!"Store error: {cause.message}"
  | .tool cause => s!"Tool error: {cause.message}"
  | .config cause => s!"Configuration error: {cause.message}"
  | .infrastructure reason => s!"Missing infrastructure: {reason}"

end RuntimeError

/-- The kinds of failed actions. -/
inductive FailureKind where
  /-- The caller may not do this. -/
  | permission
  /-- The action is malformed, failed, or aims at something missing. -/
  | structural
  /-- An ask went unanswered past its deadline. -/
  | timeout
deriving DecidableEq

namespace FailureKind

/-- The word for a kind in payloads. -/
def name : FailureKind → String
  | .permission => "permission"
  | .structural => "structural"
  | .timeout => "timeout"

/-- The word for a kind at the head of a line. -/
def title : FailureKind → String
  | .permission => "Permission"
  | .structural => "Structural"
  | .timeout => "Timeout"

end FailureKind

/-- A failed action, to be told as an ERROR event. -/
structure ActionError where
  /-- What kind of failure it is. -/
  kind : FailureKind
  /-- What went wrong, in words. -/
  message : String
deriving DecidableEq

namespace ActionError

/-- A structural failure. -/
def structural (message : String) : ActionError := ⟨.structural, message⟩

/-- A refused caller is a permission failure, any other store error a structural one. -/
def ofStore (cause : StoreError) : ActionError :=
  match cause with
  | .permissionDenied .. => ⟨.permission, cause.message⟩
  | _ => ⟨.structural, cause.message⟩

/-- A refused caller is a permission failure, any other tool error a structural one. -/
def ofTool (cause : ToolError) : ActionError :=
  match cause with
  | .permissionDenied .. => ⟨.permission, cause.message⟩
  | _ => ⟨.structural, cause.message⟩

/-- An expression error is structural. -/
def ofExpr (cause : ExprError) : ActionError := ⟨.structural, cause.message⟩

/-- A routing error is structural. -/
def ofRouting (cause : RoutingError) : ActionError := ⟨.structural, cause.message⟩

/-- Store and tool errors keep their own wording; every other error is structural. -/
def ofRuntime : RuntimeError → ActionError
  | .store cause => ofStore cause
  | .tool cause => ofTool cause
  | other => ⟨.structural, other.message⟩

/-- A failure on one line: its kind and what went wrong. -/
def text (error : ActionError) : String := s!"{error.kind.title}: {error.message}"

/-- The payload of an ERROR event: a list with one error. -/
def payload (error : ActionError) : Json :=
  .record [("errors", .arr [.record
    [("kind", .str error.kind.name), ("message", .str error.message)]])]

end ActionError

end Troupe
