import Troupe.Proofs.Pass.Staging

/-!
# The exchanges of a pass

What a pass does to its surroundings shows in its requests and in the answers that it gets to
them.  `Pass.Yields` says that with some exchanges, one after the other, a pass comes to a
result; what the behavior remembers on the way stays within the behavior.

## Main results

* `Pass.yields_bind`: the exchanges of two passes in sequence are those of the one and then
  those of the other;
* `Pass.Yields.of_memory`: what was remembered before makes no difference.
-/

namespace Troupe

/-- A request of a pass with its answer. -/
inductive Exchange where
  /-- An object was read. -/
  | read (id : Id) (answer : Option Json)
  /-- A store operation was carried out. -/
  | execute (op : StoreOp) (answer : Except StoreError Json)
  /-- A tool was called. -/
  | callTool (name : String) (view : ActorView) (payload : Json) (answer : Except ToolError Json)
  /-- A message was sent. -/
  | deliver (target : Id) (message : Message) (answer : Except ActionError Id)
  /-- The event types of an actor were asked for. -/
  | interfaceOf (target : Id) (answer : Except ActionError (List String))
  /-- An ask was noted. -/
  | registerAsk (asker target : Id) (event : String) (answer : Id)
  /-- Another actor's tool was run. -/
  | invoke (target : Id) (payload : Json) (answer : Except ActionError Json)

/-- The request of an exchange. -/
def Exchange.request : Exchange → Request
  | .read id _ => .read id
  | .execute op _ => .execute op
  | .callTool name view payload _ => .callTool name view payload
  | .deliver target message _ => .deliver target message
  | .interfaceOf target _ => .interfaceOf target
  | .registerAsk asker target event _ => .registerAsk asker target event
  | .invoke target payload _ => .invoke target payload

namespace Pass

variable {α β : Type}

/-- With these exchanges a pass comes to a result, and what was remembered before it becomes
what is remembered after it. -/
inductive Yields : Pass α → Memory → List Exchange → α → Memory → Prop
  /-- A pass that is done makes no exchange. -/
  | done (result : α) (memory : Memory) : Yields (.done result) memory [] result memory
  /-- One that reads an object goes on with what it has read, -/
  | read {id : Id} {next : Option Json → Pass α} {memory : Memory} {log : List Exchange}
    {result : α} {after : Memory} (answer : Option Json) :
    Yields (next answer) memory log result after →
    Yields (.read id next) memory (.read id answer :: log) result after
  /-- and any other one with the answer to what it asks for. -/
  | execute {op : StoreOp} {next : Except StoreError Json → Pass α} {memory : Memory}
    {log : List Exchange} {result : α} {after : Memory} (answer : Except StoreError Json) :
    Yields (next answer) memory log result after →
    Yields (.execute op next) memory (.execute op answer :: log) result after
  /-- A tool call goes on with the tool's result. -/
  | callTool {name : String} {view : ActorView} {payload : Json}
    {next : Except ToolError Json → Pass α} {memory : Memory} {log : List Exchange} {result : α}
    {after : Memory} (answer : Except ToolError Json) :
    Yields (next answer) memory log result after →
    Yields (.callTool name view payload next) memory
      (.callTool name view payload answer :: log) result after
  /-- A delivery goes on with the message's identifier. -/
  | deliver {target : Id} {message : Message} {next : Except ActionError Id → Pass α}
    {memory : Memory} {log : List Exchange} {result : α} {after : Memory}
    (answer : Except ActionError Id) : Yields (next answer) memory log result after →
    Yields (.deliver target message next) memory (.deliver target message answer :: log)
      result after
  /-- A look at an interface goes on with its event types. -/
  | interfaceOf {target : Id} {next : Except ActionError (List String) → Pass α}
    {memory : Memory} {log : List Exchange} {result : α} {after : Memory}
    (answer : Except ActionError (List String)) : Yields (next answer) memory log result after →
    Yields (.interfaceOf target next) memory (.interfaceOf target answer :: log) result after
  /-- An ask goes on with its correlation. -/
  | registerAsk {asker target : Id} {event : String} {next : Id → Pass α} {memory : Memory}
    {log : List Exchange} {result : α} {after : Memory} (answer : Id) :
    Yields (next answer) memory log result after →
    Yields (.registerAsk asker target event next) memory
      (.registerAsk asker target event answer :: log) result after
  /-- An invocation goes on with the result of the other actor's tool. -/
  | invoke {target : Id} {payload : Json} {next : Except ActionError Json → Pass α}
    {memory : Memory} {log : List Exchange} {result : α} {after : Memory}
    (answer : Except ActionError Json) : Yields (next answer) memory log result after →
    Yields (.invoke target payload next) memory (.invoke target payload answer :: log)
      result after
  /-- What is remembered is no exchange. -/
  | remember {memory before : Memory} {next : Pass α} {log : List Exchange} {result : α}
    {after : Memory} : Yields next memory log result after →
    Yields (.remember memory next) before log result after

variable {p : Pass α} {f : α → Pass β} {memory after : Memory} {log : List Exchange} {result : α}

@[simp] lemma yields_done {value : α} : (Pass.done value).Yields memory log result after ↔
    log = [] ∧ result = value ∧ after = memory := by
  constructor
  · rintro ⟨⟩
    exact ⟨rfl, rfl, rfl⟩
  · rintro ⟨rfl, rfl, rfl⟩
    exact .done _ _

@[simp] lemma yields_read {id : Id} {next : Option Json → Pass α} :
    (Pass.read id next).Yields memory log result after ↔
      ∃ answer rest, log = .read id answer :: rest ∧
        (next answer).Yields memory rest result after := by
  constructor
  · intro yields
    cases yields with
    | read answer yields => exact ⟨answer, _, rfl, yields⟩
  · rintro ⟨answer, rest, rfl, yields⟩
    exact .read answer yields

@[simp] lemma yields_execute {op : StoreOp} {next : Except StoreError Json → Pass α} :
    (Pass.execute op next).Yields memory log result after ↔
      ∃ answer rest, log = .execute op answer :: rest ∧
        (next answer).Yields memory rest result after := by
  constructor
  · intro yields
    cases yields with
    | execute answer yields => exact ⟨answer, _, rfl, yields⟩
  · rintro ⟨answer, rest, rfl, yields⟩
    exact .execute answer yields

@[simp] lemma yields_deliver {target : Id} {message : Message}
    {next : Except ActionError Id → Pass α} :
    (Pass.deliver target message next).Yields memory log result after ↔
      ∃ answer rest, log = .deliver target message answer :: rest ∧
        (next answer).Yields memory rest result after := by
  constructor
  · intro yields
    cases yields with
    | deliver answer yields => exact ⟨answer, _, rfl, yields⟩
  · rintro ⟨answer, rest, rfl, yields⟩
    exact .deliver answer yields

@[simp] lemma yields_remember {remembered : Memory} :
    (Pass.remember remembered p).Yields memory log result after ↔
      p.Yields remembered log result after := by
  constructor
  · intro yields
    cases yields with
    | remember yields => exact yields
  · exact .remember

/-- The exchanges of two passes in sequence. -/
theorem yields_bind {result : β} : (p >>= f).Yields memory log result after ↔
    ∃ first last value middle, log = first ++ last ∧ p.Yields memory first value middle ∧
      (f value).Yields middle last result after := by
  change (p.bind f).Yields memory log result after ↔ _
  constructor
  · intro yields
    induction p generalizing memory log with
    | done value => exact ⟨[], log, value, memory, rfl, .done _ _, yields⟩
    | remember remembered next ih =>
      obtain ⟨first, last, value, middle, rfl, left, right⟩ := ih (yields_remember.1 yields)
      exact ⟨first, last, value, middle, rfl, .remember left, right⟩
    | _ =>
      rename_i ih
      cases yields
      rename_i answer yields
      obtain ⟨first, last, value, middle, rfl, left, right⟩ := ih answer yields
      exact ⟨_ :: first, last, value, middle, rfl, by constructor; exact left, right⟩
  · rintro ⟨first, last, value, middle, rfl, left, right⟩
    induction left with
    | done => exact right
    | remember _ ih => exact .remember (ih right)
    | _ =>
      rename_i ih
      constructor
      exact ih right

namespace Yields

/-- What was remembered before a pass makes no difference to what it does. -/
theorem of_memory (yields : p.Yields memory log result after) (other : Memory) :
    ∃ last, p.Yields other log result last := by
  induction yields generalizing other with
  | done => exact ⟨other, .done _ _⟩
  | remember yields _ => exact ⟨_, .remember yields⟩
  | _ =>
    rename_i ih
    obtain ⟨last, yields⟩ := ih other
    refine ⟨last, ?_⟩
    constructor
    exact yields

/-- A pass comes to a result that it ensures. -/
lemma ensures {Q : α → Prop} (yields : p.Yields memory log result after) (ensures : p.Ensures Q) :
    Q result := by
  induction yields with
  | done => exact ensures
  | remember _ ih => exact ih ensures
  | _ => rename_i ih; exact ih (ensures _)

/-- The requests of a pass that makes only some are among these. -/
lemma requests {P : Request → Prop} (yields : p.Yields memory log result after) (only : p.Only P) :
    ∀ exchange ∈ log, P exchange.request := by
  induction yields with
  | done => exact fun _ mem => (List.not_mem_nil mem).elim
  | remember _ ih => exact ih only.2
  | _ => rename_i ih; exact List.forall_mem_cons.2 ⟨only.1, ih (only.2 _)⟩

/-- A pass that remembers nothing leaves what is remembered. -/
lemma forgets (yields : p.Yields memory log result after)
    (only : p.Only fun request => ∀ memory, request ≠ .remember memory) :
    after = memory ∧ ∀ other, p.Yields other log result other := by
  induction yields with
  | done => exact ⟨rfl, fun other => .done _ _⟩
  | remember _ _ => exact absurd rfl (only.1 _)
  | _ =>
    rename_i ih
    obtain ⟨same, yields⟩ := ih (only.2 _)
    refine ⟨same, fun other => ?_⟩
    constructor
    exact yields other

end Yields

end Pass

namespace Occasion

variable {occasion : Occasion} {activation : Activation} {memory after : Memory}
  {log : List Exchange} {result : Unit}

/-- The end of a pass leaves what is remembered.  After the update of the context it only sends
messages. -/
lemma finish_yields (yields : (occasion.finish activation).Yields memory log result after) :
    after = memory ∧ (∀ other, (occasion.finish activation).Yields other log () other) ∧
    ∃ answer told, log = .execute (.update occasion.actor.config.context
        (activation.base.diff activation.working)) answer :: told ∧
      ∀ exchange ∈ told, ∃ target message sent, exchange = .deliver target message sent := by
  obtain ⟨next, begins, -, only⟩ := occasion.finish_eq activation
  rw [begins] at yields ⊢
  have silent : (Pass.execute (.update occasion.actor.config.context
      (activation.base.diff activation.working)) next).Only
        fun request => ∀ memory, request ≠ .remember memory := by
    refine ⟨fun _ => nofun, fun answer => (only answer).mono fun request sends memory same => ?_⟩
    rw [same] at sends
    exact sends
  obtain ⟨rfl, others⟩ := yields.forgets silent
  obtain ⟨answer, told, rfl, ended⟩ := Pass.yields_execute.1 yields
  refine ⟨rfl, others, answer, told, rfl, fun exchange mem => ?_⟩
  have sends := ended.requests (only answer) exchange mem
  cases exchange with
  | deliver target message sent => exact ⟨target, message, sent, rfl⟩
  | _ => exact sends.elim

end Occasion

end Troupe
