import Mathlib.Data.List.TakeWhile
import Troupe.Proofs.Pass.Staging

/-!
# The creates of a pass

The creates of a pass have keys of their own: the first one has the key of the event, and every
later one the same key with its number behind a colon.  The number is part of the state of the
pass, and nothing but a create moves it on, so it goes on through named lists and through the exit
actions, the actions and the entry actions of a transition (`Behavior.send_numbers`).

The key of a message has no colon.  So what the keys of two creates have before the first colon
tells whether they belong to the same message (`numberedKey_eq`).
-/

namespace Troupe

/-! ## Keys -/

/-- The key of a create of a pass, from the key of its event and the number of creates before. -/
def numberedKey (key : String) (count : Nat) : String :=
  if count = 0 then key
  else
    let number := String.ofList (Nat.toDigits 10 count)
    s!"{key}:{number}"

/-- What a key has before its first colon. -/
def keyStem (key : String) : List Char := key.toList.takeWhile (· ≠ ':')

lemma keyStem_numberedKey {key : String} (plain : ':' ∉ key.toList) (count : Nat) :
    keyStem (numberedKey key count) = key.toList := by
  have all : ∀ c ∈ key.toList, decide (c ≠ ':') = true := fun c mem =>
    decide_eq_true fun same => plain (same ▸ mem)
  unfold keyStem numberedKey
  split
  · exact List.takeWhile_eq_self_iff.2 all
  · simp only [String.toList_append, toString]
    rw [List.append_assoc, List.takeWhile_append_of_pos all]
    simp

lemma Hex.colon_not_mem_digits (count n : Nat) : ':' ∉ Hex.digits count n := by
  induction count generalizing n with
  | zero => simp [Hex.digits]
  | succ count ih =>
    have digit : ∀ n < 16, Hex.digit n ≠ ':' := by decide
    simp only [Hex.digits, List.mem_append, List.mem_singleton, not_or]
    exact ⟨ih _, fun same => digit _ (Nat.mod_lt n (by decide)) same.symm⟩

/-- The key of a message has no colon. -/
lemma colon_not_mem_messageKey (message : Id) : ':' ∉ (messageKey message).toList := by
  simp only [messageKey, Blake3.hashText, Hex.ofBytes, String.toList_append, String.toList_ofList,
    List.mem_append, List.mem_flatMap, not_or, not_exists, not_and]
  exact ⟨by decide, fun _ _ => Hex.colon_not_mem_digits _ _⟩

/-- Creates with the same key belong to messages with the same key. -/
theorem numberedKey_eq {message other : Id} {count count' : Nat}
    (same : numberedKey (messageKey message) count = numberedKey (messageKey other) count') :
    messageKey message = messageKey other := by
  have stems := congrArg keyStem same
  rw [keyStem_numberedKey (colon_not_mem_messageKey _),
    keyStem_numberedKey (colon_not_mem_messageKey _)] at stems
  exact String.toList_inj.1 stems

/-! ## Numbered creates -/

namespace Pass

variable {α β : Type} {key : Nat → Option String} {Q : α → Nat → Prop} {R : β → Nat → Prop}

/-- The creates of a pass have the keys of their numbers, from `count` on, as long as all of them
are carried out; where the pass is done, its result and the number of the next create satisfy a
condition. -/
def Numbers (key : Nat → Option String) (Q : α → Nat → Prop) : Pass α → (count : Nat) → Prop
  | .done result, count => Q result count
  | .read _ next, count => ∀ answer, (next answer).Numbers key Q count
  | .execute (.create _ used) next, count =>
    used = key count ∧ ∀ answer, (next (.ok answer)).Numbers key Q (count + 1)
  | .execute _ next, count => ∀ answer, (next answer).Numbers key Q count
  | .callTool _ _ _ next, count => ∀ answer, (next answer).Numbers key Q count
  | .deliver _ _ next, count => ∀ answer, (next answer).Numbers key Q count
  | .interfaceOf _ next, count => ∀ answer, (next answer).Numbers key Q count
  | .registerAsk _ _ _ next, count => ∀ answer, (next answer).Numbers key Q count
  | .invoke _ _ next, count => ∀ answer, (next answer).Numbers key Q count
  | .remember _ next, count => next.Numbers key Q count

/-- The numbers of a pass that goes on with another go on with it. -/
theorem numbers_bind {p : Pass α} {f : α → Pass β} {count : Nat} (first : p.Numbers key Q count)
    (after : ∀ result count, Q result count → (f result).Numbers key R count) :
    (p >>= f).Numbers key R count := by
  change (p.bind f).Numbers key R count
  induction p generalizing count with
  | done result => exact after result count first
  | remember memory next ih => exact ih first
  | execute op next ih =>
    cases op with
    | create value used => exact ⟨first.1, fun answer => ih _ (first.2 answer)⟩
    | _ => exact fun answer => ih answer (first answer)
  | _ => rename_i ih; exact fun answer => ih answer (first answer)

lemma numbers_mono {Q' : α → Nat → Prop} {p : Pass α} {count : Nat}
    (numbers : p.Numbers key Q count)
    (implies : ∀ result count, Q result count → Q' result count) : p.Numbers key Q' count := by
  induction p generalizing count with
  | done result => exact implies result count numbers
  | remember memory next ih => exact ih numbers
  | execute op next ih =>
    cases op with
    | create value used => exact ⟨numbers.1, fun answer => ih _ (numbers.2 answer)⟩
    | _ => exact fun answer => ih answer (numbers answer)
  | _ => rename_i ih; exact fun answer => ih answer (numbers answer)

/-- A pass without creates leaves the number as it is. -/
lemma numbers_of_only {P : α → Prop} {p : Pass α} (count : Nat)
    (only : p.Only fun request => ∀ value used, request ≠ .execute (.create value used))
    (ensures : p.Ensures P) :
    p.Numbers key (fun result after => P result ∧ after = count) count := by
  induction p with
  | done result => exact ⟨ensures, rfl⟩
  | remember memory next ih => exact ih only.2 ensures
  | execute op next ih =>
    cases op with
    | create value used => exact absurd rfl (only.1 value used)
    | _ => exact fun answer => ih answer (only.2 answer) (ensures answer)
  | _ => rename_i ih; exact fun answer => ih answer (only.2 answer) (ensures answer)

/-- A request that speaks is no create. -/
lemma Only.not_create {actor : Id} {p : Pass α} (speaks : p.Only (Request.Speaks actor)) :
    p.Only fun request => ∀ value used, request ≠ .execute (.create value used) :=
  speaks.mono fun _ speaks _ _ same => by
    subst same
    exact speaks

end Pass

/-! ## Actions -/

namespace Activation

open Pass

variable (activation : Activation) (occasion : Occasion)

/-- The creates of a pass for an event are numbered, and its state holds the number of the next. -/
abbrev Counts {α : Type} (event : Event) (state : α → Activation) (pass : Pass α)
    (activation : Activation) : Prop :=
  pass.Numbers (fun count => event.key?.map fun key => numberedKey key count)
    (fun result count => (state result).creates = count) activation.creates

/-- The state that an action leads to, which stays if the action fails. -/
def reached (activation : Activation) (result : Except ActionError Step) : Activation :=
  match result with
  | .ok step => step.2
  | .error _ => activation

/-- A store operation has the key of the next create if it is a create, and it is one only if the
action asks for one. -/
lemma storeOp_cases {event : Event} {op : OpAction} {resolved : StoreOp}
    (done : activation.storeOp event op = .ok resolved) :
    (∃ template value, op = .create template ∧
      resolved = .create value (activation.createKey event)) ∨
    ((∀ template, op ≠ .create template) ∧ ∀ value key, resolved ≠ .create value key) := by
  cases op with
  | create template =>
    simp only [storeOp, Bind.bind, Except.bind] at done
    split at done
    · cases done
    · cases done
      exact .inl ⟨_, _, rfl, rfl⟩
  | update id patch =>
    simp only [storeOp, Bind.bind, Except.bind] at done
    split at done
    · cases done
    · split at done
      · cases done
      · cases done
        exact .inr ⟨nofun, nofun⟩
  | delete id =>
    simp only [storeOp, Bind.bind, Except.bind] at done
    split at done
    · cases done
    · cases done
      exact .inr ⟨nofun, nofun⟩

lemma runOp_counts (op : OpAction) :
    Counts occasion.event activation.reached (activation.runOp occasion.event op) activation := by
  unfold runOp
  cases done : activation.storeOp occasion.event op with
  | error error => exact rfl
  | ok resolved =>
    rcases activation.storeOp_cases done with ⟨template, value, rfl, rfl⟩ | ⟨other, plain⟩
    · exact ⟨rfl, fun answer => rfl⟩
    · cases resolved with
      | create value key => exact absurd rfl (plain value key)
      | _ =>
        intro answer
        cases op with
        | create template => exact absurd rfl (other template)
        | _ => cases answer <;> rfl

/-- Carrying out an action, creates are numbered. -/
lemma perform_counts (action : Action) :
    Counts occasion.event activation.reached (activation.perform occasion action) activation := by
  by_cases writes : ∃ op, action = .op op
  · obtain ⟨op, rfl⟩ := writes
    exact activation.runOp_counts occasion op
  have speaks := activation.perform_speaks occasion fun op same => writes ⟨op, same⟩
  by_cases patches : ∃ patch, action = .ctx patch
  · obtain ⟨patch, rfl⟩ := patches
    change (activation.reached (activation.runCtx occasion.event patch)).creates =
      activation.creates
    rcases activation.runCtx_eq occasion.event patch with ⟨error, failed⟩ | ⟨fields, -, done⟩
    · rw [failed]
      rfl
    · rw [done]
      rfl
  · refine numbers_mono (numbers_of_only _ speaks.not_create (activation.perform_hears occasion
      (fun patch same => patches ⟨patch, same⟩) fun op same => writes ⟨op, same⟩)) ?_
    rintro (error | step) count ⟨proceeds, rfl⟩
    · rfl
    · obtain ⟨result, invoked, heard⟩ := proceeds step rfl
      rw [reached, heard]

lemma failed_counts (error : ActionError) :
    Counts occasion.event Prod.snd (activation.failed occasion error) activation := by
  have speaks := occasion.fail_speaks occasion.actor.id error
  exact numbers_bind (numbers_of_only _ speaks.not_create (ensures_true _)) fun _ count after =>
    after.2.symm

lemma runAction_counts (action : Action) :
    Counts occasion.event Prod.snd (activation.runAction occasion action) activation := by
  refine numbers_bind (perform_counts _ occasion action) fun result count after => ?_
  cases result with
  | ok step => exact after
  | error error => exact after ▸ failed_counts _ occasion error

/-- Running lists of actions, creates are numbered, whatever lists they refer to. -/
theorem run_counts (actions : List Action) :
    Counts occasion.event Prod.snd (activation.run occasion actions) activation := by
  have builds : Builds occasion (fun _ => True) fun activation pass =>
      Counts occasion.event Prod.snd pass activation := {
    done := fun _ => rfl
    bind := fun first rest _ => numbers_bind first fun step count after => after ▸ rest step
    failed := fun activation error _ => activation.failed_counts occasion error
    action := fun activation action _ => activation.runAction_counts occasion action
    find := fun _ _ _ _ => trivial }
  exact builds.run (fun _ _ => trivial) activation

end Activation

/-! ## Behaviors -/

open Pass Activation

namespace Machine

variable (definition : MachineDefinition) (occasion : Occasion) (activation : Activation)

lemma enter_counts (state : String) :
    Counts occasion.event id (enter definition occasion state activation) activation := by
  unfold enter
  split
  · rfl
  · refine numbers_bind (run_counts { activation with invoked := none } occasion _)
      fun step count after => ?_
    obtain ⟨flow, last⟩ := step
    subst after
    dsimp only
    split
    · split
      · have speaks := Occasion.sendEach_speaks occasion.actor.id
        exact numbers_bind (numbers_of_only _ (speaks _ _).not_create (ensures_true _))
          fun _ count after => after.2.symm
      · rfl
    · rfl

lemma leave_counts (node : StateNode) (candidate : Candidate) :
    Counts occasion.event Prod.snd (leave occasion node candidate activation) activation := by
  refine numbers_bind (run_counts activation occasion _) fun step count after => ?_
  obtain ⟨flow, last⟩ := step
  subst after
  cases flow with
  | proceed => exact run_counts last occasion _
  | stop => rfl

lemma arrive_counts (source : String) (candidate : Candidate) (flow : Flow) :
    Counts occasion.event id (arrive definition occasion source candidate flow activation)
      activation := by
  unfold arrive
  dsimp only
  split
  · exact enter_counts definition occasion _ _
  · rfl

end Machine

lemma Machine.take_counts (definition : MachineDefinition) (limit : Nat) (suppressed : List String)
    (actor : Actor) (event : Event) (memory : Memory) (source : String) (node : StateNode)
    (candidate : Candidate) (activation : Activation) :
    Counts event Prod.fst (Machine.take definition limit suppressed actor event memory source node
      candidate activation) activation := by
  refine numbers_bind (Q := fun _ count => activation.creates = count) rfl fun _ count after => ?_
  subst after
  refine numbers_bind (Machine.leave_counts (occasion definition actor event) activation _ _)
    fun step count after => ?_
  obtain ⟨flow, last⟩ := step
  subst after
  refine numbers_bind (Q := fun _ count => last.creates = count) rfl fun _ count after => ?_
  subst after
  refine numbers_bind (Machine.arrive_counts definition (occasion definition actor event) last ..)
    fun arrived count after => ?_
  subst after
  exact rfl

lemma Activation.ofContext_creates (context : Option Json) : (ofContext context).creates = 0 := by
  unfold ofContext
  split <;> rfl

/-- The creates of an event's pass, each with the key of its number. -/
abbrev Pass.NumbersAll {α : Type} (event : Event) (pass : Pass α) : Prop :=
  pass.Numbers (fun count => event.key?.map fun key => numberedKey key count) (fun _ _ => True) 0

/-- What begins with reading the context begins to count. -/
lemma Activation.begin_numbers {α : Type} {occasion : Occasion} {next : Activation → Pass α}
    {key : Nat → Option String} {Q : α → Nat → Prop}
    (rest : ∀ activation, (next activation).Numbers key Q activation.creates) :
    (Activation.begin occasion >>= next).Numbers key Q 0 := by
  intro context
  have numbers := rest (ofContext context)
  rwa [ofContext_creates] at numbers

lemma Machine.work_numbers (definition : MachineDefinition) (limit : Nat)
    (suppressed : List String) (actor : Actor) (memory : Memory) (event : Event) :
    (Machine.work definition limit suppressed actor memory event).NumbersAll event := by
  unfold Machine.work
  split
  · trivial
  · refine begin_numbers fun activation => ?_
    dsimp only
    split
    · trivial
    · exact numbers_bind (Machine.take_counts _ _ _ actor event _ _ _ _ _) fun _ _ _ => trivial

lemma Process.work_numbers (definition : ProcessDefinition) (suppressed : List String)
    (actor : Actor) (memory : Memory) (event : Event) :
    (Process.work definition suppressed actor memory event).NumbersAll event := by
  unfold Process.work
  split
  · trivial
  · refine begin_numbers fun activation => ?_
    exact numbers_bind (run_counts activation ⟨actor, definition.named, event⟩ _)
      fun _ _ _ => trivial

lemma Occasion.finish_numbers {occasion : Occasion} {key : Nat → Option String}
    (activation : Activation) (count : Nat) :
    (occasion.finish activation).Numbers key (fun _ _ => True) count := by
  obtain ⟨next, eq, -, sends⟩ := occasion.finish_eq activation
  rw [eq]
  intro answer
  refine numbers_mono (numbers_of_only count ((sends answer).mono ?_) (ensures_true _))
    fun _ _ _ => trivial
  intro request only value used same
  subst same
  exact only

/-- **Creates are numbered.**  Whatever a behavior does with an event, its creates have the key of
the event, one number after the other. -/
theorem Behavior.send_numbers (behavior : Behavior) (actor : Actor) (memory : Memory)
    (event : Event) : (behavior.send actor memory event).NumbersAll event := by
  have works : (behavior.work actor memory event).NumbersAll event := by
    cases behavior with
    | machine definition limit suppressed => exact Machine.work_numbers ..
    | process definition suppressed => exact Process.work_numbers ..
  refine numbers_bind works fun outcome count _ => ?_
  cases outcome with
  | none => trivial
  | some outcome => exact numbers_bind (Occasion.finish_numbers _ count) fun _ _ _ => trivial

end Troupe
