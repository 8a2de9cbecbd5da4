import Troupe.Proofs.Json.Patch
import Troupe.Proofs.Pass.Staging

/-!
# The state field of a context

A machine keeps the name of its state in the field `state` of its context.  Merging a patch
without that field keeps it, merging a patch with nothing else sets it, and so does storing the
difference to a value that has it.  Running actions keeps it if no patch among them, or among
the named lists that they lead to, has the field.

The guards of a machine are told of its state besides.  Where the context names the same state
that makes no difference: the actions make the same requests and come to the same states.

## Main results

* `Json.Names.merge_diff`: storing a difference stores the name of the state;
* `Activation.run_steady`: running actions keeps the name;
* `Activation.run_tell`: telling the guards what the context says makes no difference;
* `Machine.start_resumes`: a machine starts in the state that its context names.
-/

namespace Troupe

/-! ## Values that name a state -/

namespace Json

/-- An object, with its fields in order, whose field `state` is a given text. -/
structure Names (value : Json) (state : String) : Prop where
  /-- It is an object, -/
  object : value.isObject = true
  /-- its fields are in order, -/
  sorted : Assoc.Sorted value.fieldsOf
  /-- and this one is the text. -/
  state : Assoc.find? "state" value.fieldsOf = some (.str state)

variable {value current after : Json} {state : String} {patch : List (String × Json)}

lemma eq_obj (object : value.isObject = true) : value = .obj value.fieldsOf := by
  cases value <;> first | rfl | cases object

/-- A patch keeps the fields that it does not have. -/
lemma find?_mergeFields_of_none {name : String} (missing : Assoc.find? name patch = none)
    (target : List (String × Json)) :
    Assoc.find? name (mergeFields target patch) = Assoc.find? name target := by
  induction patch generalizing target with
  | nil => rfl
  | cons field rest ih =>
    obtain ⟨key, content⟩ := field
    rw [Assoc.find?_cons] at missing
    split at missing
    · cases missing
    · rename_i ne
      rw [mergeFields, ih missing]
      split
      · rw [Assoc.find?_erase, if_neg ne]
      · rw [Assoc.find?_insert, if_neg ne]

lemma names_of_field? (named : value.field? "state" = some (.str state))
    (sorted : Assoc.Sorted value.fieldsOf) : value.Names state := by
  cases value with
  | obj fields => exact ⟨rfl, sorted, named⟩
  | _ => cases named

namespace Names

lemma field? (names : value.Names state) : value.field? "state" = some (.str state) := by
  rw [eq_obj names.object]
  exact names.state

/-- Setting the field to its text changes nothing. -/
lemma setField_eq (names : value.Names state) : value.setField "state" (.str state) = value := by
  rw [eq_obj names.object, setField, Assoc.insert_eq_self names.sorted names.state]

/-- Nor does merging it. -/
lemma merge_eq (names : value.Names state) :
    value.merge (.obj [("state", .str state)]) = value := by
  have set : value.merge (.obj [("state", .str state)]) =
      .obj (Assoc.insert "state" (.str state) value.fieldsOf) := rfl
  rw [set, Assoc.insert_eq_self names.sorted names.state, ← eq_obj names.object]

/-- A patch without the field keeps it. -/
lemma merge (names : value.Names state) (missing : Assoc.find? "state" patch = none) :
    (value.merge (.obj patch)).Names state where
  object := rfl
  sorted := sorted_mergeFields names.sorted patch
  state := (find?_mergeFields_of_none missing _).trans names.state

end Names

/-- Merging the field alone sets it. -/
lemma field?_merge_state (value : Json) (state : String) :
    (value.merge (.obj [("state", .str state)])).field? "state" = some (.str state) :=
  (Assoc.find?_insert _ _ _ _).trans (if_pos rfl)

lemma names_merge (sorted : Assoc.Sorted value.fieldsOf) (state : String) :
    (value.merge (.obj [("state", .str state)])).Names state :=
  names_of_field? (field?_merge_state value state) (Assoc.sorted_insert _ _ sorted)

/-- Storing the difference to a value that names a state stores the name. -/
lemma Names.merge_diff (names : after.Names state) (sorted : Assoc.Sorted current.fieldsOf)
    {base : Json} (same : base.fieldsOf = current.fieldsOf) :
    (current.merge (base.diff after)).Names state := by
  obtain ⟨patch, diff_eq, sortedPatch, find⟩ := diff_obj base names.sorted
  rw [← eq_obj names.object] at diff_eq
  rw [diff_eq]
  refine ⟨rfl, sorted_mergeFields sorted patch, ?_⟩
  have changed := find "state"
  rw [names.state, Option.bind_some, same] at changed
  change Assoc.find? "state" (mergeFields current.fieldsOf patch) = _
  rw [find?_mergeFields _ sortedPatch, changed]
  have kept : Assoc.contains "state" after.fieldsOf = true := by
    rw [Assoc.contains, names.state]
    rfl
  -- the field is new, or it is replaced, or it was the same before
  cases found : Assoc.find? "state" current.fieldsOf with
  | none =>
    rw [change?, found]
    rfl
  | some previous =>
    rw [change?, found]
    cases equal : previous.same (.str state) with
    | false =>
      simp only [equal, diff, Bool.false_eq_true, if_false, Option.some_or]
      rfl
    | true =>
      have text : previous = .str state := eq_str_of_same equal
      rw [text] at equal
      simp [kept, equal, text]

end Json

/-! ## Actions that keep the field -/

/-- Whether an action may change the field `state` of the context.  A patch that has the field
does; one that is no object might, but no patch of a loaded definition is one. -/
def Action.setsState : Action → Bool
  | .ctx (.obj patch) => Assoc.contains "state" patch
  | .ctx _ => true
  | _ => false

namespace NamedActions

/-- The lists of actions that a list leads to: itself, and those that it refers to by name, and
so on. -/
inductive Leads (named : NamedActions) : (first last : List Action) → Prop
  /-- A list leads to itself. -/
  | self (actions : List Action) : Leads named actions actions
  /-- A reference leads further. -/
  | step {actions next last : List Action} {name : String} (refers : .named name ∈ actions)
    (found : named.find? name = some next) : Leads named next last → Leads named actions last

/-- No action that running a list may come to changes the field `state`. -/
def KeepsState (named : NamedActions) (actions : List Action) : Prop :=
  ∀ list, named.Leads actions list → ∀ action ∈ list, action.setsState = false

/-- An action does not change the field `state`, nor does any in a list that it refers to. -/
def Spares (named : NamedActions) (action : Action) : Prop :=
  action.setsState = false ∧
    ∀ name list, action = .named name → named.find? name = some list → named.KeepsState list

variable {named : NamedActions} {actions : List Action}

lemma KeepsState.spares (keeps : named.KeepsState actions) :
    ∀ action ∈ actions, named.Spares action := by
  refine fun action mem => ⟨keeps actions (.self actions) action mem, ?_⟩
  rintro name next rfl found list leads
  exact keeps list (.step mem found leads)

/-- A list leads to those that the lists refer to that it leads to. -/
lemma Leads.tail {list next : List Action} {name : String} (leads : named.Leads actions list)
    (refers : .named name ∈ list) (found : named.find? name = some next) :
    named.Leads actions next := by
  induction leads with
  | self => exact .step refers found (.self next)
  | step first there _ ih => exact .step first there (ih refers)

/-- An action is in one of the lists that a list leads to. -/
def Reaches (named : NamedActions) (actions : List Action) (action : Action) : Prop :=
  ∃ list, named.Leads actions list ∧ action ∈ list

lemma Reaches.self {action : Action} (mem : action ∈ actions) : named.Reaches actions action :=
  ⟨actions, .self actions, mem⟩

lemma Reaches.find {name : String} {next : List Action}
    (reaches : named.Reaches actions (.named name)) (found : named.find? name = some next) :
    ∀ action ∈ next, named.Reaches actions action := by
  obtain ⟨list, leads, refers⟩ := reaches
  exact fun action mem => ⟨next, leads.tail refers found, mem⟩

/-- What is true of the actions of a list and of those of every named list is true of all that the
list leads to. -/
lemma Leads.forall_mem {P : Action → Prop} {last : List Action} (leads : named.Leads actions last)
    (own : ∀ action ∈ actions, P action)
    (lists : ∀ name list, named.find? name = some list → ∀ action ∈ list, P action) :
    ∀ action ∈ last, P action := by
  induction leads with
  | self => exact own
  | step _ found _ ih => exact ih (lists _ _ found)

/-- If neither the actions nor any named list change the field, none that they lead to does. -/
lemma keepsState_of_lists (own : ∀ action ∈ actions, action.setsState = false)
    (lists : ∀ name list, named.find? name = some list →
      ∀ action ∈ list, action.setsState = false) : named.KeepsState actions :=
  fun _ leads => leads.forall_mem own lists

end NamedActions

namespace Template

/-- Resolving the values of fields gives no new field. -/
lemma find?_resolveFields {scope : Json} {fields resolved : List (String × Json)} {name : String}
    (done : resolveFields scope fields = .ok resolved) (missing : Assoc.find? name fields = none) :
    Assoc.find? name resolved = none := by
  induction fields generalizing resolved with
  | nil =>
    cases done
    rfl
  | cons field rest ih =>
    obtain ⟨key, template⟩ := field
    rw [Assoc.find?_cons] at missing
    split at missing
    · cases missing
    · rename_i ne
      rw [resolveFields] at done
      cases first : resolve scope template with
      | error error =>
        rw [first] at done
        cases done
      | ok value =>
        rw [first] at done
        cases others : resolveFields scope rest with
        | error error =>
          simp only [others, Bind.bind, Except.bind] at done
          cases done
        | ok tail =>
          simp only [others, Bind.bind, Except.bind] at done
          cases done
          rw [Assoc.find?_cons, if_neg ne, ih others missing]

/-- Resolving an object gives an object without new fields. -/
lemma find?_resolve {scope : Json} {fields resolved : List (String × Json)} {name : String}
    (done : resolve scope (.obj fields) = .ok (.obj resolved))
    (missing : Assoc.find? name fields = none) : Assoc.find? name resolved = none := by
  rw [resolve] at done
  cases inner : resolveFields scope fields with
  | error error =>
    rw [inner] at done
    cases done
  | ok values =>
    rw [inner] at done
    cases done
    exact find?_resolveFields inner missing

end Template

namespace Activation

open Pass

variable {state : String} {told : Option String} {activation : Activation} {occasion : Occasion}

/-- The working copy names a state, and this is what the guards are told of. -/
structure Steady (state : String) (told : Option String) (activation : Activation) : Prop where
  /-- The working copy names the state. -/
  names : activation.working.Names state
  /-- The guards are told of this one. -/
  told : activation.state = told

lemma Steady.alike {after : Activation} (steady : activation.Steady state told)
    (alike : activation.Alike after) : after.Steady state told :=
  ⟨alike.working ▸ steady.names, alike.state.trans steady.told⟩

/-- A patch without the field `state` keeps it. -/
lemma runCtx_steady (steady : activation.Steady state told) (event : Event) {template : Json}
    (spares : (Action.ctx template).setsState = false) :
    Proceeds (Steady state told) (activation.runCtx event template) := by
  rcases activation.runCtx_eq event template with ⟨error, failed⟩ | ⟨patch, resolved, done⟩
  · rw [failed]
    exact proceeds_error _
  · rw [done]
    refine proceeds_ok ⟨steady.names.merge ?_, steady.told⟩
    cases template with
    | obj fields =>
      have missing : Assoc.find? "state" fields = none := by
        simpa [Action.setsState, Assoc.contains] using spares
      unfold resolve at resolved
      cases inner : Template.resolve (activation.scope event) (.obj fields) with
      | error error =>
        rw [inner] at resolved
        cases resolved
      | ok value =>
        rw [inner] at resolved
        cases resolved
        exact Template.find?_resolve inner missing
    | _ => cases spares

variable (occasion) in
lemma keeps_steady (state : String) (told : Option String) :
    Keeps occasion occasion.named.Spares (Steady state told) where
  counted steady := ⟨steady.names, steady.told⟩
  perform {activation action} spares steady := by
    -- no other action touches the working copy
    by_cases patches : ∃ patch, action = .ctx patch
    · obtain ⟨patch, rfl⟩ := patches
      exact runCtx_steady steady occasion.event spares.1
    · exact ensures_mono
        (activation.perform_alike occasion fun patch same => patches ⟨patch, same⟩)
        fun _ proceeds => proceeds.mono fun _ => steady.alike
  find spares found := (spares.2 _ _ rfl found).spares

/-- Running actions keeps the name of the state, wherever it stops. -/
theorem run_steady {actions : List Action} (keeps : occasion.named.KeepsState actions)
    (steady : activation.Steady state told) :
    (activation.run occasion actions).Ensures fun step => step.2.Steady state told :=
  (keeps_steady occasion state told).run keeps.spares steady

/-! ## Telling the guards what the context says -/

end Activation

/-- The same actor, whose record holds another behavior. -/
def Actor.behaving (actor : Actor) (behavior : Json) : Actor :=
  { actor with config := { actor.config with behavior } }

/-- The same occasion for an actor whose record holds another behavior. -/
def Occasion.behaving (occasion : Occasion) (behavior : Json) : Occasion :=
  { occasion with actor := occasion.actor.behaving behavior }

namespace Activation

open Pass

variable {activation : Activation} {occasion : Occasion} {state : String}

/-- The same state of a pass, whose guards are told of a state. -/
def tell (activation : Activation) (state : String) : Activation :=
  { activation with state := some state }

/-- The same step, after which guards are told of a state. -/
def Step.tell (state : String) (step : Step) : Step := (step.1, step.2.tell state)

lemma Steady.holds_tell (steady : activation.Steady state none) (event : Event) (guard : Guard) :
    (activation.tell state).holds event guard = activation.holds event guard := by
  -- a schema is checked on the working copy with the told state set in it, where it is already
  have subject : (activation.tell state).subject = activation.subject := by
    rw [Activation.subject, Activation.subject, steady.told]
    exact steady.names.setField_eq
  cases guard with
  | literal => rfl
  | schema content => rw [holds, holds, subject]
  | expr template => rfl

/-! What an action does has nothing to do with what guards are told of, nor with what else the
actor's record says of its behavior. -/

variable (activation occasion) (state)

lemma runCtx_tell (event : Event) (template : Json) :
    (activation.tell state).runCtx event template =
      (activation.runCtx event template).map (Step.tell state) := by
  have same : (activation.tell state).resolve event template = activation.resolve event template :=
    rfl
  rw [runCtx, runCtx, same]
  cases activation.resolve event template with
  | error error => rfl
  | ok value => cases value <;> rfl

lemma runOp_tell (event : Event) (op : OpAction) :
    (activation.tell state).runOp event op =
      Except.map (Step.tell state) <$> activation.runOp event op := by
  have same : (activation.tell state).storeOp event op = activation.storeOp event op := rfl
  unfold runOp
  rw [same]
  cases activation.storeOp event op with
  | error error => rfl
  | ok storeOp =>
    refine congrArg (Pass.execute storeOp) (funext fun answer => ?_)
    cases answer <;> rfl

lemma runTell_tell (behavior : Json) (send : SendAction) :
    (activation.tell state).runTell (occasion.behaving behavior) send =
      Except.map (Step.tell state) <$> activation.runTell occasion send := by
  have same : (activation.tell state).outbound (occasion.behaving behavior) send =
      activation.outbound occasion send := rfl
  unfold runTell
  rw [same]
  cases activation.outbound occasion send with
  | error error => rfl
  | ok message =>
    refine congrArg (Pass.deliver _ _) (funext fun answer => ?_)
    cases answer <;> rfl

lemma runAsk_tell (behavior : Json) (send : SendAction) :
    (activation.tell state).runAsk (occasion.behaving behavior) send =
      Except.map (Step.tell state) <$> activation.runAsk occasion send := by
  have same : (activation.tell state).outbound (occasion.behaving behavior) send =
      activation.outbound occasion send := rfl
  unfold runAsk
  rw [same]
  cases activation.outbound occasion send with
  | error error => rfl
  | ok message =>
    refine congrArg (Pass.interfaceOf _) (funext fun answer => ?_)
    cases answer with
    | error error => rfl
    | ok accepted =>
      by_cases accepts : accepted.contains message.type = true
      · simp only [if_pos accepts]
        refine congrArg (Pass.registerAsk _ _ _) (funext fun correlation => ?_)
        refine congrArg (Pass.deliver _ _) (funext fun answer => ?_)
        cases answer <;> rfl
      · simp only [if_neg accepts]
        rfl

lemma runFunction_tell (behavior : Json) (template : Option Json) :
    (activation.tell state).runFunction (occasion.behaving behavior) template =
      Except.map (Step.tell state) <$> activation.runFunction occasion template := by
  have function : (occasion.behaving behavior).actor.config.function =
      occasion.actor.config.function := rfl
  have same : (activation.tell state).resolveOr (occasion.behaving behavior).event template =
      activation.resolveOr occasion.event template := rfl
  unfold runFunction
  rw [function]
  cases occasion.actor.config.function with
  | none => rfl
  | some tool =>
    dsimp only
    rw [same]
    cases activation.resolveOr occasion.event template with
    | error error => rfl
    | ok payload =>
      refine congrArg (Pass.callTool _ _ _) (funext fun answer => ?_)
      cases answer with
      | error cause => rfl
      | ok raw =>
        exact (map_bind (Except.map (Step.tell state))
          (occasion.reply successEvent (successPayload occasion.event.payload (cleanResult raw)))
          fun _ => pure (.ok (.stop, { activation with result := cleanResult raw }))).symm

lemma runInvoke_tell (event : Event) (target : Id) (template : Option Json) :
    (activation.tell state).runInvoke event target template =
      Except.map (Step.tell state) <$> activation.runInvoke event target template := by
  have same : (activation.tell state).resolveOr event template = activation.resolveOr event template :=
    rfl
  unfold runInvoke
  rw [same]
  cases activation.resolveOr event template with
  | error error => rfl
  | ok payload =>
    refine congrArg (Pass.invoke _ _) (funext fun answer => ?_)
    cases answer <;> rfl

lemma perform_tell (behavior : Json) (action : Action) :
    (activation.tell state).perform (occasion.behaving behavior) action =
      Except.map (Step.tell state) <$> activation.perform occasion action := by
  cases action with
  | ctx patch => exact congrArg _ (activation.runCtx_tell state occasion.event patch)
  | op op => exact activation.runOp_tell state occasion.event op
  | tell send => exact activation.runTell_tell occasion state behavior send
  | ask send => exact activation.runAsk_tell occasion state behavior send
  | function payload => exact activation.runFunction_tell occasion state behavior payload
  | invoke target payload => exact activation.runInvoke_tell state occasion.event target payload
  | guard guard => rfl
  | named name => rfl

lemma failed_tell (behavior : Json) (error : ActionError) :
    (activation.tell state).failed (occasion.behaving behavior) error =
      Step.tell state <$> activation.failed occasion error := by
  unfold failed
  rw [map_bind]
  rfl

lemma runAction_tell (behavior : Json) (action : Action) :
    (activation.tell state).runAction (occasion.behaving behavior) action =
      Step.tell state <$> activation.runAction occasion action := by
  let counted := { activation with actionsRun := activation.actionsRun + 1 }
  have performed := counted.perform_tell occasion state behavior action
  change (counted.tell state).perform (occasion.behaving behavior) action >>= _ =
    Step.tell state <$> (counted.perform occasion action >>= _)
  rw [performed, map_eq_pure_bind, bind_assoc, map_bind]
  refine congrArg (_ >>= ·) (funext fun result => ?_)
  cases result with
  | ok step => rfl
  | error error => exact counted.failed_tell occasion state behavior error

/-! Lists of actions have guards, so these need the context to name the state. -/

variable {activation occasion state}

lemma runOne_tell {behavior : Json} {call call' : String → Activation → Pass Step}
    {action : Action} (spares : occasion.named.Spares action)
    (calls : ∀ name, occasion.named.Spares (.named name) →
      call' name (activation.tell state) = Step.tell state <$> call name activation) :
    runOne call' (occasion.behaving behavior) action (activation.tell state) =
      Step.tell state <$> runOne call occasion action activation := by
  cases action with
  | named name => exact calls name spares
  | _ => exact activation.runAction_tell occasion state behavior _

lemma runWith_tell {behavior : Json} {call call' : String → Activation → Pass Step}
    (kept : ∀ name activation, occasion.named.Spares (.named name) →
      activation.Steady state none →
      (call name activation).Ensures fun step => step.2.Steady state none)
    (calls : ∀ name activation, occasion.named.Spares (.named name) →
      activation.Steady state none →
      call' name (activation.tell state) = Step.tell state <$> call name activation)
    {actions : List Action} (spares : ∀ action ∈ actions, occasion.named.Spares action)
    (skipping : Bool) (steady : activation.Steady state none) :
    runWith call' (occasion.behaving behavior) actions skipping (activation.tell state) =
      Step.tell state <$> runWith call occasion actions skipping activation := by
  fun_induction runWith call occasion actions skipping activation with
  | case1 => rfl
  | case2 skipping guard rest activation holds checked ih =>
    have same : (activation.tell state).holds (occasion.behaving behavior).event guard = .ok holds :=
      (steady.holds_tell _ guard).trans checked
    rw [runWith, same]
    exact ih (List.forall_mem_cons.1 spares).2 steady
  | case3 skipping guard rest activation error failed =>
    have same : (activation.tell state).holds (occasion.behaving behavior).event guard =
        .error error := (steady.holds_tell _ guard).trans failed
    rw [runWith, same]
    exact activation.failed_tell occasion state behavior error
  | case4 action rest activation other ih =>
    rw [runWith, if_pos rfl]
    · exact ih (List.forall_mem_cons.1 spares).2 steady
    · assumption
  | case5 action rest skipping activation other go ih =>
    obtain ⟨may, others⟩ := List.forall_mem_cons.1 spares
    rw [runWith, if_neg go, runOne_tell may fun name may => calls name activation may steady]
    · rw [map_eq_pure_bind, bind_assoc, map_bind]
      -- what comes after the action is run with the name still in the working copy
      have after := (keeps_steady occasion state none).builds.runOne kept may _ steady
      refine bind_congr after fun step steady => ?_
      obtain ⟨flow, next⟩ := step
      cases flow with
      | proceed => exact ih next others steady
      | stop => rfl
    · assumption

lemma runNamed_tell {behavior : Json} (levels : Nat) (name : String) (activation : Activation)
    (spares : occasion.named.Spares (.named name)) (steady : activation.Steady state none) :
    runNamed (occasion.behaving behavior) levels name (activation.tell state) =
      Step.tell state <$> runNamed occasion levels name activation := by
  induction levels generalizing name activation with
  | zero => exact activation.failed_tell occasion state behavior _
  | succ levels ih =>
    have same : (occasion.behaving behavior).named.find? name = occasion.named.find? name := rfl
    unfold runNamed
    rw [same]
    cases found : occasion.named.find? name with
    | none => exact activation.failed_tell occasion state behavior _
    | some list =>
      exact runWith_tell ((keeps_steady occasion state none).builds.runNamed levels) ih
        (spares.2 name list rfl found).spares false steady

/-- Telling the guards what the context says makes no difference: the actions make the same
requests, and come to the same states. -/
theorem run_tell {actions : List Action} (keeps : occasion.named.KeepsState actions)
    (steady : activation.Steady state none) (behavior : Json) :
    (activation.tell state).run (occasion.behaving behavior) actions =
      Step.tell state <$> activation.run occasion actions :=
  runWith_tell ((keeps_steady occasion state none).builds.runNamed _) (runNamed_tell _) keeps.spares
    false steady

end Activation

/-! ## Machines over a context that names a state -/

namespace Machine

variable {definition : MachineDefinition} {state : String}

/-- A context names a declared state in its field `state`. -/
lemma persistedState?_eq_some {context : Option Json} :
    persistedState? definition context = some state ↔
      ∃ value, context = some value ∧ value.field? "state" = some (.str state) ∧
        definition.states.contains state = true := by
  simp only [persistedState?, Option.bind_eq_bind, Option.bind_eq_some_iff]
  constructor
  · rintro ⟨value, rfl, content, named, text, read, checked⟩
    cases content <;> cases read
    split at checked
    · cases checked
      exact ⟨value, rfl, named, ‹_›⟩
    · cases checked
  · rintro ⟨value, rfl, named, declared⟩
    exact ⟨value, rfl, _, named, state, rfl, if_pos declared⟩

/-- Over a context that names a declared state, a start reads the context, remembers the state, and
is done. -/
lemma start_resumes (definition : MachineDefinition) (actor : Actor) (memory : Memory) :
    ∃ next, start definition actor memory = .read actor.config.context next ∧
      ∀ context state, persistedState? definition context = some state →
        next context = .remember { memory with state := some state } (.done ()) := by
  refine ⟨_, rfl, fun context state persisted => ?_⟩
  dsimp only [Pass.bind]
  rw [persisted]

end Machine

end Troupe
