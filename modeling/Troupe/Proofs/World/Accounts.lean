import Troupe.Proofs.Pass.Reports
import Troupe.Proofs.World.Customs
import Troupe.Proofs.World.Nesting

/-!
# What is reported is accounted for

How often failures are reported shows in what is noted of messages (`Journal.reports`).  All that
someone reports is accounted for in one of two ways (`World.Accounts`).  While an actor is busy with
a pass, no other pass of it begins, so what it reports is what the pass reports by itself.  At any
other time it may begin passes, and each of these may bring three reports.

It holds for everybody who might report, be that an actor or nobody at all.  So a bound that is
found for each of them will be one for all reports together.

## Main results

* `World.accounts_custom`: commands and tools report nothing by themselves;
* `Engine.runPass_accounts`: in a pass, what it reports itself is all that is to be accounted for.
-/

namespace Troupe

/-! ## What a journal tells of failures -/

namespace Note

/-- The report of a failure, if that is what was sent. -/
def report? : Note → Option (Id × Message)
  | .sent target message => message.reportTo? target
  | _ => none

/-- The actor that begins a pass of which failures are reported: it is started, or it takes an entry
that is no ERROR. -/
def venture? : Note → Option Id
  | .spawned actor _ => some actor
  | .taken actor _ _ _ entry => if entry.type = errorEvent then none else some actor
  | _ => none

end Note

namespace Journal

variable {later earlier notes : List Note}

/-- The reports of failures that were sent, oldest first. -/
def reports (journal : List Note) : List (Id × Message) :=
  (journal.filterMap Note.report?).reverse

/-- The actors that began a pass of which failures are reported, each as often as it did. -/
def ventures (journal : List Note) : List Id := (journal.filterMap Note.venture?).reverse

lemma reports_append : reports (later ++ earlier) = reports earlier ++ reports later := by
  rw [reports, List.filterMap_append, List.reverse_append]
  rfl

lemma ventures_append : ventures (later ++ earlier) = ventures earlier ++ ventures later := by
  rw [ventures, List.filterMap_append, List.reverse_append]
  rfl

lemma mem_ventures {note : Note} {actor : Id} (mem : note ∈ notes)
    (venture : note.venture? = some actor) : actor ∈ ventures notes :=
  List.mem_reverse.2 (List.mem_filterMap.2 ⟨note, mem, venture⟩)

lemma reports_eq_nil (silent : ∀ note ∈ notes, note.report? = none) : reports notes = [] := by
  rw [reports, List.filterMap_eq_nil_iff.2 silent]
  rfl

end Journal

/-- Those of some reports that someone sent; `none` stands for nobody. -/
def sentBy (who : Option Id) (reports : List (Id × Message)) : List (Id × Message) :=
  reports.filter fun report => report.2.source = who

@[simp] lemma sentBy_append {who : Option Id} {first last : List (Id × Message)} :
    sentBy who (first ++ last) = sentBy who first ++ sentBy who last :=
  List.filter_append _ _

lemma sentBy_of_senders {actor : Id} {told : List (Id × Message)}
    (senders : ∀ report ∈ told, report.2.source = some actor) (who : Option Id) :
    sentBy who told = if who = some actor then told else [] := by
  split
  · rename_i own
    exact List.filter_eq_self.2 fun report mem => by rw [senders report mem, own]; simp
  · rename_i other
    refine List.filter_eq_nil_iff.2 fun report mem => ?_
    rw [senders report mem]
    simpa using Ne.symm other

open Journal

namespace World

variable {who : Option Id} {told first last : List (Id × Message)}
variable {world before middle after : World}

/-- An actor is busy. -/
def Busy (world : World) (who : Option Id) : Prop :=
  ∃ actor running, who = some actor ∧ world.running.find? actor = some running ∧
    running.activity ≠ .idle

/-- What a busy actor is doing stays. -/
lemma Busy.of_kept (kept : ∀ actor running, who = some actor →
    before.running.find? actor = some running →
    ∃ new, after.running.find? actor = some new ∧ new.activity = running.activity)
    (busy : before.Busy who) : after.Busy who := by
  obtain ⟨actor, running, same, found, busy⟩ := busy
  obtain ⟨new, there, activity⟩ := kept actor running same found
  exact ⟨actor, new, same, there, by rwa [activity]⟩

/-- From one state to another, all that someone reports is accounted for: by some reports that are
given, or by passes that were begun. -/
structure Accounts (who : Option Id) (told : List (Id × Message)) (before after : World) :
    Prop where
  /-- Settings stay. -/
  config : after.config = before.config
  /-- An actor that is busy stays busy, -/
  busy : before.Busy who → after.Busy who
  /-- and then it reports just what is given; otherwise there are three more reports at most for
  each pass that it begins. -/
  noted : ∃ notes, after.journal = notes ++ before.journal ∧
    (before.Busy who → sentBy who (reports notes) = told) ∧
    (before.config.mutationEvent ≠ errorEvent → (sentBy who (reports notes)).length ≤
      3 * ((ventures notes).map some).count who + told.length)

namespace Accounts

protected lemma trans (begins : before.Accounts who first middle)
    (ends : middle.Accounts who last after) : before.Accounts who (first ++ last) after := by
  obtain ⟨earlier, journal, given, bounded⟩ := begins.noted
  obtain ⟨later, journal', given', bounded'⟩ := ends.noted
  refine ⟨ends.config.trans begins.config, fun busy => ends.busy (begins.busy busy),
    later ++ earlier, by rw [journal', journal, List.append_assoc], fun busy => ?_, fun apart => ?_⟩
  · rw [reports_append, sentBy_append, given busy, given' (begins.busy busy)]
  · have early := bounded apart
    have late := bounded' (by rwa [begins.config])
    rw [reports_append, ventures_append, sentBy_append, List.map_append, List.count_append,
      List.length_append, List.length_append]
    omega

/-- Nothing is reported. -/
lemma of_notes (notes : List Note) (config : after.config = before.config)
    (busy : before.Busy who → after.Busy who) (journal : after.journal = notes ++ before.journal)
    (silent : ∀ note ∈ notes, note.report? = none) : before.Accounts who [] after := by
  refine ⟨config, busy, notes, journal, ?_, ?_⟩
  · rw [reports_eq_nil silent]
    exact fun _ => rfl
  · rw [reports_eq_nil silent]
    exact fun _ => Nat.zero_le _

/-- An actor that was not busy begins a pass, if it reports anything, and then it reports three
times at most. -/
lemma of_free {actor : Id} (free : ¬ before.Busy (some actor))
    (config : after.config = before.config)
    (notes : List Note) (journal : after.journal = notes ++ before.journal)
    (paid : before.config.mutationEvent ≠ errorEvent → sentBy (some actor) (reports notes) ≠ [] →
      (sentBy (some actor) (reports notes)).length ≤ 3 ∧ actor ∈ ventures notes) :
    before.Accounts (some actor) [] after := by
  refine ⟨config, fun busy => absurd busy free, notes, journal, fun busy => absurd busy free,
    fun apart => ?_⟩
  by_cases silent : sentBy (some actor) (reports notes) = []
  · rw [silent]
    exact Nat.zero_le _
  · obtain ⟨bound, venture⟩ := paid apart silent
    have counted := List.count_pos_iff.2 (List.mem_map_of_mem (f := some) venture)
    omega

/-- Nothing is noted, and who is busy stays so. -/
lemma of_same (config : after.config = before.config) (running : after.running = before.running)
    (journal : after.journal = before.journal) : before.Accounts who [] after :=
  of_notes [] config (by rw [Busy, Busy, running]; exact id) journal (by simp)

protected lemma refl (world : World) : world.Accounts who [] world := of_same rfl rfl rfl

end Accounts

lemma StoreFrame.busy (storeFrame : before.StoreFrame after) (busy : before.Busy who) :
    after.Busy who := by
  rwa [Busy, storeFrame.running]

lemma write_accounts (world : World) (op : StoreOp) : world.Accounts who [] (world.write op).2 := by
  have storeFrame := world.write_storeFrame op
  rcases world.write_journal op with same | ⟨object, wrote⟩
  · exact .of_notes [] storeFrame.config storeFrame.busy same (by simp)
  · exact .of_notes [_] storeFrame.config storeFrame.busy wrote (by simp [Note.report?])

lemma mark_accounts (world : World) (message : Id) :
    world.Accounts who [] (world.mark message) := by
  have storeFrame := world.mark_storeFrame message
  obtain ⟨notes, journal, marks⟩ := world.mark_journal message
  refine .of_notes notes storeFrame.config storeFrame.busy journal fun note mem => ?_
  rcases marks with rfl | rfl
  · cases mem
  · rw [List.mem_singleton.1 mem]
    rfl

/-- A message that is posted is a report or none. -/
lemma post_accounts (world : World) (target : Id) (message : Message) :
    world.Accounts who (sentBy who (message.reportTo? target).toList)
      (world.post target message).2 := by
  have storeFrame := world.post_storeFrame target message
  obtain ⟨rest, journal, posts⟩ := world.post_journal target message
  have silent : reports rest = [] := reports_eq_nil fun note mem => by
    obtain ⟨id, inbox, rfl⟩ := posts note mem
    rfl
  have told : reports (rest ++ [.sent target message]) = (message.reportTo? target).toList := by
    rw [reports_append, silent, List.append_nil, reports, List.filterMap_cons, Note.report?]
    cases message.reportTo? target <;> rfl
  refine ⟨storeFrame.config, storeFrame.busy, rest ++ [.sent target message], ?_,
    fun _ => by rw [told], fun _ => ?_⟩
  · rw [journal, List.append_assoc]
    rfl
  · rw [told]
    exact Nat.le_add_left _ _

lemma remember_accounts (world : World) (actor : Id) (memory : Memory) :
    world.Accounts who [] (world.remember actor memory) := by
  refine .of_notes [] (updateRunning_config _ _ _) (.of_kept fun other running _ found => ?_)
    (updateRunning_journal _ _ _) (by simp)
  rw [remember, find?_updateRunning, found]
  split
  · exact ⟨_, rfl, rfl⟩
  · exact ⟨_, rfl, rfl⟩

/-- Another actor turns to something else. -/
lemma turnTo_accounts {actor : Id} (other : who ≠ some actor) (world : World)
    (activity : Activity) : world.Accounts who [] (world.turnTo actor activity) := by
  refine .of_notes [] (updateRunning_config _ _ _) (.of_kept fun busy running same found => ?_)
    (updateRunning_journal _ _ _) (by simp)
  have ne : actor ≠ busy := fun eq => other (by rw [same, eq])
  exact ⟨running, by rw [turnTo, find?_updateRunning, if_neg ne, found], rfl⟩

lemma lookNotes_silent (actor inbox : Id) (look : Inbox.Look) :
    ∀ note ∈ lookNotes actor inbox look, note.report? = none := by
  intro note mem
  rcases List.mem_append.1 mem with taken | passed
  · obtain ⟨_, -, rfl⟩ := Option.map_eq_some_iff.1 (Option.mem_toList.1 taken)
    rfl
  · obtain ⟨_, -, rfl⟩ := List.mem_map.1 (List.mem_reverse.1 passed)
    rfl

/-- An actor looks for its next entry. -/
lemma pick_accounts (world : World) (actor : Id) (running : Running) (listed : List Id) :
    world.Accounts who [] (world.pick actor running listed).2 := by
  refine .of_notes _ (by rw [pick_frame]) (.of_kept fun other known _ found => ?_)
    (pick_journal _ _ _ _) (lookNotes_silent _ _ _)
  rw [find?_pick, found]
  split
  · exact ⟨_, rfl, rfl⟩
  · exact ⟨_, rfl, rfl⟩

lemma acceptReply_accounts (world : World) (receiver message : Id) (entry : Entry) :
    world.Accounts who [] (world.acceptReply receiver message entry).2 := by
  rcases acceptReply_cases world receiver message entry with same | ⟨_, _, -, -, -, -, done⟩
  · rw [same]
    exact .refl world
  · rw [done]
    exact .of_notes [_] rfl id rfl (by simp [Note.report?])

/-- Another actor is entered. -/
lemma enlist_accounts {actor : Id} (other : who ≠ some actor) (world : World)
    (config : ActorConfig) (behavior : Behavior) :
    world.Accounts who [] (world.enlist actor config behavior) := by
  refine .of_notes [_] rfl (.of_kept fun busy running same found => ?_) rfl (by simp [Note.report?])
  have ne : actor ≠ busy := fun eq => other (by rw [same, eq])
  exact ⟨running, (Table.find?_insert _ _ _ _).trans ((if_neg ne).trans found), rfl⟩

/-- What commands and tools do reports nothing. -/
lemma accounts_custom : Custom (Accounts who []) (Accounts who []) where
  refl := .refl
  trans first second := first.trans second
  halts first second := first.trans second
  halt := .refl
  write world op := world.write_accounts op
  tools _ _ := .of_same rfl rfl rfl
  ask _ _ _ _ := .of_notes [_] rfl id rfl (by simp [Note.report?])
  aside config _ running journal := .of_same config running journal
  unpump accounts := accounts.trans (.of_same rfl rfl rfl)
  stored config _ running journal := .of_same config running journal
  makeInbox world := by
    have storeFrame := world.makeInbox_storeFrame
    exact .of_notes [_] storeFrame.config storeFrame.busy (congrArg (_ :: ·) (make_journal world _))
      (by simp [Note.report?])
  timeOut world now := by
    refine .of_notes _ rfl id rfl fun note mem => ?_
    obtain ⟨_, -, rfl⟩ := List.mem_map.1 mem
    rfl

end World

/-! ## Passes -/

open World

/-- All that someone reports in a computation is accounted for by the reports that are given, or by
the first of them if it halts. -/
def World.AccountsFor {α : Type} (who : Option Id) (told : List (Id × Message)) (world : World) :
    EStateM.Result Halt World α → Prop :=
  world.Reaches (World.Accounts who told)
    fun before after => ∃ part, part <+: told ∧ before.Accounts who part after

/-- If no report is given, nothing is reported. -/
lemma World.AccountsFor.silent {α : Type} {who : Option Id} {world : World}
    {result : EStateM.Result Halt World α} (accounts : world.AccountsFor who [] result) :
    world.Reaches (World.Accounts who []) (World.Accounts who []) result := by
  cases result with
  | ok value after => exact accounts
  | error halt after =>
    obtain ⟨part, first, accounts⟩ := accounts
    exact List.prefix_nil.1 first ▸ accounts

lemma World.Accounts.followed {α : Type} {who : Option Id} {first last : List (Id × Message)}
    {world middle : World} {result : EStateM.Result Halt World α}
    (begins : world.Accounts who first middle) (ends : middle.AccountsFor who last result) :
    world.AccountsFor who (first ++ last) result := by
  cases result with
  | ok value after => exact begins.trans ends
  | error halt after =>
    obtain ⟨part, early, accounts⟩ := ends
    exact ⟨first ++ part, (List.prefix_append_right_inj first).2 early, begins.trans accounts⟩

/-- What an engine does for passes and tools is accounted for: only a message that is posted may be
a report. -/
structure Engine.Accounts (engine : Engine) (who : Option Id) : Prop where
  /-- Posting a message. -/
  post : ∀ (target : Id) (message : Message) world,
    Run.Keeps (World.Accounts who (sentBy who (message.reportTo? target).toList))
      (World.Accounts who (sentBy who (message.reportTo? target).toList))
      (engine.post target message) world
  /-- Pumping. -/
  pump : ∀ world, Run.Keeps (World.Accounts who []) (World.Accounts who []) engine.pump world

/-- A message is no report by someone. -/
def Message.Silent (who : Option Id) (message : Message) : Prop :=
  message.automatic = true → message.source ≠ who

lemma Message.Silent.sentBy {who : Option Id} {message : Message} (silent : message.Silent who)
    (target : Id) : Troupe.sentBy who (message.reportTo? target).toList = [] := by
  rw [reportTo?]
  split
  · rename_i automatic
    exact List.filter_eq_nil_iff.2 (by simpa using silent automatic)
  · rfl

namespace Engine

variable {α : Type} {engine : Engine} {who : Option Id} {world : World}

lemma Accounts.keeps (accounts : engine.Accounts who) :
    engine.KeepsFor (Message.Silent who) (World.Accounts who []) (World.Accounts who []) where
  post target message world silent := by
    have kept := accounts.post target message world
    rwa [silent.sentBy target] at kept
  pump := accounts.pump
  plain message plain automatic := by
    rw [plain] at automatic
    cases automatic

/-- A pass goes on after a request, and would do so with any answer. -/
lemma accounts_request {β γ : Type} {actor : Id} {first : Run β} {convert : β → γ}
    {pass : Pass α} {next : γ → Pass α} {exchange : γ → Exchange} {told : List (Id × Message)}
    {memory : Memory} (other : γ)
    (begins : Run.Keeps (World.Accounts who told) (World.Accounts who told) first world)
    (reports : ∀ answer, sentBy who (exchange answer).report?.toList = told)
    (rest : ∀ answer (middle : World), ∃ log result last,
      (next answer).Yields memory log result last ∧
      middle.AccountsFor who (sentBy who (Exchange.reports log))
        (engine.runPass actor (next answer) middle))
    (yields : ∀ answer {log result last}, (next answer).Yields memory log result last →
      pass.Yields memory (exchange answer :: log) result last) :
    ∃ log result last, pass.Yields memory log result last ∧
      world.AccountsFor who (sentBy who (Exchange.reports log))
        ((first >>= fun answer => engine.runPass actor (next (convert answer))) world) := by
  cases ran : first world with
  | ok answer middle =>
    obtain ⟨log, result, last, bySteps, goesOn⟩ := rest (convert answer) middle
    refine ⟨_, result, last, yields _ bySteps, ?_⟩
    rw [Exchange.reports_cons, sentBy_append, reports, Run.bind_of_ok ran]
    exact (begins.ok ran).followed goesOn
  | error halt middle =>
    obtain ⟨log, result, last, bySteps, -⟩ := rest other middle
    refine ⟨_, result, last, yields _ bySteps, ?_⟩
    rw [Exchange.reports_cons, sentBy_append, reports, Run.bind_of_error ran]
    exact ⟨told, List.prefix_append _ _, begins.error ran⟩

/-- In a pass, what it reports itself is all that is to be accounted for. -/
theorem runPass_accounts (accounts : engine.Accounts who) (actor : Id) (pass : Pass α)
    (memory : Memory) (world : World) :
    ∃ log result last, pass.Yields memory log result last ∧
      world.AccountsFor who (sentBy who (Exchange.reports log))
        (engine.runPass actor pass world) := by
  have frame : Frame (World.Accounts who []) (World.Accounts who []) := accounts_custom.toFrame
  have keeps := accounts.keeps
  induction pass generalizing memory world with
  | done result => exact ⟨[], result, memory, .done _ _, World.Accounts.refl world⟩
  | read id next ih =>
    obtain ⟨log, result, last, yields, goesOn⟩ := ih (world.store.read id) memory world
    exact ⟨_, result, last, .read _ yields, goesOn⟩
  | interfaceOf target next ih =>
    obtain ⟨log, result, last, yields, goesOn⟩ := ih (world.interfaceOf target) memory world
    exact ⟨_, result, last, .interfaceOf _ yields, goesOn⟩
  | execute op next ih =>
    exact accounts_request (.ok .null) (Run.Keeps.modifyGet (frame.write world op)) (fun _ => rfl)
      (fun answer => ih answer memory) fun answer {_ _ _} => .execute answer
  | callTool name view payload next ih =>
    exact accounts_request (.ok .null) (callTool_keeps frame keeps name view payload world)
      (fun _ => rfl) (fun answer => ih answer memory) fun answer {_ _ _} => .callTool answer
  | deliver target message next ih =>
    exact accounts_request (.ok target) (accounts.post target message world) (fun _ => rfl)
      (fun answer => ih answer memory) fun answer {_ _ _} => .deliver answer
  | registerAsk asker target event next ih =>
    exact accounts_request target (Run.Keeps.modifyGet (frame.ask world asker target event))
      (fun _ => rfl) (fun answer => ih answer memory) fun answer {_ _ _} => .registerAsk answer
  | invoke target payload next ih =>
    exact accounts_request (.ok .null) (invoke_keeps frame keeps target payload world)
      (fun _ => rfl) (fun answer => ih answer memory) fun answer {_ _ _} => .invoke answer
  | remember remembered next ih =>
    obtain ⟨log, result, last, yields, goesOn⟩ := ih remembered (world.remember actor remembered)
    exact ⟨log, result, last, .remember yields,
      (world.remember_accounts actor remembered).followed goesOn⟩

end Engine

end Troupe
