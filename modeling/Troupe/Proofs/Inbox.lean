import Troupe.Inbox
import Troupe.Proofs.Store.Writes

/-!
# Posting and looking

A post makes a message and pushes its identifier to an inbox, so it is two writes or, when the
push is refused, one.  A look at an inbox passes over the entries that cannot be read or have
been handled, one after the other, and stops behind the first one that is to be handled.

## Main results

* `Inbox.append_cases`, `Inbox.post_callsListeners`: what a post writes;
* `Inbox.look_spec`: what a look finds;
* `Inbox.validate_valid`: what is known of an entry that is valid.
-/

namespace Troupe

/-! ## Posting -/

namespace Inbox

open Store

variable {store after : Store} {inbox target id : Id} {message : Message}

/-- The store after the message of a post has been made. -/
def withMessage (store : Store) (target : Id) (message : Message) : Store :=
  (store.create (Entry.pending target message).toJson none).2

lemma write_withMessage (store : Store) (target : Id) (message : Message) :
    store.Write store.supply.next (withMessage store target message) :=
  write_create _ rfl

/-- A message is appended to an inbox in two writes: the message is made, then its identifier
is pushed.  When the push is refused, the message stays. -/
lemma append_cases (store : Store) (inbox target : Id) (message : Message) :
    (∃ answer after, (withMessage store target message).push inbox entriesField
        (.id store.supply.next) = .ok (answer, after) ∧
      append store inbox target message = (.ok store.supply.next, after)) ∨
    ∃ error, append store inbox target message = (.error error, withMessage store target message) := by
  cases pushed : (withMessage store target message).push inbox entriesField
      (.id store.supply.next) with
  | ok done =>
    refine .inl ⟨done.1, done.2, rfl, ?_⟩
    unfold withMessage at pushed
    simp only [append, pushed]
  | error cause =>
    unfold withMessage at pushed
    cases cause <;> exact .inr ⟨_, by simp only [append, pushed]; rfl⟩

lemma append_callsListeners (store : Store) (inbox target : Id) (message : Message) :
    store.CallsListeners (append store inbox target message).2 := by
  have made := (write_withMessage store target message).callsListeners
  rcases append_cases store inbox target message with ⟨answer, after, pushed, done⟩ | ⟨error, done⟩
  · rw [done]
    obtain ⟨current, items, found, -, rfl⟩ := push_ok pushed
    exact made.trans (write_put _ (.inl ⟨rfl, by simp [found]⟩) rfl).callsListeners
  · rw [done]
    exact made

lemma post_callsListeners (store : Store) (live : Option Id) (target : Id) (message : Message) :
    store.CallsListeners (post store live target message).2 := by
  unfold post
  split
  · exact .refl store
  · exact append_callsListeners store _ target message

/-! ## Looking -/

/-- A message that is no longer to be handled: it cannot be read, or it has been handled. -/
def Passable (found : Option Entry) : Prop := ∀ entry, found = some entry → entry.processed

/-- What a look finds: the entries that are passed over are the first ones, in order, each for
a reason; the next one is to be handled; without a next one all are passed over. -/
structure LookSpec (store : Store) (position : Nat) (ids : List Id) (look : Look) : Prop where
  /-- The places passed over are consecutive, -/
  positions : look.passed.map Skip.position = List.range' position look.passed.length
  /-- they hold the first messages of the list, -/
  messages : look.passed.map Skip.message = ids.take look.passed.length
  /-- and none of these is to be handled. -/
  reasons : ∀ skip ∈ look.passed,
    skip.found = (store.read skip.message).bind Entry.ofJson? ∧ Passable skip.found
  /-- The next entry follows them and is to be handled. -/
  next : ∀ place message entry, look.next = some (place, message, entry) →
    place = position + look.passed.length ∧ ids[look.passed.length]? = some message ∧
      (store.read message).bind Entry.ofJson? = some entry ∧ entry.processed = false ∧
      look.cursor = place + 1
  /-- Without a next entry, all have been passed over. -/
  none : look.next = none → look.passed.length = ids.length ∧ look.cursor = position + ids.length

/-- What an inbox lists that can be read. -/
lemma listed_of_read {value : Json} (read : store.read inbox = some value) :
    listed store inbox = entries value := by
  rw [listed, read, Option.map_some, Option.getD_some]

lemma look_spec (store : Store) (position : Nat) (ids : List Id) :
    LookSpec store position ids (look store position ids) := by
  induction ids generalizing position with
  | nil => exact ⟨rfl, rfl, by simp [look], by simp [look], fun _ => ⟨rfl, rfl⟩⟩
  | cons id rest ih =>
    unfold look
    dsimp only
    split
    · rename_i entry found
      obtain ⟨found, open_⟩ := Option.filter_eq_some_iff.1 found
      refine ⟨rfl, rfl, by simp, ?_, by simp⟩
      rintro place message entry' ⟨⟩
      exact ⟨rfl, rfl, found, by simpa using open_, rfl⟩
    · rename_i none
      obtain ⟨positions, messages, reasons, next, all⟩ := ih (position + 1)
      refine ⟨?_, ?_, ?_, ?_, ?_⟩
      · simp only [List.map_cons, positions, List.length_cons, List.range'_succ]
      · simp only [List.map_cons, messages, List.length_cons, List.take_succ_cons]
      · intro skip mem
        rcases List.mem_cons.1 mem with rfl | mem
        · refine ⟨rfl, fun entry found => ?_⟩
          have := Option.filter_eq_none_iff.1 none entry found
          simpa using this
        · exact reasons skip mem
      · intro place message entry found
        obtain ⟨place_eq, message_eq, rest⟩ := next place message entry found
        refine ⟨?_, by simpa using message_eq, rest⟩
        rw [place_eq, List.length_cons]
        omega
      · intro found
        obtain ⟨length, cursor⟩ := all found
        refine ⟨by simp [length], ?_⟩
        rw [cursor, List.length_cons]
        omega

/-! ## Validating -/

section Validate

variable {schemas : Schema.Registry} {mutationEvent event : String} {actor : Actor} {message : Id}
variable {payload handed : Json}

/-- A valid entry is in the interface of its receiver, it conforms to a schema, and what is handed
on is its payload with the key of its message. -/
lemma validate_valid
    (valid : validate schemas mutationEvent actor message event payload = .valid handed) :
    actor.config.accepts event = true ∧
      (∃ schema, schemaFor? schemas actor event = some schema ∧
        Schema.validate schema payload = []) ∧
      handed = keyed message payload := by
  unfold validate at valid
  split at valid
  · cases valid
  · rename_i accepted
    split at valid
    · cases valid
    · rename_i schema known
      split at valid
      · rename_i conforms
        split at valid
        · cases valid
        · exact ⟨by simpa using accepted, ⟨schema, known, conforms⟩, (Verdict.valid.inj valid).symm⟩
      · cases valid

lemma field?_keyed (message : Id) (payload : Json) :
    (keyed message payload).field? keyField = some (.str (messageKey message)) := by
  unfold keyed
  rw [Json.field?_obj, Assoc.find?_insert, if_pos rfl]

/-- An event that an actor is handed has the key of its message. -/
lemma key?_keyed (message : Id) (payload : Json) (name : String) (source correlation : Option Id) :
    Event.key? ⟨name, keyed message payload, source, correlation⟩ = some (messageKey message) := by
  rw [Event.key?, field?_keyed]
  rfl

end Validate

end Inbox

end Troupe
