import Mathlib.Tactic.SplitIfs
import Troupe.Proofs.Inbox
import Troupe.World.Basic

/-!
# What a journal tells

A journal holds what has happened, latest first.  It tells which messages were posted to an
inbox (`Journal.posts`) and where an actor is in its inbox (`Journal.place?`).  In a journal
that is `Journal.Rightly` kept, every entry that an actor passes over or takes is the one that
comes next in its inbox, and none is taken that was marked before.

## Main results

* `Journal.increasing`: from its start on an actor takes entries in their order;
* `Journal.covered`: it leaves none out.
-/

namespace Troupe

namespace Note

/-- The message of a note that one was posted to an inbox. -/
def postedIn? (inbox : Id) : Note → Option Id
  | .posted message other => if other = inbox then some message else none
  | _ => none

/-- The inbox of a note that one was made. -/
def made? : Note → Option Id
  | .made inbox => some inbox
  | _ => none

/-- The message of a note that one was posted. -/
def posted? : Note → Option Id
  | .posted message _ => some message
  | _ => none

/-- Whether a note is of inboxes that are made and of messages that are posted or marked. -/
def isMail : Note → Bool
  | .made _ | .posted .. | .marked _ => true
  | _ => false

/-- Whether a note is of an actor that begins to run or comes to an entry of its inbox. -/
def isTurn : Note → Bool
  | .spawned .. | .passed .. | .taken .. => true
  | _ => false

/-- A note that an actor looked at an entry of an inbox, with the entry that it found. -/
inductive Looks (actor inbox : Id) (position : Nat) (message : Id) : Option Entry → Note → Prop
  /-- The entry was passed over. -/
  | passed (found : Option Entry) :
    Looks actor inbox position message found (.passed actor inbox position message found)
  /-- The entry was taken. -/
  | taken (entry : Entry) :
    Looks actor inbox position message (some entry) (.taken actor inbox position message entry)

lemma Looks.not_mail {actor inbox message : Id} {position : Nat} {found : Option Entry}
    {note : Note} (looks : note.Looks actor inbox position message found) :
    note.isMail = false := by
  cases looks <;> rfl

end Note

namespace Journal

variable {journal notes later middle earlier : List Note} {note : Note}
variable {actor inbox other message : Id} {position : Nat}

/-! ## Notes and those before them -/

/-- Something holds of every note and the notes before it. -/
def Along (lawful : List Note → Note → Prop) : List Note → Prop
  | [] => True
  | note :: earlier => lawful earlier note ∧ Along lawful earlier

namespace Along

variable {lawful : List Note → Note → Prop}

lemma of_append (along : Along lawful (later ++ earlier)) : Along lawful earlier := by
  induction later with
  | nil => exact along
  | cons note later ih => exact ih along.2

lemma of_suffix (along : Along lawful journal) (suffix : earlier <:+ journal) :
    Along lawful earlier := by
  obtain ⟨later, rfl⟩ := suffix
  exact along.of_append

lemma at_note (along : Along lawful (later ++ note :: earlier)) : lawful earlier note :=
  along.of_append.1

end Along

instance decidableAlong {lawful : List Note → Note → Prop}
    [∀ earlier, DecidablePred (lawful earlier)] : DecidablePred (Along lawful)
  | [] => isTrue trivial
  | note :: earlier =>
    haveI : Decidable (Along lawful earlier) := decidableAlong earlier
    inferInstanceAs (Decidable (lawful earlier note ∧ Along lawful earlier))

/-! ## Posts -/

/-- The messages that were posted to an inbox, oldest first. -/
def posts (inbox : Id) (journal : List Note) : List Id :=
  (journal.filterMap (Note.postedIn? inbox)).reverse

lemma posts_append (inbox : Id) (later earlier : List Note) :
    posts inbox (later ++ earlier) = posts inbox earlier ++ posts inbox later := by
  rw [posts, List.filterMap_append, List.reverse_append]
  rfl

lemma posts_posted (message inbox other : Id) (earlier : List Note) :
    posts other (.posted message inbox :: earlier) =
      posts other earlier ++ if inbox = other then [message] else [] := by
  rw [posts, List.filterMap_cons, Note.postedIn?]
  by_cases same : inbox = other
  · rw [if_pos same, if_pos same, List.reverse_cons]
    rfl
  · rw [if_neg same, if_neg same, List.append_nil]
    rfl

lemma mem_posts : message ∈ posts inbox journal ↔ .posted message inbox ∈ journal := by
  rw [posts, List.mem_reverse, List.mem_filterMap]
  constructor
  · rintro ⟨note, mem, posted⟩
    cases note with
    | posted message' inbox' =>
      rw [Note.postedIn?] at posted
      split_ifs at posted with same
      cases same
      cases posted
      exact mem
    | _ => cases posted
  · intro mem
    exact ⟨_, mem, if_pos rfl⟩

/-- What stood at a place still does. -/
lemma posts_getElem? (posted : (posts inbox earlier)[position]? = some message)
    (suffix : earlier <:+ journal) : (posts inbox journal)[position]? = some message := by
  obtain ⟨later, rfl⟩ := suffix
  have there := (List.getElem?_eq_some_iff.1 posted).1
  rw [posts_append, List.getElem?_append_left there, posted]

/-- An object that nobody but the runtime writes: an inbox that it made, or a message that it
posted. -/
def Reserved (journal : List Note) (object : Id) : Prop :=
  .made object ∈ journal ∨ ∃ inbox, .posted object inbox ∈ journal

lemma reserved_made : Reserved (.made inbox :: earlier) other ↔
    other = inbox ∨ Reserved earlier other := by
  simp [Reserved, or_assoc]

lemma reserved_posted : Reserved (.posted message inbox :: earlier) other ↔
    other = message ∨ Reserved earlier other := by
  have any : (∃ target, Note.posted other target ∈ .posted message inbox :: earlier) ↔
      other = message ∨ ∃ target, .posted other target ∈ earlier := by
    simp [exists_or]
  rw [Reserved, any, Reserved]
  simp [or_left_comm]

lemma reserved_marked : Reserved (.marked message :: earlier) other ↔ Reserved earlier other := by
  simp [Reserved]

/-- What others may do: start actors whose inboxes the runtime made, and write objects that it
does not keep to itself. -/
def Permitted (earlier : List Note) : Note → Prop
  | .spawned _ inbox => .made inbox ∈ earlier
  | .wrote object _ => ¬ Reserved earlier object
  | _ => True

/-- Every actor began with an inbox that the runtime had made, and nobody but the runtime has
written inboxes and messages. -/
def Orderly (journal : List Note) : Prop := Along Permitted journal

instance (inbox : Id) (journal : List Note) : Decidable (.made inbox ∈ journal) :=
  decidable_of_iff (journal.any fun note => note.made? == some inbox) <| by
    simp only [List.any_eq_true, beq_iff_eq]
    constructor
    · rintro ⟨note, mem, made⟩
      cases note with
      | made other =>
        cases made
        exact mem
      | _ => cases made
    · exact fun mem => ⟨_, mem, rfl⟩

instance (journal : List Note) (object : Id) : Decidable (Reserved journal object) :=
  haveI : Decidable (∃ inbox, .posted object inbox ∈ journal) :=
    decidable_of_iff (journal.any fun note => note.posted? == some object) <| by
      simp only [List.any_eq_true, beq_iff_eq]
      constructor
      · rintro ⟨note, mem, posted⟩
        cases note with
        | posted other inbox =>
          cases posted
          exact ⟨inbox, mem⟩
        | _ => cases posted
      · exact fun ⟨_, mem⟩ => ⟨_, mem, rfl⟩
  inferInstanceAs (Decidable (_ ∨ _))

instance (earlier : List Note) : DecidablePred (Permitted earlier)
  | .spawned _ inbox => inferInstanceAs (Decidable (.made inbox ∈ earlier))
  | .wrote object _ => inferInstanceAs (Decidable (¬ Reserved earlier object))
  | .made _ | .stopped _ | .restored | .sent .. | .posted .. | .passed .. | .taken .. | .marked _
  | .asked .. | .answered .. | .timedOut .. | .abandoned .. => isTrue trivial

instance : DecidablePred Orderly := fun journal => inferInstanceAs (Decidable (Along _ journal))

/-- Notes that are not of mail add nothing to what is known of it. -/
lemma mem_append_of_not_mail (silent : ∀ note ∈ notes, note.isMail = false)
    (mail : note.isMail = true) : note ∈ notes ++ earlier ↔ note ∈ earlier := by
  refine ⟨fun mem => ?_, List.mem_append_right _⟩
  rcases List.mem_append.1 mem with new | old
  · rw [silent note new] at mail
    cases mail
  · exact old

lemma posts_append_of_not_mail (inbox : Id) (silent : ∀ note ∈ notes, note.isMail = false) :
    posts inbox (notes ++ earlier) = posts inbox earlier := by
  have none : posts inbox notes = [] := by
    rw [List.eq_nil_iff_forall_not_mem]
    intro message mem
    have mail := silent _ (mem_posts.1 mem)
    cases mail
  rw [posts_append, none, List.append_nil]

lemma reserved_append_of_not_mail (silent : ∀ note ∈ notes, note.isMail = false) (object : Id) :
    Reserved (notes ++ earlier) object ↔ Reserved earlier object :=
  or_congr (mem_append_of_not_mail silent rfl)
    (exists_congr fun _ => mem_append_of_not_mail silent rfl)

/-! ## Places -/

/-- Where an actor is: in its inbox at the start when it begins to run, and one further with
each entry that it has passed over or taken. -/
def place? (actor : Id) : List Note → Option (Id × Nat)
  | [] => none
  | .spawned other inbox :: earlier =>
    if other = actor then some (inbox, 0) else place? actor earlier
  | .passed other _ _ _ _ :: earlier | .taken other _ _ _ _ :: earlier =>
    if other = actor then (place? actor earlier).map fun place => (place.1, place.2 + 1)
    else place? actor earlier
  | _ :: earlier => place? actor earlier

lemma place?_spawned (other inbox actor : Id) (earlier : List Note) :
    place? actor (.spawned other inbox :: earlier) =
      if other = actor then some (inbox, 0) else place? actor earlier := rfl

/-- Behind an entry that an actor has looked at. -/
lemma place?_looks {found : Option Entry} (looks : note.Looks other inbox position message found)
    (actor : Id) (earlier : List Note) : place? actor (note :: earlier) =
      if other = actor then (place? actor earlier).map fun place => (place.1, place.2 + 1)
      else place? actor earlier := by
  cases looks <;> rfl

lemma place?_cons_of_not_turn (still : note.isTurn = false) (actor : Id) (earlier : List Note) :
    place? actor (note :: earlier) = place? actor earlier := by
  cases note <;> first | rfl | cases still

lemma place?_append_of_not_turn (still : ∀ note ∈ notes, note.isTurn = false) (actor : Id)
    (earlier : List Note) : place? actor (notes ++ earlier) = place? actor earlier := by
  induction notes with
  | nil => rfl
  | cons note notes ih =>
    rw [List.cons_append, place?_cons_of_not_turn (still note List.mem_cons_self),
      ih fun other mem => still other (List.mem_cons_of_mem _ mem)]

/-- A turn is the start of an actor or a look at an entry. -/
lemma turn_cases (turn : note.isTurn = true) : (∃ actor inbox, note = .spawned actor inbox) ∨
    ∃ actor inbox position message found, note.Looks actor inbox position message found := by
  cases note with
  | spawned actor inbox => exact .inl ⟨actor, inbox, rfl⟩
  | passed actor inbox position message found =>
    exact .inr ⟨actor, inbox, position, message, found, .passed found⟩
  | taken actor inbox position message entry =>
    exact .inr ⟨actor, inbox, position, message, some entry, .taken entry⟩
  | _ => cases turn

/-- As long as it does not start anew an actor stays in its inbox and does not go back. -/
lemma place?_append (none : ∀ other, .spawned actor other ∉ middle)
    (place : place? actor earlier = some (inbox, position)) :
    ∃ further, position ≤ further ∧ place? actor (middle ++ earlier) = some (inbox, further) := by
  induction middle with
  | nil => exact ⟨position, Nat.le_refl _, place⟩
  | cons note middle ih =>
    obtain ⟨further, le, now⟩ := ih fun other mem => none other (List.mem_cons_of_mem _ mem)
    cases turn : note.isTurn with
    | false => exact ⟨further, le, (place?_cons_of_not_turn turn _ _).trans now⟩
    | true =>
      rcases turn_cases turn with ⟨starter, home, rfl⟩ | ⟨looker, _, _, _, _, looks⟩
      · have ne : starter ≠ actor := by
          rintro rfl
          exact none home List.mem_cons_self
        exact ⟨further, le, by rw [List.cons_append, place?_spawned, if_neg ne, now]⟩
      · rw [List.cons_append, place?_looks looks, now]
        split_ifs
        · exact ⟨further + 1, Nat.le_succ_of_le le, rfl⟩
        · exact ⟨further, le, rfl⟩

/-! ## Journals that are kept rightly -/

/-- What holds of an entry that an actor looks at: it is the one that comes next in the inbox
in which the actor began, and it is passed over or taken for a reason. -/
def Rightly (earlier : List Note) : Note → Prop
  | .passed actor inbox position message found =>
    place? actor earlier = some (inbox, position) ∧
      (posts inbox earlier)[position]? = some message ∧ Inbox.Passable found
  | .taken actor inbox position message entry =>
    place? actor earlier = some (inbox, position) ∧
      (posts inbox earlier)[position]? = some message ∧ entry.processed = false ∧
      .marked message ∉ earlier
  | _ => True

lemma rightly_of_not_turn (still : note.isTurn = false) (earlier : List Note) :
    Rightly earlier note := by
  cases note <;> trivial

lemma Rightly.looks {found : Option Entry} (rightly : Rightly earlier note)
    (looks : note.Looks actor inbox position message found) :
    place? actor earlier = some (inbox, position) ∧
      (posts inbox earlier)[position]? = some message := by
  cases looks with
  | passed => exact ⟨rightly.1, rightly.2.1⟩
  | taken => exact ⟨rightly.1, rightly.2.1⟩

lemma along_rightly_append (still : ∀ note ∈ notes, note.isTurn = false)
    (along : Along Rightly earlier) : Along Rightly (notes ++ earlier) := by
  induction notes with
  | nil => exact along
  | cons note notes ih =>
    exact ⟨rightly_of_not_turn (still note List.mem_cons_self) _,
      ih fun other mem => still other (List.mem_cons_of_mem _ mem)⟩

/-- What an actor looked at was posted. -/
lemma posted_of_looks {found : Option Entry} (along : Along Rightly journal)
    (mem : note ∈ journal) (looks : note.Looks actor inbox position message found) :
    (posts inbox journal)[position]? = some message := by
  obtain ⟨later, earlier, rfl⟩ := List.append_of_mem mem
  have suffix : earlier <:+ later ++ note :: earlier :=
    (List.suffix_cons _ _).trans (List.suffix_append _ _)
  exact posts_getElem? (along.at_note.looks looks).2 suffix

/-- As long as an actor does not start anew, the entries that it looks at stand one behind the
other in one inbox. -/
theorem increasing {next : Note} {inbox' message' : Id} {position' : Nat}
    {found found' : Option Entry}
    (along : Along Rightly (later ++ next :: (middle ++ note :: earlier)))
    (none : ∀ other, .spawned actor other ∉ middle)
    (looks : note.Looks actor inbox position message found)
    (looks' : next.Looks actor inbox' position' message' found') :
    inbox' = inbox ∧ position < position' := by
  have there := along.at_note.looks looks'
  have here := (along.of_append.2.at_note).looks looks
  -- behind the first of the two the actor was one further
  have behind : place? actor (note :: earlier) = some (inbox, position + 1) := by
    rw [place?_looks looks, if_pos rfl, here.1]
    rfl
  obtain ⟨further, le, now⟩ := place?_append none behind
  rw [now] at there
  obtain ⟨rfl, rfl⟩ := Prod.mk.inj (Option.some.inj there.1)
  exact ⟨rfl, le⟩

/-- An actor has looked at every entry before the place where it is. -/
theorem covered (along : Along Rightly journal)
    (place : place? actor journal = some (inbox, position)) {before : Nat}
    (lt : before < position) :
    ∃ middle note earlier message found, journal = middle ++ note :: earlier ∧
      (∀ other, .spawned actor other ∉ middle) ∧
      note.Looks actor inbox before message found := by
  induction journal generalizing position with
  | nil => cases place
  | cons note journal ih =>
    -- an entry that was looked at before this note, in the same run of the actor
    have older : ∀ {position}, place? actor journal = some (inbox, position) →
        before < position → (∀ other, note ≠ .spawned actor other) →
        ∃ middle note' earlier message found, note :: journal = middle ++ note' :: earlier ∧
          (∀ other, .spawned actor other ∉ middle) ∧
          note'.Looks actor inbox before message found := by
      intro position place lt ne
      obtain ⟨middle, note', earlier, message, found, eq, none, looks⟩ := ih along.2 place lt
      refine ⟨note :: middle, note', earlier, message, found, by rw [eq]; rfl, ?_, looks⟩
      intro other mem
      rcases List.mem_cons.1 mem with same | mem
      · exact ne other same.symm
      · exact none other mem
    cases turn : note.isTurn with
    | false =>
      rw [place?_cons_of_not_turn turn] at place
      refine older place lt fun other same => ?_
      rw [same] at turn
      cases turn
    | true =>
      rcases turn_cases turn with ⟨starter, home, rfl⟩ | ⟨looker, home, at_, _, _, looks⟩
      · rw [place?_spawned] at place
        split_ifs at place with same
        · cases place
          cases lt
        · refine older place lt fun other eq => same ?_
          cases eq
          rfl
      · have other : ∀ other, note ≠ .spawned actor other := by
          rintro other rfl
          cases looks
        rw [place?_looks looks] at place
        split_ifs at place with same
        · -- the actor has looked at this entry itself, or at an earlier one
          subst same
          have here := (along.1.looks looks).1
          rw [here] at place
          cases place
          rcases Nat.lt_succ_iff_lt_or_eq.1 lt with lt | rfl
          · exact older here lt other
          · exact ⟨[], note, journal, _, _, rfl, by simp, looks⟩
        · exact older place lt other

end Journal

end Troupe
