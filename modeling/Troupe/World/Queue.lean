import Troupe.Id

/-!
# The queue of actors that have something to do

Actors wait in line, first come first.  Who is in line is kept in a set as well, so that nobody is
put there twice; a `ReadyQueue` is a line whose set tells the truth.
-/

namespace Troupe

/-- Actors in line, with the set of those who are in it. -/
structure Line where
  /-- The actors, the next one first. -/
  order : List Id := []
  /-- Who is in line. -/
  queued : Table Id Unit := ∅

namespace Line

/-- Put an actor at the end, unless it is in line. -/
def push (line : Line) (actor : Id) : Line :=
  if line.queued.contains actor then line
  else { order := line.order ++ [actor], queued := line.queued.insert actor () }

/-- Take the next actor. -/
def pop? (line : Line) : Option (Id × Line) :=
  match line.order with
  | [] => none
  | actor :: rest => some (actor, { order := rest, queued := line.queued.erase actor })

variable {line rest : Line} {actor other : Id}

theorem pop?_eq_none : line.pop? = none ↔ line.order = [] := by
  obtain ⟨order, queued⟩ := line
  cases order <;> simp [pop?]

theorem order_of_pop (popped : line.pop? = some (actor, rest)) :
    line.order = actor :: rest.order := by
  obtain ⟨order, queued⟩ := line
  cases order with
  | nil => cases popped
  | cons head tail =>
    cases popped
    rfl

/-- Nobody is in line twice, and the set holds exactly those who are in line. -/
structure Sound (line : Line) : Prop where
  /-- Nobody is in line twice. -/
  nodup : line.order.Nodup
  /-- The set holds who is in line. -/
  queued : ∀ actor, line.queued.contains actor = true ↔ actor ∈ line.order

theorem sound_empty : Sound {} := ⟨List.nodup_nil, fun _ => ⟨nofun, nofun⟩⟩

namespace Sound

variable (sound : line.Sound)

include sound

/-- Who is in line once an actor has been pushed. -/
theorem order_push (actor : Id) : (line.push actor).order =
    if actor ∈ line.order then line.order else line.order ++ [actor] := by
  unfold Line.push
  simp only [sound.queued]
  split <;> rfl

theorem mem_push : other ∈ (line.push actor).order ↔ other ∈ line.order ∨ other = actor := by
  rw [sound.order_push]
  split
  · rename_i mem
    exact ⟨.inl, Or.rec id (· ▸ mem)⟩
  · rw [List.mem_append, List.mem_singleton]

theorem push (actor : Id) : (line.push actor).Sound := by
  refine ⟨?_, fun other => ?_⟩
  · rw [sound.order_push]
    split
    · exact sound.nodup
    · rename_i absent
      refine List.nodup_append.2 ⟨sound.nodup, by simp, ?_⟩
      rintro early mem _ last rfl
      exact absent (List.mem_singleton.1 last ▸ mem)
  · rw [sound.mem_push, ← sound.queued]
    unfold Line.push
    split
    · rename_i queued
      exact ⟨.inl, Or.rec id (· ▸ queued)⟩
    · rw [Table.contains, Table.find?_insert]
      split
      · rename_i same
        exact ⟨fun _ => .inr same.symm, fun _ => rfl⟩
      · rename_i ne
        exact ⟨.inl, fun mem => mem.resolve_right (Ne.symm ne)⟩

theorem pop (popped : line.pop? = some (actor, rest)) : rest.Sound := by
  have nodup := sound.nodup
  rw [order_of_pop popped, List.nodup_cons] at nodup
  refine ⟨nodup.2, fun other => ?_⟩
  have queued := sound.queued other
  rw [order_of_pop popped, List.mem_cons, Table.contains] at queued
  have erased : rest.queued = line.queued.erase actor := by
    unfold pop? at popped
    split at popped <;> cases popped
    rfl
  rw [erased, Table.contains, Table.find?_erase]
  split
  · rename_i same
    exact ⟨nofun, fun mem => absurd (same ▸ mem) nodup.1⟩
  · rename_i ne
    exact queued.trans ⟨fun mem => mem.resolve_left (Ne.symm ne), .inr⟩

end Sound

end Line

/-- Actors that have something to do, first come first; each is queued at most once. -/
structure ReadyQueue extends Line where
  /-- The set of those who are in line is that of those who are queued. -/
  sound : toLine.Sound := by exact Line.sound_empty

namespace ReadyQueue

/-- Queue an actor, unless it is queued. -/
def push (queue : ReadyQueue) (actor : Id) : ReadyQueue :=
  ⟨queue.toLine.push actor, queue.sound.push actor⟩

/-- Take the next actor. -/
def pop? (queue : ReadyQueue) : Option (Id × ReadyQueue) :=
  queue.toLine.pop?.pmap (fun next sound => (next.1, ⟨next.2, sound⟩))
    fun _ popped => queue.sound.pop popped

end ReadyQueue

end Troupe
