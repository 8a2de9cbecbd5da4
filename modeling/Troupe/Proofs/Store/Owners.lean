import Troupe.Proofs.Store.Keys
import Troupe.Proofs.Store.Saved

/-!
# Objects that belong to keys

The object of a key is the one that the last create with the key has made.  Keys are never
forgotten: one goes on leading to its object when that is deleted, and only then does a create with
the key make another one.  What has happened to a store since it was empty is told by its past, and
the past tells for every key which of the objects that were made for it can still be there.

A store may be saved and loaded at any point.  The past of a loaded store is that of the store that
was saved, and other identifiers may have been handed out before it is loaded.

## Main results

* `Store.Happens.cases`: what happens makes one object, or none and changes no key;
* `Store.Runs.chronicles`: what keys and objects have to do with the past;
* `Store.Runs.owned`: a key belongs to one object at a time.
-/

namespace Troupe.Store

variable {first before after store last : Store} {key name : String} {id other : Id} {value : Json}

/-! ## The past of a store -/

/-- What is told of something that has happened to a store. -/
inductive Tale where
  /-- An operation was carried out and answered. -/
  | executed (op : StoreOp) (answer : Except StoreError Json)
  /-- What is protected has changed, or who listens. -/
  | arranged
  /-- The store was saved and loaded. -/
  | loaded

/-- What is told of a deed. -/
def Deed.tale (store : Store) : Deed → Tale
  | .execute op => .executed op (store.execute op).1
  | _ => .arranged

/-- The answer to a delete that has found its object. -/
def dropped (id : Id) : Json := .record [("id", .id id), ("deleted", .bool true)]

/-- An object was deleted. -/
def Tale.Drops (tale : Tale) (id : Id) : Prop := tale = .executed (.delete id) (.ok (dropped id))

/-- One thing that happens to a store. -/
inductive Happens : (before : Store) → Tale → (after : Store) → Prop
  /-- Something is done with it. -/
  | deed (store : Store) (deed : Deed) : Happens store (deed.tale store) (deed.run store)
  /-- It is saved and then loaded, at once or later. -/
  | load {store loaded : Store} {supply : Supply} (reloaded : store.reload? = some loaded)
    (later : loaded.supply.Leads supply) : Happens store .loaded { loaded with supply }

/-- What happens to a store, one after the other; the latest is told first. -/
inductive Runs (first : Store) : (past : List Tale) → Store → Prop
  /-- Nothing happens. -/
  | nil : Runs first [] first
  /-- One more thing happens. -/
  | cons {past : List Tale} {store after : Store} {tale : Tale} :
    Runs first past store → Happens store tale after → Runs first (tale :: past) after

variable {past between later : List Tale} {tale : Tale}

lemma Runs.append (runs : Runs first past store) (more : Runs store later after) :
    Runs first (later ++ past) after := by
  induction more with
  | nil => exact runs
  | cons _ happens ih => exact .cons ih happens

/-- What is done with a store happens to it. -/
lemma Runs.execute (runs : Runs first past store) (op : StoreOp) :
    Runs first (.executed op (store.execute op).1 :: past) (store.execute op).2 :=
  .cons runs (.deed store (.execute op))

/-! ## One thing -/

/-- No object is made, and no key leads elsewhere. -/
structure MakesNone (before after : Store) : Prop where
  /-- Keys lead where they led, -/
  keys : ∀ key, after.keys.find? key = before.keys.find? key
  /-- the supply is the same or later, -/
  supply : before.supply.Leads after.supply
  /-- and what is there was there. -/
  there : ∀ id, (after.read id).isSome → (before.read id).isSome

protected lemma MakesNone.refl (store : Store) : store.MakesNone store :=
  ⟨fun _ => rfl, .refl _, fun _ => id⟩

/-- A write to an object that is there. -/
lemma makesNone_put {current : Json} (found : store.read id = some current) (value : Json) :
    store.MakesNone (store.put id value) where
  keys _ := rfl
  supply := .refl _
  there other there := by
    rw [read_put] at there
    split at there
    · rename_i same
      exact same ▸ found ▸ rfl
    · exact there

/-- No operation but a create makes an object. -/
lemma makesNone_execute (store : Store) {op : StoreOp}
    (other : ∀ value key, op ≠ .create value key) : store.MakesNone (store.execute op).2 := by
  cases done : store.apply op with
  | error cause => rw [execute_of_apply_error done]; exact .refl store
  | ok result =>
    obtain ⟨answer, after⟩ := result
    have ran : (store.execute op).2 = after := by rw [Store.execute, done]
    rw [ran]
    cases op with
    | create value key => exact absurd rfl (other value key)
    | update id patch =>
      obtain ⟨current, found, -, rfl⟩ := update_ok done
      exact makesNone_put found _
    | push id field item =>
      obtain ⟨current, items, found, -, rfl⟩ := push_ok done
      exact makesNone_put found _
    | delete id =>
      rw [delete_ok done]
      split
      · refine ⟨fun _ => rfl, .refl _, fun other there => ?_⟩
        have eq : (({ store with objects := store.objects.erase id }.wrote id .null).read other) =
            if id = other then none else store.read other := Table.find?_erase _ _ _
        rw [eq] at there
        split at there
        · cases there
        · exact there
      · exact .refl store

/-- Loading a saved store makes no object. -/
lemma makesNone_load {loaded : Store} {supply : Supply} (reloaded : store.reload? = some loaded)
    (later : loaded.supply.Leads supply) : store.MakesNone { loaded with supply } where
  keys key := (keys_of_reload? reloaded key : loaded.keys.find? key = store.keys.find? key)
  supply := (supplies_of_reload? reloaded).supply.trans later
  there id there := by
    have kept := read_of_reload? reloaded id
    obtain ⟨content, found⟩ := Option.isSome_iff_exists.1 there
    rw [show loaded.read id = some content from found] at kept
    cases read : store.read id with
    | none =>
      rw [read] at kept
      exact kept.elim
    | some value => rfl

/-- What a create comes to: it makes an object, or its key leads to one. -/
lemma create_cases (store : Store) (value : Json) (key : Option String) :
    (store.keyed? key = none ∧
      (store.execute (.create value key)).1 = .ok (created store.supply.next true) ∧
      store.Effect (.create value key) (store.execute (.create value key)).2 ∧
      (store.execute (.create value key)).2.supply = store.supply.advance) ∨
    ∃ name id, key = some name ∧ store.Led name id ∧
      store.execute (.create value key) = (.ok (created id false), store) := by
  cases found : store.keyed? key with
  | none =>
    have made : store.execute (.create value key) =
        (.ok (store.create value key).1, (store.create value key).2) := rfl
    rw [made]
    refine .inl ⟨rfl, ?_, create_effect value found, ?_⟩
    · simp only [create, found]
      rfl
    · simp only [create, found]
      rfl
  | some id =>
    obtain ⟨name, rfl, leads, there⟩ := keyed?_eq_some.1 found
    have led : store.Led name id := ⟨leads, there⟩
    exact .inr ⟨name, id, rfl, led, led.again value⟩

/-- What happens makes an object for the key of a create, or it makes none and changes no key. -/
lemma Happens.cases (happens : Happens before tale after) :
    (∃ value key, tale = .executed (.create value key) (.ok (created before.supply.next true)) ∧
      before.keyed? key = none ∧ before.Effect (.create value key) after ∧
      after.supply = before.supply.advance) ∨
    before.MakesNone after ∧ ∀ value key answer, tale = .executed (.create value key) answer →
      ∃ name id, key = some name ∧ before.Led name id ∧ answer = .ok (created id false) := by
  cases happens with
  | load reloaded later => exact .inr ⟨makesNone_load reloaded later, by rintro _ _ _ ⟨⟩⟩
  | deed deed =>
    cases deed with
    | execute op =>
      cases op with
      | create value key =>
        rcases before.create_cases value key with ⟨new, answer, effect, supply⟩ |
          ⟨name, id, rfl, led, done⟩
        · exact .inl ⟨value, key, congrArg (Tale.executed _) answer, new, effect, supply⟩
        · refine .inr ⟨?_, ?_⟩
          · rw [Deed.run, done]
            exact .refl before
          · rintro _ _ _ ⟨⟩
            exact ⟨name, id, rfl, led, by rw [done]⟩
      | _ => exact .inr ⟨makesNone_execute before (by simp), by rintro _ _ _ ⟨⟩⟩
    | _ => exact .inr ⟨⟨fun _ => rfl, .refl _, fun _ => id⟩, by rintro _ _ _ ⟨⟩⟩

/-! ## What the past tells of keys -/

lemma created_inj {a b : Id} {new old : Bool} (same : created a new = created b old) :
    a = b ∧ new = old := by
  have field : ∀ id new, (created id new).field? "id" = some (.id id) ∧
      (created id new).field? "created" = some (.bool new) := by
    intro id new
    constructor <;> rw [created, Json.field?_record] <;> rfl
  obtain ⟨ida, newa⟩ := field a new
  obtain ⟨idb, newb⟩ := field b old
  rw [same, idb] at ida
  rw [same, newb] at newa
  refine ⟨?_, by simpa using newa.symm⟩
  have texts := Option.some.inj ida
  exact (Id.text_injective (by simpa [Json.id] using texts)).symm

/-- A create with this key, or without one, has answered with an object. -/
def Gives (past : List Tale) (key : Option String) (id : Id) : Prop :=
  ∃ value new, .executed (.create value key) (.ok (created id new)) ∈ past

/-- The past tells where objects come from and what keys lead to. -/
structure Chronicles (past : List Tale) (store : Store) : Prop where
  /-- Objects have their identifiers from the supply, -/
  stocked : ∀ id, (store.read id).isSome → store.supply.Minted id
  /-- those that creates have answered with included. -/
  minted : ∀ key id, Gives past key id → store.supply.Minted id
  /-- No object was the answer to creates with different keys. -/
  once : ∀ id key other, Gives past key id → Gives past other id → other = key
  /-- A key leads to what a create with it has answered with, -/
  given : ∀ key id, store.keys.find? key = some id → Gives past (some key) id
  /-- and to the one such object that is still there. -/
  leads : ∀ key id, Gives past (some key) id → (store.read id).isSome →
    store.keys.find? key = some id

lemma Gives.mono {key : Option String} (gives : Gives past key id) (within : past ⊆ later) :
    Gives later key id := by
  obtain ⟨value, new, mem⟩ := gives
  exact ⟨value, new, within mem⟩

lemma Gives.tail {key : Option String} (gives : Gives past key id) : Gives (tale :: past) key id :=
  gives.mono (List.subset_cons_self _ _)

/-- What was answered before, or just now. -/
lemma Gives.cases {key : Option String} (gives : Gives (tale :: past) key id) :
    (∃ value new, tale = .executed (.create value key) (.ok (created id new))) ∨
      Gives past key id := by
  obtain ⟨value, new, mem⟩ := gives
  rcases List.mem_cons.1 mem with same | mem
  · exact .inl ⟨value, new, same.symm⟩
  · exact .inr ⟨value, new, mem⟩

lemma chronicles_empty (supply : Supply) : Chronicles [] (empty supply) where
  stocked _ there := by cases there
  minted _ _ gives := by
    obtain ⟨_, _, mem⟩ := gives
    cases mem
  once _ _ _ gives := by
    obtain ⟨_, _, mem⟩ := gives
    cases mem
  given _ _ found := by cases found
  leads _ _ gives := by
    obtain ⟨_, _, mem⟩ := gives
    cases mem

/-- The past goes on to tell this when an object is made: no create before has answered with it. -/
lemma Chronicles.makes {value : Json} {made : Option String} (chronicles : Chronicles past before)
    (new : before.keyed? made = none) (effect : before.Effect (.create value made) after)
    (supply : after.supply = before.supply.advance) (fresh : after.supply.Fresh) :
    Chronicles (.executed (.create value made) (.ok (created before.supply.next true)) :: past)
      after := by
  have grown : before.supply.Leads after.supply := supply ▸ before.supply.leads_advance
  have next : after.supply.Minted before.supply.next := supply ▸ before.supply.minted_next
  have older : ∀ key id, Gives past key id → id ≠ before.supply.next := fun key id gives =>
    (chronicles.minted key id gives).ne_next (supply ▸ fresh)
  have now : ∀ key id, Gives (.executed (.create value made)
      (.ok (created before.supply.next true)) :: past) key id →
        (key = made ∧ id = before.supply.next) ∨ Gives past key id := by
    intro key id gives
    rcases gives.cases with ⟨_, _, same⟩ | gives
    · injection same with op answer
      cases op
      exact .inl ⟨rfl, (created_inj (Except.ok.inj answer)).1.symm⟩
    · exact .inr gives
  constructor
  case stocked =>
    intro id there
    by_cases same : id = before.supply.next
    · exact same ▸ next
    · rw [effect.read_other id same] at there
      exact (chronicles.stocked id there).of_leads grown
  case minted =>
    intro key id gives
    rcases now key id gives with ⟨-, rfl⟩ | early
    · exact next
    · exact (chronicles.minted key id early).of_leads grown
  case once =>
    intro id key other gives gives'
    rcases now key id gives with ⟨first, same⟩ | early
    · rcases now other id gives' with ⟨second, -⟩ | early
      · exact second.trans first.symm
      · exact absurd same (older _ _ early)
    · rcases now other id gives' with ⟨-, same⟩ | early'
      · exact absurd same (older _ _ early)
      · exact chronicles.once id key other early early'
  case given =>
    intro key id found
    rw [effect.keys] at found
    split at found
    · rename_i same
      cases found
      exact ⟨value, true, same ▸ List.mem_cons_self⟩
    · exact (chronicles.given key id found).tail
  case leads =>
    intro key id gives there
    rw [effect.keys]
    rcases now (some key) id gives with ⟨same, rfl⟩ | early
    · exact if_pos same.symm
    · have ne := older _ _ early
      rw [effect.read_other id ne] at there
      have found := chronicles.leads key id early there
      rw [if_neg, found]
      -- if it were the key of the create, that would have found the object
      rintro (rfl : made = some key)
      rw [keyed?_eq_some.2 ⟨key, rfl, found, there⟩] at new
      cases new

/-- It goes on to tell this when no object is made: a create that has found its object has been
answered with it before. -/
lemma Chronicles.keeps (chronicles : Chronicles past before) (none : before.MakesNone after)
    (answered : ∀ value key answer, tale = .executed (.create value key) answer →
      ∃ name id, key = some name ∧ before.Led name id ∧ answer = .ok (created id false)) :
    Chronicles (tale :: past) after := by
  have early : ∀ key id, Gives (tale :: past) key id → Gives past key id := by
    intro key id gives
    rcases gives.cases with ⟨value, new, rfl⟩ | gives
    · obtain ⟨name, other, rfl, led, answer⟩ := answered value key _ rfl
      obtain ⟨rfl, -⟩ := created_inj (Except.ok.inj answer)
      exact chronicles.given name id led.found
    · exact gives
  constructor
  case stocked =>
    intro id there
    exact (chronicles.stocked id (none.there id there)).of_leads none.supply
  case minted =>
    intro key id gives
    exact (chronicles.minted key id (early key id gives)).of_leads none.supply
  case once =>
    intro id key other gives gives'
    exact chronicles.once id key other (early key id gives) (early other id gives')
  case given =>
    intro key id found
    exact (chronicles.given key id ((none.keys key).symm.trans found)).tail
  case leads =>
    intro key id gives there
    exact (none.keys key).trans
      (chronicles.leads key id (early _ id gives) (none.there id there))

/-- Whatever happens, the past goes on to tell this. -/
lemma Chronicles.happens (chronicles : Chronicles past before) (happens : Happens before tale after)
    (fresh : after.supply.Fresh) : Chronicles (tale :: past) after := by
  rcases happens.cases with ⟨value, made, rfl, new, effect, supply⟩ | ⟨none, answered⟩
  · exact chronicles.makes new effect supply fresh
  · exact chronicles.keeps none answered

/-- Whatever happens, the supply is the same or later. -/
lemma Happens.leads (happens : Happens before tale after) : before.supply.Leads after.supply := by
  rcases happens.cases with ⟨_, _, -, -, -, supply⟩ | ⟨none, -⟩
  · exact supply ▸ before.supply.leads_advance
  · exact none.supply

lemma Runs.leads (runs : Runs first past store) : first.supply.Leads store.supply := by
  induction runs with
  | nil => exact .refl _
  | cons _ happens ih => exact ih.trans happens.leads

/-- What keys and objects have to do with the past of a store that was empty in the beginning. -/
theorem Runs.chronicles {supply : Supply} (runs : Runs (empty supply) past store)
    (fresh : store.supply.Fresh) : Chronicles past store := by
  induction runs with
  | nil => exact chronicles_empty supply
  | cons _ happens ih => exact (ih (fresh.of_leads happens.leads)).happens happens fresh

/-! ## What a key leads to -/

/-- A key goes on leading to its object unless that is deleted. -/
lemma Led.happens (led : before.Led key id) (happens : Happens before tale after)
    (stays : ¬ tale.Drops id) : after.Led key id := by
  cases happens with
  | load reloaded later =>
    have loaded := led.reload reloaded
    exact ⟨loaded.found, loaded.there⟩
  | deed deed =>
    cases deed with
    | execute op =>
      by_cases delete : op = .delete id
      · subst delete
        -- the object is there, so that the delete was refused
        cases done : (before.execute (.delete id)).1 with
        | error cause =>
          rw [Deed.run, execute_error done]
          exact led
        | ok answer =>
          have there : before.objects.contains id = true := led.there
          rw [delete_answer (execute_ok done), there] at done
          exact absurd (congrArg (Tale.executed (.delete id)) done) stays
      · exact led.execute delete
    | _ => exact ⟨led.found, led.there⟩

lemma Led.runs (led : first.Led key id) (runs : Runs first past store)
    (stays : ∀ tale ∈ past, ¬ tale.Drops id) : store.Led key id := by
  induction runs with
  | nil => exact led
  | cons _ happens ih =>
    exact (ih fun tale mem => stays tale (List.mem_cons_of_mem _ mem)).happens happens
      (stays _ List.mem_cons_self)

/-- A key leads to an object that is no longer there. -/
structure Dangling (store : Store) (key : String) (id : Id) : Prop where
  /-- The key leads to the identifier, -/
  found : store.keys.find? key = some id
  /-- and there is no object of this identifier. -/
  gone : store.read id = none

/-- The object of a key was deleted. -/
lemma Led.dangling (led : store.Led key id)
    (deleted : (store.execute (.delete id)).1 = .ok (dropped id)) :
    (store.execute (.delete id)).2.Dangling key id := by
  rcases apply_cases (execute_ok deleted) with ⟨-, -, effect⟩ | ⟨idle, -, -⟩
  · exact ⟨(effect.keys key).trans led.found, effect.value⟩
  · rw [dropped, tookEffect_delete] at idle
    cases idle

/-- A key has no object until one is made for it: no other object gets the identifier. -/
lemma Dangling.happens (dangling : before.Dangling key id) (minted : before.supply.Minted id)
    (happens : Happens before tale after) (fresh : after.supply.Fresh)
    (uncalled : ∀ value answer, tale ≠ .executed (.create value (some key)) answer) :
    after.Dangling key id := by
  rcases happens.cases with ⟨value, made, rfl, -, effect, supply⟩ | ⟨none, -⟩
  · refine ⟨(effect.keys key).trans ((if_neg ?_).trans dangling.found), ?_⟩
    · rintro (rfl : made = some key)
      exact uncalled _ _ rfl
    · exact (effect.read_other id (minted.ne_next (supply ▸ fresh))).trans dangling.gone
  · refine ⟨(none.keys key).trans dangling.found, Option.eq_none_iff_forall_ne_some.2 ?_⟩
    intro value there
    have was := none.there id (there ▸ rfl)
    rw [dangling.gone] at was
    cases was

lemma Dangling.runs (dangling : first.Dangling key id) (minted : first.supply.Minted id)
    (runs : Runs first past store) (fresh : store.supply.Fresh)
    (uncalled : ∀ value answer, .executed (.create value (some key)) answer ∉ past) :
    store.Dangling key id := by
  induction runs with
  | nil => exact dangling
  | cons runs happens ih =>
    refine (ih (fresh.of_leads happens.leads) fun value answer mem =>
      uncalled value answer (List.mem_cons_of_mem _ mem)).happens (minted.of_leads runs.leads)
      happens fresh ?_
    rintro value answer rfl
    exact uncalled value answer List.mem_cons_self

/-- A key without object gets a new one by a create. -/
lemma Dangling.create (dangling : store.Dangling key id) (value : Json) :
    (store.execute (.create value (some key))).1 = .ok (created store.supply.next true) ∧
      store.Effect (.create value (some key)) (store.execute (.create value (some key))).2 := by
  rcases store.create_cases value (some key) with ⟨-, answer, effect, -⟩ | ⟨_, other, ⟨⟩, led, -⟩
  · exact ⟨answer, effect⟩
  · cases dangling.found.symm.trans led.found
    have there := led.there
    rw [dangling.gone] at there
    cases there

/-! ## One object at a time -/

/-- A key belongs to one object at a time. -/
structure Owned (past : List Tale) (store : Store) (key : String) : Prop where
  /-- Of the objects that creates with the key have answered with, at most one is there, -/
  one : ∀ id other, Gives past (some key) id → Gives past (some key) other →
    (store.read id).isSome → (store.read other).isSome → id = other
  /-- and no create without the key has answered with any of them. -/
  apart : ∀ id other, Gives past (some key) id → Gives past other id → other = some key
  /-- A create with the key answers with an object, and until that is deleted, every other create
  with the key answers with it, tells that it is not new, and does nothing. -/
  kept : ∀ value, ∃ id new,
    (store.execute (.create value (some key))).1 = .ok (created id new) ∧
    ∀ between last, Runs (store.execute (.create value (some key))).2 between last →
      (∀ tale ∈ between, ¬ tale.Drops id) →
      ∀ value, last.execute (.create value (some key)) = (.ok (created id false), last)
  /-- When an object of the key is deleted, the next create with the key makes another one. -/
  renewed : ∀ id, Gives past (some key) id →
    (store.execute (.delete id)).1 = .ok (dropped id) →
    ∀ between last, Runs (store.execute (.delete id)).2 between last →
      (∀ value answer, .executed (.create value (some key)) answer ∉ between) →
      last.supply.advance.Fresh →
      ∀ value, ∃ other,
        (last.execute (.create value (some key))).1 = .ok (created other true) ∧
        (∀ key, ¬ Gives (between ++ past) key other) ∧ last.read other = none ∧
        (last.execute (.create value (some key))).2.read other = some value

/-- **A key belongs to one object at a time.**  This holds of every key, at the end of every run of
a store that was empty in the beginning and has handed out different identifiers. -/
theorem Runs.owned (supply : Supply) (runs : Runs (empty supply) past store)
    (fresh : store.supply.Fresh) (key : String) : Owned past store key := by
  have chronicles := runs.chronicles fresh
  refine ⟨fun id other gives gives' there there' => ?_, fun id other => chronicles.once id _ other,
    fun value => ?_, fun id gives deleted between last more uncalled unused value => ?_⟩
  · have found := chronicles.leads key id gives there
    exact Option.some.inj (found.symm.trans (chronicles.leads key other gives' there'))
  · obtain ⟨id, new, answer, led⟩ := Led.of_create store value key
    exact ⟨id, new, answer, fun between last more stays => (led.runs more stays).again⟩
  · have there : (store.read id).isSome := by
      rcases apply_cases (execute_ok deleted) with ⟨-, found, -⟩ | ⟨idle, -, -⟩
      · exact Option.isSome_iff_ne_none.2 found
      · rw [dropped, tookEffect_delete] at idle
        cases idle
    have led : store.Led key id := ⟨chronicles.leads key id gives there, there⟩
    -- what has an identifier at the end of the run has it from before the next one
    have whole := (runs.execute (.delete id)).append more
    have later := unused.of_leads last.supply.leads_advance
    have minted := (whole.chronicles later).minted
    have dangling := (led.dangling deleted).runs
      (((runs.execute (.delete id)).chronicles (later.of_leads more.leads)).minted _ id gives.tail)
      more later uncalled
    obtain ⟨answer, effect⟩ := dangling.create value
    refine ⟨last.supply.next, answer, fun other gives => ?_, ?_, effect.value⟩
    · refine (minted other _ (gives.mono ?_)).ne_next unused rfl
      exact ((List.sublist_cons_self _ past).append_left between).subset
    · refine Option.eq_none_iff_forall_ne_some.2 fun content there => ?_
      exact ((whole.chronicles later).stocked _ (there ▸ rfl)).ne_next unused rfl

namespace Sample

/-- A supply that has handed out nothing. -/
def stock : Supply := ⟨fun n => .ofNat n, 0⟩

/-- A store in which an object was made for a key. -/
def booked : Store :=
  ((empty stock).execute (.create (.obj [("count", .count 3)]) (some "first"))).2

set_option maxRecDepth 20000 in
lemma booked_read : Json.ofText? booked.image.text = some booked.image.toJson := by
  have read : Json.readValue? Json.depthLimit (Json.skipBlanks booked.image.toJson.chars) =
      some (booked.image.toJson, []) := rfl
  exact Json.ofText?_of_readValue? read rfl

end Sample

/-- The object of a key is still there when the store was saved and loaded: another create with the
key answers with it. -/
theorem Runs.owned_booked : ∃ past loaded, Runs (empty Sample.stock) (.loaded :: past) loaded ∧
    Owned (.loaded :: past) loaded "first" ∧
    loaded.execute (.create .null (some "first")) = (.ok (created (.ofNat 0) false), loaded) := by
  obtain ⟨loaded, reloaded, -, -, -, supply⟩ := reload?_of_ofText? Sample.booked_read
  have load : Happens Sample.booked .loaded loaded := .load reloaded (.refl _)
  have run := (Runs.nil.execute (.create (.obj [("count", .count 3)]) (some "first"))).cons load
  have fresh : loaded.supply.Fresh := by
    rw [supply]
    intro i j hi hj _
    exact (Nat.lt_one_iff.1 hi).trans (Nat.lt_one_iff.1 hj).symm
  have before := Runs.owned Sample.stock .nil (fun i _ hi => absurd hi (Nat.not_lt_zero i)) "first"
  obtain ⟨id, new, answer, kept⟩ := before.kept (.obj [("count", .count 3)])
  have first : id = .ofNat 0 := (created_inj (Except.ok.inj (answer.symm.trans rfl))).1
  refine ⟨_, loaded, run, Runs.owned Sample.stock run fresh "first", first ▸ ?_⟩
  exact kept [.loaded] loaded (.cons .nil load) (by simp [Tale.Drops]) .null

end Troupe.Store
