import AccountLookup.Async.Pool
import AccountLookup.Registry.Adapters

/-! Calls on the registry, access by access: what is left of each, and the access in which it takes
effect on the collection of oracles. -/

namespace AccountLookup

open Async MongoOracleFinderRepo

/-- An access between the two states changes neither the collection of oracles nor the adapters. -/
def SameRegistry (w w' : World) : Prop := w'.oracles = w.oracles ∧ w'.adapters = w.adapters

/-- What is left of the call lists `adapter` and resolves. -/
inductive Lists (adapter : OracleAdapter) : Proc JsError World Unit → Prop
  | quiet {update : World → World} {next : World → Proc JsError World Unit}
      (hupdate : ∀ w, SameRegistry w (update w)) (hnext : ∀ w, Lists adapter (next w)) :
      Lists adapter (.access update next)
  | list {update : World → World} {next : World → Proc JsError World Unit}
      (hupdate : ∀ w, (update w).oracles = w.oracles ∧
        (update w).adapters = w.adapters ++ [adapter])
      (hnext : ∀ w, next w = .resolve ()) : Lists adapter (.access update next)

/-- What is left of the call removes the adapters with the id and resolves. -/
inductive Unlists (id : String) : Proc JsError World Unit → Prop
  | unlist {update : World → World} {next : World → Proc JsError World Unit}
      (hupdate : ∀ w, (update w).oracles = w.oracles ∧ (update w).adapters =
        w.adapters.filter fun adapter => !adapter.oracleId.strictEq (.str id))
      (hnext : ∀ w, next w = .resolve ()) : Unlists id (.access update next)

namespace RegistryCall

variable (call : RegistryCall)

/-- The call is to add the oracle, which it has not stored.  It is refused in a state in which the
whole call would be refused, or it stores the oracle and is to list its adapter. -/
inductive Adds (oracle : Oracle) : Proc JsError World Unit → Prop
  | check {update : World → World} {next : World → Proc JsError World Unit}
      (refuses : World → Prop) (hupdate : ∀ w, SameRegistry w (update w))
      (hrefused : ∀ w, refuses w →
        (∃ error, next w = .reject error) ∧ ∀ adapter, ¬call.Stores oracle adapter w)
      (hpassed : ∀ w, ¬refuses w → Adds oracle (next w)) : Adds oracle (.access update next)
  | store {update : World → World} {next : World → Proc JsError World Unit}
      (adapter : OracleAdapter)
      (hcreated : call.aggregate.oracleProvidersFactory (call.added oracle) = .ok adapter)
      (hupdate : ∀ w, (update w).oracles = w.oracles ++ [call.added oracle] ∧
        (update w).adapters = w.adapters)
      (hnext : ∀ w, Lists adapter (next w)) : Adds oracle (.access update next)

/-- The call is to remove the oracle with the id, which it has not deleted.  It is refused in a state
in which the whole call would be refused, or it deletes the oracle and is to remove its adapters. -/
inductive Removes (id : String) : Proc JsError World Unit → Prop
  | check {update : World → World} {next : World → Proc JsError World Unit}
      (hupdate : ∀ w, SameRegistry w (update w))
      (hrefused : ∀ w, ¬call.Deletes id w → ∃ error, next w = .reject error)
      (hpassed : ∀ w, call.Deletes id w → Removes id (next w)) : Removes id (.access update next)
  | delete {update : World → World} {next : World → Proc JsError World Unit}
      (hupdate : ∀ w, (update w).oracles = w.oracles.eraseP (hasId call.env.compound (.str id)) ∧
        (update w).adapters = w.adapters)
      (hrefused : ∀ w, ¬call.Deletes id w → ∃ error, next w = .reject error)
      (hdeleted : ∀ w, call.Deletes id w → Unlists id (next w)) : Removes id (.access update next)

variable {call} {α β : Type} {f : List Oracle → α × List Oracle} {g : JsError → JsError}
  {k : α → Proc JsError World β} (command : Command)

/-- A search in the collection is a check. -/
theorem Adds.of_find {oracle : Oracle} (hf : ∀ s, (f s).2 = s) (refuses : World → Prop)
    (hrefused : ∀ w, refuses w → (∃ error, (k (f w.oracles).1).void = .reject error) ∧
      ∀ adapter, ¬call.Stores oracle adapter w)
    (hpassed : ∀ w, ¬refuses w → call.Adds oracle (k (f w.oracles).1).void) :
    call.Adds oracle
      ((((send .none command f).rethrow g).zoom World.oraclesLens >>= k).void) :=
  .check refuses (fun w => ⟨hf w.oracles, rfl⟩) hrefused hpassed

theorem Removes.of_find {id : String} (hf : ∀ s, (f s).2 = s)
    (hrefused : ∀ w, ¬call.Deletes id w → ∃ error, (k (f w.oracles).1).void = .reject error)
    (hpassed : ∀ w, call.Deletes id w → call.Removes id (k (f w.oracles).1).void) :
    call.Removes id
      ((((send .none command f).rethrow g).zoom World.oraclesLens >>= k).void) :=
  .check (fun w => ⟨hf w.oracles, rfl⟩) hrefused hpassed

end RegistryCall

/-! ### What is left of different calls is different -/

theorem Lists.unsettled {adapter : OracleAdapter} {p : Proc JsError World Unit}
    (h : Lists adapter p) : p.settled = false := by
  cases h <;> rfl

theorem Unlists.unsettled {id : String} {p : Proc JsError World Unit} (h : Unlists id p) :
    p.settled = false := by
  cases h
  rfl

/-- A registry with one adapter, which has the id. -/
def adaptedBy (id : String) : World :=
  { World.unregistered with adapters := [⟨.builtin, { World.withoutEndpoint with id := .str id }⟩] }

theorem Unlists.step_adapters {id : String} {p : Proc JsError World Unit} (h : Unlists id p)
    (w : World) : (p.step w).2.adapters =
      w.adapters.filter fun adapter => !adapter.oracleId.strictEq (.str id) := by
  cases h with
  | unlist hupdate hnext => exact (hupdate w).2

theorem Unlists.step_settled {id : String} {p : Proc JsError World Unit} (h : Unlists id p)
    (w : World) : (p.step w).1.settled = true := by
  cases h with
  | unlist hupdate hnext => exact congrArg Proc.settled (hnext w)

theorem Unlists.adapters {id : String} {p : Proc JsError World Unit} (h : Unlists id p) :
    (p.step (adaptedBy id)).2.adapters = [] := by
  rw [h.step_adapters]
  simp [adaptedBy, OracleAdapter.oracleId]

/-- The call that removes the adapter with the id removes the adapters with this id. -/
theorem Unlists.eq_of_step {id other : String} {p : Proc JsError World Unit} (h : Unlists other p)
    (hnone : (p.step (adaptedBy id)).2.adapters = []) : other = id := by
  by_contra hne
  rw [h.step_adapters] at hnone
  simp [adaptedBy, OracleAdapter.oracleId, Js.Value.strictEq, Ne.symm hne] at hnone

theorem Unlists.unique {id other : String} {p : Proc JsError World Unit} (h : Unlists id p)
    (h' : Unlists other p) : id = other :=
  (h'.eq_of_step h.adapters).symm

theorem Lists.adapters {adapter : OracleAdapter} {p : Proc JsError World Unit} (h : Lists adapter p)
    (w : World) : (p.step w).2.adapters = w.adapters ∨
      (p.step w).2.adapters = w.adapters ++ [adapter] := by
  cases h with
  | quiet hupdate hnext => exact .inl (hupdate w).2
  | list hupdate hnext => exact .inr (hupdate w).2

theorem Lists.not_unlists {adapter : OracleAdapter} {p : Proc JsError World Unit}
    (h : Lists adapter p) (id : String) : ¬Unlists id p := by
  intro hunlists
  have hnone := hunlists.adapters
  rcases h.adapters (adaptedBy id) with hsome | hsome <;> rw [hsome] at hnone <;> cases hnone

theorem Lists.unique {adapter other : OracleAdapter} {p : Proc JsError World Unit}
    (h : Lists adapter p) (h' : Lists other p) : adapter = other := by
  induction h with
  | quiet hupdate _ ih =>
    cases h' with
    | quiet hupdate' hnext' => exact ih World.unregistered (hnext' World.unregistered)
    | list hupdate' hnext' =>
      have hsame := (hupdate World.unregistered).2.symm.trans (hupdate' World.unregistered).2
      cases hsame
  | list hupdate _ =>
    cases h' with
    | quiet hupdate' hnext' =>
      have hsame := (hupdate' World.unregistered).2.symm.trans (hupdate World.unregistered).2
      cases hsame
    | list hupdate' hnext' =>
      have hsame := (hupdate World.unregistered).2.symm.trans (hupdate' World.unregistered).2
      cases hsame
      rfl

namespace RegistryCall

variable {call : RegistryCall} {oracle : Oracle} {id : String} {p : Proc JsError World Unit}

theorem Adds.adapters (h : call.Adds oracle p) (w : World) :
    (p.step w).2.adapters = w.adapters := by
  cases h with
  | check refuses hupdate hrefused hpassed => exact (hupdate w).2
  | store adapter hcreated hupdate hnext => exact (hupdate w).2

theorem Removes.adapters (h : call.Removes id p) (w : World) :
    (p.step w).2.adapters = w.adapters := by
  cases h with
  | check hupdate hrefused hpassed => exact (hupdate w).2
  | delete hupdate hrefused hdeleted => exact (hupdate w).2

theorem Adds.not_lists (h : call.Adds oracle p) (adapter : OracleAdapter) : ¬Lists adapter p := by
  intro hlists
  induction h with
  | check refuses hupdate hrefused _ ih =>
    cases hlists with
    | quiet hupdate' hnext' =>
      by_cases hrefuses : refuses World.unregistered
      · obtain ⟨⟨error, hreject⟩, -⟩ := hrefused _ hrefuses
        have hlists := hnext' World.unregistered
        rw [hreject] at hlists
        cases hlists
      · exact ih World.unregistered hrefuses (hnext' World.unregistered)
    | list hupdate' hnext' =>
      have hsame := (hupdate World.unregistered).2.symm.trans (hupdate' World.unregistered).2
      cases hsame
  | store adapter' hcreated hupdate hnext =>
    cases hlists with
    | quiet hupdate' hnext' =>
      have hsame := (hupdate World.unregistered).1.symm.trans (hupdate' World.unregistered).1
      cases hsame
    | list hupdate' hnext' =>
      have hsame := (hupdate World.unregistered).1.symm.trans (hupdate' World.unregistered).1
      cases hsame

theorem Removes.not_lists (h : call.Removes id p) (adapter : OracleAdapter) :
    ¬Lists adapter p := by
  intro hlists
  have hmissing : ¬call.Deletes id World.unregistered := fun h => absurd h.stored nofun
  cases h with
  | check hupdate hrefused hpassed =>
    cases hlists with
    | quiet hupdate' hnext' =>
      obtain ⟨error, hreject⟩ := hrefused _ hmissing
      have hlists := hnext' World.unregistered
      rw [hreject] at hlists
      cases hlists
    | list hupdate' hnext' =>
      have hsame := (hupdate World.unregistered).2.symm.trans (hupdate' World.unregistered).2
      cases hsame
  | delete hupdate hrefused hdeleted =>
    obtain ⟨error, hreject⟩ := hrefused _ hmissing
    cases hlists with
    | quiet hupdate' hnext' =>
      have hlists := hnext' World.unregistered
      rw [hreject] at hlists
      cases hlists
    | list hupdate' hnext' =>
      have hresolve := hnext' World.unregistered
      rw [hreject] at hresolve
      cases hresolve

end RegistryCall

/-! ### Calls in which no command fails -/

/-- An oracle to add, whose adapter can be initialised, and the identifier that is generated for it. -/
structure NewOracle where
  oracle : Oracle
  randomUUID : String
  initialises : oracle.type = .str "remote-http" → oracle.endpoint.truthy = true

/-- The call in which no command fails. -/
def undisturbed (compound : Js.Value → Js.Value → Bool) (randomUUID : String) : RegistryCall where
  env :=
    { faults := .none
      participants := fun _ => .ok none
      randomUUID
      compound }
  factoryError := none
  initError := none

section Calls

variable {compound : Js.Value → Js.Value → Bool} {randomUUID : String}

theorem lists_list (adapter : OracleAdapter) (id : Js.Value)
    (h : ¬(undisturbed compound randomUUID).InitFails adapter) :
    Lists adapter ((undisturbed compound randomUUID).list adapter id).void := by
  have hpush : Lists adapter (do
      (undisturbed compound randomUUID).aggregate.pushAdapter adapter
      pure id : Proc JsError World Js.Value).void :=
    .list (fun _ => ⟨rfl, rfl⟩) fun _ => rfl
  obtain ⟨type, oracle⟩ := adapter
  cases type with
  | builtin => exact .quiet (fun _ => ⟨rfl, rfl⟩) fun _ => .quiet (fun _ => ⟨rfl, rfl⟩) fun _ => hpush
  | remoteHttp =>
    have hendpoint : oracle.endpoint.truthy = true := by
      rw [← Bool.not_eq_false]
      exact fun hfalse => h (.inr hfalse)
    have hinit : HttpOracleProvider.init ⟨.remoteHttp, oracle⟩ = .ok () := if_pos hendpoint
    show Lists _ ((do
      Proc.ofExcept (HttpOracleProvider.init ⟨.remoteHttp, oracle⟩)
      (undisturbed compound randomUUID).aggregate.pushAdapter ⟨.remoteHttp, oracle⟩
      pure id : Proc JsError World Js.Value).void)
    rw [hinit]
    exact hpush

theorem NewOracle.not_initFails (new : NewOracle) {id : Js.Value} {adapter : OracleAdapter}
    (h : OracleAdapterFactory.create (Aggregate.newOracle new.oracle id) = .ok adapter) :
    ¬(undisturbed compound randomUUID).InitFails adapter := by
  have htype : (Aggregate.newOracle new.oracle id).type = new.oracle.type := rfl
  unfold OracleAdapterFactory.create at h
  rw [htype] at h
  split_ifs at h with hbuiltin hremote
  · cases h
    exact fun hfails => hfails.elim nofun fun hfault => hfault.elim nofun nofun
  · cases h
    have hendpoint : (Aggregate.newOracle new.oracle id).endpoint = new.oracle.endpoint :=
      if_neg hbuiltin
    intro hfails
    rcases hfails with hinit | hfalse
    · cases hinit
    · have htrue := new.initialises hremote
      rw [← hendpoint] at htrue
      exact absurd (htrue.symm.trans hfalse) nofun

/-- A call that has found no oracle with the name looks for one with all the fields, and then stores
its own. -/
theorem adds_store (new : NewOracle) {adapter : OracleAdapter}
    (hcreated : OracleAdapterFactory.create ((undisturbed compound randomUUID).added new.oracle) =
      .ok adapter) :
    (undisturbed compound randomUUID).Adds new.oracle (do
      (undisturbed compound randomUUID).aggregate.oracleFinder.addOracle
        ((undisturbed compound randomUUID).added new.oracle)
      (undisturbed compound randomUUID).list adapter
        ((undisturbed compound randomUUID).newId new.oracle)).void := by
  have hstore : ∀ _ : World, Lists adapter
      ((undisturbed compound randomUUID).list adapter
        ((undisturbed compound randomUUID).newId new.oracle)).void :=
    fun _ => lists_list adapter _ (new.not_initFails hcreated)
  have hsplit : (undisturbed compound randomUUID).aggregate.oracleFinder.addOracle
      ((undisturbed compound randomUUID).added new.oracle) =
        (MongoOracleFinderRepo.addOracle compound .none
          ((undisturbed compound randomUUID).added new.oracle)).zoom World.oraclesLens := rfl
  rw [hsplit, MongoOracleFinderRepo.addOracle, Proc.zoom_bind, Proc.bind_bind]
  refine RegistryCall.Adds.of_find .findOraclePresent (fun _ => rfl) (fun w => ∃ document,
    w.oracles.find? (isPresent compound ((undisturbed compound randomUUID).added new.oracle)) =
      some document) ?_ ?_
  · intro w hrefuses
    obtain ⟨document, hfind⟩ := hrefuses
    dsimp only
    rw [hfind]
    refine ⟨⟨_, rfl⟩, ?_⟩
    intro adapter' hstores
    have hnone := @RegistryCall.find?_isPresent (undisturbed compound randomUUID) w _
      ((undisturbed compound randomUUID).newId new.oracle) hstores.nameFree
    have hboth := hfind.symm.trans hnone
    cases hboth
  · intro w hpasses
    have hnone : w.oracles.find?
        (isPresent compound ((undisturbed compound randomUUID).added new.oracle)) = none := by
      rw [Option.eq_none_iff_forall_ne_some]
      exact fun document hfind => hpasses ⟨document, hfind⟩
    dsimp only
    rw [hnone]
    exact .store adapter hcreated (fun _ => ⟨rfl, rfl⟩) hstore

/-- The rest of a call that adds an oracle, once it has passed the check on the id. -/
theorem adds_addOracleWithId (new : NewOracle) :
    (undisturbed compound randomUUID).Adds new.oracle
      ((undisturbed compound randomUUID).aggregate.addOracleWithId new.oracle
        ((undisturbed compound randomUUID).newId new.oracle)).void := by
  have hfactory : (undisturbed compound randomUUID).aggregate.oracleProvidersFactory =
    OracleAdapterFactory.create := rfl
  unfold Aggregate.addOracleWithId
  rw [hfactory]
  have hadded : Aggregate.newOracle new.oracle ((undisturbed compound randomUUID).newId new.oracle) =
    (undisturbed compound randomUUID).added new.oracle := rfl
  rw [hadded]
  cases hcreate : OracleAdapterFactory.create ((undisturbed compound randomUUID).added new.oracle) with
  | error error =>
    refine RegistryCall.Adds.of_find
      (f := fun s => (s.find? (hasName compound new.oracle.name), s)) .findOracleByName
      (fun _ => rfl) (fun _ => True) ?_ fun _ hpasses => absurd trivial hpasses
    intro w _
    dsimp only
    constructor
    · split
      · exact ⟨_, rfl⟩
      · exact ⟨error, rfl⟩
    · intro adapter hstores
      exact absurd (hcreate.symm.trans hstores.created) nofun
  | ok adapter =>
    refine RegistryCall.Adds.of_find
      (f := fun s => (s.find? (hasName compound new.oracle.name), s)) .findOracleByName
      (fun _ => rfl) (fun w => ∃ document,
        w.oracles.find? (hasName compound new.oracle.name) = some document) ?_ ?_
    · intro w hrefuses
      obtain ⟨document, hfind⟩ := hrefuses
      dsimp only
      constructor
      · rw [hfind]
        exact ⟨_, rfl⟩
      · intro adapter' hstores
        exact absurd (hfind.symm.trans hstores.nameFree) nofun
    · intro w hpasses
      have hnone : w.oracles.find? (hasName compound new.oracle.name) = none := by
        rw [Option.eq_none_iff_forall_ne_some]
        exact fun document hfind => hpasses ⟨document, hfind⟩
      dsimp only
      rw [hnone]
      exact adds_store new hcreate

/-- A call that adds an oracle, before its first access. -/
theorem adds_addOracle (new : NewOracle) :
    (undisturbed compound randomUUID).Adds new.oracle
      ((undisturbed compound randomUUID).aggregate.addOracle new.oracle).void := by
  have hrest := @adds_addOracleWithId compound randomUUID new
  unfold Aggregate.addOracle
  by_cases hid : new.oracle.id.truthy = true
  · have hnew : (undisturbed compound randomUUID).newId new.oracle = new.oracle.id := if_pos hid
    rw [hnew] at hrest
    simp only [hid, if_true]
    refine RegistryCall.Adds.of_find
      (f := fun s => (s.find? (hasId compound new.oracle.id), s)) .findOracleById
      (fun _ => rfl) (fun w => ∃ document,
        w.oracles.find? (hasId compound new.oracle.id) = some document) ?_ ?_
    · intro w hrefuses
      obtain ⟨document, hfind⟩ := hrefuses
      dsimp only
      constructor
      · rw [hfind]
        exact ⟨_, rfl⟩
      · intro adapter' hstores
        exact absurd (hfind.symm.trans (hstores.idFree hid).2) nofun
    · intro w hpasses
      have hnone : w.oracles.find? (hasId compound new.oracle.id) = none := by
        rw [Option.eq_none_iff_forall_ne_some]
        exact fun document hfind => hpasses ⟨document, hfind⟩
      dsimp only
      rw [hnone]
      exact hrest
  · have hnew : (undisturbed compound randomUUID).newId new.oracle = .str randomUUID := if_neg hid
    rw [hnew] at hrest
    simp only [hid]
    exact hrest

/-- A call that removes an oracle, before its first access. -/
theorem removes_removeOracle (id : String) :
    (undisturbed compound randomUUID).Removes id
      ((undisturbed compound randomUUID).aggregate.removeOracle id).void := by
  have hdeletes (w : World) : (undisturbed compound randomUUID).Deletes id w ↔
      ∃ document, w.oracles.find? (hasId compound (.str id)) = some document := by
    rw [← Option.isSome_iff_exists]
    exact ⟨fun h => h.stored, fun h => ⟨rfl, h, rfl⟩⟩
  unfold Aggregate.removeOracle
  have hpresent {w : World} (h : (undisturbed compound randomUUID).Deletes id w) :
      w.oracles.any (hasId compound (.str id)) = true := by
    obtain ⟨document, hfind⟩ := (hdeletes w).mp h
    exact List.any_eq_true.mpr
      ⟨document, List.mem_of_find?_eq_some hfind, List.find?_some hfind⟩
  have hmissing {w : World} (h : ¬(undisturbed compound randomUUID).Deletes id w) :
      w.oracles.find? (hasId compound (.str id)) = none := by
    rw [Option.eq_none_iff_forall_ne_some]
    exact fun document hfind => h ((hdeletes w).mpr ⟨document, hfind⟩)
  refine RegistryCall.Removes.of_find (f := fun s => (s.find? (hasId compound (.str id)), s))
    .findOracleById (fun _ => rfl) ?_ ?_
  · intro w hrefuses
    dsimp only
    rw [hmissing hrefuses]
    exact ⟨_, rfl⟩
  · intro w hpasses
    obtain ⟨document, hfind⟩ := (hdeletes w).mp hpasses
    dsimp only
    rw [hfind]
    -- What is left after the deletion depends on whether a document was deleted.
    let left (present : Bool) : Proc JsError World Unit :=
      ((((if (if present then 1 else 0) = 1 then pure ()
        else Proc.reject ⟨.noSuchOracleError, s!"Oracle with id {id} not found"⟩ :
          Proc JsError (List Oracle) Unit).zoom World.oraclesLens).rethrow fun error =>
            ⟨.unableToRemoveOracleError, s!"Unable to remove oracle with id {id} " ++ error.message⟩) >>=
              fun _ => Proc.modify fun s => World.adaptersLens.set
                ((World.adaptersLens.get s).filter fun o => !o.oracleId.strictEq (.str id)) s).void
    refine @RegistryCall.Removes.delete (undisturbed compound randomUUID) id _
      (fun v => left (v.oracles.any (hasId compound (.str id)))) (fun _ => ⟨rfl, rfl⟩) ?_ ?_
    · intro v hrefuses
      have hany : v.oracles.any (hasId compound (.str id)) = false := by
        rw [List.any_eq_false]
        simpa using hmissing hrefuses
      rw [hany]
      exact ⟨_, rfl⟩
    · intro v hpasses
      rw [hpresent hpasses]
      exact .unlist (fun _ => ⟨rfl, rfl⟩) fun _ => rfl

end Calls

/-! ### Calls -/

/-- A call on the registry in which no command fails. -/
inductive RegistryChange where
  | add (new : NewOracle)
  | remove (id : String)

namespace RegistryChange

variable (compound : Js.Value → Js.Value → Bool)

def perform : RegistryChange → Proc JsError World Unit
  | .add new => ((undisturbed compound new.randomUUID).aggregate.addOracle new.oracle).void
  | .remove id => ((undisturbed compound "").aggregate.removeOracle id).void

/-- What is left of a call before it takes effect. -/
def Waiting : RegistryChange → Proc JsError World Unit → Prop
  | .add new, p => (undisturbed compound new.randomUUID).Adds new.oracle p
  | .remove id, p => (undisturbed compound "").Removes id p

variable {compound}

theorem waiting_perform (change : RegistryChange) :
    change.Waiting compound (change.perform compound) := by
  cases change with
  | add new => exact adds_addOracle new
  | remove id => exact removes_removeOracle id

variable {change : RegistryChange} {p : Proc JsError World Unit}

theorem Waiting.unsettled (h : change.Waiting compound p) : p.settled = false := by
  cases change with
  | add new => cases h <;> rfl
  | remove id => cases h <;> rfl

theorem Waiting.not_lists (h : change.Waiting compound p) (adapter : OracleAdapter) :
    ¬Lists adapter p := by
  cases change with
  | add new => exact RegistryCall.Adds.not_lists h adapter
  | remove id => exact RegistryCall.Removes.not_lists h adapter

theorem Waiting.not_unlists (h : change.Waiting compound p) (id : String) : ¬Unlists id p := by
  intro hunlists
  have hnone := hunlists.adapters
  have hsame : (p.step (adaptedBy id)).2.adapters = (adaptedBy id).adapters := by
    cases change with
    | add new => exact RegistryCall.Adds.adapters h _
    | remove id' => exact RegistryCall.Removes.adapters h _
  rw [hsame] at hnone
  cases hnone

end RegistryChange

end AccountLookup
