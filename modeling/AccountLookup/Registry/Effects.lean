import AccountLookup.Registry.Progress

/-! The effect of one call on the registry: when it runs alone, and when it takes one of its steps
among those of other calls. -/

namespace AccountLookup

open Async MongoOracleFinderRepo

/-! ### Oracles with distinct ids and names -/

/-- No two of the oracles have the same id or the same name. -/
structure Distinct (oracles : List Oracle) : Prop where
  ids_nodup : (oracles.map Oracle.id).Nodup
  names_nodup : (oracles.map Oracle.name).Nodup

/-- The filters of the finder on the id and on the name of the oracle find none of the oracles.  That none
has its id or its name follows but for arrays and objects, of which a filter need not find the equal
ones. -/
structure Fresh (compound : Js.Value → Js.Value → Bool) (oracle : Oracle) (oracles : List Oracle) :
    Prop where
  id : ∀ other ∈ oracles, hasId compound oracle.id other = false ∧ other.id ≠ oracle.id
  name : ∀ other ∈ oracles, hasName compound oracle.name other = false ∧ other.name ≠ oracle.name

section Distinct

variable {oracles : List Oracle} {oracle : Oracle} {compound : Js.Value → Js.Value → Bool}

theorem Distinct.append (h : Distinct oracles) (hfresh : Fresh compound oracle oracles) :
    Distinct (oracles ++ [oracle]) := by
  constructor
  · rw [List.map_append, List.nodup_append']
    refine ⟨h.ids_nodup, List.nodup_singleton _, ?_⟩
    simpa using fun other hother => (hfresh.id other hother).2
  · rw [List.map_append, List.nodup_append']
    refine ⟨h.names_nodup, List.nodup_singleton _, ?_⟩
    simpa using fun other hother => (hfresh.name other hother).2

theorem Distinct.sublist {left : List Oracle} (h : Distinct oracles) (hleft : left.Sublist oracles) :
    Distinct left :=
  ⟨(hleft.map Oracle.id).nodup h.ids_nodup, (hleft.map Oracle.name).nodup h.names_nodup⟩

/-- An oracle that no filter of the finder finds passes the checks and is stored. -/
theorem Fresh.stores {w : World} {randomUUID : String} {adapter : OracleAdapter}
    (h : Fresh compound ((undisturbed compound randomUUID).added oracle) w.oracles)
    (hcreated : OracleAdapterFactory.create ((undisturbed compound randomUUID).added oracle) =
      .ok adapter) :
    (undisturbed compound randomUUID).Stores oracle adapter w := by
  have hnameFree : w.oracles.find? (hasName compound oracle.name) = none := by
    rw [List.find?_eq_none]
    intro other hother
    rw [Bool.not_eq_true]
    exact (h.name other hother).1
  refine ⟨⟨rfl, hnameFree, hcreated, rfl, rfl⟩, ?_⟩
  intro htruthy
  have hid : ((undisturbed compound randomUUID).added oracle).id = oracle.id := if_pos htruthy
  refine ⟨rfl, ?_⟩
  rw [List.find?_eq_none]
  intro other hother
  rw [Bool.not_eq_true, ← hid]
  exact (h.id other hother).1

/-- When the oracle that a filter on an id finds is the first to go, the oracles that are left have other
ids. -/
theorem Distinct.erase {removed : Oracle} {selects : Oracle → Bool} (h : Distinct oracles)
    (hfind : oracles.find? selects = some removed) :
    ∀ other ∈ oracles.eraseP selects, other.id ≠ removed.id := by
  obtain ⟨hselected, before, after, hsplit, hbefore⟩ := List.find?_eq_some_iff_append.mp hfind
  have hnone : ∀ other ∈ before, ¬selects other = true := by
    intro other hother
    simpa using hbefore other hother
  have hnodup := h.ids_nodup
  rw [hsplit, List.map_append, List.map_cons, List.nodup_middle, List.nodup_cons,
    ← List.map_append] at hnodup
  rw [hsplit, List.eraseP_append_right _ hnone, List.eraseP_cons_of_pos hselected]
  intro other hother hid
  apply hnodup.1
  rw [← hid]
  exact List.mem_map_of_mem hother

end Distinct

/-! ### One call after the other -/

namespace RegistryChange

variable {compound : Js.Value → Js.Value → Bool}

theorem stores_congr {call : RegistryCall} {oracle : Oracle} {adapter : OracleAdapter} {w w' : World}
    (hsame : w'.oracles = w.oracles) (h : call.Stores oracle adapter w) :
    call.Stores oracle adapter w' := by
  refine ⟨⟨h.findName, ?_, h.created, h.findPresent, h.insert⟩, ?_⟩
  · rw [hsame]
    exact h.nameFree
  · rw [hsame]
    exact h.idFree

theorem deletes_congr {call : RegistryCall} {id : String} {w w' : World}
    (hsame : w'.oracles = w.oracles) (h : call.Deletes id w) : call.Deletes id w' := by
  refine ⟨h.found, ?_, h.deleted⟩
  rw [hsame]
  exact h.stored

theorem run_add_refused {new : NewOracle} {w : World}
    (h : ∀ adapter, ¬(undisturbed compound new.randomUUID).Stores new.oracle adapter w) :
    ∃ error, ((add new).perform compound).run w = (.error error, w) := by
  rcases @RegistryCall.run_addOracle (undisturbed compound new.randomUUID) w new.oracle with
    ⟨error, hrun, -⟩ | ⟨adapter, hstores, -⟩
  · refine ⟨error, ?_⟩
    unfold perform
    rw [Proc.run_void, hrun]
    rfl
  · exact absurd hstores (h adapter)

theorem run_add {new : NewOracle} {adapter : OracleAdapter} {w : World}
    (h : (undisturbed compound new.randomUUID).Stores new.oracle adapter w) :
    ∃ w', ((add new).perform compound).run w = (.ok (), w') ∧
      w'.oracles = w.oracles ++ [(undisturbed compound new.randomUUID).added new.oracle] ∧
      w'.adapters = w.adapters ++ [adapter] := by
  rcases @RegistryCall.run_addOracle (undisturbed compound new.randomUUID) w new.oracle with
    ⟨error, -, hnot⟩ | ⟨adapter', hstores, hrun⟩
  · exact absurd h (hnot adapter)
  have hsame : adapter = adapter' := by
    have hcreated := h.created.symm.trans hstores.created
    cases hcreated
    rfl
  subst hsame
  unfold perform
  rw [Proc.run_void, hrun]
  unfold RegistryCall.list
  rcases @RegistryCall.run_init (undisturbed compound new.randomUUID)
    { w with oracles := w.oracles ++ [(undisturbed compound new.randomUUID).added new.oracle] }
      adapter with ⟨error, connections, hfails, -⟩ | ⟨connections, -, hinit⟩
  · exact absurd hfails (new.not_initFails hstores.created)
  · rw [Proc.run_bind_ok hinit]
    exact ⟨_, rfl, rfl, rfl⟩

theorem run_remove_refused {id : String} {w : World}
    (h : ¬(undisturbed compound "").Deletes id w) :
    ∃ error, ((remove id).perform compound).run w = (.error error, w) := by
  rcases @RegistryCall.run_removeOracle (undisturbed compound "") w id with
    ⟨error, hrun, -⟩ | ⟨hdeletes, -⟩
  · refine ⟨error, ?_⟩
    unfold perform
    rw [Proc.run_void, hrun]
    rfl
  · exact absurd hdeletes h

theorem run_remove {id : String} {w : World} (h : (undisturbed compound "").Deletes id w) :
    ∃ w', ((remove id).perform compound).run w = (.ok (), w') ∧
      w'.oracles = w.oracles.eraseP (hasId compound (.str id)) := by
  rcases @RegistryCall.run_removeOracle (undisturbed compound "") w id with
    ⟨error, -, hnot⟩ | ⟨-, hrun⟩
  · exact absurd h hnot
  · unfold perform
    rw [Proc.run_void, hrun]
    exact ⟨_, rfl, rfl⟩

/-- A removal that runs alone keeps the adapters in step with the stored oracles, when the oracle that it
deletes has the very id, and not an array with it. -/
theorem inStep_run_remove {id : String} {w : World} (h : w.InStep) (hdistinct : Distinct w.oracles)
    {removed : Oracle} (hfind : w.oracles.find? (hasId compound (.str id)) = some removed)
    (hid : removed.id = .str id) : (((remove id).perform compound).run w).2.InStep := by
  unfold perform
  dsimp only
  rw [Proc.run_void]
  refine (World.inStep_remove_iff h (undisturbed compound "") id).mpr fun _ => ⟨?_, ?_⟩
  · rw [← hid]
    exact hdistinct.erase hfind
  · intro other hother
    exact .inl (Option.some.inj (hother.symm.trans hfind) ▸ hid)

/-- An addition that runs alone always does. -/
theorem inStep_run_add {w : World} (h : w.InStep) (new : NewOracle) :
    (((add new).perform compound).run w).2.InStep := by
  unfold perform
  dsimp only
  rw [Proc.run_void]
  refine (World.inStep_add_iff h (undisturbed compound new.randomUUID) new.oracle).mpr ?_
  intro adapter hstores hfails
  exact absurd hfails (new.not_initFails hstores.created)

/-! ### One step of a call -/

/-- What a step does to a call that has not taken effect: the call goes on, it is refused as the whole
call would be in this state, or it takes effect as the whole call would. -/
inductive Progress (compound : Js.Value → Js.Value → Bool) (change : RegistryChange) (w : World)
    (p' : Proc JsError World Unit) (w' : World) : Prop
  | waits (hsame : SameRegistry w w') (hwaits : change.Waiting compound p')
  | refused (error : JsError) (hsame : SameRegistry w w') (hp : p' = .reject error)
      (halone : ∀ v, v.oracles = w.oracles →
        ∃ error, (change.perform compound).run v = (.error error, v))
  | stores (oracle : Oracle) (adapter : OracleAdapter) (hid : adapter.oracleId = oracle.id)
      (horacles : w'.oracles = w.oracles ++ [oracle]) (hadapters : w'.adapters = w.adapters)
      (hp : Lists adapter p')
      (halone : Fresh compound oracle w.oracles → ∀ v, v.oracles = w.oracles →
        ∃ v', (change.perform compound).run v = (.ok (), v') ∧ v'.oracles = v.oracles ++ [oracle] ∧
          (v.InStep → v'.InStep))
  | deletes (id : String) (removed : Oracle)
      (hfind : w.oracles.find? (hasId compound (.str id)) = some removed)
      (horacles : w'.oracles = w.oracles.eraseP (hasId compound (.str id)))
      (hadapters : w'.adapters = w.adapters) (hp : Unlists id p')
      (halone : ∀ v, v.oracles = w.oracles → ∃ v', (change.perform compound).run v = (.ok (), v') ∧
        v'.oracles = v.oracles.eraseP (hasId compound (.str id)) ∧
          (v.InStep → Distinct v.oracles → removed.id = .str id → v'.InStep))

theorem Waiting.progress {change : RegistryChange} {p : Proc JsError World Unit}
    (h : change.Waiting compound p) (w : World) :
    change.Progress compound w (p.step w).1 (p.step w).2 := by
  cases change with
  | add new =>
    cases h with
    | check refuses hupdate hrefused hpassed =>
      by_cases hrefuses : refuses w
      · obtain ⟨⟨error, hreject⟩, hnot⟩ := hrefused w hrefuses
        refine .refused error (hupdate w) hreject ?_
        intro v hsame
        exact run_add_refused fun adapter hstores => hnot adapter (stores_congr hsame.symm hstores)
      · exact .waits (hupdate w) (hpassed w hrefuses)
    | store adapter hcreated hupdate hnext =>
      refine .stores _ adapter ?_ (hupdate w).1 (hupdate w).2 (hnext w) ?_
      · exact congrArg Oracle.id (RegistryCall.oracle_of_created hcreated)
      · intro hfresh v hsame
        have hstores := stores_congr hsame (hfresh.stores hcreated)
        obtain ⟨v', hrun, horacles, -⟩ := run_add hstores
        refine ⟨v', hrun, horacles, fun hinStep => ?_⟩
        have hadded := @inStep_run_add compound v hinStep new
        rw [hrun] at hadded
        exact hadded
  | remove id =>
    have hrefuse (hnot : ¬(undisturbed compound "").Deletes id w) (v : World)
        (hsame : v.oracles = w.oracles) :
        ∃ error, ((remove id).perform compound).run v = (.error error, v) :=
      run_remove_refused fun hdeletes => hnot (deletes_congr hsame.symm hdeletes)
    by_cases hdeletes : (undisturbed compound "").Deletes id w
    · cases h with
      | check hupdate hrefused hpassed => exact .waits (hupdate w) (hpassed w hdeletes)
      | delete hupdate hrefused hdeleted =>
        obtain ⟨removed, hfind⟩ := Option.isSome_iff_exists.mp hdeletes.stored
        refine .deletes id removed hfind (hupdate w).1 (hupdate w).2 (hdeleted w hdeletes) ?_
        intro v hsame
        obtain ⟨v', hrun, horacles⟩ := run_remove (deletes_congr hsame hdeletes)
        refine ⟨v', hrun, horacles, fun hinStep hdistinct hid => ?_⟩
        have hremoved := @inStep_run_remove compound id v hinStep hdistinct removed (hsame ▸ hfind) hid
        rw [hrun] at hremoved
        exact hremoved
    · cases h with
      | check hupdate hrefused hpassed =>
        obtain ⟨error, hreject⟩ := hrefused w hdeletes
        exact .refused error (hupdate w) hreject (hrefuse hdeletes)
      | delete hupdate hrefused hdeleted =>
        obtain ⟨error, hreject⟩ := hrefused w hdeletes
        have hnone : ∀ other ∈ w.oracles, ¬hasId compound (.str id) other = true := by
          intro other hother hselected
          apply hdeletes
          refine ⟨rfl, ?_, rfl⟩
          rw [List.find?_isSome]
          exact ⟨other, hother, hselected⟩
        have hsame : SameRegistry w _ :=
          ⟨(hupdate w).1.trans (List.eraseP_of_forall_not hnone), (hupdate w).2⟩
        exact .refused error hsame hreject (hrefuse hdeletes)

end RegistryChange

end AccountLookup
