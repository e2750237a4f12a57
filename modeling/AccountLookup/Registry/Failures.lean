import AccountLookup.Async.Triple
import AccountLookup.Builtin.Search
import AccountLookup.Model.BuiltinListing
import AccountLookup.Registry.Listings

/-! Searches whose queries fail: what the builtin adapters and the listing of all associations make of
a failure. -/

namespace AccountLookup

open Async

namespace MongoOracleProviderRepo

variable (engine : SearchEngine)

/-- The query for the items of a search fails, in the database or because its filter is refused. -/
def ItemsFail (faults : Faults) (search : AssociationSearch) (parties : List AssociationRecord) :
    Prop :=
  (faults .findAssociations).isSome = true ∨
    ∃ error, findPage engine (filterOf search) (skipOf search) parties = .error error

/-- One of the two queries of a search fails: that for its items, or the one that counts them. -/
def QueryFails (faults : Faults) (search : AssociationSearch) (parties : List AssociationRecord) :
    Prop :=
  ItemsFail engine faults search parties ∨ (faults .countAssociations).isSome = true ∨
    ∃ error, find engine (filterOf search) parties = .error error

variable {engine} {faults : Faults} {search : AssociationSearch} {s : BuiltinStore}

/-- A search resolves whether its queries fail or not: without items when the first one fails, and
with the number of pages still at zero when either does. -/
theorem run_searchAssociations (engine : SearchEngine) (faults : Faults) (search : AssociationSearch)
    (s : BuiltinStore) :
    ∃ results, (searchAssociations engine faults search).run s = (.ok results, s) ∧
      (ItemsFail engine faults search s.parties → results.items = []) ∧
      (QueryFails engine faults search s.parties → results.totalPages = .int 0) := by
  unfold searchAssociations QueryFails ItemsFail
  rw [Proc.run_attempt_bind, run_query]
  cases hfind : faults .findAssociations with
  | some error => exact ⟨_, rfl, fun _ => rfl, fun _ => rfl⟩
  | none =>
    cases hpage : findPage engine (filterOf search) (skipOf search) s.parties with
    | error error => exact ⟨_, rfl, fun _ => rfl, fun _ => rfl⟩
    | ok found =>
      dsimp only
      rw [Proc.run_attempt_bind, run_query]
      cases hcount : faults .countAssociations with
      | some error => exact ⟨_, rfl, by simp, fun _ => rfl⟩
      | none =>
        cases hall : find engine (filterOf search) s.parties with
        | error error => exact ⟨_, rfl, by simp, fun _ => rfl⟩
        | ok all => exact ⟨_, rfl, by simp, by simp⟩

end MongoOracleProviderRepo

open MongoOracleProviderRepo

namespace System

/-- The aggregate of the service with a record of the adapters that it consults, where the commands
of its searches fail as `fates` says for the first search, the second and so on.  `listing` has the
other methods of the adapters. -/
def notingSearches (env : Environment) (engine : SearchEngine) (fates : Nat → Faults)
    (listing : OracleListing (World × List OracleAdapter)) :
    ListingAggregate (World × List OracleAdapter) :=
  { (aggregate env).noting with
    getOracle := fun partyType currency =>
      ((MongoOracleFinderRepo.getOracleValue env.compound env.faults partyType currency).zoom
        World.oraclesLens).zoom (.fst _ _)
    oracleListing :=
      { listing with
        searchAssociations := fun adapter search =>
          match adapter.type with
          | .builtin => .ok do
            let made ← Proc.read fun s => s.2.length
            note adapter
            (searchBuiltin engine (fates made) search).zoom (.fst _ _)
          | .remoteHttp => HttpOracleProvider.searchAssociations } }

/-- The outcome of `getAllOracleAssociations` with a record of the adapters that were searched. -/
abbrev SearchOutcome :=
  Except JsError (Option AssociationsSearchResults) × World × List OracleAdapter

/-- A query of one of the searches that were made fails. -/
def SearchFailed (engine : SearchEngine) (fates : Nat → Faults) (search : AssociationSearch)
    (w : World) (outcome : SearchOutcome) : Prop :=
  ∃ made < outcome.2.2.length, QueryFails engine (fates made) search w.builtin.parties

/-- The failure is reported by the error for associations that cannot be listed. -/
def Reported (outcome : SearchOutcome) : Prop :=
  ∃ message, outcome.1 = .error ⟨.unableToGetOracleAssociationsError, message⟩

/-- The results of the last search are returned, without pages when one of its queries failed. -/
def Hidden (engine : SearchEngine) (fates : Nat → Faults) (search : AssociationSearch) (w : World)
    (outcome : SearchOutcome) : Prop :=
  ∃ results, outcome.1 = .ok (some results) ∧ ∀ last, outcome.2.2.length = last + 1 →
    QueryFails engine (fates last) search w.builtin.parties → results.totalPages = .num 0

section Loop

variable {env : Environment} {engine : SearchEngine} {fates : Nat → Faults}
  {listing : OracleListing (World × List OracleAdapter)} {search : AssociationSearch} {w : World}

/-- What has been found after the searches so far: they left the registry and the store as they were,
and when a query of the last one failed, its results have no pages. -/
def Searched (engine : SearchEngine) (fates : Nat → Faults) (search : AssociationSearch) (w : World)
    (found : Option AssociationsSearchResults) (s : World × List OracleAdapter) : Prop :=
  s.1 = w ∧ ∀ last, s.2.length = last + 1 → ∃ results, found = some results ∧
    (QueryFails engine (fates last) search w.builtin.parties → results.totalPages = .num 0)

/-- An adapter is not found for an oracle, or no search has been made. -/
def Unsearched (error : JsError) (s : World × List OracleAdapter) : Prop :=
  error.cls = .oracleNotFoundError ∨ s.2 = []

theorem run_searchBuiltin (faults : Faults) (noted : List OracleAdapter) :
    ∃ results, ((searchBuiltin engine faults search).zoom (.fst World (List OracleAdapter))).run
        (w, noted) = (.ok results, (w, noted)) ∧
      (QueryFails engine faults search w.builtin.parties → results.totalPages = .num 0) := by
  obtain ⟨results, hrun, -, htotal⟩ := run_searchAssociations engine faults search w.builtin
  refine ⟨results.toJson, ?_, ?_⟩
  · have hzoom : ((MongoOracleProviderRepo.searchAssociations engine faults search).zoom
        World.builtinLens).run w = (.ok results, w) := by
      rw [Proc.run_zoom]
      dsimp only [World.builtinLens]
      rw [hrun]
    unfold searchBuiltin
    rw [Proc.run_zoom]
    dsimp only [Lens.fst]
    rw [Proc.run_bind_ok hzoom]
    rfl
  · intro hfails
    unfold SearchResults.toJson
    rw [htotal hfails]
    rfl

/-- A search by a builtin adapter is noted, and resolves. -/
theorem run_search {adapter : OracleAdapter} (hbuiltin : adapter.type = .builtin)
    (noted : List OracleAdapter) :
    ∃ call results,
      (notingSearches env engine fates listing).oracleListing.searchAssociations adapter search =
        .ok call ∧ call.run (w, noted) = (.ok results, (w, noted ++ [adapter])) ∧
      (QueryFails engine (fates noted.length) search w.builtin.parties →
        results.totalPages = .num 0) := by
  obtain ⟨results, hrun, htotal⟩ :=
    @run_searchBuiltin engine search w (fates noted.length) (noted ++ [adapter])
  simp only [notingSearches, hbuiltin]
  refine ⟨_, results, rfl, ?_, htotal⟩
  rw [Proc.run_bind_ok (Proc.run_read _ _), note, Proc.run_bind_ok (Proc.run_modify _ _)]
  exact hrun

theorem mem_of_adapterOf {oracle : Oracle} {adapter : OracleAdapter}
    (h : adapterOf env w oracle = some adapter) : adapter ∈ w.adapters := by
  unfold adapterOf at h
  split at h
  · obtain ⟨selected, -, hown⟩ := Option.bind_eq_some_iff.mp h
    exact List.mem_of_find?_eq_some hown
  · cases h

/-- The selection of an adapter, which does not depend on the listing methods. -/
theorem getOracleAdapter_searches (oracle : Oracle) (found : Option AssociationsSearchResults) :
    (((notingSearches env engine fates listing).getOracleAdapter oracle.partyType
        oracle.currency).rethrow fun error =>
          ⟨.oracleNotFoundError, "Unable to get oracle provider for oracle: " ++ oracle.id.text ++
            " " ++ error.message⟩).Triple
      (Searched engine fates search w found) (fun adapter s => s.1 = w ∧ adapter ∈ w.adapters)
      Unsearched := by
  intro s hs
  obtain ⟨v, noted⟩ := s
  obtain rfl : w = v := hs.1.symm
  have hselected (adapter : OracleAdapter) (t : World × List OracleAdapter) :=
    (@getOracleAdapter_eq_ok_iff env oneParty w oracle noted adapter t).mp
  rw [Proc.run_rethrow]
  rcases hrun : ((notingSearches env engine fates listing).getOracleAdapter oracle.partyType
    oracle.currency).run (w, noted) with ⟨error | adapter, t⟩
  · exact .inl rfl
  · obtain ⟨hadapter, rfl⟩ := hselected adapter t hrun
    exact ⟨rfl, mem_of_adapterOf hadapter⟩

variable (hbuiltin : ∀ adapter ∈ w.adapters, adapter.type = .builtin)
include hbuiltin

/-- The step: what the listing does for an oracle. -/
theorem listOracle_searches (oracle : Oracle) (found : Option AssociationsSearchResults) :
    ((notingSearches env engine fates listing).listOracle
        (fun adapter => ((notingSearches env engine fates listing).oracleListing.searchAssociations
          adapter search).map fun results => do
            let found ← results
            pure (some found))
        "Unable to get oracle associations for oracle: " oracle).Triple
      (Searched engine fates search w found) (Searched engine fates search w) Unsearched := by
  unfold ListingAggregate.listOracle
  refine (getOracleAdapter_searches oracle found).bind ?_
  intro adapter s hs
  obtain ⟨v, noted⟩ := s
  obtain ⟨hv, hmem⟩ := hs
  obtain rfl : w = v := hv.symm
  obtain ⟨call, results, hcall, hrun, htotal⟩ :=
    @run_search env engine fates listing search w adapter (hbuiltin adapter hmem) noted
  dsimp only
  rw [Proc.run_bind, Proc.run_ofExcept, hcall]
  dsimp only [Except.map]
  rw [Proc.run_rethrow, Proc.run_bind_ok hrun]
  refine ⟨rfl, ?_⟩
  intro last hlast
  have hlength : noted.length = last := by simpa using hlast
  rw [← hlength]
  exact ⟨results, rfl, htotal⟩

variable (env engine fates listing search)

/-- The whole call. -/
theorem getAllOracleAssociations_searches :
    ((notingSearches env engine fates listing).getAllOracleAssociations search).Triple
      (fun s => s = (w, [])) (Searched engine fates search w) Unsearched := by
  unfold ListingAggregate.getAllOracleAssociations
  apply Proc.Triple.bind (Q := fun _ s => s = (w, []))
  · rintro _ rfl
    have hquery : (notingSearches env engine fates listing).oracleFinder.getAllOracles.run (w, []) =
        _ := run_getAllOracles env oneParty w []
    rw [hquery]
    cases env.faults .findOracles with
    | some error => exact .inr rfl
    | none => rfl
  · intro oracles
    refine (Proc.Triple.foldlM (Searched engine fates search w)
      (fun found oracle => listOracle_searches hbuiltin oracle found) oracles none).mono ?_
      (fun _ _ h => h) fun _ _ h => h
    rintro _ rfl
    exact ⟨rfl, nofun⟩

omit hbuiltin in
/-- A call in which a search was made rejects because an adapter is not found, or it returns the
results of its last search. -/
theorem not_reported_of_failed {outcome : SearchOutcome}
    (hok : ∀ found t, outcome = (.ok found, t) → Searched engine fates search w found t)
    (herror : ∀ error t, outcome = (.error error, t) → Unsearched error t)
    (hfailed : SearchFailed engine fates search w outcome) :
    ¬Reported outcome ∧
      ((∃ message, outcome.1 = .error ⟨.oracleNotFoundError, message⟩) ∨
        Hidden engine fates search w outcome) := by
  obtain ⟨made, hmade, -⟩ := hfailed
  rcases outcome with ⟨⟨cls, message⟩ | found, v, noted⟩
  · rcases herror _ _ rfl with hcls | hnone
    · have hcls : cls = .oracleNotFoundError := hcls
      subst hcls
      exact ⟨nofun, .inl ⟨message, rfl⟩⟩
    · rw [show noted = [] from hnone] at hmade
      cases hmade
  · have hsearched := (hok _ _ rfl).2
    obtain ⟨last, hlast⟩ := Nat.exists_eq_add_one_of_ne_zero (Nat.ne_zero_of_lt hmade)
    obtain ⟨results, rfl, -⟩ := hsearched last hlast
    refine ⟨nofun, .inr ⟨results, rfl, ?_⟩⟩
    intro last hlast
    obtain ⟨_, ⟨⟩, htotal⟩ := hsearched last hlast
    exact htotal

end Loop

/-- In a registry of builtin oracles, a call of which a query failed never reports it: it rejects when
no adapter is found for an oracle that comes later, and otherwise the failure is hidden. -/
theorem failure_not_reported (env : Environment) (engine : SearchEngine) (fates : Nat → Faults)
    (listing : OracleListing (World × List OracleAdapter)) (search : AssociationSearch) {w : World}
    (hbuiltin : ∀ adapter ∈ w.adapters, adapter.type = .builtin)
    (hfailed : SearchFailed engine fates search w
      (((notingSearches env engine fates listing).getAllOracleAssociations search).run (w, []))) :
    let outcome :=
      ((notingSearches env engine fates listing).getAllOracleAssociations search).run (w, [])
    ¬Reported outcome ∧
      ((∃ message, outcome.1 = .error ⟨.oracleNotFoundError, message⟩) ∨
        Hidden engine fates search w outcome) := by
  have hcall := getAllOracleAssociations_searches env engine fates listing search hbuiltin
  exact not_reported_of_failed engine fates search (fun _ _ hrun => hcall.ok rfl hrun)
    (fun _ _ hrun => hcall.error rfl hrun) hfailed

/-! ### A registry of one oracle -/

/-- The database refuses the command. -/
def refuses (refused : Command) : Faults := fun command =>
  if command = refused then some ⟨.error, "connection pool cleared"⟩ else none

/-- One association in the store of the builtin oracles. -/
def searchedWorld : World :=
  { builtinWorld with
    builtin := ⟨[partyOf ⟨.builtin, builtinOracle⟩], Store.Cache.empty, []⟩ }

/-- The outcome of a search for all associations in which a command is refused. -/
def refusedSearch (refused : Command) : SearchOutcome :=
  ((notingSearches (withFaults .none) plainEngine (fun _ => refuses refused)
    oneParty.listing).getAllOracleAssociations everything).run (searchedWorld, [])

theorem failure_not_reported_items :
    ¬Reported (refusedSearch .findAssociations) ∧
      ((∃ message, (refusedSearch .findAssociations).1 =
          .error ⟨.oracleNotFoundError, message⟩) ∨
        Hidden plainEngine (fun _ => refuses .findAssociations) everything searchedWorld
          (refusedSearch .findAssociations)) := by
  have hbuiltin : ∀ adapter ∈ searchedWorld.adapters, adapter.type = .builtin := by
    decide
  have hlength : (refusedSearch .findAssociations).2.2.length = 1 := by
    decide +kernel
  have hmade : 0 < (refusedSearch .findAssociations).2.2.length := by
    rw [hlength]
    decide
  exact failure_not_reported (withFaults .none) plainEngine (fun _ => refuses .findAssociations)
    oneParty.listing everything hbuiltin ⟨0, hmade, .inl (.inl rfl)⟩

/-- When the first query fails, the result has no items, although an association is stored; when the
second fails, it has that association as its items, and no pages. -/
theorem not_reported :
    (refusedSearch .findAssociations).1 = .ok (some ⟨.num 100, .num 0, .num 0, []⟩) ∧
      (refusedSearch .countAssociations).1 =
        .ok (some ⟨.num 100, .num 0, .num 0, searchedWorld.builtin.parties⟩) ∧
      ¬Reported (refusedSearch .findAssociations) ∧ ¬Reported (refusedSearch .countAssociations) := by
  have hitems : (refusedSearch .findAssociations).1 =
      .ok (some ⟨.num 100, .num 0, .num 0, []⟩) := by
    decide +kernel
  have hcount : (refusedSearch .countAssociations).1 =
      .ok (some ⟨.num 100, .num 0, .num 0, searchedWorld.builtin.parties⟩) := by
    decide +kernel
  refine ⟨hitems, hcount, ?_, ?_⟩
  · unfold Reported
    rw [hitems]
    exact nofun
  · unfold Reported
    rw [hcount]
    exact nofun

end System

end AccountLookup
