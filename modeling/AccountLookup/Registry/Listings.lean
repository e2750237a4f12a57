import AccountLookup.Handling.Selection
import AccountLookup.Model.OracleListing
import Mathlib.Data.Set.List

/-! The listings of the associations: which adapters they consult, and when what they return has
everything that the adapters of the oracles list. -/

namespace AccountLookup

open Async

/-! ### The loop over the oracles -/

namespace ListingAggregate

section Loop

variable {σ β : Type} {agg : ListingAggregate (σ × List OracleAdapter)}
  {list : OracleAdapter → Except JsError (Proc JsError (σ × List OracleAdapter) β)}
  {result : OracleAdapter → β} {selection : Oracle → Option OracleAdapter} {s : σ}
  (hlist : ∀ adapter, ∃ call, list adapter = .ok call ∧
    ∀ noted, call.run (s, noted) = (.ok (result adapter), (s, noted ++ [adapter])))
  (hselection : ∀ oracle noted adapter t,
    (agg.getOracleAdapter oracle.partyType oracle.currency).run (s, noted) = (.ok adapter, t) ↔
      selection oracle = some adapter ∧ t = (s, noted))
include hlist hselection

/-- When every call on an adapter notes it and succeeds, a listing succeeds for an oracle exactly
when it has an adapter selected. -/
theorem run_listOracle (failure : String) (oracle : Oracle) (noted : List OracleAdapter) (b : β)
    (t : σ × List OracleAdapter) :
    (agg.listOracle list failure oracle).run (s, noted) = (.ok b, t) ↔
      ∃ adapter, selection oracle = some adapter ∧ b = result adapter ∧
        t = (s, noted ++ [adapter]) := by
  have hcall (adapter : OracleAdapter) (g : JsError → JsError) :
      (do let listed ← Proc.ofExcept (list adapter); listed.rethrow g).run (s, noted) =
        (.ok (result adapter), (s, noted ++ [adapter])) := by
    obtain ⟨call, hok, hnotes⟩ := hlist adapter
    rw [hok, Proc.run_bind_ok (Proc.run_ofExcept _ _)]
    exact Proc.run_rethrow_eq_ok.mpr (hnotes noted)
  unfold listOracle
  rw [Proc.run_bind_eq_ok]
  constructor
  · intro hrun
    obtain ⟨adapter, u, hadapter, hrest⟩ := hrun
    obtain ⟨hselected, rfl⟩ := (hselection ..).mp (Proc.run_rethrow_eq_ok.mp hadapter)
    rw [hcall] at hrest
    obtain ⟨hb, ht⟩ := Prod.mk.inj hrest
    exact ⟨adapter, hselected, (Except.ok.inj hb).symm, ht.symm⟩
  · intro h
    obtain ⟨adapter, hselected, rfl, rfl⟩ := h
    have hadapter := (hselection oracle noted adapter (s, noted)).mpr ⟨hselected, rfl⟩
    exact ⟨adapter, _, Proc.run_rethrow_eq_ok.mpr hadapter, hcall adapter _⟩

/-- The loop succeeds exactly when each oracle has an adapter selected: these are noted, and the
result is that of the last one. -/
theorem run_listOracles (failure : String) (oracles : List Oracle) (initial b : β)
    (noted : List OracleAdapter) (t : σ × List OracleAdapter) :
    (agg.listOracles list failure initial oracles).run (s, noted) = (.ok b, t) ↔
      ∃ consulted, oracles.map selection = consulted.map some ∧
        b = (consulted.map result).getLast?.getD initial ∧ t = (s, noted ++ consulted) := by
  unfold listOracles
  induction oracles generalizing initial noted with
  | nil =>
    rw [List.foldlM_nil, Proc.run_pure]
    constructor
    · rintro ⟨⟩
      exact ⟨[], rfl, rfl, by rw [List.append_nil]⟩
    · rintro ⟨consulted, hconsulted, rfl, rfl⟩
      obtain rfl := List.map_eq_nil_iff.mp hconsulted.symm
      rw [List.append_nil]
      rfl
  | cons oracle oracles ih =>
    rw [List.foldlM_cons, Proc.run_bind_eq_ok]
    constructor
    · intro hrun
      obtain ⟨first, u, hfirst, hrest⟩ := hrun
      obtain ⟨adapter, hselected, rfl, rfl⟩ :=
        (run_listOracle hlist hselection failure oracle noted first u).mp hfirst
      obtain ⟨consulted, hconsulted, rfl, rfl⟩ := (ih (result adapter) _).mp hrest
      refine ⟨adapter :: consulted, ?_, ?_, ?_⟩
      · rw [List.map_cons, List.map_cons, hselected, hconsulted]
      · rw [List.map_cons, List.getLast?_cons, Option.getD_some]
      · rw [List.append_assoc]
        rfl
    · intro h
      obtain ⟨consulted, hconsulted, rfl, rfl⟩ := h
      cases consulted with
      | nil => cases hconsulted
      | cons adapter consulted =>
        rw [List.map_cons, List.map_cons, List.cons.injEq] at hconsulted
        obtain ⟨hselected, hconsulted⟩ := hconsulted
        refine ⟨result adapter, (s, noted ++ [adapter]),
          (run_listOracle hlist hselection failure oracle noted _ _).mpr
            ⟨adapter, hselected, rfl, rfl⟩,
          (ih (result adapter) _).mpr ⟨consulted, hconsulted, ?_, ?_⟩⟩
        · rw [List.map_cons, List.getLast?_cons, Option.getD_some]
        · rw [List.append_assoc]
          rfl

end Loop

end ListingAggregate

/-! ### Listings whose calls succeed -/

/-- What the listing calls on each adapter return. -/
structure ListingAnswers where
  associations : OracleAdapter → List AssociationRecord
  search : OracleAdapter → AssociationSearch → AssociationsSearchResults
  keywords : OracleAdapter → List SearchKeywords

/-- Listing calls that note the adapter and return the answers. -/
def ListingAnswers.listing (answers : ListingAnswers) :
    OracleListing (World × List OracleAdapter) where
  getAllAssociations adapter := do
    note adapter
    pure (answers.associations adapter)
  searchAssociations adapter search := .ok do
    note adapter
    pure (answers.search adapter search)
  getSearchKeywords adapter := .ok do
    note adapter
    pure (answers.keywords adapter)

namespace System

/-- The aggregate of the service with a record of the adapters that it consults, where the listing
calls on the adapters return the answers. -/
def notingListings (env : Environment) (answers : ListingAnswers) :
    ListingAggregate (World × List OracleAdapter) :=
  { (aggregate env).noting with
    getOracle := fun partyType currency =>
      ((MongoOracleFinderRepo.getOracleValue env.compound env.faults partyType currency).zoom
        World.oraclesLens).zoom (.fst _ _)
    oracleListing := answers.listing }

/-- The adapter of an oracle: the first one that is listed for its id. -/
def ownAdapter (w : World) (oracle : Oracle) : Option OracleAdapter :=
  w.adapters.find? fun adapter => adapter.oracleId.strictEq oracle.id

/-- The adapter that is selected for the party type and the currency of an oracle. -/
def adapterOf (env : Environment) (w : World) (oracle : Oracle) : Option OracleAdapter :=
  if env.faults .findOraclesOfType = none then
    (MongoOracleFinderRepo.selectValue env.compound oracle.partyType oracle.currency
      w.oracles).bind (ownAdapter w)
  else none

/-- For the party type and the currency of the oracle, the finder returns an oracle with its id. -/
def Serves (env : Environment) (w : World) (oracle : Oracle) : Prop :=
  env.faults .findOraclesOfType = none ∧
    ∃ selected, MongoOracleFinderRepo.selectValue env.compound oracle.partyType oracle.currency
      w.oracles = some selected ∧ selected.id = oracle.id

section Selection

variable {env : Environment} {answers : ListingAnswers} {w : World}

theorem getOracleAdapter_eq_ok_iff (oracle : Oracle) (noted : List OracleAdapter)
    (adapter : OracleAdapter) (t : World × List OracleAdapter) :
    ((notingListings env answers).getOracleAdapter oracle.partyType oracle.currency).run
        (w, noted) = (.ok adapter, t) ↔
      adapterOf env w oracle = some adapter ∧ t = (w, noted) := by
  unfold ListingAggregate.getOracleAdapter
  rw [Aggregate.getOracleAdapter_eq_ok (fun _ _ => rfl)]
  unfold Aggregate.Selects adapterOf
  simp only [notingListings, Proc.run_zoom, MongoOracleFinderRepo.getOracleValue, Lens.fst,
    Lens.comp, World.oraclesLens, World.adaptersLens, Aggregate.noting, aggregate]
  rw [Proc.run_bind, run_send_rethrow]
  cases env.faults .findOraclesOfType with
  | some error => simp
  | none =>
    dsimp only
    cases MongoOracleFinderRepo.selectValue env.compound oracle.partyType oracle.currency
      w.oracles with
    | none => simp
    | some selected =>
      rw [if_pos rfl, Option.bind_some]
      constructor
      · intro h
        obtain ⟨_, ⟨⟩, hfind⟩ := h
        exact ⟨hfind, rfl⟩
      · intro h
        obtain ⟨hfind, rfl⟩ := h
        exact ⟨selected, rfl, hfind⟩

/-- The query for all oracles fails, or it has the stored ones. -/
theorem run_getAllOracles (env : Environment) (answers : ListingAnswers) (w : World)
    (noted : List OracleAdapter) :
    (notingListings env answers).oracleFinder.getAllOracles.run (w, noted) =
      (match env.faults .findOracles with
        | some error => .error (MongoOracleFinderRepo.failure .unableToGetOracleError
            "Unable to get all oracles" error)
        | none => .ok w.oracles, (w, noted)) := by
  simp only [notingListings, Aggregate.noting, OracleFinder.onFirst, aggregate, oracleFinder,
    MongoOracleFinderRepo.getAllOracles, Proc.run_zoom, run_send_rethrow, Lens.fst,
    World.oraclesLens]
  cases env.faults .findOracles <;> rfl

/-- An oracle whose adapter is listed has it selected exactly when the finder returns an oracle with
its id. -/
theorem adapterOf_eq_iff {oracle : Oracle} (h : Listed w oracle.id) :
    adapterOf env w oracle = ownAdapter w oracle ↔ Serves env w oracle := by
  unfold adapterOf Serves
  have hown : ownAdapter w oracle ≠ none := listed_iff.mp h
  by_cases hfault : env.faults .findOraclesOfType = none
  · rw [if_pos hfault]
    cases MongoOracleFinderRepo.selectValue env.compound oracle.partyType oracle.currency
      w.oracles with
    | none =>
      rw [Option.bind_none]
      simpa [hfault] using hown.symm
    | some selected =>
      rw [Option.bind_some]
      have hsame : ownAdapter w selected = ownAdapter w oracle ↔ selected.id = oracle.id := by
        refine find_adapter_eq_iff.trans (or_iff_left ?_)
        intro hboth
        exact hboth.2 h
      simpa [hfault] using hsame
  · rw [if_neg hfault]
    simp only [hfault, false_and, iff_false]
    exact hown.symm

end Selection

/-! ### Complete listings -/

section Complete

variable {α β : Type}

/-- The own adapter of the oracle lists `a`. -/
def OwnLists (w : World) (lists : OracleAdapter → α → Prop) (oracle : Oracle) (a : α) : Prop :=
  ∃ adapter, ownAdapter w oracle = some adapter ∧ lists adapter a

/-- The call succeeded, its result has what the own adapter of each oracle lists, and it consulted
the own adapters of the oracles, in their order. -/
def Complete (w : World) (oracles : List Oracle) (lists : OracleAdapter → α → Prop)
    (has : β → α → Prop) (outcome : Except JsError β × World × List OracleAdapter) : Prop :=
  ∃ result, outcome.1 = .ok result ∧ (∀ oracle ∈ oracles, ∀ a, OwnLists w lists oracle a →
    has result a) ∧ outcome.2.2.map some = oracles.map (ownAdapter w)

/-- What the own adapter of any of the oracles lists, that of the last one lists. -/
def LastLists (w : World) (oracles : List Oracle) (lists : OracleAdapter → α → Prop) : Prop :=
  ∀ last, oracles.getLast? = some last → ∀ oracle ∈ oracles, ∀ a, OwnLists w lists oracle a →
    OwnLists w lists last a

variable {env : Environment} {answers : ListingAnswers} {w : World}
  {list : OracleAdapter → Except JsError (Proc JsError (World × List OracleAdapter) β)}
  {result : OracleAdapter → β} {lists : OracleAdapter → α → Prop} {has : β → α → Prop}

/-- A loop over oracles whose adapters are listed is complete exactly when each oracle has its own
adapter selected and the last one lists everything. -/
theorem complete_listOracles_iff
    (hlist : ∀ adapter, ∃ call, list adapter = .ok call ∧
      ∀ noted, call.run (w, noted) = (.ok (result adapter), (w, noted ++ [adapter])))
    (hhas : ∀ adapter a, has (result adapter) a ↔ lists adapter a) {oracles : List Oracle}
    (hlisted : ∀ oracle ∈ oracles, Listed w oracle.id) (failure : String) (initial : β) :
    Complete w oracles lists has
        (((notingListings env answers).listOracles list failure initial oracles).run (w, [])) ↔
      (∀ oracle ∈ oracles, Serves env w oracle) ∧ LastLists w oracles lists := by
  have hrun (b : β) (t : World × List OracleAdapter) :=
    ListingAggregate.run_listOracles hlist (@getOracleAdapter_eq_ok_iff env answers w) failure
      oracles initial b [] t
  generalize ((notingListings env answers).listOracles list failure initial oracles).run (w, []) =
    outcome at hrun ⊢
  obtain ⟨returned, state⟩ := outcome
  have hserves : oracles.map (adapterOf env w) = oracles.map (ownAdapter w) ↔
      ∀ oracle ∈ oracles, Serves env w oracle := by
    rw [List.map_inj_left]
    exact forall₂_congr fun oracle hmem => adapterOf_eq_iff (hlisted oracle hmem)
  constructor
  · intro h
    obtain ⟨b, rfl, hall, hnoted⟩ := h
    obtain ⟨consulted, hselected, rfl, rfl⟩ := (hrun b state).mp rfl
    replace hnoted : consulted.map some = oracles.map (ownAdapter w) := hnoted
    refine ⟨hserves.mp (hselected.trans hnoted), ?_⟩
    intro last hlast oracle hmem a ha
    have hlastAdapter := congrArg List.getLast? hnoted
    rw [List.getLast?_map, List.getLast?_map, hlast, Option.map_some,
      Option.map_eq_some_iff] at hlastAdapter
    obtain ⟨adapter, hadapter, hown⟩ := hlastAdapter
    have hhasLast := hall oracle hmem a ha
    rw [List.getLast?_map, hadapter, Option.map_some, Option.getD_some, hhas] at hhasLast
    exact ⟨adapter, hown.symm, hhasLast⟩
  · intro h
    obtain ⟨hown, hlast⟩ := h
    obtain ⟨consulted, hconsulted⟩ :
        ∃ consulted : List OracleAdapter, consulted.map some = oracles.map (ownAdapter w) := by
      rw [← Set.mem_range, Set.range_list_map]
      intro own hmem
      obtain ⟨oracle, horacle, rfl⟩ := List.mem_map.mp hmem
      obtain ⟨adapter, hadapter⟩ := Option.ne_none_iff_exists.mp (listed_iff.mp (hlisted _ horacle))
      exact ⟨adapter, hadapter⟩
    have hresult := (hrun ((consulted.map result).getLast?.getD initial) _).mpr
      ⟨consulted, (hserves.mpr hown).trans hconsulted.symm, rfl, rfl⟩
    rw [hresult]
    refine ⟨_, rfl, ?_, hconsulted⟩
    intro oracle hmem a ha
    have hlastOracle := List.getLast?_eq_some_getLast (List.ne_nil_of_mem hmem)
    obtain ⟨adapter, hadapter, hlists⟩ := hlast _ hlastOracle oracle hmem a ha
    have hlastAdapter := congrArg List.getLast? hconsulted
    rw [List.getLast?_map, List.getLast?_map, hlastOracle, Option.map_some, hadapter,
      Option.map_eq_some_iff] at hlastAdapter
    obtain ⟨_, hconsultedLast, ⟨⟩⟩ := hlastAdapter
    rw [List.getLast?_map, hconsultedLast, Option.map_some, Option.getD_some, hhas]
    exact hlists

/-- The same for a listing, which fails when the query for all oracles does. -/
theorem complete_listing_iff
    (hlist : ∀ adapter, ∃ call, list adapter = .ok call ∧
      ∀ noted, call.run (w, noted) = (.ok (result adapter), (w, noted ++ [adapter])))
    (hhas : ∀ adapter a, has (result adapter) a ↔ lists adapter a)
    (choose : List Oracle → List Oracle)
    (hlisted : ∀ oracle ∈ choose w.oracles, Listed w oracle.id) (failure : String) (initial : β) :
    Complete w (choose w.oracles) lists has
        ((do
          let oracles ← (notingListings env answers).oracleFinder.getAllOracles
          (notingListings env answers).listOracles list failure initial (choose oracles)).run
            (w, [])) ↔
      env.faults .findOracles = none ∧ (∀ oracle ∈ choose w.oracles, Serves env w oracle) ∧
        LastLists w (choose w.oracles) lists := by
  have hquery := run_getAllOracles env answers w []
  cases hfault : env.faults .findOracles with
  | some error =>
    rw [hfault] at hquery
    rw [Proc.run_bind_error hquery]
    simp [Complete]
  | none =>
    rw [hfault] at hquery
    rw [Proc.run_bind_ok hquery, complete_listOracles_iff hlist hhas hlisted]
    simp

end Complete

/-- The oracles that `getBuiltInOracleAssociations` goes through. -/
def builtinOracles (w : World) : List Oracle :=
  w.oracles.filter fun o => o.type.strictEq (.str "builtin")

/-- The keywords cover the term of the field. -/
def CoversTerm (keywords : List SearchKeywords) (term : String × Js.Str) : Prop :=
  ∃ part ∈ keywords, part.fieldName = term.1 ∧ term.2 ∈ part.distinctTerms

end System

namespace ListingAnswers

variable (answers : ListingAnswers)

/-- The adapter lists the association. -/
def Lists (adapter : OracleAdapter) (association : AssociationRecord) : Prop :=
  association ∈ answers.associations adapter

/-- The adapter finds the association in a search. -/
def Finds (search : AssociationSearch) (adapter : OracleAdapter) (association : AssociationRecord) :
    Prop :=
  association ∈ (answers.search adapter search).items

/-- The adapter returns the term of the field. -/
def Terms (adapter : OracleAdapter) (term : String × Js.Str) : Prop :=
  System.CoversTerm (answers.keywords adapter) term

end ListingAnswers

namespace System

/-- The three listings are complete. -/
structure CompleteListings (env : Environment) (answers : ListingAnswers)
    (search : AssociationSearch) (w : World) : Prop where
  builtin : Complete w (builtinOracles w) answers.Lists (fun associations a => a ∈ associations)
    ((notingListings env answers).getBuiltInOracleAssociations.run (w, []))
  all : Complete w w.oracles (answers.Finds search) (fun found a => ∃ r ∈ found, a ∈ r.items)
    (((notingListings env answers).getAllOracleAssociations search).run (w, []))
  keywords : Complete w w.oracles answers.Terms CoversTerm
    ((notingListings env answers).getSearchKeywords.run (w, []))

/-- When every oracle has its adapter listed, the listings are complete exactly when the query for
all oracles succeeds, the finder returns each oracle, or one with its id, for its own party type and
currency, and what the adapters list, that of the last oracle lists. -/
theorem completeListings_iff (env : Environment) (answers : ListingAnswers)
    (search : AssociationSearch) (w : World) (h : ∀ oracle ∈ w.oracles, Listed w oracle.id) :
    CompleteListings env answers search w ↔
      env.faults .findOracles = none ∧ (∀ oracle ∈ w.oracles, Serves env w oracle) ∧
        LastLists w (builtinOracles w) answers.Lists ∧
        LastLists w w.oracles (answers.Finds search) ∧ LastLists w w.oracles answers.Terms := by
  have hbuiltin : ∀ oracle ∈ builtinOracles w, oracle ∈ w.oracles :=
    fun _ hmem => List.mem_of_mem_filter hmem
  have hassociations := @complete_listing_iff _ _ env answers w
    (fun adapter => .ok ((notingListings env answers).oracleListing.getAllAssociations adapter))
    answers.associations answers.Lists (fun associations a => a ∈ associations)
    (fun adapter => ⟨_, rfl, fun _ => rfl⟩) (fun _ _ => Iff.rfl)
    (fun oracles => oracles.filter fun o => o.type.strictEq (.str "builtin"))
    (fun oracle hmem => h oracle (hbuiltin oracle hmem))
    "Unable to get oracle associations for oracle: " []
  have hsearch := @complete_listing_iff _ _ env answers w
    (fun adapter => ((notingListings env answers).oracleListing.searchAssociations adapter
      search).map fun results => do
        let found ← results
        pure (some found))
    (fun adapter => some (answers.search adapter search)) (answers.Finds search)
    (fun found a => ∃ r ∈ found, a ∈ r.items)
    (fun adapter => ⟨_, rfl, fun _ => rfl⟩) (fun _ _ => by simp [ListingAnswers.Finds]) id h
    "Unable to get oracle associations for oracle: " none
  have hkeywords := @complete_listing_iff _ _ env answers w
    (notingListings env answers).oracleListing.getSearchKeywords answers.keywords answers.Terms
    CoversTerm (fun adapter => ⟨_, rfl, fun _ => rfl⟩) (fun _ _ => Iff.rfl) id h
    "Unable to get oracle search keywords for oracle: " []
  constructor
  · intro hcomplete
    obtain ⟨hquery, hserves, hall⟩ := hsearch.mp hcomplete.all
    exact ⟨hquery, hserves, (hassociations.mp hcomplete.builtin).2.2, hall,
      (hkeywords.mp hcomplete.keywords).2.2⟩
  · intro hcondition
    obtain ⟨hquery, hserves, hlists, hfinds, hterms⟩ := hcondition
    exact ⟨hassociations.mpr ⟨hquery, fun oracle hmem => hserves oracle (hbuiltin oracle hmem),
      hlists⟩, hsearch.mpr ⟨hquery, hserves, hfinds⟩, hkeywords.mpr ⟨hquery, hserves, hterms⟩⟩

/-! ### Two oracles -/

/-- A registry of two builtin oracles, the second for the party type. -/
def twoOracles (partyType : String) : World :=
  let second := { builtinOracle with
    id := .str "2", name := .str "second", partyType := .str partyType }
  { builtinWorld with
    oracles := [builtinOracle, second]
    adapters := [⟨.builtin, builtinOracle⟩, ⟨.builtin, second⟩] }

theorem listed_twoOracles (partyType : String) :
    ∀ oracle ∈ (twoOracles partyType).oracles, Listed (twoOracles partyType) oracle.id := by
  intro oracle hmem
  rcases List.mem_cons.mp hmem with rfl | hmem
  · exact ⟨_, List.mem_cons_self, rfl⟩
  · rw [List.mem_singleton.mp hmem]
    exact ⟨_, List.mem_cons_of_mem _ List.mem_cons_self, rfl⟩

/-- A party with the id of the adapter. -/
def partyOf (adapter : OracleAdapter) : AssociationRecord where
  fspId := .val "bluebank"
  partyType := .val adapter.oracle.partyType.text
  partyId := .val adapter.oracleId.text
  partySubType := .null
  currency := .null

/-- Each adapter lists one party. -/
def oneParty : ListingAnswers where
  associations adapter := [partyOf adapter]
  search adapter _ := ⟨.num 100, .num 1, .num 0, [partyOf adapter]⟩
  keywords adapter := [⟨"partyType", [.val adapter.oracle.partyType.text]⟩]

/-- A search for all associations. -/
def everything : AssociationSearch where
  fspId := .null
  partyId := .null
  partyType := .null
  partySubType := .null
  currency := .null
  pageIndex := none
  pageSize := none

theorem completeListings_iff_twoOracles :
    CompleteListings (withFaults .none) oneParty everything (twoOracles "IBAN") ↔
      (withFaults .none).faults .findOracles = none ∧
        (∀ oracle ∈ (twoOracles "IBAN").oracles,
          Serves (withFaults .none) (twoOracles "IBAN") oracle) ∧
        LastLists (twoOracles "IBAN") (builtinOracles (twoOracles "IBAN")) oneParty.Lists ∧
        LastLists (twoOracles "IBAN") (twoOracles "IBAN").oracles (oneParty.Finds everything) ∧
        LastLists (twoOracles "IBAN") (twoOracles "IBAN").oracles oneParty.Terms :=
  completeListings_iff (withFaults .none) oneParty everything (twoOracles "IBAN")
    (listed_twoOracles "IBAN")

/-- Of two oracles for different party types only the last one is listed; of two oracles for one
party type the first one is consulted twice. -/
theorem not_completeListings :
    (((notingListings (withFaults .none) oneParty).getBuiltInOracleAssociations.run
        (twoOracles "IBAN", [])).1.toOption.map fun associations =>
          associations.map (·.partyId)) = some [.val "2"] ∧
      ¬CompleteListings (withFaults .none) oneParty everything (twoOracles "IBAN") ∧
      ((notingListings (withFaults .none) oneParty).getBuiltInOracleAssociations.run
        (twoOracles "MSISDN", [])).2.2.map OracleAdapter.oracleId = [.str "1", .str "1"] ∧
      ¬CompleteListings (withFaults .none) oneParty everything (twoOracles "MSISDN") := by
  have hresult : ((notingListings (withFaults .none) oneParty).getBuiltInOracleAssociations.run
      (twoOracles "IBAN", [])).1.toOption = some [⟨.val "bluebank", .val "IBAN", .val "2", .null,
        .null⟩] := by
    decide +kernel
  have hconsulted : ((notingListings (withFaults .none)
      oneParty).getBuiltInOracleAssociations.run (twoOracles "MSISDN", [])).2.2.map
        OracleAdapter.oracleId = [.str "1", .str "1"] := by
    decide +kernel
  refine ⟨by rw [hresult]; rfl, ?_, hconsulted, ?_⟩
  · intro hcomplete
    obtain ⟨associations, hok, hall, -⟩ := hcomplete.builtin
    rw [hok] at hresult
    have hfirst := hall builtinOracle (by decide +kernel)
      (partyOf ⟨.builtin, builtinOracle⟩)
      ⟨⟨.builtin, builtinOracle⟩, by decide +kernel, List.mem_singleton_self _⟩
    rw [Option.some.inj hresult] at hfirst
    revert hfirst
    decide +kernel
  · intro hcomplete
    obtain ⟨-, -, -, hnoted⟩ := hcomplete.builtin
    have hids := congrArg (List.map (Option.map OracleAdapter.oracleId)) hnoted
    have hown : ((builtinOracles (twoOracles "MSISDN")).map
        (ownAdapter (twoOracles "MSISDN"))).map (Option.map OracleAdapter.oracleId) =
          [some (.str "1"), some (.str "2")] := by
      decide +kernel
    have hsome (adapters : List OracleAdapter) :
        (adapters.map some).map (Option.map OracleAdapter.oracleId) =
          (adapters.map OracleAdapter.oracleId).map some := by
      rw [List.map_map, List.map_map]
      rfl
    rw [hown, hsome, hconsulted] at hids
    exact absurd hids (by decide)

end System

end AccountLookup
