import AccountLookup.Builtin.Provider
import AccountLookup.Runs.Invariant
import Mathlib.Tactic.SplitIfs

/-! Disassociation and the cache of the builtin oracles: when the cache cannot bring back an owner
that was disassociated. -/

namespace AccountLookup

open Async Store MongoOracleProviderRepo

/-- A request on the builtin oracles, or the end of the life of a cache entry.  No request reads the
cache after it has written to a store, so an entry that expires during one could have expired before
or after it. -/
inductive OracleRequest where
  | associate (fspId : String) (partyType partyId partySubType currency : Js.Str)
  | disassociate (fspId : String) (partyType partyId partySubType currency : Js.Str)
  | lookup (partyType partyId partySubType currency : Js.Str)
  | expire (key : String)
  deriving DecidableEq, Repr

/-- The run of a request when no command fails; its value is the answer to a lookup. -/
def OracleRequest.serve : OracleRequest → Proc JsError BuiltinStore Js.Str
  | .associate fspId partyType partyId partySubType currency => do
    associateParticipant .none (.val fspId) partyType partyId partySubType currency
    pure .null
  | .disassociate fspId partyType partyId partySubType currency => do
    disassociateParticipant .none (.val fspId) partyType partyId partySubType currency
    pure .null
  | .lookup partyType partyId partySubType currency =>
    getParticipantFspId .none partyType partyId partySubType currency
  | .expire key => do
    Proc.modify fun s => { s with cache := s.cache.del key }
    pure .null

/-- An owner of a party, where an absent field of the party and `null` are the same. -/
structure Ownership where
  fspId : String
  partyType : Js.Str
  partyId : Js.Str
  deriving DecidableEq, Repr

namespace Ownership

def of (fspId : String) (partyType partyId : Js.Str) : Ownership :=
  ⟨fspId, partyType.orNull, partyId.orNull⟩

def IsOf (owned : Ownership) (document : AssociationRecord) : Prop :=
  document.fspId = .val owned.fspId ∧ document.partyType.orNull = owned.partyType ∧
    document.partyId.orNull = owned.partyId

instance (owned : Ownership) (document : AssociationRecord) : Decidable (owned.IsOf document) := by
  unfold IsOf
  infer_instance

/-- The collection holds a document of the ownership. -/
def HeldIn (owned : Ownership) (parties : List AssociationRecord) : Prop :=
  ∃ document ∈ parties, owned.IsOf document

instance (owned : Ownership) (parties : List AssociationRecord) :
    Decidable (owned.HeldIn parties) := by
  unfold HeldIn
  infer_instance

theorem isOf_of {fspId : String} {partyType partyId : Js.Str} {document : AssociationRecord} :
    (of fspId partyType partyId).IsOf document ↔
      document.IsOf (.val fspId) partyType partyId := by
  simp [IsOf, of, AssociationRecord.IsOf]

theorem eq_of_isOf {owned other : Ownership} {document : AssociationRecord}
    (h : owned.IsOf document) (h' : other.IsOf document) : owned = other := by
  obtain ⟨fspId, partyType, partyId⟩ := owned
  obtain ⟨hfspId, htype, hid⟩ := h
  obtain ⟨hfspId', htype', hid'⟩ := h'
  simp only at hfspId htype hid
  rw [hfspId, Js.Field.val.injEq] at hfspId'
  subst hfspId'
  rw [← htype, ← hid, htype', hid']

/-- The keys under which lookups of the party are cached. -/
def Key (owned : Ownership) (key : String) : Prop :=
  ∃ partyType partyId partySubType currency : Js.Str, partyType.orNull = owned.partyType ∧
    partyId.orNull = owned.partyId ∧
    key = getKeyWithPrefix partyType partyId partySubType currency

theorem key_of (fspId : String) (partyType partyId partySubType currency : Js.Str) :
    (of fspId partyType partyId).Key
      (getKeyWithPrefix partyType partyId partySubType currency) :=
  ⟨partyType, partyId, partySubType, currency, rfl, rfl, rfl⟩

end Ownership

/-- The state of a run: the store, and the ownerships that a disassociation ended, when no document
of them was left, and that were not associated again. -/
structure History where
  store : BuiltinStore
  ended : List Ownership

namespace History

/-- Before the first request: any collection, and an empty cache. -/
def start (parties : List AssociationRecord) : History := ⟨⟨parties, Cache.empty, []⟩, []⟩

def next (h : History) (request : OracleRequest) : History :=
  let (outcome, store) := request.serve.run h.store
  let ended :=
    match request, outcome with
    | .disassociate fspId partyType partyId _ _, .ok _ =>
      let owned := Ownership.of fspId partyType partyId
      if owned.HeldIn store.parties then h.ended else owned :: h.ended
    | .associate fspId partyType partyId _ _, .ok _ =>
      h.ended.filter (· ≠ Ownership.of fspId partyType partyId)
    | _, _ => h.ended
  ⟨store, ended⟩

def run (h : History) (requests : List OracleRequest) : History := requests.foldl next h

/-- An answer about `owned` can be cached under `key`: no other party whose ownership by the same
FSP has ended has that key. -/
def MayCache (h : History) (owned : Ownership) (key : String) : Prop :=
  ∀ other ∈ h.ended, other.fspId = owned.fspId → other ≠ owned → ¬other.Key key

/-- The condition under which a request brings back no ownership that has ended: an answer is cached
where it may be, and a disassociation that leaves no document of its ownership finds no entry for its
owner under another key of the party. -/
def Clears (h : History) : OracleRequest → Prop
  | .associate fspId partyType partyId partySubType currency =>
    h.store.parties.find?
        (buildLookupQuery partyId (.val fspId) partyType partySubType currency).selects = none →
      h.MayCache (.of fspId partyType partyId)
        (getKeyWithPrefix partyType partyId partySubType currency)
  | .disassociate fspId partyType partyId partySubType currency =>
    let owned := Ownership.of fspId partyType partyId
    ¬owned.HeldIn
        (deleted (.val fspId) partyType partyId partySubType currency h.store).parties →
      ∀ key, owned.Key key → key ≠ getKeyWithPrefix partyType partyId partySubType currency →
        ∀ record, h.store.cache.get key = some record → record.fspId ≠ .val fspId
  | .lookup partyType partyId partySubType currency =>
    h.store.cache.get (getKeyWithPrefix partyType partyId partySubType currency) = none →
      ∀ document fspId, h.store.parties.find?
          (lookupQuery partyType partyId partySubType currency).selects = some document →
        document.fspId = .val fspId → h.MayCache (.of fspId partyType partyId)
          (getKeyWithPrefix partyType partyId partySubType currency)
  | .expire _ => True

/-- No live entry under a key of an ownership in `ended` names its owner. -/
def NoEntry (cache : Cache String AssociationRecord) (ended : List Ownership) : Prop :=
  ∀ owned ∈ ended, ∀ key, owned.Key key → ∀ record, cache.get key = some record →
    record.fspId ≠ .val owned.fspId

/-- The invariant: no document and no cache entry brings back an ownership that has ended. -/
structure Clear (h : History) : Prop where
  noDocument : ∀ owned ∈ h.ended, ¬owned.HeldIn h.store.parties
  noEntry : NoEntry h.store.cache h.ended

theorem start_clear (parties : List AssociationRecord) : (start parties).Clear :=
  ⟨by simp [start], by simp [start, NoEntry]⟩

/-! ### What each request does to the history -/

section Steps

variable (h : History) (fspId : String) (partyType partyId partySubType currency : Js.Str)

theorem next_associate :
    (∃ document, h.store.parties.find?
        (buildLookupQuery partyId (.val fspId) partyType partySubType currency).selects =
          some document ∧
      h.next (.associate fspId partyType partyId partySubType currency) = h) ∨
    h.store.parties.find?
        (buildLookupQuery partyId (.val fspId) partyType partySubType currency).selects = none ∧
      h.next (.associate fspId partyType partyId partySubType currency) =
        ⟨cached (inserted (.val fspId) partyType partyId partySubType currency h.store)
            { fspId := .val fspId, partyType, partyId, partySubType, currency },
          h.ended.filter (· ≠ Ownership.of fspId partyType partyId)⟩ := by
  rcases associateParticipant_cases .none (.val fspId) partyType partyId partySubType currency
    h.store with ⟨error, hfails, hrun⟩ | ⟨-, -, -, error, hfails, -⟩ | ⟨hfind, -, -, -, hrun⟩
  · obtain ⟨document, hfind⟩ : ∃ document, h.store.parties.find?
        (buildLookupQuery partyId (.val fspId) partyType partySubType currency).selects =
          some document := by
      rcases hfails with hfails | hfails | hfails
      · cases hfails
      · cases hfails
      · exact hfails
    refine .inl ⟨document, hfind, ?_⟩
    simp [next, OracleRequest.serve, Proc.run_bind_error hrun]
  · cases hfails
  · refine .inr ⟨hfind, ?_⟩
    simp [next, OracleRequest.serve, Proc.run_bind_ok hrun]

theorem next_disassociate :
    h.next (.disassociate fspId partyType partyId partySubType currency) =
      ⟨{ deleted (.val fspId) partyType partyId partySubType currency h.store with
          cache := h.store.cache.del (getKeyWithPrefix partyType partyId partySubType currency) },
        if (Ownership.of fspId partyType partyId).HeldIn
            (deleted (.val fspId) partyType partyId partySubType currency h.store).parties then
          h.ended
        else .of fspId partyType partyId :: h.ended⟩ := by
  rcases disassociateParticipant_cases .none (.val fspId) partyType partyId partySubType currency
    h.store with ⟨error, hfails, -⟩ | ⟨-, error, hfails, -⟩ | ⟨-, -, hrun⟩
  · cases hfails
  · cases hfails
  · simp [next, OracleRequest.serve, Proc.run_bind_ok hrun]

theorem next_lookup :
    (h.next (.lookup partyType partyId partySubType currency) = h ∧
      (h.store.cache.get (getKeyWithPrefix partyType partyId partySubType currency) ≠ none ∨
        h.store.parties.find? (lookupQuery partyType partyId partySubType currency).selects =
          none)) ∨
    ∃ document, h.store.cache.get (getKeyWithPrefix partyType partyId partySubType currency) =
        none ∧
      h.store.parties.find? (lookupQuery partyType partyId partySubType currency).selects =
        some document ∧
      h.next (.lookup partyType partyId partySubType currency) =
        ⟨cached h.store
            { fspId := document.fspId, partyType, partyId, partySubType, currency },
          h.ended⟩ := by
  rcases getParticipantFspId_cases .none partyType partyId partySubType currency h.store with
    ⟨error, command, -, hfails, -⟩ | ⟨record, hget, hrun⟩ | ⟨hget, hfind, hrun⟩ |
      ⟨document, hget, hfind, hrun⟩
  · cases hfails
  · exact .inl ⟨by simp [next, OracleRequest.serve, hrun], .inl (by simp [hget])⟩
  · exact .inl ⟨by simp [next, OracleRequest.serve, hrun], .inr hfind⟩
  · exact .inr ⟨document, hget, hfind, by simp [next, OracleRequest.serve, hrun]⟩

end Steps

/-! ### The invariant -/

section Invariant

variable {cache : Cache String AssociationRecord} {ended : List Ownership}

theorem NoEntry.del (h : NoEntry cache ended) (key : String) : NoEntry (cache.del key) ended :=
  fun owned howned key' hkey record hget =>
    h owned howned key' hkey record (Cache.get_del_eq_some.mp hget).2

theorem NoEntry.sublist {ended' : List Ownership} (h : NoEntry cache ended)
    (hsub : ∀ owned ∈ ended', owned ∈ ended) : NoEntry cache ended' :=
  fun owned howned => h owned (hsub owned howned)

/-- A write keeps the cache clear exactly when its key is no key of an ended ownership by its FSP. -/
theorem noEntry_set (h : NoEntry cache ended) (key : String) (record : AssociationRecord) :
    NoEntry (cache.set key record) ended ↔
      ∀ owned ∈ ended, owned.Key key → record.fspId ≠ .val owned.fspId := by
  constructor
  · intro hset owned howned hkey
    exact hset owned howned key hkey record Cache.get_set_self
  · intro hrecord owned howned key' hkey' record' hget
    rcases Cache.get_set_eq_some.mp hget with ⟨rfl, rfl⟩ | ⟨-, hget⟩
    · exact hrecord owned howned hkey'
    · exact h owned howned key' hkey' record' hget

variable {h : History} (hclear : h.Clear)
include hclear

theorem next_associate_clear (fspId : String) (partyType partyId partySubType currency : Js.Str) :
    (h.next (.associate fspId partyType partyId partySubType currency)).Clear ↔
      h.Clears (.associate fspId partyType partyId partySubType currency) := by
  rcases next_associate h fspId partyType partyId partySubType currency with
    ⟨document, hfind, hnext⟩ | ⟨hfind, hnext⟩
  · simp [hnext, Clears, hfind, hclear]
  have hentries : NoEntry h.store.cache
      (h.ended.filter (· ≠ Ownership.of fspId partyType partyId)) :=
    hclear.noEntry.sublist fun owned howned => (List.mem_filter.mp howned).1
  have hset := noEntry_set hentries (getKeyWithPrefix partyType partyId partySubType currency)
    { fspId := .val fspId, partyType, partyId, partySubType, currency }
  rw [hnext]
  constructor
  · rintro ⟨-, hnoEntry⟩ - other hother hfsp hne hkey
    refine hset.mp hnoEntry other ?_ hkey (by rw [hfsp]; rfl)
    simp [hother, hne]
  · intro hclears
    refine ⟨?_, hset.mpr ?_⟩
    · rintro owned howned ⟨document, hdocument, hof⟩
      simp only [List.mem_filter, decide_eq_true_eq] at howned
      simp only [cached, inserted, List.mem_append, List.mem_singleton] at hdocument
      rcases hdocument with hdocument | rfl
      · exact hclear.noDocument owned howned.1 ⟨document, hdocument, hof⟩
      · exact howned.2 (Ownership.eq_of_isOf hof (Ownership.isOf_of.mpr buildLookupQuery_isOf))
    · intro owned howned hkey hfsp
      simp only [List.mem_filter, decide_eq_true_eq] at howned
      exact hclears hfind owned howned.1 (Js.Field.val.inj hfsp).symm howned.2 hkey

theorem next_lookup_clear (partyType partyId partySubType currency : Js.Str) :
    (h.next (.lookup partyType partyId partySubType currency)).Clear ↔
      h.Clears (.lookup partyType partyId partySubType currency) := by
  rcases next_lookup h partyType partyId partySubType currency with
    ⟨hnext, hno⟩ | ⟨document, hget, hfind, hnext⟩
  · rw [hnext]
    refine ⟨fun _ hget document fspId hfind => ?_, fun _ => hclear⟩
    rcases hno with hno | hno
    · exact absurd hget hno
    · simp [hno] at hfind
  have hset := noEntry_set hclear.noEntry
    (getKeyWithPrefix partyType partyId partySubType currency)
    { fspId := document.fspId, partyType, partyId, partySubType, currency }
  rw [hnext]
  constructor
  · rintro ⟨-, hnoEntry⟩ - document' fspId hfind' hfspId other hother hfsp - hkey
    obtain rfl : document = document' := Option.some.inj (hfind.symm.trans hfind')
    exact hset.mp hnoEntry other hother hkey (by rw [hfsp]; exact hfspId)
  · intro hclears
    refine ⟨hclear.noDocument, hset.mpr fun owned howned hkey hfsp => ?_⟩
    -- The document shows that this ownership has not ended, so it is another party's.
    refine hclears hget document owned.fspId hfind hfsp owned howned rfl ?_ hkey
    rintro hsame
    obtain ⟨htype, hid⟩ := party_of_lookupQuery_selects (List.find?_some hfind)
    refine hclear.noDocument owned howned ⟨document, List.mem_of_find?_eq_some hfind, hfsp, ?_⟩
    rw [htype, hid, hsame]
    exact ⟨rfl, rfl⟩

theorem next_disassociate_clear (fspId : String)
    (partyType partyId partySubType currency : Js.Str) :
    (h.next (.disassociate fspId partyType partyId partySubType currency)).Clear ↔
      h.Clears (.disassociate fspId partyType partyId partySubType currency) := by
  have hentries := hclear.noEntry.del (getKeyWithPrefix partyType partyId partySubType currency)
  have hdocuments : ∀ owned ∈ h.ended, ¬owned.HeldIn
      (deleted (.val fspId) partyType partyId partySubType currency h.store).parties := by
    rintro owned howned ⟨document, hdocument, hof⟩
    exact hclear.noDocument owned howned ⟨document, List.mem_of_mem_eraseP hdocument, hof⟩
  rw [next_disassociate]
  split_ifs with hheld
  · refine ⟨fun _ hnot => absurd hheld hnot, fun _ => ⟨hdocuments, hentries⟩⟩
  constructor
  · rintro ⟨-, hnoEntry⟩ - key hkey hne record hget
    exact hnoEntry _ List.mem_cons_self key hkey record (Cache.get_del_eq_some.mpr ⟨hne, hget⟩)
  · intro hclears
    refine ⟨?_, ?_⟩
    · intro owned howned
      rcases List.mem_cons.mp howned with rfl | howned
      · exact hheld
      · exact hdocuments owned howned
    · intro owned howned key hkey record hget
      rcases List.mem_cons.mp howned with rfl | howned
      · obtain ⟨hne, hget⟩ := Cache.get_del_eq_some.mp hget
        exact hclears hheld key hkey hne record hget
      · exact hentries owned howned key hkey record hget

/-- The step: a request keeps the store clear of ended ownerships exactly under its condition. -/
theorem next_clear (request : OracleRequest) : (h.next request).Clear ↔ h.Clears request := by
  cases request with
  | associate fspId partyType partyId partySubType currency =>
    exact next_associate_clear hclear fspId partyType partyId partySubType currency
  | disassociate fspId partyType partyId partySubType currency =>
    exact next_disassociate_clear hclear fspId partyType partyId partySubType currency
  | lookup partyType partyId partySubType currency =>
    exact next_lookup_clear hclear partyType partyId partySubType currency
  | expire key =>
    simp only [Clears, iff_true]
    exact ⟨hclear.noDocument, hclear.noEntry.del key⟩

omit hclear in
/-- Every request of the run meets its condition. -/
def AllClear (h : History) (requests : List OracleRequest) : Prop :=
  Runs.Each next Clears h requests

/-- The run: as long as every request meets its condition, the store stays clear. -/
theorem run_clear (requests : List OracleRequest) (hall : h.AllClear requests) :
    (h.run requests).Clear := by
  have hstep (h : History) (request : OracleRequest) (hclear : h.Clear)
      (hclears : h.Clears request) : (h.next request).Clear :=
    (next_clear hclear request).mpr hclears
  exact Runs.invariant hstep hclear hall

end Invariant

/-- In a run whose requests all meet their condition, no lookup for a party returns an FSP whose
ownership of it has ended, whatever its `partySubType` and `currency`. -/
theorem lookup_ne_of_ended (parties : List AssociationRecord) (requests : List OracleRequest)
    (hall : (start parties).AllClear requests) {fspId : String} {partyType partyId : Js.Str}
    (hended : Ownership.of fspId partyType partyId ∈ ((start parties).run requests).ended)
    (faults : Faults) (partySubType currency : Js.Str) :
    ((getParticipantFspId faults partyType partyId partySubType currency).run
      ((start parties).run requests).store).1 ≠ .ok (.val fspId) := by
  have hclear := run_clear (start_clear parties) requests hall
  intro hreturns
  rcases getParticipantFspId_cases faults partyType partyId partySubType currency
    ((start parties).run requests).store with
    ⟨error, command, -, -, hrun⟩ | ⟨record, hget, hrun⟩ | ⟨-, -, hrun⟩ | ⟨document, -, hfind, hrun⟩ <;>
    rw [hrun] at hreturns
  · cases hreturns
  · apply hclear.noEntry _ hended _ (Ownership.key_of ..) record hget
    exact Except.ok.inj hreturns
  · cases hreturns
  · obtain ⟨htype, hid⟩ := party_of_lookupQuery_selects (List.find?_some hfind)
    exact hclear.noDocument _ hended
      ⟨document, List.mem_of_find?_eq_some hfind, Except.ok.inj hreturns, htype, hid⟩

/-- An association and its removal, with no lookup in between. -/
def unread : List OracleRequest :=
  [.associate "bluebank" (.val "MSISDN") (.val "123") (.val "PERSONAL") (.val "EUR"),
    .disassociate "bluebank" (.val "MSISDN") (.val "123") (.val "PERSONAL") (.val "EUR")]

theorem lookup_ne_of_ended_unread :
    ((getParticipantFspId .none (.val "MSISDN") (.val "123") .null .null).run
      ((start []).run unread).store).1 ≠ .ok (.val "bluebank") := by
  have hall : (start []).AllClear unread := by
    refine ⟨?_, ?_, trivial⟩
    · rintro - other ⟨⟩
    rintro - key - hne record hget
    rcases Cache.get_set_eq_some.mp hget with ⟨hkey, -⟩ | ⟨-, hget⟩
    · exact absurd hkey hne
    · cases hget
  have hended : Ownership.of "bluebank" (.val "MSISDN") (.val "123") ∈
      ((start []).run unread).ended :=
    show _ ∈ [Ownership.of "bluebank" (.val "MSISDN") (.val "123")] from List.mem_cons_self
  exact lookup_ne_of_ended [] unread hall hended .none .null .null

/-- A lookup without a currency caches its answer under a key of its own, which the disassociation
leaves: the FSP is still returned. -/
theorem lookup_eq_of_ended :
    ∃ requests, Ownership.of "bluebank" (.val "MSISDN") (.val "123") ∈
        ((start []).run requests).ended ∧
      ((getParticipantFspId .none (.val "MSISDN") (.val "123") .null .null).run
        ((start []).run requests).store).1 = .ok (.val "bluebank") :=
  ⟨[.associate "bluebank" (.val "MSISDN") (.val "123") (.val "PERSONAL") (.val "EUR"),
      .lookup (.val "MSISDN") (.val "123") .null .null,
      .disassociate "bluebank" (.val "MSISDN") (.val "123") (.val "PERSONAL") (.val "EUR")],
    show _ ∈ [Ownership.of "bluebank" (.val "MSISDN") (.val "123")] from List.mem_cons_self, rfl⟩

end History

end AccountLookup
