import AccountLookup.Builtin.Invalidation

/-! The cache of the builtin oracles and the parties that share a key in it: which lookups answer
with an FSP that was associated with another party only. -/

namespace AccountLookup

open Async Store MongoOracleProviderRepo

/-- A request on the builtin oracles, and the commands that fail in it. -/
structure OracleCall where
  faults : Faults
  request : OracleRequest

/-- The arguments of a request that make its key in the cache. -/
structure KeyArguments where
  partyType : Js.Str
  partyId : Js.Str
  partySubType : Js.Str
  currency : Js.Str
  deriving DecidableEq, Repr

namespace KeyArguments

def key (args : KeyArguments) : String :=
  getKeyWithPrefix args.partyType args.partyId args.partySubType args.currency

/-- The two are about one party, where an absent field and `null` are the same. -/
def SameParty (args other : KeyArguments) : Prop :=
  args.partyType.orNull = other.partyType.orNull ∧ args.partyId.orNull = other.partyId.orNull

/-- No two of the arguments make one key for different parties. -/
def KeysApart (allowed : KeyArguments → Prop) : Prop :=
  ∀ args other, allowed args → allowed other → args.key = other.key → args.SameParty other

end KeyArguments

def OracleRequest.arguments : OracleRequest → Option KeyArguments
  | .associate _ partyType partyId partySubType currency
  | .disassociate _ partyType partyId partySubType currency
  | .lookup partyType partyId partySubType currency =>
    some { partyType, partyId, partySubType, currency }
  | .expire _ => none

namespace OracleCall

/-- The call is the end of the life of a cache entry, or its arguments are allowed. -/
def Within (allowed : KeyArguments → Prop) (call : OracleCall) : Prop :=
  ∀ args ∈ call.request.arguments, allowed args

/-- The run of the request; its value is the answer to a lookup. -/
def serve (call : OracleCall) : Proc JsError BuiltinStore Js.Str :=
  match call.request with
  | .associate fspId partyType partyId partySubType currency => do
    associateParticipant call.faults (.val fspId) partyType partyId partySubType currency
    pure .null
  | .disassociate fspId partyType partyId partySubType currency => do
    disassociateParticipant call.faults (.val fspId) partyType partyId partySubType currency
    pure .null
  | .lookup partyType partyId partySubType currency =>
    getParticipantFspId call.faults partyType partyId partySubType currency
  | .expire key => do
    Proc.modify fun s => { s with cache := s.cache.del key }
    pure .null

/-- The store when the call has settled. -/
def after (s : BuiltinStore) (call : OracleCall) : BuiltinStore := (call.serve.run s).2

variable {s : BuiltinStore} (faults : Faults)

/-- An association changes nothing, or it inserts its document, and it may cache it. -/
theorem after_associate (fspId : String) (partyType partyId partySubType currency : Js.Str) :
    let stored := inserted (.val fspId) partyType partyId partySubType currency s
    let s' := after s ⟨faults, .associate fspId partyType partyId partySubType currency⟩
    s' = s ∨ faults .findAssociation = none ∧ s.parties.find?
        (buildLookupQuery partyId (.val fspId) partyType partySubType currency).selects = none ∧
      (s' = stored ∨
        s' = cached stored { fspId := .val fspId, partyType, partyId, partySubType, currency }) := by
  dsimp only
  unfold after serve
  dsimp only
  rcases associateParticipant_cases faults (.val fspId) partyType partyId partySubType currency s
    with ⟨error, -, hrun⟩ | ⟨hfind, hlook, -, error, -, hrun⟩ | ⟨hfind, hlook, -, -, hrun⟩
  · rw [Proc.run_bind_error hrun]
    exact .inl rfl
  · rw [Proc.run_bind_error hrun]
    exact .inr ⟨hlook, hfind, .inl rfl⟩
  · rw [Proc.run_bind_ok hrun]
    exact .inr ⟨hlook, hfind, .inr rfl⟩

/-- A removal changes nothing, or it deletes a document, and it may remove a cache entry. -/
theorem after_disassociate (fspId : String) (partyType partyId partySubType currency : Js.Str) :
    let left := deleted (.val fspId) partyType partyId partySubType currency s
    let s' := after s ⟨faults, .disassociate fspId partyType partyId partySubType currency⟩
    s' = s ∨ s' = left ∨ s' = { left with
      cache := s.cache.del (getKeyWithPrefix partyType partyId partySubType currency) } := by
  dsimp only
  unfold after serve
  dsimp only
  rcases disassociateParticipant_cases faults (.val fspId) partyType partyId partySubType currency s
    with ⟨error, -, hrun⟩ | ⟨-, error, -, hrun⟩ | ⟨-, -, hrun⟩
  · rw [Proc.run_bind_error hrun]
    exact .inl rfl
  · rw [Proc.run_bind_error hrun]
    exact .inr (.inl rfl)
  · rw [Proc.run_bind_ok hrun]
    exact .inr (.inr rfl)

/-- A lookup changes nothing, or it caches the FSP of a document of its party. -/
theorem after_lookup (partyType partyId partySubType currency : Js.Str) :
    let s' := after s ⟨faults, .lookup partyType partyId partySubType currency⟩
    s' = s ∨ ∃ document ∈ s.parties, document.partyType.orNull = partyType.orNull ∧
      document.partyId.orNull = partyId.orNull ∧
      s' = cached s { fspId := document.fspId, partyType, partyId, partySubType, currency } := by
  dsimp only
  unfold after serve
  dsimp only
  rcases getParticipantFspId_cases faults partyType partyId partySubType currency s with
    ⟨_, _, -, -, hrun⟩ | ⟨_, -, hrun⟩ | ⟨-, -, hrun⟩ | ⟨document, -, hfind, hrun⟩ <;> rw [hrun]
  · exact .inl rfl
  · exact .inl rfl
  · exact .inl rfl
  · obtain ⟨htype, hid⟩ := party_of_lookupQuery_selects (List.find?_some hfind)
    exact .inr ⟨document, List.mem_of_find?_eq_some hfind, htype, hid, rfl⟩

end OracleCall

/-- The state of a run: the store, and the ownerships that the calls have stored. -/
structure Ledger where
  store : BuiltinStore
  associated : List Ownership

namespace Ledger

/-- Before the first call there are no associations, and the cache is empty. -/
def start : Ledger := ⟨⟨[], Cache.empty, []⟩, []⟩

/-- The ownership that a request associates. -/
def made : OracleRequest → List Ownership
  | .associate fspId partyType partyId _ _ => [.of fspId partyType partyId]
  | _ => []

def next (ledger : Ledger) (call : OracleCall) : Ledger where
  store := call.after ledger.store
  associated :=
    if (call.after ledger.store).parties = ledger.store.parties then ledger.associated
    else made call.request ++ ledger.associated

/-- A lookup that answers with an FSP answers with one that was associated with its party. -/
def Isolated (ledger : Ledger) (call : OracleCall) : Prop :=
  ∀ partyType partyId partySubType currency,
    call.request = .lookup partyType partyId partySubType currency →
    ∀ fspId s, call.serve.run ledger.store = (.ok (.val fspId), s) →
      .of fspId partyType partyId ∈ ledger.associated

/-- The condition on a lookup: the cache entry that it finds was written for its party. -/
def FindsOwn (ledger : Ledger) (call : OracleCall) : Prop :=
  ∀ partyType partyId partySubType currency,
    call.request = .lookup partyType partyId partySubType currency → call.faults .redisGet = none →
    ∀ record, ledger.store.cache.get
        (getKeyWithPrefix partyType partyId partySubType currency) = some record →
      record.partyType.orNull = partyType.orNull ∧ record.partyId.orNull = partyId.orNull

/-- The invariant: every document was associated, and every cache entry names an FSP that was
associated with the party of the entry. -/
structure Recorded (s : BuiltinStore) (associated : List Ownership) : Prop where
  document : ∀ document ∈ s.parties, ∃ owned ∈ associated, owned.IsOf document
  record : ∀ key record, s.cache.get key = some record → ∀ fspId, record.fspId = .val fspId →
    .of fspId record.partyType record.partyId ∈ associated

theorem recorded_start : Recorded start.store start.associated := ⟨nofun, nofun⟩

/-! ### Stores -/

section Stores

variable {s : BuiltinStore} {associated : List Ownership} (h : Recorded s associated)
include h

theorem Recorded.mono {associated' : List Ownership} (hsubset : associated ⊆ associated') :
    Recorded s associated' where
  document document hmem := by
    obtain ⟨owned, howned, hof⟩ := h.document document hmem
    exact ⟨owned, hsubset howned, hof⟩
  record key record hget fspId hfsp := hsubset (h.record key record hget fspId hfsp)

theorem Recorded.inserted {fspId : String} {partyType partyId : Js.Str} (partySubType currency : Js.Str)
    (hmade : .of fspId partyType partyId ∈ associated) :
    Recorded (inserted (.val fspId) partyType partyId partySubType currency s) associated where
  document document hmem := by
    rcases List.mem_append.mp hmem with hmem | hmem
    · exact h.document document hmem
    · rw [List.mem_singleton.mp hmem]
      exact ⟨_, hmade, Ownership.isOf_of.mpr buildLookupQuery_isOf⟩
  record := h.record

theorem Recorded.cached {record : AssociationRecord}
    (hmade : ∀ fspId, record.fspId = .val fspId →
      .of fspId record.partyType record.partyId ∈ associated) :
    Recorded (cached s record) associated where
  document := h.document
  record key other hget fspId hfsp := by
    rcases Cache.get_set_eq_some.mp hget with ⟨-, rfl⟩ | ⟨-, hget⟩
    · exact hmade fspId hfsp
    · exact h.record key other hget fspId hfsp

theorem Recorded.deleted (fspId partyType partyId partySubType currency : Js.Str) :
    Recorded (deleted fspId partyType partyId partySubType currency s) associated where
  document document hmem := h.document document (List.mem_of_mem_eraseP hmem)
  record := h.record

theorem Recorded.expired (key : String) :
    Recorded { s with cache := s.cache.del key } associated where
  document := h.document
  record key' record hget := h.record key' record (Cache.get_del_eq_some.mp hget).2

theorem Recorded.mem_of_document {document : AssociationRecord} (hmem : document ∈ s.parties)
    {partyType partyId : Js.Str} (htype : document.partyType.orNull = partyType.orNull)
    (hid : document.partyId.orNull = partyId.orNull) {fspId : String}
    (hfsp : document.fspId = .val fspId) : .of fspId partyType partyId ∈ associated := by
  obtain ⟨owned, howned, hof⟩ := h.document document hmem
  have hsame : (Ownership.of fspId partyType partyId).IsOf document := ⟨hfsp, htype, hid⟩
  rwa [Ownership.eq_of_isOf hsame hof]

end Stores

/-! ### Calls -/

section Calls

variable {ledger : Ledger}

theorem associated_subset (call : OracleCall) : ledger.associated ⊆ (ledger.next call).associated := by
  intro owned hmem
  unfold next
  dsimp only
  split
  · exact hmem
  · exact List.mem_append_right _ hmem

theorem made_subset (call : OracleCall)
    (h : (call.after ledger.store).parties ≠ ledger.store.parties) :
    made call.request ⊆ (ledger.next call).associated := by
  intro owned hmem
  unfold next
  dsimp only
  rw [if_neg h]
  exact List.mem_append_left _ hmem

/-- The step: every call keeps the invariant. -/
theorem recorded_next (h : Recorded ledger.store ledger.associated) (call : OracleCall) :
    Recorded (ledger.next call).store (ledger.next call).associated := by
  have hkept := h.mono (associated_subset call)
  show Recorded (call.after ledger.store) _
  obtain ⟨faults, request⟩ := call
  cases request with
  | associate fspId partyType partyId partySubType currency =>
    have hmade (hchanged : (OracleCall.after ledger.store
          ⟨faults, .associate fspId partyType partyId partySubType currency⟩).parties =
        ledger.store.parties ++
          [buildLookupQuery partyId (.val fspId) partyType partySubType currency]) :=
      made_subset ⟨faults, .associate fspId partyType partyId partySubType currency⟩
        (by rw [hchanged]; simp) List.mem_cons_self
    rcases OracleCall.after_associate faults fspId partyType partyId partySubType
        currency with hsame | ⟨-, -, hstored | hcached⟩
    · rw [hsame]
      exact hkept
    · have hnew := hmade (by rw [hstored]; rfl)
      rw [hstored]
      exact hkept.inserted partySubType currency hnew
    · have hnew := hmade (by rw [hcached]; rfl)
      rw [hcached]
      apply (hkept.inserted partySubType currency hnew).cached
      rintro _ ⟨⟩
      exact hnew
  | disassociate fspId partyType partyId partySubType currency =>
    rcases OracleCall.after_disassociate faults fspId partyType partyId partySubType
        currency with hsame | hleft | hinvalidated
    · rw [hsame]
      exact hkept
    · rw [hleft]
      exact hkept.deleted ..
    · rw [hinvalidated]
      exact (hkept.deleted ..).expired _
  | lookup partyType partyId partySubType currency =>
    rcases OracleCall.after_lookup faults partyType partyId partySubType currency with
      hsame | ⟨document, hmem, htype, hid, hcached⟩
    · rw [hsame]
      exact hkept
    · rw [hcached]
      apply hkept.cached
      intro fspId hfsp
      exact hkept.mem_of_document hmem htype hid hfsp
  | expire key => exact hkept.expired key

theorem run_lookup_of_fault {faults : Faults} {error : JsError} (hget : faults .redisGet = some error)
    (partyType partyId partySubType currency : Js.Str) (s : BuiltinStore) :
    (getParticipantFspId faults partyType partyId partySubType currency).run s = (.error error, s) := by
  unfold getParticipantFspId getFromCache
  rw [Proc.run_bind, run_send, hget]

theorem isolated_of_findsOwn (h : Recorded ledger.store ledger.associated) (call : OracleCall)
    (hfinds : ledger.FindsOwn call) : ledger.Isolated call := by
  obtain ⟨faults, request⟩ := call
  intro partyType partyId partySubType currency hlookup fspId s hrun
  cases hlookup
  change (getParticipantFspId faults partyType partyId partySubType currency).run ledger.store =
    (.ok (.val fspId), s) at hrun
  cases hget : faults .redisGet with
  | some error =>
    rw [run_lookup_of_fault hget] at hrun
    cases hrun
  | none =>
    rcases getParticipantFspId_cases faults partyType partyId partySubType currency ledger.store
      with ⟨error, _, -, -, hrun'⟩ | ⟨record, hentry, hrun'⟩ | ⟨-, -, hrun'⟩ |
        ⟨document, -, hfind, hrun'⟩ <;> rw [hrun', Prod.mk.injEq] at hrun
    · cases hrun.1
    · obtain ⟨htype, hid⟩ := hfinds partyType partyId partySubType currency rfl hget record hentry
      have howned := h.record _ record hentry fspId (Except.ok.inj hrun.1)
      rwa [Ownership.of, htype, hid] at howned
    · cases hrun.1
    · obtain ⟨htype, hid⟩ := party_of_lookupQuery_selects (List.find?_some hfind)
      exact h.mem_of_document (List.mem_of_find?_eq_some hfind) htype hid (Except.ok.inj hrun.1)

/-- In a run from an empty store whose lookups find only entries of their own parties, every lookup
answers with an FSP of its own party. -/
theorem each_isolated_of_findsOwn {calls : List OracleCall}
    (hfinds : Runs.Each next FindsOwn start calls) : Runs.Each next Isolated start calls :=
  Runs.each_mono (J := fun ledger => Recorded ledger.store ledger.associated)
    (fun _ call h => recorded_next h call) (fun _ call h => isolated_of_findsOwn h call)
    recorded_start hfinds

end Calls

/-! ### Arguments with different keys -/

section Keys

variable {allowed : KeyArguments → Prop} {ledger : Ledger} {call : OracleCall}

/-- Each cache entry was written by a call with allowed arguments, under their key. -/
def Written (allowed : KeyArguments → Prop) (s : BuiltinStore) : Prop :=
  ∀ key record, s.cache.get key = some record → ∃ args, allowed args ∧ args.key = key ∧
    record.partyType = args.partyType ∧ record.partyId = args.partyId

theorem Written.cached {s : BuiltinStore} (h : Written allowed s) {record : AssociationRecord}
    (hallowed : allowed ⟨record.partyType, record.partyId, record.partySubType, record.currency⟩) :
    Written allowed (cached s record) := by
  intro key other hget
  rcases Cache.get_set_eq_some.mp hget with ⟨hkey, rfl⟩ | ⟨-, hget⟩
  · exact ⟨_, hallowed, hkey.symm, rfl, rfl⟩
  · exact h key other hget

theorem Written.expired {s : BuiltinStore} (h : Written allowed s) (key : String) :
    Written allowed { s with cache := s.cache.del key } :=
  fun key' record hget => h key' record (Cache.get_del_eq_some.mp hget).2

/-- The step: a call with allowed arguments writes under their key only. -/
theorem Written.next (h : Written allowed ledger.store) (hwithin : call.Within allowed) :
    Written allowed (ledger.next call).store := by
  show Written allowed (call.after ledger.store)
  obtain ⟨faults, request⟩ := call
  cases request with
  | associate fspId partyType partyId partySubType currency =>
    rcases OracleCall.after_associate faults fspId partyType partyId partySubType
        currency with hsame | ⟨-, -, hstored | hcached⟩
    · rw [hsame]
      exact h
    · rw [hstored]
      exact h
    · rw [hcached]
      exact Written.cached (s := inserted ..) h (hwithin _ rfl)
  | disassociate fspId partyType partyId partySubType currency =>
    rcases OracleCall.after_disassociate faults fspId partyType partyId partySubType
        currency with hsame | hleft | hinvalidated
    · rw [hsame]
      exact h
    · rw [hleft]
      exact h
    · rw [hinvalidated]
      exact Written.expired (s := deleted ..) h _
  | lookup partyType partyId partySubType currency =>
    rcases OracleCall.after_lookup faults partyType partyId partySubType currency with
      hsame | ⟨document, -, -, -, hcached⟩
    · rw [hsame]
      exact h
    · rw [hcached]
      exact h.cached (hwithin _ rfl)
  | expire key => exact h.expired key

/-- A lookup finds the entry of a call that made the same key, so for the same party. -/
theorem Written.findsOwn (h : Written allowed ledger.store) (hapart : KeyArguments.KeysApart allowed)
    (hwithin : call.Within allowed) : ledger.FindsOwn call := by
  intro partyType partyId partySubType currency hlookup _ record hentry
  obtain ⟨args, hargs, hkey, htype, hid⟩ := h _ record hentry
  obtain ⟨htype', hid'⟩ := hapart args _ hargs
    (hwithin ⟨partyType, partyId, partySubType, currency⟩ (by rw [hlookup]; rfl)) hkey
  rw [htype, hid]
  exact ⟨htype', hid'⟩

theorem each_findsOwn (h : Written allowed ledger.store) (hapart : KeyArguments.KeysApart allowed)
    {calls : List OracleCall} (hwithin : ∀ call ∈ calls, call.Within allowed) :
    Runs.Each Ledger.next FindsOwn ledger calls := by
  induction calls generalizing ledger with
  | nil => trivial
  | cons call rest ih =>
    have hcall := hwithin call List.mem_cons_self
    exact ⟨h.findsOwn hapart hcall,
      ih (h.next hcall) fun other hother => hwithin other (List.mem_cons_of_mem call hother)⟩

/-- An association with the arguments, and a lookup with others. -/
def associateAndLookup (made looked : KeyArguments) : List OracleCall :=
  [⟨.none, .associate "bank" made.partyType made.partyId made.partySubType made.currency⟩,
    ⟨.none, .lookup looked.partyType looked.partyId looked.partySubType looked.currency⟩]

theorem run_lookup_of_entry {partyType partyId partySubType currency : Js.Str} {s : BuiltinStore}
    {record : AssociationRecord}
    (hentry : s.cache.get (getKeyWithPrefix partyType partyId partySubType currency) = some record) :
    (getParticipantFspId .none partyType partyId partySubType currency).run s =
      (.ok record.fspId, s) := by
  unfold getParticipantFspId getFromCache
  rw [Proc.run_bind, run_send]
  dsimp only
  rw [hentry]
  rfl

/-- When the two make one key, the lookup answers with the FSP of the association. -/
theorem sameParty_of_isolated {made looked : KeyArguments} (hkey : looked.key = made.key)
    (hisolated : Runs.Each next Isolated start (associateAndLookup made looked)) :
    made.SameParty looked := by
  obtain ⟨-, hlookup, -⟩ := hisolated
  have hentry : (start.next ⟨.none, .associate "bank" made.partyType made.partyId
      made.partySubType made.currency⟩).store.cache.get looked.key =
        some { fspId := .val "bank", partyType := made.partyType, partyId := made.partyId,
               partySubType := made.partySubType, currency := made.currency } := by
    rw [hkey]
    exact Cache.get_set_eq_some.mpr (.inl ⟨rfl, rfl⟩)
  have hmem := hlookup _ _ _ _ rfl "bank" _ (run_lookup_of_entry hentry)
  have hmade : (start.next ⟨.none, .associate "bank" made.partyType made.partyId
      made.partySubType made.currency⟩).associated =
        [.of "bank" made.partyType made.partyId] := rfl
  rw [hmade, List.mem_singleton, Ownership.of, Ownership.of, Ownership.mk.injEq] at hmem
  exact ⟨hmem.2.1.symm, hmem.2.2.symm⟩

/-- Every lookup of a run answers with an FSP of its own party when every entry that a lookup finds was
written for its own party.  And whatever runs are made of calls with some arguments, all of them keep
the parties apart exactly when no two of these arguments make one key for different parties. -/
theorem isolated_iff_keysApart (allowed : KeyArguments → Prop) :
    (∀ calls, Runs.Each next FindsOwn start calls → Runs.Each next Isolated start calls) ∧
      ((∀ calls : List OracleCall, (∀ call ∈ calls, call.Within allowed) →
          Runs.Each next Isolated start calls) ↔
        KeyArguments.KeysApart allowed) := by
  refine ⟨fun _ => each_isolated_of_findsOwn, ?_, ?_⟩
  · intro hall args other hargs hother hkey
    refine sameParty_of_isolated hkey.symm (hall _ ?_)
    intro call hcall args' hargs'
    simp only [associateAndLookup, List.mem_cons, List.not_mem_nil, or_false] at hcall
    rcases hcall with rfl | rfl
    · cases hargs'
      exact hargs
    · cases hargs'
      exact hother
  · intro hapart calls hwithin
    have hstart : Written allowed start.store := by
      intro key record hget
      cases hget
    exact each_isolated_of_findsOwn (each_findsOwn hstart hapart hwithin)

end Keys

/-- Two parties, the one with an underscore in its type, and a lookup of each. -/
def apart : List OracleCall :=
  [⟨.none, .associate "bluebank" (.val "ACCOUNT_ID") (.val "1") .null .null⟩,
    ⟨.none, .associate "greenbank" (.val "ACCOUNT") (.val "1") .null .null⟩,
    ⟨.none, .lookup (.val "ACCOUNT") (.val "1") .null .null⟩,
    ⟨.none, .lookup (.val "ACCOUNT_ID") (.val "1") .null .null⟩]

/-- The arguments of these calls. -/
def OfApart (args : KeyArguments) : Prop :=
  args = ⟨.val "ACCOUNT_ID", .val "1", .null, .null⟩ ∨ args = ⟨.val "ACCOUNT", .val "1", .null, .null⟩

theorem isolated_iff_keysApart_apart : Runs.Each next Isolated start apart := by
  refine (isolated_iff_keysApart OfApart).2.mpr ?_ apart ?_
  · rintro args other (rfl | rfl) (rfl | rfl) hkey
    · exact ⟨rfl, rfl⟩
    · exact absurd hkey (by decide +kernel)
    · exact absurd hkey (by decide +kernel)
    · exact ⟨rfl, rfl⟩
  · intro call hcall args hargs
    simp only [apart, List.mem_cons, List.not_mem_nil, or_false] at hcall
    rcases hcall with rfl | rfl | rfl | rfl <;> cases hargs
    · exact .inl rfl
    · exact .inr rfl
    · exact .inr rfl
    · exact .inl rfl

/-- Two parties whose fields are joined to the same key. -/
def colliding : List OracleCall :=
  [⟨.none, .associate "bluebank" (.val "ACCOUNT") (.val "ID_1") .null .null⟩,
    ⟨.none, .associate "greenbank" (.val "ACCOUNT_ID") (.val "1") .null .null⟩,
    ⟨.none, .lookup (.val "ACCOUNT") (.val "ID_1") .null .null⟩]

/-- The FSP of one party is answered for the other. -/
theorem not_isolated :
    (((getParticipantFspId .none (.val "ACCOUNT") (.val "ID_1") .null .null).run
        ((colliding.take 2).foldl next start).store).1 = .ok (.val "greenbank")) ∧
      ¬Runs.Each next Isolated start colliding := by
  have hanswer : (getParticipantFspId .none (.val "ACCOUNT") (.val "ID_1") .null .null).run
      ((colliding.take 2).foldl next start).store =
        (.ok (.val "greenbank"), ((colliding.take 2).foldl next start).store) := rfl
  refine ⟨by rw [hanswer], ?_⟩
  rintro ⟨-, -, hlookup, -⟩
  have hmem := hlookup _ _ _ _ rfl "greenbank" _ hanswer
  revert hmem
  decide +kernel

end Ledger

end AccountLookup
