import AccountLookup.Handling.Lookups
import AccountLookup.Handling.Service
import AccountLookup.Runs.Invariant

/-! An association on a builtin oracle: when the queries that follow it are answered with its
owner. -/

namespace AccountLookup

open Async Store MongoOracleProviderRepo

namespace System

variable (env : Environment)

/-- What happens between an association and a query, while the registry and the associations stay as
they are: a message that asks for no change is handled, the account lookup route is called, or a cache
entry expires. -/
inductive Meanwhile where
  | handle (faults : Faults) (participants : Js.Str → Except JsError (Option Participant))
      (message : Message) (reads : message.msgName.asksForChange = false)
  | getAccountLookUp (faults : Faults) (partyId partyType partySubType currency : Js.Str)
  | expire (key : String)

def Meanwhile.next (w : World) : Meanwhile → World
  | handle faults participants message _ =>
    (((aggregate { env with faults, participants }).handleEvent message).run w).2
  | getAccountLookUp faults partyId partyType partySubType currency =>
    (((aggregate { env with faults }).getAccountLookUp partyId partyType partySubType
      currency).run w).2
  | expire key => { w with builtin := { w.builtin with cache := w.builtin.cache.del key } }

/-- The key under which the request is cached. -/
def cacheKey (request : ChangeRequest) : String :=
  getKeyWithPrefix request.partyType request.partyId request.partySubType request.currency

/-- The document that the request inserts. -/
def document (request : ChangeRequest) : AssociationRecord :=
  buildLookupQuery request.partyId request.fspId request.partyType request.partySubType
    request.currency

/-- Every lookup of a builtin oracle that is cached under the key of the request finds first, among
the associations there are, one with the FSP of the request, if it finds any. -/
def Unshadowed (request : ChangeRequest) (w : World) : Prop :=
  ∀ partyType partyId partySubType currency adapter,
    getKeyWithPrefix partyType partyId partySubType currency = cacheKey request →
    adapterFor env.compound w partyType currency = some adapter → adapter.type = .builtin →
    ∀ found, w.builtin.parties.find? (lookupQuery partyType partyId partySubType
      currency).selects = some found → found.fspId = request.fspId

/-- A state that follows the association made for `request` in `w`: nothing but the cache has changed
since, and what the cache holds under its key names its FSP. -/
structure Follows (request : ChangeRequest) (w v : World) : Prop where
  oracles : v.oracles = w.oracles
  adapters : v.adapters = w.adapters
  parties : v.builtin.parties = w.builtin.parties ++ [document request]
  cached : ∀ record, v.builtin.cache.get (cacheKey request) = some record →
    record.fspId = request.fspId

theorem Follows.adapterFor_eq {request : ChangeRequest} {w v : World} (h : Follows request w v)
    (partyType currency : Js.Str) :
    adapterFor env.compound v partyType currency =
      adapterFor env.compound w partyType currency := by
  simp only [adapterFor, h.oracles, h.adapters]

section Association

variable {env} {request : ChangeRequest} {w : World}

/-- Once the association is made, such a lookup finds an association with its FSP. -/
theorem Unshadowed.found (hclear : Unshadowed env request w) (hfspId : request.fspId.truthy = true)
    {v : World} (hfollows : Follows request w v)
    {partyType partyId partySubType currency : Js.Str} {adapter : OracleAdapter}
    (hkey : getKeyWithPrefix partyType partyId partySubType currency = cacheKey request)
    (hadapter : adapterFor env.compound v partyType currency = some adapter)
    (hbuiltin : adapter.type = .builtin) {found : AssociationRecord}
    (hfound : v.builtin.parties.find? (lookupQuery partyType partyId partySubType
      currency).selects = some found) : found.fspId = request.fspId := by
  rw [hfollows.adapterFor_eq env] at hadapter
  rw [hfollows.parties, List.find?_append, Option.or_eq_some_iff] at hfound
  rcases hfound with hold | ⟨-, hnew⟩
  · exact hclear _ _ _ _ _ hkey hadapter hbuiltin found hold
  · have hmem := List.mem_of_find?_eq_some hnew
    rw [List.mem_singleton] at hmem
    rw [hmem]
    exact Js.Field.orNull_eq_of_truthy hfspId

/-- A lookup keeps to the states that follow the association. -/
theorem Follows.lookup (hclear : Unshadowed env request w) (hfspId : request.fspId.truthy = true)
    {v : World} (hfollows : Follows request w v) (reading : Environment)
    (hcompound : reading.compound = env.compound) {v' : World}
    (hlooks : (aggregate reading).Looks v v') : Follows request w v' := by
  rcases hlooks with rfl | ⟨partyType, partyId, partySubType, currency, adapter, hselects, rfl⟩
  · exact hfollows
  obtain ⟨-, -, hadapter⟩ := selects_iff.mp hselects
  rw [hcompound] at hadapter
  cases htype : adapter.type with
  | remoteHttp =>
    rw [run_lookup_remote reading htype]
    exact ⟨hfollows.oracles, hfollows.adapters, hfollows.parties, hfollows.cached⟩
  | builtin =>
    rw [run_lookup_builtin reading htype]
    rcases getParticipantFspId_cases reading.faults partyType partyId partySubType currency
      v.builtin with ⟨error, command, -, -, hrun⟩ | ⟨record, -, hrun⟩ | ⟨-, -, hrun⟩ |
        ⟨found, -, hfind, hrun⟩ <;> rw [hrun]
    · exact hfollows
    · exact hfollows
    · exact hfollows
    refine ⟨hfollows.oracles, hfollows.adapters, hfollows.parties, ?_⟩
    intro record hrecord
    rcases Cache.get_set_eq_some.mp hrecord with ⟨hkey, rfl⟩ | ⟨-, hold⟩
    · have howner : found.fspId = request.fspId :=
        hclear.found hfspId hfollows hkey.symm hadapter htype hfind
      exact howner
    · exact hfollows.cached record hold

theorem Follows.next (hclear : Unshadowed env request w) (hfspId : request.fspId.truthy = true)
    {v : World} (hfollows : Follows request w v) (step : Meanwhile) :
    Follows request w (step.next env v) := by
  cases step with
  | handle faults participants message reads =>
    exact hfollows.lookup hclear hfspId { env with faults, participants } rfl
      (Aggregate.handleEvent_looks (aggregate_reads _) (aggregate_quiet _) reads v)
  | getAccountLookUp faults partyId partyType partySubType currency =>
    exact hfollows.lookup hclear hfspId { env with faults } rfl
      (Aggregate.getAccountLookUp_looks (aggregate_reads _) (aggregate_quiet _) _ _ _ _ v)
  | expire key =>
    refine ⟨hfollows.oracles, hfollows.adapters, hfollows.parties, ?_⟩
    intro record hrecord
    exact hfollows.cached record (Cache.get_del_eq_some.mp hrecord).2

theorem Follows.run (hclear : Unshadowed env request w) (hfspId : request.fspId.truthy = true)
    {v : World} (hfollows : Follows request w v) (steps : List Meanwhile) :
    Follows request w (steps.foldl (Meanwhile.next env) v) :=
  Runs.invariant_of_step (fun _ step hfollows => hfollows.next hclear hfspId step) hfollows steps

theorem Follows.locates (hclear : Unshadowed env request w) (hfspId : request.fspId.truthy = true)
    {v : World} (hfollows : Follows request w v) {adapter : OracleAdapter}
    (hadapter : adapterFor env.compound w request.partyType request.currency = some adapter)
    (hbuiltin : adapter.type = .builtin)
    (participants : Js.Str → Except JsError (Option Participant)) :
    ∃ v', (aggregate { env with faults := .none, participants }).Locates request.partyId
      request.partyType request.partySubType request.currency request.fspId v v' := by
  rw [← hfollows.adapterFor_eq env] at hadapter
  have hselects : (aggregate { env with faults := .none, participants }).Selects request.partyType
      request.currency adapter v v := selects_iff.mpr ⟨rfl, rfl, hadapter⟩
  have hlookup := run_lookup_builtin { env with faults := .none, participants } hbuiltin
    request.partyType request.partyId request.partySubType request.currency v
  rcases getParticipantFspId_cases .none request.partyType request.partyId request.partySubType
    request.currency v.builtin with ⟨error, command, -, hfault, -⟩ | ⟨record, hget, hrun⟩ |
      ⟨-, hfind, -⟩ | ⟨found, -, hfind, hrun⟩
  · cases hfault
  · rw [hrun, hfollows.cached record hget] at hlookup
    exact ⟨_, adapter, v, hselects, hlookup, hfspId⟩
  · have hmem : document request ∈ v.builtin.parties := by simp [hfollows.parties]
    exact absurd lookupQuery_selects_buildLookupQuery (List.find?_eq_none.mp hfind _ hmem)
  · rw [hrun, hclear.found hfspId hfollows rfl hadapter hbuiltin hfind] at hlookup
    exact ⟨_, adapter, v, hselects, hlookup, hfspId⟩

end Association

/-- The query is answered with the FSP. -/
def Answers (query : Message) (fspId : Js.Str) (w : World) : Prop :=
  ∃ event w', ((aggregate env).handleEvent query).run w = (.ok event, w') ∧
    event.msgName = .participantQueryResponseEvt ∧ event.payload.ownerFspId = fspId

/-- Whatever happens in between, every query for the party of the request, by a participant that the
service knows and while it knows the owner, is answered with the owner when no command fails. -/
def ReadsYourWrite (request : ChangeRequest) (w : World) : Prop :=
  ∀ (steps : List Meanwhile) participants requesterFspId query,
    Knows participants requesterFspId → Knows participants request.fspId →
    Aggregate.IsParticipantQuery query requesterFspId request.partyId request.partyType
      request.partySubType request.currency →
    Answers { env with faults := .none, participants } query request.fspId
      (steps.foldl (Meanwhile.next env) w)

theorem participantQuery_isQuery (requesterFspId partyId partyType partySubType currency : Js.Str) :
    Aggregate.IsParticipantQuery
      (participantQuery requesterFspId partyId partyType partySubType currency) requesterFspId partyId
      partyType partySubType currency :=
  ⟨rfl, rfl, rfl, rfl, rfl, rfl, rfl⟩

section Queries

variable {env} {partyType partyId partySubType currency : Js.Str} {adapter : OracleAdapter}
  {w : World} (hadapter : adapterFor env.compound w partyType currency = some adapter)
  (hbuiltin : adapter.type = .builtin)
include hadapter hbuiltin

theorem query_caches {found : AssociationRecord}
    (hget : w.builtin.cache.get (getKeyWithPrefix partyType partyId partySubType currency) = none)
    (hfind : w.builtin.parties.find? (lookupQuery partyType partyId partySubType
      currency).selects = some found) :
    (((aggregate { env with faults := .none, participants := everyone }).handleEvent
        (participantQuery (.val "bluebank") partyId partyType partySubType currency)).run w).2 =
      { w with
        builtin := cached w.builtin
          { fspId := found.fspId, partyType, partyId, partySubType, currency } } := by
  let quiet : Environment := { env with faults := .none, participants := everyone }
  have hrequester : (aggregate quiet).Approves (.val "bluebank") w w :=
    approves_iff.mpr ⟨rfl, knows_everyone rfl⟩
  have hselects : (aggregate quiet).Selects partyType currency adapter w w :=
    selects_iff.mpr ⟨rfl, rfl, hadapter⟩
  have hstate := Aggregate.participantQuery_state (aggregate_reads quiet) (aggregate_quiet quiet)
    (participantQuery_isQuery (.val "bluebank") partyId partyType partySubType currency) hrequester
    hselects
  rw [run_lookup_builtin quiet hbuiltin] at hstate
  apply hstate.trans
  rcases getParticipantFspId_cases quiet.faults partyType partyId partySubType currency w.builtin
    with ⟨error, command, -, hfault, -⟩ | ⟨record, hrecord, -⟩ | ⟨-, hnone, -⟩ |
      ⟨document, -, hsome, hrun⟩
  · cases hfault
  · rw [hget] at hrecord
    cases hrecord
  · rw [hfind] at hnone
    cases hnone
  · rw [hfind] at hsome
    cases hsome
    rw [hrun]

/-- A query that is answered names the FSP of the cache entry, if there is one. -/
theorem Answers.cached {participants : Js.Str → Except JsError (Option Participant)}
    {query : Message} {requesterFspId fspId : Js.Str}
    (hquery : Aggregate.IsParticipantQuery query requesterFspId partyId partyType partySubType
      currency)
    (hanswers : Answers { env with faults := .none, participants } query fspId w)
    {record : AssociationRecord}
    (hget : w.builtin.cache.get (getKeyWithPrefix partyType partyId partySubType currency) =
      some record) : record.fspId = fspId := by
  let quiet : Environment := { env with faults := .none, participants }
  obtain ⟨event, w', hrun, hevent, rfl⟩ := hanswers
  obtain ⟨u, v, hrequester, selected, u', hselects, hlookup, -⟩ :=
    Aggregate.locates_of_participantQuery (aggregate_quiet quiet) hquery hrun hevent
  obtain ⟨rfl, -⟩ := approves_iff.mp hrequester
  obtain ⟨rfl, -, hselected⟩ := selects_iff.mp hselects
  have hsame : some selected = some adapter := hselected.symm.trans hadapter
  cases hsame
  rw [run_lookup_builtin quiet hbuiltin] at hlookup
  rcases getParticipantFspId_cases quiet.faults partyType partyId partySubType currency u'.builtin
    with ⟨error, command, -, hfault, -⟩ | ⟨entry, hentry, hrun⟩ | ⟨hnone, -⟩ | ⟨document, hnone, -⟩
  · cases hfault
  · rw [hget] at hentry
    cases hentry
    rw [hrun] at hlookup
    exact Except.ok.inj (congrArg Prod.fst hlookup)
  · rw [hget] at hnone
    cases hnone
  · rw [hget] at hnone
    cases hnone

end Queries

section Created

variable {env} {message : Message} {request : ChangeRequest} {w w' : World} {event : DomainEvent}
  {adapter : OracleAdapter} (hrequest : message.changeRequest = some request)
  (hadapter : adapterFor env.compound w request.partyType request.currency = some adapter)
  (hbuiltin : adapter.type = .builtin)
  (hrun : ((aggregate env).handleEvent message).run w = (.ok event, w'))
  (hcreated : event.msgName = .participantAssociationCreatedEvt)
include hrequest hadapter hbuiltin hrun hcreated

/-- An association that is answered by its event was made. -/
theorem follows_of_created : request.fspId.truthy = true ∧ Follows request w w' := by
  rcases Aggregate.handleEvent_answers (aggregate_reads env) (aggregate_quiet env) hrequest w with
    ⟨e, he, hrun', -⟩ | ⟨selected, ⟨happroves, hselects⟩, e, hrun', hanswer⟩
  · rw [hrun] at hrun'
    cases hrun'
    rw [hcreated] at he
    cases he
  obtain ⟨-, -, hselected⟩ := selects_iff.mp hselects
  rw [hadapter] at hselected
  cases hselected
  obtain ⟨-, hfspId, -⟩ := approves_iff.mp happroves
  rw [hrun] at hrun'
  cases hrun'
  refine ⟨hfspId, ?_⟩
  rw [run_perform_builtin env hbuiltin] at hanswer ⊢
  have hkind : request.kind = .associate := by
    cases hkind : request.kind with
    | associate => rfl
    | disassociate =>
      rw [hkind] at hanswer
      cases hperform : ((performBuiltin env request).run w.builtin).1 <;>
        rw [hperform] at hanswer <;> rw [hcreated] at hanswer <;> cases hanswer
  simp only [performBuiltin, hkind] at hanswer ⊢
  rcases associateParticipant_cases env.faults request.fspId request.partyType request.partyId
    request.partySubType request.currency w.builtin with
    ⟨error, -, hperform⟩ | ⟨-, -, -, error, -, hperform⟩ | ⟨-, -, -, -, hperform⟩ <;>
    rw [hperform] at hanswer ⊢
  · rw [hcreated] at hanswer
    cases hanswer
  · rw [hcreated] at hanswer
    cases hanswer
  · refine ⟨rfl, rfl, rfl, ?_⟩
    intro record hrecord
    rcases Cache.get_set_eq_some.mp hrecord with ⟨-, rfl⟩ | ⟨hne, -⟩
    · rfl
    · exact absurd rfl hne

/-- A query that shares the key, when the entry of the association has expired, leaves its own answer
under the key. -/
theorem unshadowed_of_readsYourWrite (h : ReadsYourWrite env request w') :
    Unshadowed env request w := by
  obtain ⟨hfspId, hfollows⟩ :=
    follows_of_created hrequest hadapter hbuiltin hrun hcreated
  intro partyType partyId partySubType currency adapter' hkey hadapter' hbuiltin' found hfound
  let expired := (Meanwhile.expire (cacheKey request)).next env w'
  have hexpired : Follows request w expired :=
    ⟨hfollows.oracles, hfollows.adapters, hfollows.parties, fun record hrecord =>
      hfollows.cached record (Cache.get_del_eq_some.mp hrecord).2⟩
  have hget : expired.builtin.cache.get
      (getKeyWithPrefix partyType partyId partySubType currency) = none := by
    rw [hkey]
    exact Cache.get_del_self
  have hfind : expired.builtin.parties.find?
      (lookupQuery partyType partyId partySubType currency).selects = some found := by
    rw [hexpired.parties, List.find?_append, hfound]
    rfl
  have hselected : adapterFor env.compound expired partyType currency = some adapter' :=
    (hexpired.adapterFor_eq env partyType currency).trans hadapter'
  have hcaches := query_caches hselected hbuiltin' hget hfind
  let record : AssociationRecord :=
    { fspId := found.fspId, partyType, partyId, partySubType, currency }
  have hanswers : Answers { env with faults := .none, participants := everyone }
      (participantQuery (.val "bluebank") request.partyId request.partyType request.partySubType
        request.currency) request.fspId { expired with builtin := cached expired.builtin record } := by
    rw [← hcaches]
    exact h [.expire (cacheKey request), .handle .none everyone
      (participantQuery (.val "bluebank") partyId partyType partySubType currency) rfl] everyone
      (.val "bluebank") _ (knows_everyone rfl) (knows_everyone hfspId)
      (participantQuery_isQuery _ _ _ _ _)
  have hrecord : (cached expired.builtin record).cache.get (cacheKey request) = some record := by
    rw [← hkey]
    exact Cache.get_set_self
  have hread : adapterFor env.compound { expired with builtin := cached expired.builtin record }
      request.partyType request.currency = some adapter :=
    (hexpired.adapterFor_eq env _ _).trans hadapter
  have howner : record.fspId = request.fspId :=
    hanswers.cached hread hbuiltin (participantQuery_isQuery _ _ _ _ _) hrecord
  exact howner

/-- An association on a builtin oracle that is answered by its event is read by the queries that
follow, whatever messages without a change and whatever expiries of cache entries come in between,
exactly when no lookup that shares its cache key finds an older association of another FSP first. -/
theorem readsYourWrite_iff : ReadsYourWrite env request w' ↔ Unshadowed env request w := by
  refine ⟨unshadowed_of_readsYourWrite hrequest hadapter hbuiltin hrun hcreated, ?_⟩
  intro hclear steps participants requesterFspId query hrequester howner hquery
  obtain ⟨hfspId, hfollows⟩ :=
    follows_of_created hrequest hadapter hbuiltin hrun hcreated
  have hreached := hfollows.run hclear hfspId steps
  obtain ⟨v, hlocates⟩ := hreached.locates hclear hfspId hadapter hbuiltin participants
  obtain ⟨answer, hanswer, hname, hfspId'⟩ := Aggregate.participantQuery_answers
    (aggregate_quiet _) hquery (approves_iff.mpr ⟨rfl, hrequester⟩) hlocates
    (approves_iff.mpr ⟨rfl, howner⟩)
  exact ⟨answer, v, hanswer, hname, hfspId'⟩

end Created

/-- The request of an FSP to own the party `123`. -/
def associationRequest (ownerFspId : String) : Message where
  msgType := .domainEvent
  msgName := .participantAssociationRequestReceivedEvt
  payload := some
    { partyId := .val "123", partyType := .val "MSISDN", ownerFspId := .val ownerFspId }

/-- The first association of all is read. -/
theorem readsYourWrite_iff_first :
    ReadsYourWrite (withFaults .none)
      ⟨.associate, .val "bluebank", .val "MSISDN", .val "123", .undefined, .undefined⟩
      (((aggregate (withFaults .none)).handleEvent
        (associationRequest "bluebank")).run builtinWorld).2 := by
  have hrequest : (associationRequest "bluebank").changeRequest = some
      ⟨.associate, .val "bluebank", .val "MSISDN", .val "123", .undefined, .undefined⟩ := rfl
  have hadapter : adapterFor (withFaults .none).compound builtinWorld (.val "MSISDN") .undefined =
      some ⟨.builtin, builtinOracle⟩ := rfl
  apply (readsYourWrite_iff hrequest hadapter rfl rfl rfl).mpr
  intro _ _ _ _ _ _ _ _ _ hfound
  cases hfound

/-- The party has an owner already: when the entry of a second one has expired, the query is answered
with the first. -/
theorem not_readsYourWrite_second :
    ∃ w e w' e' w'' e'', ((aggregate (withFaults .none)).handleEvent
        (associationRequest "greenbank")).run builtinWorld = (.ok e, w) ∧
      ((aggregate (withFaults .none)).handleEvent (associationRequest "bluebank")).run w =
        (.ok e', w') ∧
      e'.msgName = .participantAssociationCreatedEvt ∧
      ((aggregate (withFaults .none)).handleEvent (participantQuery (.val "bluebank") (.val "123")
          (.val "MSISDN") .undefined .undefined)).run
        ((Meanwhile.expire "mongoOracleProviderRepo_MSISDN_123_undefined_undefined").next
          (withFaults .none) w') = (.ok e'', w'') ∧
      e''.msgName = .participantQueryResponseEvt ∧ e''.payload.ownerFspId = .val "greenbank" :=
  ⟨_, _, _, _, _, _, rfl, rfl, rfl, rfl, rfl, rfl⟩

end System

end AccountLookup
