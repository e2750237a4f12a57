import AccountLookup.Async.Pool
import AccountLookup.Builtin.Provider

/-! Lookups of a party that run at the same time as removals of its associations: when the cache can
keep an owner that the collection no longer has. -/

namespace AccountLookup

open Async Store MongoOracleProviderRepo

/-- The arguments that all the calls have in common. -/
structure Party where
  partyType : Js.Str
  partyId : Js.Str
  partySubType : Js.Str
  currency : Js.Str

/-- A call on a builtin adapter, and the commands that fail in it. -/
inductive PartyCall where
  | lookup (faults : Faults)
  | disassociate (faults : Faults) (fspId : Js.Str)

namespace Party

variable (party : Party)

def query : AssociationRecord :=
  lookupQuery party.partyType party.partyId party.partySubType party.currency

def key : String :=
  getKeyWithPrefix party.partyType party.partyId party.partySubType party.currency

/-- The record of the party that is cached under its key. -/
def record (fspId : Js.Str) : AssociationRecord :=
  { fspId, partyId := party.partyId, partyType := party.partyType,
    partySubType := party.partySubType, currency := party.currency }

def lookup (faults : Faults) : Proc JsError BuiltinStore Js.Str :=
  getParticipantFspId faults party.partyType party.partyId party.partySubType party.currency

def disassociate (faults : Faults) (fspId : Js.Str) : Proc JsError BuiltinStore Unit :=
  disassociateParticipant faults fspId party.partyType party.partyId party.partySubType
    party.currency

def perform : PartyCall → Proc JsError BuiltinStore Unit
  | .lookup faults => (party.lookup faults).void
  | .disassociate faults fspId => party.disassociate faults fspId

/-- What is left of a lookup that found nothing in the cache. -/
def fetch (faults : Faults) : Proc JsError BuiltinStore Js.Str := do
  let data ← (send faults .findParticipant fun s => (s.parties.find? party.query.selects, s)).rethrow
    fun error => ⟨.unableToGetParticipantError, "Unable to get participant for " ++
      partyText party.partyType party.partyId party.currency ++ ": " ++ error.message⟩
  match data with
  | none => pure .null
  | some data =>
    setToCache faults (party.record data.fspId)
    pure data.fspId

/-- What is left of a lookup that found a document of the owner `fspId`. -/
def fill (faults : Faults) (fspId : Js.Str) : Proc JsError BuiltinStore Js.Str := do
  setToCache faults (party.record fspId)
  pure fspId

theorem lookup_eq (faults : Faults) :
    party.lookup faults = (do
      match ← getFromCache faults party.partyType party.partyId party.partySubType
          party.currency with
      | some cacheData => pure cacheData.fspId
      | none => party.fetch faults) := rfl

theorem disassociate_eq (faults : Faults) (fspId : Js.Str) :
    party.disassociate faults fspId = (do
      (send faults .deleteAssociation fun s =>
          ((), deleted fspId party.partyType party.partyId party.partySubType party.currency s)).rethrow
        fun error => ⟨.unableToDisassociateParticipantError,
          s!"Unable to delete participant association for partyType {party.partyType.text} partyId " ++
            s!"{party.partyId.text}, currency {party.currency.text}: " ++ error.message⟩
      delFromCache faults (party.record fspId)) := rfl

/-! ### Steps of one call -/

section Steps

variable {party} {faults : Faults} {fspId : Js.Str} (s : BuiltinStore)

/-- A lookup is to check the cache, to read the collection, to fill the cache, or it has settled. -/
inductive LookupAt (party : Party) (faults : Faults) : Proc JsError BuiltinStore Js.Str → Prop
  | checking : LookupAt party faults (party.lookup faults)
  | fetching : LookupAt party faults (party.fetch faults)
  | filling (fspId : Js.Str) : LookupAt party faults (party.fill faults fspId)
  | settled {p : Proc JsError BuiltinStore Js.Str} (h : p.settled = true) : LookupAt party faults p

/-- A removal is to delete a document, to remove the cache entry, or it has settled. -/
inductive RemovalAt (party : Party) (faults : Faults) (fspId : Js.Str) :
    Proc JsError BuiltinStore Unit → Prop
  | deleting : RemovalAt party faults fspId (party.disassociate faults fspId)
  | invalidating : RemovalAt party faults fspId (delFromCache faults (party.record fspId))
  | settled {p : Proc JsError BuiltinStore Unit} (h : p.settled = true) :
    RemovalAt party faults fspId p

theorem step_fill (h : faults .redisSetex = none) :
    (party.fill faults fspId).step s = (.resolve fspId, cached s (party.record fspId)) :=
  step_send_bind s h _

/-- A step of a lookup changes nothing, unless it fills the cache. -/
theorem LookupAt.step {p : Proc JsError BuiltinStore Js.Str} (h : LookupAt party faults p) :
    LookupAt party faults (p.step s).1 ∧
      ((p.step s).2 = s ∨ faults .redisSetex = none ∧ ∃ fspId, p = party.fill faults fspId) := by
  cases h with
  | checking =>
    cases hfault : faults .redisGet with
    | some error =>
      have hsettled : (party.lookup faults).settled = true := settled_send_bind hfault _
      rw [Proc.step_of_settled s hsettled]
      exact ⟨.settled hsettled, .inl rfl⟩
    | none =>
      rw [lookup_eq, getFromCache, step_send_bind s hfault]
      dsimp only
      split
      · exact ⟨.settled rfl, .inl rfl⟩
      · exact ⟨.fetching, .inl rfl⟩
  | fetching =>
    cases hfault : faults .findParticipant with
    | some error =>
      have hsettled : (party.fetch faults).settled = true := settled_send_rethrow_bind hfault _ _
      rw [Proc.step_of_settled s hsettled]
      exact ⟨.settled hsettled, .inl rfl⟩
    | none =>
      rw [fetch, step_send_rethrow_bind s hfault]
      dsimp only
      split
      · exact ⟨.settled rfl, .inl rfl⟩
      · exact ⟨.filling _, .inl rfl⟩
  | filling fspId =>
    cases hfault : faults .redisSetex with
    | some error =>
      have hsettled : (party.fill faults fspId).settled = true := settled_send_bind hfault _
      rw [Proc.step_of_settled s hsettled]
      exact ⟨.settled hsettled, .inl rfl⟩
    | none =>
      rw [step_fill s hfault]
      exact ⟨.settled rfl, .inr ⟨rfl, fspId, rfl⟩⟩
  | settled hsettled =>
    rw [Proc.step_of_settled s hsettled]
    exact ⟨.settled hsettled, .inl rfl⟩

/-- The store after the entry of the party is removed from the cache. -/
def invalidated (party : Party) (s : BuiltinStore) : BuiltinStore :=
  { s with cache := s.cache.del party.key }

/-- The store after the first document of the party with the owner `fspId` is deleted. -/
def without (party : Party) (fspId : Js.Str) (s : BuiltinStore) : BuiltinStore :=
  deleted fspId party.partyType party.partyId party.partySubType party.currency s

/-- A step of a removal deletes a document and leaves the invalidation, or makes the invalidation, or
the removal had settled. -/
theorem RemovalAt.step {p : Proc JsError BuiltinStore Unit} (h : RemovalAt party faults fspId p) :
    p.settled = true ∧ p.step s = (p, s) ∨
    p.settled = false ∧
      p.step s = (delFromCache faults (party.record fspId), party.without fspId s) ∨
    faults .redisDel = none ∧ p.step s = (.resolve (), party.invalidated s) := by
  cases h with
  | deleting =>
    cases hfault : faults .deleteAssociation with
    | some error =>
      have hsettled : (party.disassociate faults fspId).settled = true :=
        settled_send_rethrow_bind hfault _ _
      exact .inl ⟨hsettled, Proc.step_of_settled s hsettled⟩
    | none =>
      rw [disassociate_eq]
      exact .inr (.inl ⟨not_settled_send_rethrow_bind hfault _ _,
        step_send_rethrow_bind s hfault _ _⟩)
  | invalidating =>
    cases hfault : faults .redisDel with
    | some error =>
      have hsettled : (delFromCache faults (party.record fspId)).settled = true :=
        settled_send hfault
      exact .inl ⟨hsettled, Proc.step_of_settled s hsettled⟩
    | none => exact .inr (.inr ⟨rfl, step_send s hfault⟩)
  | settled hsettled => exact .inl ⟨hsettled, Proc.step_of_settled s hsettled⟩

end Steps

/-! ### Steps of all calls -/

section Interleaving

variable {ι : Type} (calls : ι → PartyCall)

/-- The calls before the first step. -/
def interleaving (s : BuiltinStore) : Pool JsError BuiltinStore ι where
  state := s
  calls i := party.perform (calls i)

/-- The collection has no document that a lookup of the party selects. -/
def Absent (s : BuiltinStore) : Prop := s.parties.find? party.query.selects = none

/-- A party that the collection does not have is not in the cache. -/
def Coherent (s : BuiltinStore) : Prop := party.Absent s → s.cache.get party.key = none

/-- The call is a removal whose command to the cache does not fail. -/
def Invalidates (call : PartyCall) : Prop :=
  ∃ faults fspId, call = .disassociate faults fspId ∧ faults .redisDel = none

/-- An invalidation of the cache entry is still to come. -/
def Invalidating (pool : Pool JsError BuiltinStore ι) : Prop :=
  ∃ i, Invalidates (calls i) ∧ (pool.calls i).settled = false

/-- The store is coherent, or an invalidation is to come. -/
def Covered (pool : Pool JsError BuiltinStore ι) : Prop :=
  party.Absent pool.state →
    pool.state.cache.get party.key = none ∨ Invalidating calls pool

/-- The condition on a step.  A lookup that fills the cache does so while the collection has a document
of the party or an invalidation is to come.  A removal whose own invalidation fails leaves a document
of the party, or nothing is cached, or another invalidation is to come. -/
structure KeepsCovered (pool : Pool JsError BuiltinStore ι) (i : ι) : Prop where
  fill : ∀ faults fspId, calls i = .lookup faults → faults .redisSetex = none →
    pool.calls i = (party.fill faults fspId).void → party.Absent pool.state →
      Invalidating calls pool
  removal : ∀ faults fspId, calls i = .disassociate faults fspId → faults .redisDel ≠ none →
    (pool.calls i).settled = false → party.Absent (party.without fspId pool.state) →
      pool.state.cache.get party.key = none ∨ Invalidating calls pool

/-- What is left of a call. -/
def At : PartyCall → Proc JsError BuiltinStore Unit → Prop
  | .lookup faults, p => ∃ q, LookupAt party faults q ∧ p = q.void
  | .disassociate faults fspId, p => RemovalAt party faults fspId p

variable {party calls}

theorem At.step {call : PartyCall} (s : BuiltinStore) (p : Proc JsError BuiltinStore Unit)
    (h : party.At call p) : party.At call (p.step s).1 := by
  cases call with
  | lookup faults =>
    obtain ⟨q, hq, rfl⟩ := h
    exact ⟨(q.step s).1, (hq.step s).1, by rw [Proc.step_void]⟩
  | disassociate faults fspId =>
    rcases RemovalAt.step s h with ⟨-, hstep⟩ | ⟨-, hstep⟩ | ⟨-, hstep⟩ <;> rw [hstep]
    · exact h
    · exact .invalidating
    · exact .settled rfl

@[simp] theorem get_cached (fspId : Js.Str) (s : BuiltinStore) :
    (cached s (party.record fspId)).cache.get party.key = some (party.record fspId) :=
  Cache.get_set_self

@[simp] theorem get_invalidated (s : BuiltinStore) :
    (party.invalidated s).cache.get party.key = none :=
  Cache.get_del_self

theorem Absent.without {s : BuiltinStore} (h : party.Absent s) (fspId : Js.Str) :
    party.Absent (party.without fspId s) := by
  unfold Absent at h ⊢
  rw [List.find?_eq_none] at h ⊢
  exact fun document hmem => h document (List.mem_of_mem_eraseP hmem)

variable {pool : Pool JsError BuiltinStore ι} {i : ι} {faults : Faults} {fspId : Js.Str}

theorem not_invalidates_lookup (h : calls i = .lookup faults) :
    ¬Invalidates (calls i) := by
  intro hi
  obtain ⟨_, _, hcall, -⟩ := hi
  rw [h] at hcall
  cases hcall

theorem invalidates_disassociate_iff
    (h : calls i = .disassociate faults fspId) :
    Invalidates (calls i) ↔ faults .redisDel = none := by
  constructor
  · intro hi
    obtain ⟨_, _, hcall, hdel⟩ := hi
    rw [h] at hcall
    cases hcall
    exact hdel
  · exact fun hdel => ⟨faults, fspId, h, hdel⟩

theorem keepsCovered_lookup_iff (hcall : calls i = .lookup faults) :
    party.KeepsCovered calls pool i ↔
      ∀ fspId, faults .redisSetex = none → pool.calls i = (party.fill faults fspId).void →
        party.Absent pool.state → Invalidating calls pool := by
  constructor
  · exact fun h fspId => h.fill faults fspId hcall
  · intro h
    constructor
    · intro faults' fspId hcall'
      rw [hcall] at hcall'
      cases hcall'
      exact h fspId
    · intro faults' fspId hcall'
      rw [hcall] at hcall'
      cases hcall'

theorem keepsCovered_removal_iff (hcall : calls i = .disassociate faults fspId) :
    party.KeepsCovered calls pool i ↔
      (faults .redisDel ≠ none → (pool.calls i).settled = false →
        party.Absent (party.without fspId pool.state) →
          pool.state.cache.get party.key = none ∨ Invalidating calls pool) := by
  constructor
  · exact fun h => h.removal faults fspId hcall
  · intro h
    constructor
    · intro faults' fspId' hcall'
      rw [hcall] at hcall'
      cases hcall'
    · intro faults' fspId' hcall'
      rw [hcall] at hcall'
      cases hcall'
      exact h

variable [DecidableEq ι]

/-- A call without an invalidation of its own does not change whether one is to come. -/
theorem invalidating_step_iff (h : ¬Invalidates (calls i)) :
    Invalidating calls (pool.step i) ↔ Invalidating calls pool := by
  apply exists_congr
  intro j
  by_cases hj : j = i
  · subst hj
    exact iff_of_false (fun hi => h hi.1) fun hi => h hi.1
  · rw [Pool.step_calls_of_ne hj]

theorem covered_lookup_iff (hcall : calls i = .lookup faults)
    (hat : party.At (calls i) (pool.calls i)) (h : party.Covered calls pool) :
    party.Covered calls (pool.step i) ↔ party.KeepsCovered calls pool i := by
  rw [keepsCovered_lookup_iff hcall]
  have hsame := @invalidating_step_iff _ _ pool _ _ (not_invalidates_lookup hcall)
  by_cases hfill : faults .redisSetex = none ∧ ∃ fspId, pool.calls i = (party.fill faults fspId).void
  · obtain ⟨hset, fspId, hp⟩ := hfill
    have hstate : (pool.step i).state = cached pool.state (party.record fspId) := by
      show ((pool.calls i).step pool.state).2 = _
      rw [hp, Proc.step_void, step_fill _ hset]
    unfold Covered
    rw [hstate, hsame]
    constructor
    · intro hnext fspId' _ _ habsent
      rcases hnext habsent with hnone | hcoming
      · rw [get_cached] at hnone
        cases hnone
      · exact hcoming
    · intro hcondition habsent
      exact .inr (hcondition fspId hset hp habsent)
  · apply iff_of_true
    · rw [hcall] at hat
      obtain ⟨q, hq, hp⟩ := hat
      have hstate : (pool.step i).state = pool.state := by
        show ((pool.calls i).step pool.state).2 = _
        rw [hp, Proc.step_void]
        rcases (hq.step pool.state).2 with hstate | ⟨hset, fspId, rfl⟩
        · exact hstate
        · exact absurd ⟨hset, fspId, hp⟩ hfill
      unfold Covered
      rw [hstate, hsame]
      exact h
    · exact fun fspId hset hp => absurd ⟨hset, fspId, hp⟩ hfill

theorem covered_removal_iff (hcall : calls i = .disassociate faults fspId)
    (hat : party.At (calls i) (pool.calls i))
    (h : party.Covered calls pool) :
    party.Covered calls (pool.step i) ↔ party.KeepsCovered calls pool i := by
  rw [keepsCovered_removal_iff hcall]
  rw [hcall] at hat
  rcases RemovalAt.step pool.state hat with ⟨hsettled, -⟩ | ⟨hopen, hstep⟩ | ⟨hdel, hstep⟩
  · rw [Pool.step_of_settled hsettled]
    apply iff_of_true h
    intro _ hopen
    rw [hsettled] at hopen
    cases hopen
  · cases hdel : faults .redisDel with
    | none =>
      apply iff_of_true
      · have hcoming : Invalidating calls (pool.step i) := by
          refine ⟨i, (invalidates_disassociate_iff hcall).mpr hdel, ?_⟩
          rw [Pool.step_calls_self, hstep]
          exact not_settled_send hdel
        exact fun _ => .inr hcoming
      · exact fun hne => absurd rfl hne
    | some error =>
      have hsame := @invalidating_step_iff _ calls pool i _ (by
        rw [invalidates_disassociate_iff hcall, hdel]
        exact nofun)
      have hstate : (pool.step i).state = party.without fspId pool.state :=
        congrArg Prod.snd hstep
      unfold Covered
      rw [hstate, hsame]
      constructor
      · exact fun hnext _ _ habsent => hnext habsent
      · exact fun hcondition habsent => hcondition nofun hopen habsent
  · apply iff_of_true
    · intro _
      left
      show ((pool.calls i).step pool.state).2.cache.get party.key = none
      rw [hstep]
      exact get_invalidated pool.state
    · exact fun hne => absurd hdel hne

theorem covered_step_iff (hat : party.At (calls i) (pool.calls i)) (h : party.Covered calls pool) :
    party.Covered calls (pool.step i) ↔ party.KeepsCovered calls pool i := by
  cases hcall : calls i with
  | lookup faults => exact covered_lookup_iff hcall hat h
  | disassociate faults fspId => exact covered_removal_iff hcall hat h

/-- An entry of a party that the collection does not have stays, when no invalidation is to come. -/
theorem not_covered_step (hat : party.At (calls i) (pool.calls i))
    (h : ¬party.Covered calls pool) : ¬party.Covered calls (pool.step i) := by
  unfold Covered at h ⊢
  simp only [Classical.not_imp, not_or] at h ⊢
  obtain ⟨habsent, hcached, hcoming⟩ := h
  cases hcall : calls i with
  | lookup faults =>
    rw [invalidating_step_iff (not_invalidates_lookup hcall)]
    rw [hcall] at hat
    obtain ⟨q, hq, hp⟩ := hat
    have hstate : (pool.step i).state = (q.step pool.state).2 := by
      show ((pool.calls i).step pool.state).2 = _
      rw [hp, Proc.step_void]
    rw [hstate]
    rcases (hq.step pool.state).2 with hsame | ⟨hset, fspId, rfl⟩
    · rw [hsame]
      exact ⟨habsent, hcached, hcoming⟩
    · rw [step_fill _ hset]
      refine ⟨habsent, ?_, hcoming⟩
      rw [get_cached]
      exact nofun
  | disassociate faults fspId =>
    rw [hcall] at hat
    rcases RemovalAt.step pool.state hat with ⟨hsettled, -⟩ | ⟨hopen, hstep⟩ | ⟨hdel, hstep⟩
    · rw [Pool.step_of_settled hsettled]
      exact ⟨habsent, hcached, hcoming⟩
    · have hfails : ¬Invalidates (calls i) := fun hi => hcoming ⟨i, hi, hopen⟩
      have hstate : (pool.step i).state = party.without fspId pool.state :=
        congrArg Prod.snd hstep
      rw [invalidating_step_iff hfails, hstate]
      exact ⟨habsent.without fspId, hcached, hcoming⟩
    · by_cases hopen : (pool.calls i).settled = false
      · exact absurd ⟨i, (invalidates_disassociate_iff hcall).mpr hdel, hopen⟩ hcoming
      · rw [Pool.step_of_settled (by simpa using hopen)]
        exact ⟨habsent, hcached, hcoming⟩

/-- When all the calls have settled, an entry of the party has a document exactly when one has at the
start, or an invalidation is to come there, and every step meets the condition. -/
theorem coherent_iff_keepsCovered (party : Party) (calls : ι → PartyCall) (s : BuiltinStore)
    (schedule : List ι) (h : ((party.interleaving calls s).run schedule).Settled) :
    party.Coherent ((party.interleaving calls s).run schedule).state ↔
      party.Covered calls (party.interleaving calls s) ∧
        Runs.Each Pool.step (party.KeepsCovered calls) (party.interleaving calls s) schedule := by
  have hstart : ∀ j, party.At (calls j) ((party.interleaving calls s).calls j) := by
    intro j
    show party.At (calls j) (party.perform (calls j))
    cases calls j with
    | lookup faults => exact ⟨_, .checking, rfl⟩
    | disassociate faults fspId => exact .deleting
  have hend := Runs.end_iff_each (P := party.Covered calls)
    (J := fun pool => ∀ j, party.At (calls j) (pool.calls j))
    (fun pool i hat => Pool.forall_step At.step hat) (fun pool i hat => covered_step_iff (hat i))
    (fun pool i hat => not_covered_step (hat i)) hstart schedule
  rw [← hend]
  apply forall_congr'
  intro _
  constructor
  · exact .inl
  · intro hcovered
    rcases hcovered with hnone | ⟨j, -, hopen⟩
    · exact hnone
    · have hsettled : (((party.interleaving calls s).run schedule).calls j).settled = true := h j
      exact absurd (hopen.symm.trans hsettled) nofun

end Interleaving

/-! ### A lookup and a removal -/

def msisdn : Party := ⟨.val "MSISDN", .val "123", .null, .null⟩

/-- A store with one document of the party. -/
def associated : BuiltinStore where
  parties := [buildLookupQuery (.val "123") (.val "bluebank") (.val "MSISDN") .null .null]
  cache := .empty
  connections := []

/-- A removal of the document, and a lookup of it. -/
def removalAndLookup (removal : Bool) : PartyCall :=
  if removal then .disassociate .none (.val "bluebank") else .lookup .none

theorem coherent_iff_keepsCovered_sequential :
    let pool := msisdn.interleaving removalAndLookup associated
    msisdn.Coherent (pool.run [true, true, false, false]).state ↔
      msisdn.Covered removalAndLookup pool ∧
        Runs.Each Pool.step (msisdn.KeepsCovered removalAndLookup) pool
          [true, true, false, false] := by
  have hsettled : ((msisdn.interleaving removalAndLookup associated).run
      [true, true, false, false]).Settled := by
    intro i
    cases i <;> rfl
  exact coherent_iff_keepsCovered msisdn removalAndLookup associated _ hsettled

/-- The lookup reads the document before the removal and caches it after the invalidation. -/
theorem not_coherent_stale :
    let pool := msisdn.interleaving removalAndLookup associated
    msisdn.Coherent pool.state ∧ (pool.run [false, false, true, true, false]).Settled ∧
      ¬msisdn.Coherent (pool.run [false, false, true, true, false]).state := by
  refine ⟨?_, ?_, ?_⟩
  · exact fun _ => rfl
  · intro i
    cases i <;> rfl
  · intro h
    have hnone := h (by unfold Absent; decide +kernel)
    have hcached : ((msisdn.interleaving removalAndLookup associated).run
        [false, false, true, true, false]).state.cache.get msisdn.key =
          some (msisdn.record (.val "bluebank")) := by
      decide +kernel
    rw [hcached] at hnone
    cases hnone

end Party

end AccountLookup
