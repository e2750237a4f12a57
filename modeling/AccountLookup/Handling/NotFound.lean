import AccountLookup.Handling.Service
import AccountLookup.Remote.Provider

/-! The account lookup route for a party that its oracle does not know: when it is answered with a
404. -/

namespace AccountLookup

open Async RemoteOracleExpressRoutes

namespace Aggregate

variable {σ : Type} (agg : Aggregate σ)

/-- The lookup rejects with `ParticipantNotFoundError`. -/
def NotFound (partyId partyType partySubType currency : Js.Str) (s : σ) : Prop :=
  ∃ error, ((agg.getAccountLookUp partyId partyType partySubType currency).run s).1 =
    .error error ∧ error.cls = .participantNotFoundError

/-- The route answers with a 404 exactly when the lookup rejects with `ParticipantNotFoundError`. -/
theorem route_404_iff (partyId partyType partySubType currency : Js.Str) (s : σ) :
    ((AccountLookupExpressRoutes.getAccountLookUp agg partyId partyType partySubType
        currency).run s).1 = .ok 404 ↔
      agg.NotFound partyId partyType partySubType currency s := by
  simp only [AccountLookupExpressRoutes.getAccountLookUp, NotFound, Proc.run_attempt_bind]
  rcases (agg.getAccountLookUp partyId partyType partySubType currency).run s with
    ⟨error | fspId, t⟩
  · rcases error with ⟨cls, message⟩
    cases cls <;> simp
  · simp

variable {agg} (quiet : agg.Quiet)
include quiet

/-- It does so exactly when its adapter returns no FSP.  What the adapter throws becomes another
error. -/
theorem notFound_iff {partyId partyType partySubType currency : Js.Str} {adapter : OracleAdapter}
    {s u : σ} (h : agg.Selects partyType currency adapter s u) :
    agg.NotFound partyId partyType partySubType currency s ↔
      ∃ fspId, ((agg.oracleProvider.getParticipantFspId adapter partyType partyId partySubType
        currency).run u).1 = .ok fspId ∧ fspId.truthy = false := by
  have hadapter := (getOracleAdapter_eq_ok quiet).mpr h
  simp only [NotFound, getAccountLookUp, getParticipantIdFromOracle, Proc.run_attempt_bind,
    run_histo_bind quiet, Proc.run_bind_ok hadapter]
  rcases (agg.oracleProvider.getParticipantFspId adapter partyType partyId partySubType
    currency).run u with ⟨error | fspId, t⟩
  · simp [run_histo_bind quiet]
  · by_cases htruthy : fspId.truthy = true
    · simp [run_histo_bind quiet, htruthy]
    · simp [run_histo_bind quiet, htruthy]

end Aggregate

namespace HttpOracleProvider

/-- The request for the party is routed to the health check. -/
def AsksHealth (partyType partyId partySubType currency : Js.Str) : Prop :=
  route (Url.parse (participantUrl partyType partyId partySubType currency).toList).path = .health

/-- A lookup through the adapter that is answered returns no FSP exactly when it is answered by the
health check: a party that the remote oracle does not know is an error. -/
theorem getParticipantFspId_none_iff {faults : Faults} (hanswers : faults .httpRequest = none)
    (partyType partyId partySubType currency : Js.Str) (s : RemoteOracle) :
    (∃ fspId, ((getParticipantFspId faults partyType partyId partySubType currency).run s).1 =
        .ok fspId ∧ fspId.truthy = false) ↔
      AsksHealth partyType partyId partySubType currency := by
  have hmethod : (participantRequest .get .undefined partyType partyId partySubType
    currency).method = .get := rfl
  have htarget : (participantRequest .get .undefined partyType partyId partySubType
    currency).target = Url.parse (participantUrl partyType partyId partySubType currency).toList := rfl
  unfold getParticipantFspId request AsksHealth
  rw [← htarget]
  generalize participantRequest .get .undefined partyType partyId partySubType currency = req at *
  rw [Proc.run_bind, Proc.run_rethrow, Proc.run_bind, run_send, hanswers]
  dsimp only
  cases hroute : route req.target.path with
  | health => simp [handle, hroute, hmethod, Proc.run_bind, Except.mapError]
  | none => simp [handle, hroute, Proc.run_bind, Except.mapError]
  | participant typeSegment idSegment =>
    cases hserved : extractRequestParams typeSegment idSegment req.target.query with
    | none => simp [handle, hroute, hserved, Proc.run_bind, Except.mapError]
    | some params =>
      have hparams : servedParams req.target = some params := by
        simp only [servedParams, hroute, hserved]
      rw [handle_served faults hparams, if_pos (.inl hmethod), call, hmethod, Proc.run_bind]
      dsimp only
      rw [Proc.run_bind]
      rcases (RemoteOracle.getParticipantFspId params.partyType params.partyId params.partySubType
        params.currency).run s with ⟨error | fetched, t⟩
      · simp [Except.mapError]
      · by_cases htruthy : fetched.truthy = true
        · simp [htruthy, Except.mapError]
        · simp [htruthy, Except.mapError]

end HttpOracleProvider

namespace MongoOracleProviderRepo

variable (s : BuiltinStore) (partyType partyId partySubType currency : Js.Str)

/-- The lookup finds no FSP: the cache entry under its key has none, or there is no entry, and the
first document that it finds, if any, has none. -/
def FindsNone : Prop :=
  match s.cache.get (getKeyWithPrefix partyType partyId partySubType currency) with
  | some record => record.fspId.truthy = false
  | none => ∀ document, s.parties.find? (lookupQuery partyType partyId partySubType
      currency).selects = some document → document.fspId.truthy = false

/-- A lookup through the adapter that is answered returns what the cache or the collection has. -/
theorem getParticipantFspId_none_iff {faults : Faults} (hget : faults .redisGet = none)
    (hfind : faults .findParticipant = none) (hset : faults .redisSetex = none) :
    (∃ fspId, ((getParticipantFspId faults partyType partyId partySubType currency).run s).1 =
        .ok fspId ∧ fspId.truthy = false) ↔
      FindsNone s partyType partyId partySubType currency := by
  unfold FindsNone
  rcases getParticipantFspId_cases faults partyType partyId partySubType currency s with
    ⟨error, command, hcommand, hfault, hrun⟩ | ⟨record, hentry, hrun⟩ | ⟨hentry, hnone, hrun⟩ |
      ⟨document, hentry, hsome, hrun⟩
  · simp only [List.mem_cons, List.not_mem_nil, or_false] at hcommand
    rcases hcommand with rfl | rfl | rfl
    · simp [hget] at hfault
    · simp [hfind] at hfault
    · simp [hset] at hfault
  · simp [hrun, hentry]
  · simp [hrun, hentry, hnone]
  · simp [hrun, hentry, hsome]

end MongoOracleProviderRepo

namespace System

/-- The commands of a lookup through the adapter do not fail. -/
def BackendAnswers (env : Environment) (adapter : OracleAdapter) : Prop :=
  match adapter.type with
  | .builtin => env.faults .redisGet = none ∧ env.faults .findParticipant = none ∧
      env.faults .redisSetex = none
  | .remoteHttp => env.faults .httpRequest = none

/-- The oracle of the adapter holds an association that a lookup for the party matches. -/
def Holds (adapter : OracleAdapter) (partyType partyId : String) (partySubType currency : Js.Str)
    (w : World) : Prop :=
  match adapter.type with
  | .builtin => ∃ document ∈ w.builtin.parties, (MongoOracleProviderRepo.lookupQuery
      (.val partyType) (.val partyId) partySubType currency).selects document = true
  | .remoteHttp => ∃ association, (w.remotes adapter.oracle.endpoint).associations.get
      (RemoteOracle.createKey partyId partyType currency) = some association

/-- The adapter returns no FSP: a builtin one finds none in the cache and the collection, a remote one
is answered by the health check. -/
def Misses (adapter : OracleAdapter) (partyType partyId : String) (partySubType currency : Js.Str)
    (w : World) : Prop :=
  match adapter.type with
  | .builtin => MongoOracleProviderRepo.FindsNone w.builtin (.val partyType) (.val partyId)
      partySubType currency
  | .remoteHttp => HttpOracleProvider.AsksHealth (.val partyType) (.val partyId) partySubType
      currency

/-- A lookup rejects with `ParticipantNotFoundError` exactly when the oracle holds no association that
matches, and the route then answers with a 404. -/
def ReportsAbsence (env : Environment) (adapter : OracleAdapter) (partyType partyId : String)
    (partySubType currency : Js.Str) (w : World) : Prop :=
  ((aggregate env).NotFound (.val partyId) (.val partyType) partySubType currency w ↔
      ¬Holds adapter partyType partyId partySubType currency w) ∧
    (¬Holds adapter partyType partyId partySubType currency w →
      ((AccountLookupExpressRoutes.getAccountLookUp (aggregate env) (.val partyId)
        (.val partyType) partySubType currency).run w).1 = .ok 404)

theorem notFound_iff_misses {env : Environment} {w : World} {adapter : OracleAdapter}
    {partyType : String} {currency : Js.Str}
    (hselects : (aggregate env).Selects (.val partyType) currency adapter w w)
    (hanswers : BackendAnswers env adapter) (partyId : String) (partySubType : Js.Str) :
    (aggregate env).NotFound (.val partyId) (.val partyType) partySubType currency w ↔
      Misses adapter partyType partyId partySubType currency w := by
  rw [Aggregate.notFound_iff (aggregate_quiet env) hselects]
  unfold BackendAnswers at hanswers
  unfold Misses
  cases htype : adapter.type with
  | builtin =>
    rw [htype] at hanswers
    obtain ⟨hget, hfind, hset⟩ := hanswers
    rw [run_lookup_builtin env htype]
    exact MongoOracleProviderRepo.getParticipantFspId_none_iff w.builtin _ _ _ _ hget hfind hset
  | remoteHttp =>
    rw [htype] at hanswers
    rw [run_lookup_remote env htype]
    exact HttpOracleProvider.getParticipantFspId_none_iff hanswers _ _ _ _ _

/-- The condition under which absence is reported.  Of a builtin oracle, a live cache entry under the
key of the lookup has an FSP exactly when there is an association that matches, and without an entry
the first association that matches, if any, has one.  Of a remote oracle, the URL leads to the health
check exactly when there is no association that matches. -/
def SeesAbsence (adapter : OracleAdapter) (partyType partyId : String)
    (partySubType currency : Js.Str) (w : World) : Prop :=
  match adapter.type with
  | .builtin =>
    match w.builtin.cache.get (MongoOracleProviderRepo.getKeyWithPrefix (.val partyType)
      (.val partyId) partySubType currency) with
    | some record => record.fspId.truthy = true ↔
        Holds adapter partyType partyId partySubType currency w
    | none => ∀ document, w.builtin.parties.find? (MongoOracleProviderRepo.lookupQuery
        (.val partyType) (.val partyId) partySubType currency).selects = some document →
        document.fspId.truthy = true
  | .remoteHttp => HttpOracleProvider.AsksHealth (.val partyType) (.val partyId) partySubType
      currency ↔ ¬Holds adapter partyType partyId partySubType currency w

theorem misses_iff_seesAbsence (adapter : OracleAdapter) (partyType partyId : String)
    (partySubType currency : Js.Str) (w : World) :
    (Misses adapter partyType partyId partySubType currency w ↔
        ¬Holds adapter partyType partyId partySubType currency w) ↔
      SeesAbsence adapter partyType partyId partySubType currency w := by
  unfold Misses SeesAbsence
  cases htype : adapter.type with
  | remoteHttp => rfl
  | builtin =>
    unfold Holds MongoOracleProviderRepo.FindsNone
    simp only [htype]
    cases w.builtin.cache.get (MongoOracleProviderRepo.getKeyWithPrefix (.val partyType)
      (.val partyId) partySubType currency) with
    | some record =>
      dsimp only
      rw [← Bool.not_eq_true]
      exact not_iff_not
    | none =>
      dsimp only
      cases hfind : w.builtin.parties.find? (MongoOracleProviderRepo.lookupQuery
        (.val partyType) (.val partyId) partySubType currency).selects with
      | none =>
        have hnone := List.find?_eq_none.mp hfind
        simpa using hnone
      | some document =>
        have hholds : ∃ document ∈ w.builtin.parties, (MongoOracleProviderRepo.lookupQuery
            (.val partyType) (.val partyId) partySubType currency).selects document = true :=
          ⟨document, List.mem_of_find?_eq_some hfind, List.find?_some hfind⟩
        simp [hholds]

/-- For a lookup whose oracle is selected and whose backend answers, absence is reported exactly under
the condition. -/
theorem reportsAbsence_iff {env : Environment} {w : World} {adapter : OracleAdapter}
    {partyType : String} {currency : Js.Str}
    (hselects : (aggregate env).Selects (.val partyType) currency adapter w w)
    (hanswers : BackendAnswers env adapter) (partyId : String) (partySubType : Js.Str) :
    ReportsAbsence env adapter partyType partyId partySubType currency w ↔
      SeesAbsence adapter partyType partyId partySubType currency w := by
  rw [← misses_iff_seesAbsence]
  unfold ReportsAbsence
  rw [Aggregate.route_404_iff, notFound_iff_misses hselects hanswers]
  exact and_iff_left_of_imp Iff.mpr

theorem reportsAbsence_iff_empty :
    ReportsAbsence (withFaults .none) ⟨.builtin, builtinOracle⟩ "MSISDN" "123" .null .null
      builtinWorld := by
  have hselects : (aggregate (withFaults .none)).Selects (.val "MSISDN") .null
      ⟨.builtin, builtinOracle⟩ builtinWorld builtinWorld := selects_iff.mpr ⟨rfl, rfl, rfl⟩
  have hanswers : BackendAnswers (withFaults .none) ⟨.builtin, builtinOracle⟩ := ⟨rfl, rfl, rfl⟩
  apply (reportsAbsence_iff hselects hanswers "123" .null).mpr
  intro document hfind
  cases hfind

/-- A registry of one remote oracle, which knows no party. -/
def remoteOracle : Oracle where
  id := .str "1"
  name := .str "remote"
  type := .str "remote-http"
  partyType := .str "MSISDN"
  currency := .undefined
  endpoint := .str "http://oracle"

def remoteWorld : World where
  oracles := [remoteOracle]
  adapters := [⟨.remoteHttp, remoteOracle⟩]
  builtin := ⟨[], Store.Cache.empty, []⟩
  remotes _ := .empty "/app/data/db.json"

/-- The remote oracle does not know the party, and the route answers with a 500. -/
theorem not_reportsAbsence_remote :
    (aggregate (withFaults .none)).Selects (.val "MSISDN") .null ⟨.remoteHttp, remoteOracle⟩
        remoteWorld remoteWorld ∧
      ¬Holds ⟨.remoteHttp, remoteOracle⟩ "MSISDN" "123" .null .null remoteWorld ∧
      (∃ error, ((aggregate (withFaults .none)).getAccountLookUp (.val "123") (.val "MSISDN") .null
          .null |>.run remoteWorld).1 = .error error ∧
        error.cls = .unableToGetParticipantFspIdError) ∧
      ((AccountLookupExpressRoutes.getAccountLookUp (aggregate (withFaults .none)) (.val "123")
        (.val "MSISDN") .null .null).run remoteWorld).1 = .ok 500 := by
  refine ⟨selects_iff.mpr ⟨rfl, rfl, rfl⟩, ?_, ⟨_, rfl, rfl⟩, rfl⟩
  intro h
  obtain ⟨association, hget⟩ := h
  cases hget

end System

end AccountLookup
