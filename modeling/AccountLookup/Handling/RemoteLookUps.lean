import AccountLookup.Handling.Authority
import AccountLookup.Handling.LookUpClient
import AccountLookup.Handling.NotFound
import AccountLookup.Remote.Database
import AccountLookup.Remote.RoundTrip

/-! Look-ups of parties of remote oracles over both of their clients and services: the client library
gets what the remote oracle has for the party, and it gets the same until the FSP of the association
asks for its removal. -/

namespace AccountLookup

open Async RemoteOracleExpressRoutes Url

/-- The remote oracle answers requests for the party with the FSP. -/
def RemoteOracle.AnswersWith (s : RemoteOracle) (partyType partyId : String)
    (currency fspId : Js.Str) : Prop :=
  fspId.truthy = true ∧ ∃ association,
    s.associations.get (createKey partyId partyType currency) = some association ∧
      association.fspId = fspId

theorem RemoteOracle.AnswersWith.unique {s : RemoteOracle} {partyType partyId : String}
    {currency fspId fspId' : Js.Str} (h : s.AnswersWith partyType partyId currency fspId)
    (h' : s.AnswersWith partyType partyId currency fspId') : fspId = fspId' := by
  obtain ⟨-, association, hget, rfl⟩ := h
  obtain ⟨-, association', hget', rfl⟩ := h'
  rw [hget] at hget'
  cases hget'
  rfl

namespace HttpOracleProvider

/-- A look-up through the adapter of a party that the URL carries returns the FSP with which the remote
oracle answers, and rejects when there is none. -/
theorem getParticipantFspId_carried {faults : Faults} (hanswers : faults .httpRequest = none)
    {partyType partyId : String} {currency : Option String} (htype : partyType ≠ "")
    (hid : partyId ≠ "") (hcurrency : currency ≠ some "")
    (hcarried : Carried partyType partyId none currency) (s : RemoteOracle) :
    let outcome := ((getParticipantFspId faults (.val partyType) (.val partyId) .null
      (.ofOption currency)).run s).1
    (∃ fspId, s.AnswersWith partyType partyId (.ofOption currency) fspId ∧ outcome = .ok fspId) ∨
      (∀ fspId, ¬s.AnswersWith partyType partyId (.ofOption currency) fspId) ∧
        ∃ error, outcome = .error error := by
  have hsubType : (none : Option String) ≠ some "" := nofun
  have hserved := (servedParams_participantRequest htype hid hsubType hcurrency .get
    .undefined).mpr hcarried
  have hmethod : (participantRequest .get .undefined (.val partyType) (.val partyId)
    (.ofOption none) (.ofOption currency)).method = .get := rfl
  have hnone : (.null : Js.Str) = .ofOption none := rfl
  unfold getParticipantFspId request
  rw [hnone]
  generalize participantRequest .get .undefined (.val partyType) (.val partyId) (.ofOption none)
    (.ofOption currency) = req at *
  rw [Proc.run_bind, Proc.run_rethrow, Proc.run_bind, run_send, hanswers]
  dsimp only
  rw [handle_served faults hserved, if_pos (.inl hmethod), call, hmethod, Proc.run_bind]
  dsimp only
  rw [Proc.run_bind_ok (RemoteOracle.run_getParticipantFspId ..)]
  unfold RemoteOracle.AnswersWith paramsOf
  dsimp only
  cases s.associations.get (RemoteOracle.createKey partyId partyType (.ofOption currency)) with
  | none =>
    refine .inr ⟨?_, ?_⟩
    · rintro _ ⟨-, _, ⟨⟩, -⟩
    · simp [Except.mapError, Js.Field.truthy]
  | some association =>
    dsimp only [Option.map_some, Option.getD_some]
    by_cases htruthy : association.fspId.truthy = true
    · refine .inl ⟨association.fspId, ⟨htruthy, association, rfl, rfl⟩, ?_⟩
      have hfspId := Js.Field.orNull_eq_of_truthy htruthy
      rw [if_pos htruthy]
      simp [Except.mapError, hfspId]
    · refine .inr ⟨?_, ?_⟩
      · rintro _ ⟨hfspId, _, ⟨⟩, rfl⟩
        exact htruthy hfspId
      · rw [if_neg htruthy]
        simp [Except.mapError]

end HttpOracleProvider

namespace Aggregate

variable {σ : Type} {agg : Aggregate σ} (quiet : agg.Quiet)
include quiet

/-- A look-up resolves with the FSP that the selected adapter returns, and reports what it throws as an
error of its own. -/
theorem getAccountLookUp_of_selects {partyType currency : Js.Str} {adapter : OracleAdapter}
    {s u : σ} (h : agg.Selects partyType currency adapter s u) (partyId partySubType : Js.Str) :
    let found := (agg.oracleProvider.getParticipantFspId adapter partyType partyId partySubType
      currency).run u
    let outcome := (agg.getAccountLookUp partyId partyType partySubType currency).run s
    (∀ fspId, fspId.truthy = true → found.1 = .ok fspId → outcome = (.ok fspId, found.2)) ∧
      ∀ error, found.1 = .error error →
        ∃ message, outcome = (.error ⟨.unableToGetParticipantFspIdError, message⟩, found.2) := by
  have hadapter := (getOracleAdapter_eq_ok quiet).mpr h
  simp only [getAccountLookUp, getParticipantIdFromOracle, Proc.run_attempt_bind,
    run_histo_bind quiet, Proc.run_bind_ok hadapter]
  rcases (agg.oracleProvider.getParticipantFspId adapter partyType partyId partySubType
    currency).run u with ⟨error | fspId, t⟩
  · constructor
    · intro _ _ hfound
      cases hfound
    · intro _ _
      simp [run_histo_bind quiet]
  · constructor
    · intro _ htruthy hfound
      cases hfound
      simp [run_histo_bind quiet, htruthy]
    · intro _ hfound
      cases hfound

end Aggregate

namespace System

/-- Look-ups of the party type reach the remote oracle of the adapter. -/
structure ReachesRemote (env : Environment) (partyType : String) (currency : Option String)
    (adapter : OracleAdapter) (w : World) : Prop where
  isRemote : adapter.type = .remoteHttp
  selects : (aggregate env).Selects (.val partyType) (.ofOption currency) adapter w w
  answers : env.faults .httpRequest = none

theorem getAccountLookUp_remote {env : Environment} {partyType partyId : String}
    {currency : Option String} {adapter : OracleAdapter} {w : World}
    (h : ReachesRemote env partyType currency adapter w) (htype : partyType ≠ "") (hid : partyId ≠ "")
    (hcurrency : currency ≠ some "")
    (hcarried : HttpOracleProvider.Carried partyType partyId none currency) :
    let oracle := w.remotes adapter.oracle.endpoint
    let outcome := ((aggregate env).getAccountLookUp (.val partyId) (.val partyType) .null
      (.ofOption currency)).run w
    (∃ fspId, oracle.AnswersWith partyType partyId (.ofOption currency) fspId ∧
        outcome = (.ok fspId, w)) ∨
      (∀ fspId, ¬oracle.AnswersWith partyType partyId (.ofOption currency) fspId) ∧
        ∃ message, outcome = (.error ⟨.unableToGetParticipantFspIdError, message⟩, w) := by
  obtain ⟨hremote, hselects, hanswers⟩ := h
  obtain ⟨hfound, hfailed⟩ := Aggregate.getAccountLookUp_of_selects (aggregate_quiet env) hselects
    (.val partyId) .null
  have hrun := run_lookup_remote env hremote (.val partyType) (.val partyId) .null
    (.ofOption currency) w
  have hstate : (World.remoteLens adapter.oracle.endpoint).set
      (w.remotes adapter.oracle.endpoint) w = w := (World.remoteLens adapter.oracle.endpoint).set_get w
  rw [HttpOracleProvider.run_getParticipantFspId_state, hstate] at hrun
  rw [hrun] at hfound hfailed
  rcases HttpOracleProvider.getParticipantFspId_carried hanswers htype hid hcurrency hcarried
    (w.remotes adapter.oracle.endpoint) with ⟨fspId, hfspId, hok⟩ | ⟨hnone, error, herror⟩
  · exact .inl ⟨fspId, hfspId, hfound fspId hfspId.1 hok⟩
  · exact .inr ⟨hnone, hfailed error herror⟩

end System

/-! ### Handled messages leave the registry -/

namespace Handled

/-- What look-ups of a party type reach stays the same. -/
theorem reachesRemote_run {env : Environment} {partyType : String} {currency : Option String}
    {adapter : OracleAdapter} {w : World} (h : System.ReachesRemote env partyType currency adapter w)
    (steps : List Handled) : System.ReachesRemote env partyType currency adapter (steps.foldl next w) := by
  obtain ⟨horacles, hadapters⟩ := registry_run w steps
  obtain ⟨hremote, hselects, hanswers⟩ := h
  obtain ⟨-, hfind, hadapter⟩ := System.selects_iff.mp hselects
  refine ⟨hremote, System.selects_iff.mpr ⟨rfl, hfind, ?_⟩, hanswers⟩
  unfold System.adapterFor at hadapter ⊢
  rw [horacles, hadapters]
  exact hadapter

end Handled

/-! ### The client library -/

namespace AccountLookupHttpClient

open AccountLookupExpressRoutes BaseRoutes Express

/-- The caller of the request has the privilege to look up parties. -/
def Admits (packages : Packages) (request : Request) : Prop :=
  ∃ secCtx, authenticate packages request = some secCtx ∧
    enforcePrivilege packages secCtx .viewAllOracleAssociations = .ok ()

/-- A look-up of an admitted caller is answered with its outcome. -/
theorem run_serve_of_admits {σ : Type} {packages : Packages} {agg : RoutesAggregate σ}
    {request : Request} {lookUp : LookUp} (h : lookedUp request = some lookUp)
    (hadmits : Admits packages request) (s : σ) :
    let outcome := (agg.getAccountLookUp (.val lookUp.partyId) (.val lookUp.partyType)
      lookUp.partySubType lookUp.currency).run s
    (Service.serve packages agg request).run s = (.ok (some (answerOf outcome.1)), outcome.2) := by
  obtain ⟨body, path, hbody, hmounted, hroute, hvalid, hsubType, hcurrency⟩ :=
    lookedUp_eq_some_iff.mp h
  obtain ⟨secCtx, hauthenticate, hprivilege⟩ := hadmits
  unfold Service.serve
  rw [hbody]
  dsimp only
  rw [hmounted]
  unfold Service.authenticated
  rw [hauthenticate]
  unfold Service.dispatch
  dsimp only
  rw [hroute]
  unfold AccountLookupExpressRoutes.handle
  rw [Proc.run_bind, run_privileged_ok hprivilege, if_pos hvalid, hsubType, hcurrency]
  rcases hlookUp : (agg.getAccountLookUp (.val lookUp.partyId) (.val lookUp.partyType)
    lookUp.partySubType lookUp.currency).run s with ⟨error | fspId, t⟩
  · simp [answer, Proc.ofExcept, Proc.run_bind, hlookUp, answerOf]
  · simp [answer, Proc.run_bind, hlookUp, answerOf]

theorem unpack_answerOf_unable (syntaxError : Body → String) (message : String) :
    unpack syntaxError (answerOf (.error ⟨.unableToGetParticipantFspIdError, message⟩)) =
      .error (unableToGetFspId "500") := by
  have hstatus : toString 500 = "500" := by decide
  unfold unpack answerOf
  simp [hstatus]

/-- The remote oracle has the party `123` for `bluebank`. -/
def bluebankWorld : World :=
  { System.remoteWorld with
    remotes := fun _ =>
      ((RemoteOracle.associateParticipant .none (.val "bluebank") "MSISDN" "123" .null .null).run
        (.empty "/app/data/db.json")).2 }

theorem reachesRemote_bluebankWorld : System.ReachesRemote (System.withFaults .none) "MSISDN" none
    ⟨.remoteHttp, System.remoteOracle⟩ bluebankWorld :=
  ⟨rfl, System.selects_iff.mpr ⟨rfl, rfl, rfl⟩, rfl⟩

theorem admits_everyPrivilege :
    Admits everyPrivilege (.ofTarget (.val "Bearer token") (lookUpTarget "MSISDN" "123" .null)) :=
  ⟨⟨["operator"]⟩, by decide +kernel, rfl⟩

/-- A request of `greenbank` to remove the party `123`. -/
def greenbankRemoval : Handled where
  env := System.withFaults .none
  message :=
    { System.changeMessage .participantDisassociateRequestReceivedEvt with
      payload := some
        { partyId := .val "123", partyType := .val "MSISDN", ownerFspId := .val "greenbank" } }

section

variable {packages : Packages} {oracleListing : OracleListing World} {authorization : Js.Str}
  {timeout : String} {syntaxError : Body → String} {partyType partyId : String}
  {currency : Option String} (htype : partyType ≠ "") (hid : partyId ≠ "")
  (hcurrency : currency ≠ some "")
  (hsafe : ParametersSafe partyType.toList partyId.toList (currency.map String.toList))
  (hadmits : Admits packages
    (.ofTarget authorization (lookUpTarget partyType partyId (.ofOption currency))))

include htype hid hcurrency hsafe hadmits in
/-- A party that is safe in the URL of the client is safe in that of the adapter. -/
theorem run_participantLookUp_remote {env : Environment} {adapter : OracleAdapter} {w : World}
    (hreaches : System.ReachesRemote env partyType currency adapter w) :
    let oracle := w.remotes adapter.oracle.endpoint
    let outcome := (participantLookUp (Service.requester packages
      (System.routesAggregate env oracleListing) authorization timeout syntaxError) partyType partyId
        (.ofOption currency)).run w
    (∃ fspId, oracle.AnswersWith partyType partyId (.ofOption currency) fspId ∧
        outcome = (.ok fspId, w)) ∨
      (∀ fspId, ¬oracle.AnswersWith partyType partyId (.ofOption currency) fspId) ∧
        outcome = (.error (unableToGetFspId "500"), w) := by
  have hlookedUp := (lookedUp_iff_safe htype hid hcurrency authorization).mpr hsafe
  have hserve := @run_serve_of_admits _ packages (System.routesAggregate env oracleListing) _ _
    hlookedUp hadmits w
  dsimp only at hserve ⊢
  rw [run_participantLookUp_requester htype hid hserve]
  have hcarried := HttpOracleProvider.carried_iff.mpr hsafe
  rcases System.getAccountLookUp_remote hreaches htype hid hcurrency hcarried with
    ⟨fspId, hfspId, hrun⟩ | ⟨hnone, message, hrun⟩
  · have hlookUp : ((System.routesAggregate env oracleListing).getAccountLookUp (.val partyId)
        (.val partyType) .null (.ofOption currency)).run w = (.ok fspId, w) := hrun
    rw [hlookUp]
    exact .inl ⟨fspId, hfspId, rfl⟩
  · have hlookUp : ((System.routesAggregate env oracleListing).getAccountLookUp (.val partyId)
        (.val partyType) .null (.ofOption currency)).run w =
          (.error ⟨.unableToGetParticipantFspIdError, message⟩, w) := hrun
    rw [hlookUp, unpack_answerOf_unable]
    exact .inr ⟨hnone, rfl⟩

include htype hid hcurrency hsafe hadmits in
/-- The client returns an FSP exactly when the remote oracle answers with it, over both pairs of client
and service, and it changes nothing. -/
theorem participantLookUp_remote_iff {env : Environment} {adapter : OracleAdapter} {w : World}
    (hreaches : System.ReachesRemote env partyType currency adapter w) (fspId : Js.Str) :
    (participantLookUp (Service.requester packages (System.routesAggregate env oracleListing)
        authorization timeout syntaxError) partyType partyId (.ofOption currency)).run w =
          (.ok fspId, w) ↔
      (w.remotes adapter.oracle.endpoint).AnswersWith partyType partyId (.ofOption currency)
        fspId := by
  rcases @run_participantLookUp_remote packages oracleListing authorization timeout syntaxError _ _ _
    htype hid hcurrency hsafe hadmits _ _ _ hreaches with ⟨found, hfound, hrun⟩ | ⟨hnone, hrun⟩ <;>
      rw [hrun]
  · constructor
    · intro h
      cases h
      exact hfound
    · intro h
      rw [hfound.unique h]
  · exact ⟨nofun, fun h => absurd h (hnone fspId)⟩

theorem participantLookUp_remote_iff_bluebank :
    (participantLookUp (Service.requester everyPrivilege
        (System.routesAggregate (System.withFaults .none) System.listsNothing) (.val "Bearer token")
          "Timeout" fun _ => "SyntaxError") "MSISDN" "123" (.ofOption none)).run bluebankWorld =
            (.ok (.val "bluebank"), bluebankWorld) := by
  have hcurrency : (none : Option String) ≠ some "" := nofun
  have hsafe : ParametersSafe "MSISDN".toList "123".toList none := by decide +kernel
  exact (participantLookUp_remote_iff (by decide) (by decide) hcurrency hsafe admits_everyPrivilege
    reachesRemote_bluebankWorld (.val "bluebank")).mpr ⟨rfl, _, rfl, rfl⟩

include htype hid hcurrency hsafe hadmits in
/-- Once the client is answered with an FSP, it is answered with it after every run of handled messages
in which that FSP does not ask for a removal, whatever the messages of others ask for and whatever fails
in between. -/
theorem participantLookUp_stays {env later : Environment} {adapter : OracleAdapter} {w : World}
    (hreaches : System.ReachesRemote env partyType currency adapter w)
    (hlater : System.ReachesRemote later partyType currency adapter w) {fspId : Js.Str}
    (hanswered : ((participantLookUp (Service.requester packages
      (System.routesAggregate env oracleListing) authorization timeout syntaxError) partyType partyId
        (.ofOption currency)).run w).1 = .ok fspId)
    {steps : List Handled} (hsteps : ∀ step ∈ steps, ∀ request,
      step.message.changeRequest = some request → request.kind = .disassociate →
        request.fspId ≠ fspId) :
    ((participantLookUp (Service.requester packages (System.routesAggregate later oracleListing)
      authorization timeout syntaxError) partyType partyId (.ofOption currency)).run
        (steps.foldl Handled.next w)).1 = .ok fspId := by
  have hknown : (w.remotes adapter.oracle.endpoint).AnswersWith partyType partyId
      (.ofOption currency) fspId := by
    rcases @run_participantLookUp_remote packages oracleListing authorization timeout syntaxError _ _ _
      htype hid hcurrency hsafe hadmits _ _ _ hreaches with ⟨found, hfound, hrun⟩ | ⟨-, hrun⟩ <;>
        rw [hrun] at hanswered
    · cases hanswered
      exact hfound
    · cases hanswered
  obtain ⟨htruthy, association, hget, rfl⟩ := hknown
  have hkept : ((steps.foldl Handled.next w).remotes adapter.oracle.endpoint).AnswersWith partyType
      partyId (.ofOption currency) association.fspId := by
    have hstart : w.Has (.entry adapter.oracle.endpoint
      (RemoteOracle.createKey partyId partyType (.ofOption currency)) association) := hget
    have hstep (w' : World) (step : Handled) (h : w'.Has (.entry adapter.oracle.endpoint
        (RemoteOracle.createKey partyId partyType (.ofOption currency)) association)) :=
      (Handled.authorised_next w' step _).2 h
    rcases Runs.loss_of_step hstep hstart steps with
      hend | ⟨step, hmem, request, hrequest, hkind, hconcerns, -⟩
    · exact ⟨htruthy, association, hend, rfl⟩
    · exact absurd hconcerns.symm (hsteps step hmem request hrequest hkind)
  rcases @run_participantLookUp_remote packages oracleListing authorization timeout syntaxError _ _ _
    htype hid hcurrency hsafe hadmits _ _ _ (Handled.reachesRemote_run hlater steps) with
    ⟨found, hfound, hrun⟩ | ⟨hnone, -⟩
  · rw [hrun, hfound.unique hkept]
  · exact absurd hkept (hnone association.fspId)

theorem participantLookUp_stays_greenbank :
    ((participantLookUp (Service.requester everyPrivilege
        (System.routesAggregate (System.withFaults .none) System.listsNothing) (.val "Bearer token")
          "Timeout" fun _ => "SyntaxError") "MSISDN" "123" (.ofOption none)).run
            ([greenbankRemoval].foldl Handled.next bluebankWorld)).1 = .ok (.val "bluebank") := by
  have hcurrency : (none : Option String) ≠ some "" := nofun
  have hsafe : ParametersSafe "MSISDN".toList "123".toList none := by decide +kernel
  refine participantLookUp_stays (by decide) (by decide) hcurrency hsafe admits_everyPrivilege
    reachesRemote_bluebankWorld reachesRemote_bluebankWorld ?_ ?_
  · decide +kernel
  · intro step hmem request hrequest _
    rw [List.mem_singleton.mp hmem] at hrequest
    cases hrequest
    decide

end

end AccountLookupHttpClient

end AccountLookup
