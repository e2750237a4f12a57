import AccountLookup.Model.HttpOracleProvider

/-! What the requests of a remote adapter do at the remote oracle service. -/

namespace AccountLookup

open Async RemoteOracleExpressRoutes

namespace RemoteOracleExpressRoutes

/-- The parameters with which a request reaches the remote oracle, if it does. -/
def servedParams (target : Url.Target) : Option RequestParams :=
  match route target.path with
  | .participant partyType partyId => extractRequestParams partyType partyId target.query
  | _ => none

/-- A change that does not reach the remote oracle is answered with an error status. -/
theorem handle_not_served (faults : Faults) {req : HttpRequest} (hmethod : req.method ≠ .get)
    (h : servedParams req.target = none) (s : RemoteOracle) :
    ∃ response, ¬response.status < 300 ∧ (handle faults req).run s = (.ok response, s) := by
  unfold servedParams at h
  cases hroute : route req.target.path with
  | health =>
    cases hm : req.method with
    | get => exact absurd hm hmethod
    | post | delete => exact ⟨⟨404, .undefined⟩, by decide, by simp [handle, hroute, hm]⟩
  | participant partyType partyId =>
    rw [hroute] at h
    exact ⟨⟨400, .undefined⟩, by decide, by simp only [handle, hroute, h, Proc.run_pure]⟩
  | none => exact ⟨⟨404, .undefined⟩, by decide, by simp [handle, hroute]⟩

/-- The call of the remote oracle that a request makes with its parameters, and the answer to it. -/
def call (faults : Faults) (req : HttpRequest) (params : RequestParams) :
    Proc JsError RemoteOracle HttpResponse :=
  match req.method with
  | .get => do
    let fetched ← RemoteOracle.getParticipantFspId params.partyType params.partyId
      params.partySubType params.currency
    if fetched.truthy then pure { status := 200, fspId := fetched } else pure { status := 404 }
  | .post =>
    answerChange (RemoteOracle.associateParticipant faults req.fspId.orNull params.partyType
      params.partyId params.partySubType params.currency)
  | .delete =>
    answerChange (RemoteOracle.disassociateParticipant faults req.fspId.orNull params.partyType
      params.partyId params.partySubType params.currency)

/-- A request whose parameters are read makes its call, but for a change without a valid FSP. -/
theorem handle_served (faults : Faults) {req : HttpRequest} {params : RequestParams}
    (h : servedParams req.target = some params) :
    handle faults req =
      if req.method = .get ∨ validFspId req = true then call faults req params
      else pure { status := 422 } := by
  unfold servedParams at h
  cases hroute : route req.target.path with
  | participant partyType partyId =>
    rw [hroute] at h
    unfold handle call
    simp only [hroute, h]
    cases hmethod : req.method with
    | get => simp
    | post | delete => simp
  | health | none =>
    rw [hroute] at h
    cases h

/-- The parameters with which the service calls the remote oracle for a request, if it does. -/
def calls (req : HttpRequest) : Option RequestParams :=
  if req.method = .get ∨ validFspId req = true then servedParams req.target else none

theorem calls_eq_some_iff {req : HttpRequest} {params : RequestParams} :
    calls req = some params ↔
      (req.method = .get ∨ validFspId req = true) ∧ servedParams req.target = some params := by
  unfold calls
  split_ifs with hvalid <;> simp [hvalid]

theorem handle_of_calls (faults : Faults) {req : HttpRequest} {params : RequestParams}
    (h : calls req = some params) : handle faults req = call faults req params := by
  obtain ⟨hvalid, hserved⟩ := calls_eq_some_iff.mp h
  rw [handle_served faults hserved, if_pos hvalid]

theorem handle_of_not_calls (faults : Faults) {req : HttpRequest} (h : calls req = none) :
    ∃ response, handle faults req = pure response := by
  cases hserved : servedParams req.target with
  | some params =>
    refine ⟨{ status := 422 }, ?_⟩
    unfold calls at h
    split_ifs at h with hvalid
    · rw [hserved] at h
      cases h
    · rw [handle_served faults hserved, if_neg hvalid]
  | none =>
    unfold servedParams at hserved
    unfold handle
    cases hroute : route req.target.path with
    | health => cases req.method <;> exact ⟨_, rfl⟩
    | participant partyType partyId =>
      rw [hroute] at hserved
      exact ⟨{ status := 400 }, by simp only [hserved]⟩
    | none => exact ⟨{ status := 404 }, rfl⟩

end RemoteOracleExpressRoutes

namespace RemoteOracle

variable (faults : Faults) (s : RemoteOracle)

theorem run_saveToFile :
    (saveToFile faults).run s = (.ok (writeFile faults s.filePath s.associations.values), s) := rfl

@[simp] theorem run_writeFile (filePath : String) (contents : List Association) :
    (writeFile faults filePath contents).run s =
      match faults .writeFile with
      | some _ => (.error ⟨.error, "Failed to save associations to file \"" ++ filePath ++ "\""⟩, s)
      | none => (.ok (), { s with file := contents }) := run_send_rethrow s _

/-- The oracle with another map, which is not yet in the file. -/
def holding (associations : Js.Map String Association) : RemoteOracle := { s with associations }

/-- A request for a new association is refused, or the association is in the map and the write of the
map is left. -/
theorem step_associateParticipant (fspId : Js.Str) (partyType partyId : String)
    (partySubType currency : Js.Str) :
    ((∃ association, s.associations.get (createKey partyId partyType currency) = some association) ∧
      ∃ error, (associateParticipant faults fspId partyType partyId partySubType currency).step s =
        (.reject error, s)) ∨
    s.associations.get (createKey partyId partyType currency) = none ∧
      let associations := s.associations.set (createKey partyId partyType currency)
        { fspId, partyType, partyId, partySubType, currency }
      (associateParticipant faults fspId partyType partyId partySubType currency).step s =
        (writeFile faults s.filePath associations.values, s.holding associations) := by
  unfold associateParticipant
  cases hget : s.associations.get (createKey partyId partyType currency) with
  | some association =>
    refine .inl ⟨⟨association, rfl⟩, ?_⟩
    exact ⟨_, Proc.step_turn_error (by rw [Proc.run_bind_ok (Proc.run_read _ _), hget]; rfl)⟩
  | none =>
    refine .inr ⟨rfl, Proc.step_turn_ok ?_⟩
    rw [Proc.run_bind_ok (Proc.run_read _ _), hget, Proc.run_bind_ok (Proc.run_modify _ _)]
    exact run_saveToFile faults _

/-- A request for a removal is refused, or the association is out of the map and the write of the map
is left. -/
theorem step_disassociateParticipant (fspId : Js.Str) (partyType partyId : String)
    (partySubType currency : Js.Str) :
    ((∀ association, s.associations.get (createKey partyId partyType currency) = some association →
        association.fspId ≠ fspId) ∧
      ∃ error, (disassociateParticipant faults fspId partyType partyId partySubType currency).step s =
        (.reject error, s)) ∨
    (∃ association, s.associations.get (createKey partyId partyType currency) = some association ∧
        association.fspId = fspId) ∧
      let associations := s.associations.delete (createKey partyId partyType currency)
      (disassociateParticipant faults fspId partyType partyId partySubType currency).step s =
        (writeFile faults s.filePath associations.values, s.holding associations) := by
  unfold disassociateParticipant
  cases hget : s.associations.get (createKey partyId partyType currency) with
  | none =>
    refine .inl ⟨(fun _ h => nomatch h), ?_⟩
    exact ⟨_, Proc.step_turn_error (by rw [Proc.run_bind_ok (Proc.run_read _ _), hget]; rfl)⟩
  | some association =>
    by_cases howner : association.fspId = fspId
    · refine .inr ⟨⟨association, rfl, howner⟩, Proc.step_turn_ok ?_⟩
      rw [Proc.run_bind_ok (Proc.run_read _ _), hget]
      dsimp only
      rw [if_pos howner, Proc.run_bind_ok (Proc.run_modify _ _)]
      exact run_saveToFile faults _
    · refine .inl ⟨?_, ?_⟩
      · intro other hother
        cases hother
        exact howner
      · exact ⟨_, Proc.step_turn_error (by
          rw [Proc.run_bind_ok (Proc.run_read _ _), hget]
          dsimp only
          rw [if_neg howner]
          rfl)⟩

/-- The oracle after the association under `key` is removed. -/
def removed (key : String) : RemoteOracle :=
  { s with
    associations := s.associations.delete key
    file := (s.associations.delete key).values }

theorem disassociateParticipant_eq_ok {fspId partySubType currency : Js.Str}
    {partyType partyId : String} {t : RemoteOracle} :
    (disassociateParticipant faults fspId partyType partyId partySubType currency).run s =
        (.ok (), t) ↔
      faults .writeFile = none ∧ ∃ association,
        s.associations.get (createKey partyId partyType currency) = some association ∧
        association.fspId = fspId ∧ t = s.removed (createKey partyId partyType currency) := by
  rw [← Proc.run_step]
  rcases step_disassociateParticipant faults s fspId partyType partyId partySubType currency with
    ⟨hnone, error, hstep⟩ | ⟨⟨association, hget, howner⟩, hstep⟩ <;> rw [hstep]
  · constructor
    · intro h
      cases h
    · intro h
      obtain ⟨-, association, hget, howner, -⟩ := h
      exact absurd howner (hnone association hget)
  · rw [run_writeFile]
    cases faults .writeFile with
    | some error => simp
    | none => simp [hget, howner, removed, holding, eq_comm]

end RemoteOracle

namespace HttpOracleProvider

variable (faults : Faults)

/-- A removal through the adapter resolves exactly when its request reaches the remote oracle, the
association under the key that is looked up there is owned by `fspId`, and the file is written. -/
theorem disassociateParticipant_eq_ok
    (fspId partyType partyId partySubType currency : Js.Str) (s t : RemoteOracle) :
    (disassociateParticipant faults fspId partyType partyId partySubType currency).run s =
        (.ok (), t) ↔
      let req := participantRequest .delete fspId partyType partyId partySubType currency
      faults .httpRequest = none ∧ validFspId req = true ∧
        ∃ params, servedParams req.target = some params ∧
          (RemoteOracle.disassociateParticipant faults fspId.orNull params.partyType params.partyId
            params.partySubType params.currency).run s = (.ok (), t) := by
  have hmethod : (participantRequest .delete fspId partyType partyId partySubType
    currency).method = .delete := rfl
  have hfspId : (participantRequest .delete fspId partyType partyId partySubType
    currency).fspId = fspId := rfl
  unfold disassociateParticipant request
  generalize participantRequest .delete fspId partyType partyId partySubType currency = req at *
  subst hfspId
  rw [Proc.run_bind, Proc.run_rethrow, Proc.run_bind, run_send]
  cases hfault : faults .httpRequest with
  | some error => simp [Except.mapError]
  | none =>
    simp only [true_and]
    cases hserved : servedParams req.target with
    | none =>
      obtain ⟨response, hstatus, hrun⟩ := handle_not_served faults
        (by rw [hmethod]; decide) hserved s
      simp [Proc.run_bind_ok hrun, hstatus, Except.mapError]
    | some params =>
      rw [handle_served faults hserved]
      by_cases hvalid : validFspId req = true
      · rw [if_pos (.inr hvalid), call]
        simp only [hmethod, hvalid, true_and, answerChange, Option.some.injEq, exists_eq_left']
        rw [Proc.run_bind, Proc.run_attempt_bind]
        rcases (RemoteOracle.disassociateParticipant faults req.fspId.orNull params.partyType
          params.partyId params.partySubType params.currency).run s with ⟨e | done, u⟩
        · simp [Except.mapError]
        · simp [Except.mapError]
      · simp [hmethod, hvalid, Proc.run_bind, Except.mapError]

end HttpOracleProvider

end AccountLookup
