import AccountLookup.Async.Triple
import AccountLookup.Handling.Service
import AccountLookup.Model.ExpressRoutes

/-! What a caller without privileges can learn from the service, and what it can change. -/

namespace AccountLookup

open Async Express BaseRoutes

/-- None of the caller's roles has any of the privileges. -/
def CallSecurityContext.Unprivileged (packages : Packages) (secCtx : CallSecurityContext) : Prop :=
  ∀ roleId ∈ secCtx.platformRoleIds, ∀ privilege : AccountLookupPrivileges,
    packages.roleHasPrivilege roleId privilege.id = false

/-- The request is routed to the health check with an id that passes its validation. -/
def Express.Request.ChecksHealth (request : Request) : Prop :=
  ∃ path id body, request.body = .ok body ∧ Service.mounted request.path = .admin path ∧
    OracleAdminExpressRoutes.route request.method path = .handler (.healthCheck id) ∧
    OracleAdminExpressRoutes.validId request body id = true

section Handlers

variable {σ : Type} {handler : Proc JsError σ Response} {s t : σ}

theorem run_answer_ok (statusOf : ErrorClass → Nat) {response : Response}
    (h : handler.run s = (.ok response, t)) :
    (answer statusOf handler).run s = (.ok response, t) := by
  unfold answer
  rw [Proc.run_attempt_bind, h]
  rfl

theorem run_answer_error (statusOf : ErrorClass → Nat) {error : JsError}
    (h : handler.run s = (.error error, t)) :
    (answer statusOf handler).run s =
      (.ok ⟨if error.cls = .forbiddenError then 403 else statusOf error.cls, .error error.message⟩,
        t) := by
  unfold answer
  rw [Proc.run_attempt_bind, h]
  rfl

/-- A handler answers a caller who has its privilege, on a request that passes its validation, with
the outcome of its call. -/
theorem run_privileged_ok {packages : Packages} {secCtx : CallSecurityContext}
    {privilege : AccountLookupPrivileges} (h : enforcePrivilege packages secCtx privilege = .ok ())
    (statusOf : ErrorClass → Nat) (request : Request) (valid : Bool) :
    (privileged packages secCtx privilege statusOf request valid handler).run s =
      if valid then (answer statusOf handler).run s
      else (.ok ⟨422, .errors (packages.report request)⟩, s) := by
  unfold privileged
  rw [h]
  show (answer statusOf (validated packages request valid handler)).run s = _
  unfold validated
  cases valid with
  | true => rfl
  | false => exact run_answer_ok statusOf rfl

end Handlers

/-! ### Callers with the privilege -/

section Statuses

variable {σ : Type} {packages : Packages} {secCtx : CallSecurityContext} (agg : RoutesAggregate σ)
  (request : Request) (body : String → Js.Value) (s : σ)

/-- The two computations settle in the same state, the first with an answer of the status with which
the second settles. -/
def HasStatus (p : Proc JsError σ (Option Response)) (q : Proc JsError σ Nat) (s : σ) : Prop :=
  ∃ response t, p.run s = (.ok (some response), t) ∧ q.run s = (.ok response.status, t)

theorem createOracle_hasStatus (h : enforcePrivilege packages secCtx .createOracle = .ok ()) :
    HasStatus (OracleAdminExpressRoutes.handle packages agg secCtx request body .createOracle)
      (OracleAdminExpressRoutes.createOracle agg.toAggregate
        ⟨OracleAdminExpressRoutes.oracleOf body, locations request fun _ => .undefined⟩) s := by
  unfold HasStatus OracleAdminExpressRoutes.handle OracleAdminExpressRoutes.createOracle
  simp only [Proc.run_bind, run_privileged_ok h]
  cases OracleAdminExpressRoutes.validCreate
    ⟨OracleAdminExpressRoutes.oracleOf body, locations request fun _ => .undefined⟩ with
  | false => exact ⟨_, _, rfl, rfl⟩
  | true =>
    rcases hadd : (agg.addOracle (OracleAdminExpressRoutes.oracleOf body)).run s with
      ⟨error | id, t⟩
    · simp [answer, Proc.run_bind, hadd]
    · simp [answer, Proc.run_bind, hadd]

theorem deleteOracle_hasStatus (id : String)
    (h : enforcePrivilege packages secCtx .removeOracle = .ok ()) :
    HasStatus (OracleAdminExpressRoutes.handle packages agg secCtx request body (.deleteOracle id))
      (OracleAdminExpressRoutes.deleteOracle agg.toAggregate
        ⟨id, body "id", locations request fun _ => .undefined⟩) s := by
  have hvalid : OracleAdminExpressRoutes.check OracleAdminExpressRoutes.isNonEmptyString (body "id")
      ((fun _ => .str id) :: locations request fun _ => .undefined) "id" =
        OracleAdminExpressRoutes.validId request body id := by
    simp [OracleAdminExpressRoutes.validId, OracleAdminExpressRoutes.check, locations,
      OracleAdminExpressRoutes.idParam]
  unfold HasStatus OracleAdminExpressRoutes.handle OracleAdminExpressRoutes.deleteOracle
  simp only [Proc.run_bind, run_privileged_ok h, hvalid]
  cases OracleAdminExpressRoutes.validId request body id with
  | false => exact ⟨_, _, rfl, rfl⟩
  | true =>
    rcases hremove : (agg.removeOracle id).run s with ⟨error | _, t⟩
    · simp [answer, Proc.run_bind, hremove, OracleAdminExpressRoutes.notFoundOr500]
    · simp [answer, Proc.run_bind, hremove]

theorem getAccountLookUp_hasStatus (endpoint : AccountLookupExpressRoutes.Endpoint)
    (h : enforcePrivilege packages secCtx .viewAllOracleAssociations = .ok ())
    (hvalid : AccountLookupExpressRoutes.validParty request body endpoint = true)
    {partySubType currency : Js.Str}
    (hsubType : AccountLookupExpressRoutes.queryText request "partySubType" = .ok partySubType)
    (hcurrency : AccountLookupExpressRoutes.queryText request "currency" = .ok currency) :
    HasStatus (AccountLookupExpressRoutes.handle packages agg secCtx request body endpoint)
      (AccountLookupExpressRoutes.getAccountLookUp agg.toAggregate (.val endpoint.partyId)
        (.val endpoint.partyType) partySubType currency) s := by
  unfold HasStatus AccountLookupExpressRoutes.handle AccountLookupExpressRoutes.getAccountLookUp
  simp only [Proc.run_bind, run_privileged_ok h, hvalid, hsubType, hcurrency, if_true]
  rcases hlookUp : (agg.getAccountLookUp (.val endpoint.partyId) (.val endpoint.partyType)
    partySubType currency).run s with ⟨error | fspId, t⟩
  · simp [answer, Proc.run_bind, hlookUp]
  · simp [answer, Proc.run_bind, hlookUp]

end Statuses

section Unprivileged

variable {σ : Type} {packages : Packages} {secCtx : CallSecurityContext}
  (h : secCtx.Unprivileged packages)
include h

theorem enforcePrivilege_eq_error (privilege : AccountLookupPrivileges) :
    enforcePrivilege packages secCtx privilege = .error ⟨.forbiddenError,
      "Caller is missing platform role with privilegeId: " ++ privilege.id⟩ := by
  unfold enforcePrivilege
  rw [if_neg]
  rw [List.any_eq_true]
  intro hany
  obtain ⟨roleId, hmem, hhas⟩ := hany
  rw [h roleId hmem privilege] at hhas
  cases hhas

theorem privileged_constant (privilege : AccountLookupPrivileges) (statusOf : ErrorClass → Nat)
    (request : Request) (valid : Bool) (handler : Proc JsError σ Response) :
    (privileged packages secCtx privilege statusOf request valid handler).Constant := by
  refine ⟨⟨403, .error ("Caller is missing platform role with privilegeId: " ++ privilege.id)⟩, ?_⟩
  intro s
  unfold privileged
  rw [enforcePrivilege_eq_error h]
  exact run_answer_error statusOf (Proc.run_bind_error (Proc.run_ofExcept s _))

theorem admin_handle_constant (agg : RoutesAggregate σ) (request : Request)
    (body : String → Js.Value) (endpoint : OracleAdminExpressRoutes.Endpoint)
    (hhealth : ∀ id, endpoint = .healthCheck id →
      OracleAdminExpressRoutes.validId request body id = false) :
    (OracleAdminExpressRoutes.handle packages agg secCtx request body endpoint).Constant := by
  unfold OracleAdminExpressRoutes.handle
  cases endpoint with
  | getAllOracles => exact (privileged_constant h ..).bind fun _ => .pure _
  | getAllBuiltinOracleAssociations => exact (privileged_constant h ..).bind fun _ => .pure _
  | getAllOracleAssociations =>
    dsimp only
    cases OracleAdminExpressRoutes.searchOf request with
    | error error => exact .pure _
    | ok search => exact (privileged_constant h ..).bind fun _ => .pure _
  | getOracleById id => exact (privileged_constant h ..).bind fun _ => .pure _
  | deleteOracle id => exact (privileged_constant h ..).bind fun _ => .pure _
  | createOracle => exact (privileged_constant h ..).bind fun _ => .pure _
  | healthCheck id =>
    -- an id that is not valid is refused before the adapters are read
    have hinvalid := hhealth id rfl
    unfold validated
    simp only [hinvalid, Bool.false_eq_true, if_false]
    exact ⟨_, fun s => rfl⟩
  | getSearchKeywords => exact (privileged_constant h ..).bind fun _ => .pure _

theorem lookup_handle_constant (agg : RoutesAggregate σ) (request : Request)
    (body : String → Js.Value) (endpoint : AccountLookupExpressRoutes.Endpoint) :
    (AccountLookupExpressRoutes.handle packages agg secCtx request body endpoint).Constant :=
  (privileged_constant h ..).bind fun _ => .pure _

omit h in
theorem dispatch_constant {ε : Type} {request : Request} {routed : Routed ε}
    {handle : ε → Proc JsError σ (Option Response)}
    (hhandle : ∀ endpoint, routed = .handler endpoint → (handle endpoint).Constant) :
    (Service.dispatch packages request routed handle).Constant := by
  unfold Service.dispatch
  cases routed with
  | handler endpoint => exact hhandle endpoint rfl
  | undecodable => exact .pure _
  | unmatched => exact .pure _

omit h in
/-- A request has one answer when the handlers that it can be routed to have one. -/
theorem serve_constant (agg : RoutesAggregate σ) {request : Request}
    (hadmin : ∀ secCtx path body endpoint, authenticate packages request = some secCtx →
      request.body = .ok body → Service.mounted request.path = .admin path →
      OracleAdminExpressRoutes.route request.method path = .handler endpoint →
      (OracleAdminExpressRoutes.handle packages agg secCtx request body endpoint).Constant)
    (hlookUp : ∀ secCtx path body endpoint, authenticate packages request = some secCtx →
      request.body = .ok body → Service.mounted request.path = .accountLookup path →
      AccountLookupExpressRoutes.route request.method path = .handler endpoint →
      (AccountLookupExpressRoutes.handle packages agg secCtx request body endpoint).Constant) :
    (Service.serve packages agg request).Constant := by
  unfold Service.serve
  cases hbody : request.body with
  | error status => exact .pure _
  | ok body =>
    dsimp only
    cases hmounted : Service.mounted request.path with
    | elsewhere => exact .pure _
    | admin path =>
      unfold Service.authenticated
      cases hauth : authenticate packages request with
      | none => exact .pure _
      | some secCtx =>
        exact dispatch_constant fun endpoint hroute =>
          hadmin secCtx path body endpoint hauth hbody hmounted hroute
    | accountLookup path =>
      unfold Service.authenticated
      cases hauth : authenticate packages request with
      | none => exact .pure _
      | some secCtx =>
        exact dispatch_constant fun endpoint hroute =>
          hlookUp secCtx path body endpoint hauth hbody hmounted hroute

/-- A request that checks no health has one answer, which changes nothing. -/
theorem respond_constant (agg : RoutesAggregate σ) {request : Request}
    (hauth : authenticate packages request = some secCtx) (hhealth : ¬request.ChecksHealth) :
    (Service.respond packages agg request).Constant := by
  refine Proc.Constant.bind (serve_constant agg ?_ ?_) fun _ => .pure _
  · intro caller path body endpoint hcaller hbody hmounted hroute
    obtain rfl : secCtx = caller := Option.some.inj (hauth.symm.trans hcaller)
    apply admin_handle_constant h
    rintro id rfl
    rw [← Bool.not_eq_true]
    intro hvalid
    exact hhealth ⟨path, id, body, hbody, hmounted, hroute, hvalid⟩
  · intro caller path body endpoint hcaller _ _ _
    obtain rfl : secCtx = caller := Option.some.inj (hauth.symm.trans hcaller)
    exact lookup_handle_constant h agg request body endpoint

end Unprivileged

namespace System

variable {env : Environment} {oracleListing : OracleListing World} {packages : Packages}

/-- The caller learns nothing about the state from the answer to the request, and changes nothing. -/
def Noninterfering (env : Environment) (oracleListing : OracleListing World) (packages : Packages)
    (request : Request) : Prop :=
  let respond := Service.respond packages (routesAggregate env oracleListing) request
  ∀ w w', (respond.run w).1 = (respond.run w').1 ∧ (respond.run w).2 = w ∧ (respond.run w').2 = w'

/-- The answer to a health check is that of its handler. -/
theorem serve_checksHealth {σ : Type} {agg : RoutesAggregate σ} {request : Request}
    {secCtx : CallSecurityContext} (hauth : authenticate packages request = some secCtx)
    (hhealth : request.ChecksHealth) :
    ∃ id, Service.serve packages agg request =
      answer OracleAdminExpressRoutes.notFoundOr500
          (agg.healthCheck id >>= fun fetched => pure ⟨200, .healthy fetched⟩) >>=
        fun response => pure (some response) := by
  obtain ⟨path, id, body, hbody, hmounted, hroute, hvalid⟩ := hhealth
  refine ⟨id, ?_⟩
  unfold Service.serve
  rw [hbody]
  dsimp only
  rw [hmounted]
  unfold Service.authenticated Service.dispatch
  rw [hauth]
  dsimp only
  rw [hroute]
  unfold OracleAdminExpressRoutes.handle validated
  simp only [hvalid, if_true]

theorem run_healthCheck_nil {id : String} {w : World} (h : w.adapters = []) :
    ((routesAggregate env oracleListing).healthCheck id).run w =
      (.error ⟨.oracleNotFoundError, s!"Oracle does not exist for given id {id}"⟩, w) := by
  unfold RoutesAggregate.healthCheck
  rw [Proc.run_bind_ok (Proc.run_read _ _)]
  have hadapters : (routesAggregate env oracleListing).oracleProvidersAdapters.get w = [] := h
  rw [hadapters]
  rfl

theorem run_healthCheck_builtin {id : String} {w : World} {oracle : Oracle}
    (h : w.adapters = [⟨.builtin, oracle⟩]) (hid : oracle.id = .str id) :
    ((routesAggregate env oracleListing).healthCheck id).run w = (.ok true, w) := by
  unfold RoutesAggregate.healthCheck
  rw [Proc.run_bind_ok (Proc.run_read _ _)]
  have hadapters : (routesAggregate env oracleListing).oracleProvidersAdapters.get w =
      [⟨.builtin, oracle⟩] := h
  have hfind : [(⟨.builtin, oracle⟩ : OracleAdapter)].find?
      (fun o => o.oracleId.strictEq (.str id)) = some ⟨.builtin, oracle⟩ := by
    rw [List.find?_cons_of_pos]
    exact Js.Value.strictEq_str.mpr hid
  rw [hadapters, hfind]
  show ((MongoOracleProviderRepo.healthCheck env.faults _).zoom World.builtinLens).run w = _
  unfold MongoOracleProviderRepo.healthCheck
  rw [Proc.run_zoom, Proc.run_attempt_bind, run_send]
  cases env.faults (.mongoPing ⟨.builtin, oracle⟩) <;> rfl

/-- A registry without adapters. -/
def withoutAdapters : World := { builtinWorld with adapters := [] }

/-- A registry with the adapter of a builtin oracle. -/
def withAdapter (id : String) : World :=
  { builtinWorld with adapters := [⟨.builtin, { builtinOracle with id := .str id }⟩] }

/-- A health check tells whether an oracle with the id has an adapter. -/
theorem not_noninterfering_of_checksHealth {request : Request} {secCtx : CallSecurityContext}
    (hauth : authenticate packages request = some secCtx) (hhealth : request.ChecksHealth) :
    ¬Noninterfering env oracleListing packages request := by
  obtain ⟨id, hserve⟩ :=
    @serve_checksHealth packages World (routesAggregate env oracleListing) request secCtx hauth
      hhealth
  have habsent := @run_healthCheck_nil env oracleListing id withoutAdapters rfl
  have hpresent := @run_healthCheck_builtin env oracleListing id (withAdapter id) _ rfl rfl
  intro h
  have hsame := (h withoutAdapters (withAdapter id)).1
  unfold Service.respond at hsame
  rw [hserve] at hsame
  have hnotFound := run_answer_error OracleAdminExpressRoutes.notFoundOr500
    (@Proc.run_bind_error _ _ _ _ _ (fun fetched => pure ⟨200, .healthy fetched⟩) _ _ _ habsent)
  have hfound := run_answer_ok OracleAdminExpressRoutes.notFoundOr500
    ((@Proc.run_bind_ok _ _ _ _ _ (fun fetched => pure ⟨200, .healthy fetched⟩) _ _ _
      hpresent).trans (Proc.run_pure _ _))
  rw [Proc.bind_bind, Proc.run_bind_ok hnotFound, Proc.run_bind_ok hfound] at hsame
  -- the two answers differ in their status, whether the body is sent or not
  have hstatus := congrArg (fun sent : Except JsError (Option Response) =>
    sent.toOption.bind fun response => response.map Response.status) hsame
  by_cases hhead : request.method = .head <;>
    simp [Proc.run_bind, hhead, Except.toOption, OracleAdminExpressRoutes.notFoundOr500] at hstatus

/-- A caller without privileges learns nothing from a request, and changes nothing with it, exactly
when the request is no health check of an id that passes its validation.  A request whose page parameters
cannot be read gets no answer and ends the process, and does so in every state alike. -/
theorem noninterfering_iff (env : Environment) (oracleListing : OracleListing World)
    (packages : Packages) (request : Request) (secCtx : CallSecurityContext)
    (hauth : authenticate packages request = some secCtx) (h : secCtx.Unprivileged packages) :
    Noninterfering env oracleListing packages request ↔ ¬request.ChecksHealth := by
  constructor
  · intro hnone hhealth
    exact not_noninterfering_of_checksHealth hauth hhealth hnone
  · intro hhealth w w'
    obtain ⟨response, hrun⟩ :=
      respond_constant h (routesAggregate env oracleListing) hauth hhealth
    rw [hrun, hrun]
    exact ⟨rfl, rfl, rfl⟩

/-! ### A caller without privileges -/

/-- Every token is that of a caller with one role, which has no privilege. -/
def onePlatformRole : Packages where
  getCallSecurityContextFromAccessToken _ := some ⟨["viewer"]⟩
  roleHasPrivilege _ _ := false
  report _ := "[]"
  errorPage _ _ := "Bad Request"

/-- Adapters that list nothing. -/
def listsNothing : OracleListing World where
  getAllAssociations _ := pure []
  searchAssociations _ _ := .ok (pure ⟨.num 100, .num 0, .num 0, []⟩)
  getSearchKeywords _ := .ok (pure [])

/-- A request with a token and nothing else than its path. -/
def getRequest (path : List String) : Request where
  method := .get
  path := path.map String.toList
  query _ := ⟨.undefined, .ok "undefined"⟩
  headers field := if field = "authorization" then .val "Bearer token" else .undefined
  body := .ok fun _ => .undefined

theorem noninterfering_iff_getAllOracles :
    Noninterfering (withFaults .none) listsNothing onePlatformRole (getRequest ["admin", "oracles"]) ↔
      ¬(getRequest ["admin", "oracles"]).ChecksHealth :=
  noninterfering_iff (withFaults .none) listsNothing onePlatformRole
    (getRequest ["admin", "oracles"]) ⟨["viewer"]⟩ (by decide +kernel) fun _ _ _ => rfl

/-- The caller learns whether oracle `1` is registered. -/
theorem not_noninterfering :
    authenticate onePlatformRole (getRequest ["admin", "oracles", "health", "1"]) =
        some ⟨["viewer"]⟩ ∧
      CallSecurityContext.Unprivileged onePlatformRole ⟨["viewer"]⟩ ∧
      ((Service.respond onePlatformRole (routesAggregate (withFaults .none) listsNothing)
        (getRequest ["admin", "oracles", "health", "1"])).run builtinWorld).1.toOption =
          some (some ⟨200, .healthy true⟩) ∧
      ((Service.respond onePlatformRole (routesAggregate (withFaults .none) listsNothing)
        (getRequest ["admin", "oracles", "health", "1"])).run
          { builtinWorld with adapters := [] }).1.toOption =
        some (some ⟨404, .error "Oracle does not exist for given id 1"⟩) ∧
      ¬Noninterfering (withFaults .none) listsNothing onePlatformRole
        (getRequest ["admin", "oracles", "health", "1"]) := by
  have hfound : ((Service.respond onePlatformRole
      (routesAggregate (withFaults .none) listsNothing)
        (getRequest ["admin", "oracles", "health", "1"])).run builtinWorld).1.toOption =
          some (some ⟨200, .healthy true⟩) := by
    decide +kernel
  have hnotFound : ((Service.respond onePlatformRole
      (routesAggregate (withFaults .none) listsNothing)
        (getRequest ["admin", "oracles", "health", "1"])).run
          { builtinWorld with adapters := [] }).1.toOption =
        some (some ⟨404, .error "Oracle does not exist for given id 1"⟩) := by
    decide +kernel
  refine ⟨by decide +kernel, fun _ _ _ => rfl, hfound, hnotFound, ?_⟩
  intro h
  rw [(h builtinWorld { builtinWorld with adapters := [] }).1, hnotFound] at hfound
  exact absurd hfound (by decide)

end System

end AccountLookup
