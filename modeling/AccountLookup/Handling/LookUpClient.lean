import AccountLookup.Handling.Privileges
import AccountLookup.Model.AccountLookupHttpClient
import AccountLookup.Remote.RoundTrip

/-! The client of the look-ups and the service: for which parties the service looks up the party that
the client was asked for. -/

namespace AccountLookup

open Async Express BaseRoutes Url RemoteOracleExpressRoutes

/-! ### The service as a reader of parameters -/

namespace AccountLookupExpressRoutes

/-- The encoded parameters of a path that belongs to the router. -/
def partySegments (path : List (List Char)) : Option (List Char × List Char) :=
  match Service.mounted path with
  | .accountLookup path =>
    match dropSlash path with
    | [partyType, partyId] =>
      if partyType ≠ [] && partyId ≠ [] then some (partyType, partyId) else none
    | _ => none
  | _ => none

theorem partySegments_eq_some_iff {path : List (List Char)} {partyType partyId : List Char} :
    partySegments path = some (partyType, partyId) ↔
      ∃ rest, Service.mounted path = .accountLookup rest ∧ dropSlash rest = [partyType, partyId] ∧
        partyType ≠ [] ∧ partyId ≠ [] := by
  unfold partySegments
  constructor
  · intro h
    split at h
    next rest hmounted =>
      split at h
      next hrest =>
        split at h
        next hne =>
          cases h
          simp only [Bool.and_eq_true, decide_eq_true_eq] at hne
          exact ⟨rest, hmounted, hrest, hne⟩
        next => cases h
      · cases h
    · cases h
  · intro h
    obtain ⟨rest, hmounted, hrest, htype, hid⟩ := h
    rw [hmounted]
    dsimp only
    rw [hrest]
    exact if_pos (by simp [htype, hid])

theorem mount_cons {constant : String} {first next : List Char} (rest : List (List Char))
    (hconstant : isConstant first constant = true) (hne : next ≠ []) :
    mount constant (first :: next :: rest) = some (next :: rest) := by
  cases next with
  | nil => exact absurd rfl hne
  | cons c next => exact if_pos hconstant

theorem mount_eq_none {constant : String} {first : List Char} (rest : List (List Char))
    (hconstant : isConstant first constant = false) : mount constant (first :: rest) = none := by
  unfold mount
  simp [hconstant]

/-- A path that is mounted at a constant has it first, and an empty segment may follow. -/
theorem filter_of_mount {constant : String} (hne : constant ≠ "") {path rest : List (List Char)}
    (h : mount constant path = some rest) :
    ∃ first, isConstant first constant = true ∧
      path.filter (· ≠ []) = first :: rest.filter (· ≠ []) := by
  unfold mount at h
  split at h
  · cases h
  next first segments =>
    split at h
    next hconstant =>
      have hfirst : first ≠ [] := by
        rintro rfl
        have hempty : [] = constant.toList := of_decide_eq_true hconstant
        exact hne (String.toList_eq_nil_iff.mp hempty.symm)
      refine ⟨first, hconstant, ?_⟩
      rw [List.filter_cons_of_pos (by simpa using hfirst)]
      split at h <;> cases h <;> simp
    next => cases h

theorem mount_of_mounted {path rest : List (List Char)}
    (h : Service.mounted path = .accountLookup rest) : mount "account-lookup" path = some rest := by
  unfold Service.mounted at h
  split at h
  · cases h
  next hmount =>
    cases h
    exact hmount
  · cases h

theorem filter_dropSlash (path : List (List Char)) :
    (dropSlash path).filter (· ≠ []) = path.filter (· ≠ []) := by
  unfold dropSlash
  split
  next hlast =>
    obtain ⟨front, rfl⟩ := List.getLast?_eq_some_iff.mp hlast
    simp
  next => rfl

theorem readsParameters_partySegments :
    ReadsParameters "account-lookup".toList partySegments where
  segments {path partyType partyId} h := by
    obtain ⟨rest, hmounted, hrest, htype, hid⟩ := partySegments_eq_some_iff.mp h
    obtain ⟨constant, hconstant, hpath⟩ := filter_of_mount (by decide) (mount_of_mounted hmounted)
    refine ⟨constant, length_of_isConstant hconstant, ?_⟩
    rw [hpath, ← filter_dropSlash, hrest]
    simp [htype, hid]
  reads {partyType partyId} htype hid := by
    have hadmin : isConstant "account-lookup".toList "admin" = false := by decide
    have hconstant : isConstant "account-lookup".toList "account-lookup" = true := by decide
    have hmounted : Service.mounted ["account-lookup".toList, partyType, partyId] =
        .accountLookup [partyType, partyId] := by
      rw [Service.mounted, mount_eq_none _ hadmin, mount_cons _ hconstant htype]
    have hlast : [partyType, partyId].getLast? ≠ some [] := by simpa using hid
    exact partySegments_eq_some_iff.mpr ⟨_, hmounted, if_neg hlast, htype, hid⟩

theorem constantSegment_accountLookup : ConstantSegment "account-lookup".toList :=
  ⟨by decide, forall_mem_of_all (by decide)⟩

/-- The party of a look-up, as the aggregate is called with it. -/
structure LookUp where
  partyType : String
  partyId : String
  partySubType : Js.Str
  currency : Js.Str
  deriving DecidableEq, Repr

/-- The look-up that a request makes for a caller with the privilege, if it makes one. -/
def lookedUp (request : Request) : Option LookUp :=
  match request.body, Service.mounted request.path with
  | .ok body, .accountLookup path =>
    match route request.method path with
    | .handler endpoint =>
      if validParty request body endpoint then
        match queryText request "partySubType", queryText request "currency" with
        | .ok partySubType, .ok currency =>
          some ⟨endpoint.partyType, endpoint.partyId, partySubType, currency⟩
        | _, _ => none
      else none
    | _ => none
  | _, _ => none

theorem lookedUp_eq_some_iff {request : Request} {lookUp : LookUp} :
    lookedUp request = some lookUp ↔
      ∃ body path, request.body = .ok body ∧ Service.mounted request.path = .accountLookup path ∧
        route request.method path = .handler ⟨lookUp.partyType, lookUp.partyId⟩ ∧
        validParty request body ⟨lookUp.partyType, lookUp.partyId⟩ = true ∧
        queryText request "partySubType" = .ok lookUp.partySubType ∧
        queryText request "currency" = .ok lookUp.currency := by
  unfold lookedUp
  constructor
  · intro h
    split at h
    next body path hbody hmounted =>
      split at h
      next endpoint hroute =>
        split at h
        next hvalid =>
          split at h
          next partySubType currency hsubType hcurrency =>
            cases h
            exact ⟨body, path, hbody, hmounted, hroute, hvalid, hsubType, hcurrency⟩
          · cases h
        · cases h
      · cases h
    · cases h
  · intro h
    obtain ⟨body, path, hbody, hmounted, hroute, hvalid, hsubType, hcurrency⟩ := h
    rw [hbody, hmounted]
    dsimp only
    rw [hroute]
    dsimp only
    rw [if_pos hvalid, hsubType, hcurrency]

theorem route_eq_handler_iff {path : List (List Char)} {partyType partyId : String} :
    route .get path = .handler ⟨partyType, partyId⟩ ↔
      ∃ typeSegment idSegment, dropSlash path = [typeSegment, idSegment] ∧ typeSegment ≠ [] ∧
        idSegment ≠ [] ∧ decodeURIComponent typeSegment = some partyType.toList ∧
          decodeURIComponent idSegment = some partyId.toList := by
  unfold route
  constructor
  · intro h
    split at h
    next typeSegment idSegment hpath =>
      split at h
      next hne =>
        simp only [Bool.and_eq_true, decide_eq_true_eq] at hne
        split at h
        next readType readId htype hid =>
          obtain ⟨rfl, rfl⟩ : String.ofList readType = partyType ∧
              String.ofList readId = partyId := by simpa [Method.reads] using h
          refine ⟨typeSegment, idSegment, hpath, hne.1, hne.2, ?_⟩
          rw [String.toList_ofList, String.toList_ofList]
          exact ⟨htype, hid⟩
        · cases h
      next => cases h
    · cases h
  · intro h
    obtain ⟨typeSegment, idSegment, hpath, hne, hne', htype, hid⟩ := h
    rw [hpath]
    dsimp only
    rw [if_pos (by simp [hne, hne']), htype, hid]
    simp [Method.reads]

/-- A path is routed to a party exactly when its segments are the encoded party. -/
theorem mounted_route_iff {path : List (List Char)} {partyType partyId : String} :
    (∃ rest, Service.mounted path = .accountLookup rest ∧
        route .get rest = .handler ⟨partyType, partyId⟩) ↔
      ∃ typeSegment idSegment, partySegments path = some (typeSegment, idSegment) ∧
        decodeURIComponent typeSegment = some partyType.toList ∧
        decodeURIComponent idSegment = some partyId.toList := by
  constructor
  · intro h
    obtain ⟨rest, hmounted, hroute⟩ := h
    obtain ⟨typeSegment, idSegment, hrest, hne, hne', hdecode⟩ := route_eq_handler_iff.mp hroute
    exact ⟨typeSegment, idSegment,
      partySegments_eq_some_iff.mpr ⟨rest, hmounted, hrest, hne, hne'⟩, hdecode⟩
  · intro h
    obtain ⟨typeSegment, idSegment, hsegments, hdecode⟩ := h
    obtain ⟨rest, hmounted, hrest, hne, hne'⟩ := partySegments_eq_some_iff.mp hsegments
    exact ⟨rest, hmounted,
      route_eq_handler_iff.mpr ⟨typeSegment, idSegment, hrest, hne, hne', hdecode⟩⟩

theorem queryText_ofTarget (authorization : Js.Str) (target : Target) (key : String) :
    queryText (.ofTarget authorization target) key =
      .ok (.ofOption (joined (queryValues target.query key))) := by
  unfold queryText Request.ofTarget queryOf
  dsimp only
  rcases queryValues target.query key with _ | ⟨value, _ | ⟨next, rest⟩⟩
  · rfl
  · rfl
  · rw [joined, if_neg (by simp)]
    rfl

/-- The fields that the validator checks are those of the path, when the query has none of them. -/
theorem validParty_ofTarget (authorization : Js.Str) {target : Target} {partyType partyId : String}
    (htype : partyType ≠ "") (hid : partyId ≠ "")
    (hqueryType : queryValues target.query "partyType" = [])
    (hqueryId : queryValues target.query "partyId" = []) :
    validParty (.ofTarget authorization target) (fun _ => .undefined) ⟨partyType, partyId⟩ = true := by
  have hheaderType : "partyType".toLower ≠ "authorization" := by decide +kernel
  have hheaderId : "partyId".toLower ≠ "authorization" := by decide +kernel
  have hvalueType : (queryOf target.query "partyType").value = .undefined := by
    rw [queryOf, hqueryType]
  have hvalueId : (queryOf target.query "partyId").value = .undefined := by
    rw [queryOf, hqueryId]
  simp [validParty, OracleAdminExpressRoutes.check, locations, params, Request.ofTarget,
    Js.Field.toValue, OracleAdminExpressRoutes.isNonEmptyString, hheaderType, hheaderId, hvalueType,
    hvalueId, htype, hid]

/-- A `GET` of a URL makes the look-up whose parameters arrive. -/
theorem lookedUp_ofTarget_iff {authorization : Js.Str} {input : List Char}
    {partyType partyId : String} {partySubType currency : Option String} :
    lookedUp (.ofTarget authorization (parse input)) =
        some ⟨partyType, partyId, .ofOption partySubType, .ofOption currency⟩ ↔
      Arrive partySegments partyType.toList partyId.toList input ∧
        validParty (.ofTarget authorization (parse input)) (fun _ => .undefined)
          ⟨partyType, partyId⟩ = true ∧
        joined (queryValues (parse input).query "partySubType") = partySubType ∧
        joined (queryValues (parse input).query "currency") = currency := by
  rw [lookedUp_eq_some_iff, queryText_ofTarget, queryText_ofTarget, Except.ok.injEq,
    Except.ok.injEq, Js.Field.ofOption_inj, Js.Field.ofOption_inj]
  constructor
  · intro h
    obtain ⟨_, path, ⟨⟩, hmounted, hroute, hvalid, hsubType, hcurrency⟩ := h
    exact ⟨mounted_route_iff.mp ⟨path, hmounted, hroute⟩, hvalid, hsubType, hcurrency⟩
  · intro h
    obtain ⟨harrive, hvalid, hsubType, hcurrency⟩ := h
    obtain ⟨path, hmounted, hroute⟩ := mounted_route_iff.mpr harrive
    exact ⟨_, path, rfl, hmounted, hroute, hvalid, hsubType, hcurrency⟩

variable {σ : Type} (packages : Packages) (agg : RoutesAggregate σ)

/-- The answer to a look-up, by what it settles with. -/
def answerOf : Except JsError Js.Str → Response
  | .ok fspId => ⟨200, .fspId fspId⟩
  | .error error =>
    { status := if error.cls = .forbiddenError then 403
        else if error.cls = .participantNotFoundError then 404 else 500
      body := .error error.message }

theorem enforcePrivilege_cases (secCtx : CallSecurityContext) (privilege : AccountLookupPrivileges) :
    enforcePrivilege packages secCtx privilege = .ok () ∨
      ∃ msg, enforcePrivilege packages secCtx privilege = .error ⟨.forbiddenError, msg⟩ := by
  unfold enforcePrivilege
  split
  · exact .inl rfl
  · exact .inr ⟨_, rfl⟩

/-- The service answers a request that makes a look-up with that look-up, or it refuses the caller. -/
theorem run_serve_of_lookedUp {request : Request} {lookUp : LookUp}
    (h : lookedUp request = some lookUp) (s : σ) :
    (∃ response, (response.status = 401 ∧ response.body = .text "Unauthorized" ∨
        response.status = 403 ∧ ∃ msg, response.body = .error msg) ∧
      (Service.serve packages agg request).run s = (.ok (some response), s)) ∨
      (Service.serve packages agg request).run s =
        (.ok (some (answerOf ((agg.getAccountLookUp (.val lookUp.partyId) (.val lookUp.partyType)
          lookUp.partySubType lookUp.currency).run s).1)),
          ((agg.getAccountLookUp (.val lookUp.partyId) (.val lookUp.partyType)
            lookUp.partySubType lookUp.currency).run s).2) := by
  obtain ⟨body, path, hbody, hmounted, hroute, hvalid, hsubType, hcurrency⟩ :=
    lookedUp_eq_some_iff.mp h
  unfold Service.serve
  rw [hbody]
  dsimp only
  rw [hmounted]
  unfold Service.authenticated
  cases authenticate packages request with
  | none => exact .inl ⟨_, .inl ⟨rfl, rfl⟩, rfl⟩
  | some secCtx =>
    unfold Service.dispatch
    dsimp only
    rw [hroute]
    unfold handle
    dsimp only
    rcases enforcePrivilege_cases packages secCtx .viewAllOracleAssociations with hok | ⟨msg, herror⟩
    · right
      rw [Proc.run_bind, run_privileged_ok hok, if_pos hvalid, hsubType, hcurrency]
      rcases hlookUp : (agg.getAccountLookUp (.val lookUp.partyId) (.val lookUp.partyType)
        lookUp.partySubType lookUp.currency).run s with ⟨error | fspId, t⟩
      · simp [answer, Proc.ofExcept, Proc.run_bind, hlookUp, answerOf]
      · simp [answer, Proc.run_bind, hlookUp, answerOf]
    · left
      refine ⟨⟨403, .error msg⟩, .inr ⟨rfl, msg, rfl⟩, ?_⟩
      unfold privileged
      rw [herror]
      exact Proc.run_bind_ok (run_answer_error _ (Proc.run_bind_error (Proc.run_ofExcept s _)))

end AccountLookupExpressRoutes

namespace AccountLookupHttpClient

open AccountLookupExpressRoutes

/-- What the client reports of what the service resolves: no FSP but that one, and no absence of one
that there is. -/
def Reports (client : Except ClientError Js.Str) (service : Except JsError Js.Str) : Prop :=
  (∀ fspId, client = .ok (.val fspId) → service = .ok (.val fspId)) ∧
    (client = .ok .null → ∀ fspId, service ≠ .ok (.val fspId))

/-- What the client is for: the service looks up the party that the client was asked for, and the
client reports what the look-up resolves to, whoever the caller is. -/
structure LooksUp (partyType partyId : String) (currency : Option String) : Prop where
  lookedUp (authorization : Js.Str) :
    lookedUp (.ofTarget authorization (lookUpTarget partyType partyId (.ofOption currency))) =
      some ⟨partyType, partyId, .null, .ofOption currency⟩
  reports {σ : Type} (packages : Packages) (agg : RoutesAggregate σ) (authorization : Js.Str)
      (timeout : String) (syntaxError : Body → String) (s : σ) :
    Reports
      ((participantLookUp (Service.requester packages agg authorization timeout syntaxError)
        partyType partyId (.ofOption currency)).run s).1
      ((agg.getAccountLookUp (.val partyId) (.val partyType) .null (.ofOption currency)).run s).1

theorem run_participantLookUp {σ : Type} {requester : Requester σ} {partyType partyId : String}
    (htype : partyType ≠ "") (hid : partyId ≠ "") {currency : Js.Str} {resp : Response} {s t : σ}
    (hfetch : (requester.fetch (lookUpTarget partyType partyId currency)).run s = (.ok resp, t)) :
    (participantLookUp requester partyType partyId currency).run s =
      (unpack requester.syntaxError resp, t) := by
  unfold participantLookUp
  rw [if_neg (by simp [htype, hid])]
  have hresp : ((requester.fetch (lookUpTarget partyType partyId currency)).mapError
      unableToGetFspId).run s = (.ok resp, t) := by
    rw [Proc.run_mapError, hfetch]
    rfl
  rw [Proc.run_bind_ok hresp, Proc.run_ofExcept]

/-- The client of the service settles with the answer of the service. -/
theorem run_participantLookUp_requester {σ : Type} {packages : Packages} {agg : RoutesAggregate σ}
    {authorization : Js.Str} {timeout : String} {syntaxError : Body → String}
    {partyType partyId : String} (htype : partyType ≠ "") (hid : partyId ≠ "") {currency : Js.Str}
    {response : Response} {s t : σ}
    (hserve : (Service.serve packages agg (.ofTarget authorization
      (lookUpTarget partyType partyId currency))).run s = (.ok (some response), t)) :
    (participantLookUp (Service.requester packages agg authorization timeout syntaxError) partyType
      partyId currency).run s = (unpack syntaxError response, t) := by
  apply run_participantLookUp htype hid
  have hrespond : (Service.respond packages agg (.ofTarget authorization
      (lookUpTarget partyType partyId currency))).run s = (.ok (some response), t) := by
    unfold Service.respond
    rw [Proc.run_bind_ok hserve]
    rfl
  unfold Service.requester
  dsimp only
  have hmap : ((Service.respond packages agg (.ofTarget authorization
      (lookUpTarget partyType partyId currency))).mapError JsError.message).run s =
        (.ok (some response), t) := by
    rw [Proc.run_mapError, hrespond]
    rfl
  rw [Proc.run_bind_ok hmap]
  rfl

theorem reports_answerOf (syntaxError : Body → String) (outcome : Except JsError Js.Str) :
    Reports (unpack syntaxError (answerOf outcome)) outcome := by
  cases outcome with
  | ok fspId =>
    have hunpack : unpack syntaxError (answerOf (.ok fspId)) = .ok fspId := rfl
    rw [hunpack]
    refine ⟨fun fspId' h => ?_, fun h fspId' => ?_⟩
    · cases h
      rfl
    · cases h
      simp
  | error error =>
    refine ⟨fun fspId h => ?_, fun _ fspId => by simp⟩
    -- an error has another status than 200
    unfold answerOf at h
    dsimp only at h
    split at h
    · cases h
    · split at h <;> cases h

theorem reports_of_refused (syntaxError : Body → String) {response : Response}
    (h : response.status = 401 ∧ response.body = .text "Unauthorized" ∨
      response.status = 403 ∧ ∃ msg, response.body = .error msg)
    (outcome : Except JsError Js.Str) : Reports (unpack syntaxError response) outcome := by
  obtain ⟨error, herror⟩ : ∃ error, unpack syntaxError response = .error error := by
    rcases h with ⟨hstatus, hbody⟩ | ⟨hstatus, msg, hbody⟩
    · exact ⟨_, by rw [unpack, hstatus, hbody]; rfl⟩
    · exact ⟨_, by rw [unpack, hstatus, hbody]; rfl⟩
  rw [herror]
  constructor
  · rintro _ ⟨⟩
  · rintro ⟨⟩

theorem reports_of_lookedUp {σ : Type} {packages : Packages} {agg : RoutesAggregate σ}
    {authorization : Js.Str} {timeout : String} {syntaxError : Body → String}
    {partyType partyId : String} (htype : partyType ≠ "") (hid : partyId ≠ "")
    {currency partySubType : Js.Str}
    (h : lookedUp (.ofTarget authorization (lookUpTarget partyType partyId currency)) =
      some ⟨partyType, partyId, partySubType, currency⟩) (s : σ) :
    Reports
      ((participantLookUp (Service.requester packages agg authorization timeout syntaxError)
        partyType partyId currency).run s).1
      ((agg.getAccountLookUp (.val partyId) (.val partyType) partySubType currency).run s).1 := by
  rcases run_serve_of_lookedUp packages agg h s with ⟨response, hrefused, hserve⟩ | hserve
  · rw [run_participantLookUp_requester htype hid hserve]
    exact reports_of_refused syntaxError hrefused _
  · rw [run_participantLookUp_requester htype hid hserve]
    exact reports_answerOf syntaxError _

/-! ### The parties that the client looks up -/

theorem lookUpUrl_eq {partyType partyId : String} {currency : Option String}
    (hcurrency : currency ≠ some "") :
    (lookUpUrl partyType partyId (.ofOption currency)).toList =
      parameterUrl "account-lookup".toList partyType.toList partyId.toList "currency".toList
        (currency.map String.toList) := by
  have hslash : "/".toList = ['/'] := by decide
  have hconstant : "/account-lookup/".toList = '/' :: ("account-lookup".toList ++ ['/']) := by
    decide
  have hkey : "?currency=".toList = '?' :: ("currency".toList ++ ['=']) := by decide
  unfold lookUpUrl
  cases currency with
  | none =>
    simp only [Js.Field.ofOption, Js.Field.truthy_null, Bool.false_eq_true, if_false,
      String.toList_append, hslash, hconstant, String.toList_empty, List.append_nil, Option.map_none,
      parameterUrl, parameterPath, List.append_assoc, List.cons_append, List.nil_append]
  | some currency =>
    have hne : currency ≠ "" := fun heq => hcurrency (heq ▸ rfl)
    have htruthy : Js.Field.truthy (.val currency) = true := by simpa [Js.Field.truthy] using hne
    simp only [Js.Field.ofOption, htruthy, if_true, Js.Field.text_val, String.toList_append, hslash,
      hconstant, hkey, Option.map_some, parameterUrl, parameterPath, List.append_assoc,
      List.cons_append, List.nil_append]

section Safe

variable {partyType partyId : String} {currency : Option String} (htype : partyType ≠ "")
  (hid : partyId ≠ "") (hcurrency : currency ≠ some "")
include htype hid hcurrency

/-- The parameters that the service reads from the path and for the currency are those of the party
exactly when they are safe. -/
theorem arrive_iff_safe :
    (Arrive partySegments partyType.toList partyId.toList
        (lookUpUrl partyType partyId (.ofOption currency)).toList ∧
      joined (queryValues (lookUpTarget partyType partyId (.ofOption currency)).query "currency") =
        currency) ↔
      ParametersSafe partyType.toList partyId.toList (currency.map String.toList) := by
  have harrive := @strings_arrive_iff _ constantSegment_accountLookup _
    HttpOracleProvider.urlKey_currency _ _ currency _ readsParameters_partySegments htype hid
  rwa [← lookUpUrl_eq hcurrency] at harrive

/-- The request makes the look-up of the party exactly when its parameters are safe. -/
theorem lookedUp_iff_safe (authorization : Js.Str) :
    lookedUp (.ofTarget authorization (lookUpTarget partyType partyId (.ofOption currency))) =
        some ⟨partyType, partyId, .null, .ofOption currency⟩ ↔
      ParametersSafe partyType.toList partyId.toList (currency.map String.toList) := by
  have hother (h : ParametersSafe partyType.toList partyId.toList (currency.map String.toList))
      {key : String} (hkey : key ≠ "currency") :
      queryValues (lookUpTarget partyType partyId (.ofOption currency)).query key = [] := by
    rw [lookUpTarget, lookUpUrl_eq hcurrency]
    exact queryValues_other constantSegment_accountLookup HttpOracleProvider.urlKey_currency h hkey
  have hnone : Js.Field.null = .ofOption (none : Option String) := rfl
  rw [hnone, lookUpTarget, lookedUp_ofTarget_iff, ← arrive_iff_safe htype hid hcurrency]
  constructor
  · intro h
    exact ⟨h.1, h.2.2.2⟩
  · intro h
    have hsafe := (arrive_iff_safe htype hid hcurrency).mp h
    refine ⟨h.1, ?_, ?_, h.2⟩
    · exact validParty_ofTarget authorization htype hid (hother hsafe (by decide))
        (hother hsafe (by decide))
    · rw [← lookUpTarget, hother hsafe (by decide), joined_nil]

end Safe

/-- The client looks up the party that it is asked for exactly when its parameters are safe. -/
theorem looksUp_iff (partyType partyId : String) (currency : Option String)
    (htype : partyType ≠ "") (hid : partyId ≠ "") (hcurrency : currency ≠ some "") :
    LooksUp partyType partyId currency ↔
      ParametersSafe partyType.toList partyId.toList (currency.map String.toList) := by
  constructor
  · intro h
    exact (lookedUp_iff_safe htype hid hcurrency .null).mp (h.lookedUp .null)
  · intro h
    have hlookedUp (authorization : Js.Str) :=
      (lookedUp_iff_safe htype hid hcurrency authorization).mpr h
    exact ⟨hlookedUp, fun _ _ authorization _ _ s =>
      reports_of_lookedUp htype hid (hlookedUp authorization) s⟩

theorem looksUp_iff_msisdn : LooksUp "MSISDN" "123456789" (some "EUR") :=
  (looksUp_iff "MSISDN" "123456789" (some "EUR") (by decide) (by decide) (by decide)).mpr
    (by decide +kernel)

/-! ### Parties that the client does not look up -/

/-- Every token is that of a caller with every privilege. -/
def everyPrivilege : Packages where
  getCallSecurityContextFromAccessToken _ := some ⟨["operator"]⟩
  roleHasPrivilege _ _ := true
  report _ := "[]"
  errorPage _ _ := "Bad Request"

/-- The builtin oracle has one party of `bluebank` and one of `greenbank`, whose identifier has a
slash. -/
def twoParties : World :=
  { System.builtinWorld with
    builtin := ⟨[⟨.val "bluebank", .val "MSISDN", .val "123", .undefined, .undefined⟩,
      ⟨.val "greenbank", .val "MSISDN", .val "123/2", .undefined, .undefined⟩],
        Store.Cache.empty, []⟩ }

/-- The service on a world without faults, and the client with a token. -/
def service : RoutesAggregate World :=
  System.routesAggregate (System.withFaults .none) System.listsNothing

def lookUpFrom (partyId : String) : Option Js.Str :=
  ((participantLookUp (Service.requester everyPrivilege service (.val "Bearer token") "Timeout"
    fun _ => "SyntaxError") "MSISDN" partyId .null).run twoParties).1.toOption

/-- The client reports the FSP of another party for an identifier with a `#`, and no FSP for one with
a slash, which the service resolves. -/
theorem not_looksUp :
    lookUpFrom "123#2" = some (.val "bluebank") ∧
      ((service.getAccountLookUp (.val "123#2") (.val "MSISDN") .null .null).run
        twoParties).1.toOption = none ∧
      ¬LooksUp "MSISDN" "123#2" none ∧
      lookUpFrom "123/2" = some .null ∧
      ((service.getAccountLookUp (.val "123/2") (.val "MSISDN") .null .null).run
        twoParties).1.toOption = some (.val "greenbank") ∧
      ¬LooksUp "MSISDN" "123/2" none := by
  refine ⟨by decide +kernel, by decide +kernel, fun h => ?_, by decide +kernel, by decide +kernel,
    fun h => ?_⟩
  · exact absurd (h.lookedUp .null) (by decide +kernel)
  · exact absurd (h.lookedUp .null) (by decide +kernel)

end AccountLookupHttpClient

end AccountLookup
