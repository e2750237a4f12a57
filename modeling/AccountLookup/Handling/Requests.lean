import AccountLookup.Async.Reads
import AccountLookup.Handling.Privileges
import AccountLookup.Handling.Steps
import AccountLookup.Model.BuiltinListing
import AccountLookup.Registry.Calls

/-! The service as it answers HTTP requests one after another: what the answer to a request can do to
it. -/

namespace AccountLookup

open Async Express BaseRoutes

/-! ### Listings only read -/

theorem send_reads {σ α : Type} (faults : Faults) (command : Command) (f : σ → α) :
    (send faults command fun s => (f s, s)).Reads := by
  intro s
  rw [run_send]
  split <;> rfl

namespace MongoOracleProviderRepo

theorem getAllAssociations_reads (faults : Faults) : (getAllAssociations faults).Reads :=
  ((send_reads faults .findAllAssociations _).rethrow _).bind fun _ => .pure _

theorem query_reads (faults : Faults) (command : Command) (message : String)
    (found : List AssociationRecord → Except JsError (List AssociationRecord)) :
    (query faults command message found).Reads :=
  ((send_reads faults command _).bind .ofExcept).rethrow _

theorem searchAssociations_reads (engine : SearchEngine) (faults : Faults)
    (search : AssociationSearch) : (searchAssociations engine faults search).Reads := by
  refine (query_reads faults _ _ _).attempt.bind fun found => ?_
  cases found with
  | error _ => exact .pure _
  | ok result =>
    refine (query_reads faults _ _ _).attempt.bind fun totalEntries => ?_
    cases totalEntries <;> exact .pure _

theorem healthCheck_reads (faults : Faults) (adapter : OracleAdapter) :
    (healthCheck faults adapter).Reads :=
  (send_reads faults (.mongoPing adapter) _).attempt.bind fun _ => .pure _

end MongoOracleProviderRepo

namespace HttpOracleProvider

theorem request_reads (faults : Faults) {req : HttpRequest} (h : req.method = .get) :
    (request faults req).Reads := by
  intro s
  have hrequest := run_request faults req s
  rwa [RemoteOracleExpressRoutes.handle_get faults h, or_self] at hrequest

theorem getAllAssociations_reads (faults : Faults) : (getAllAssociations faults).Reads :=
  ((request_reads faults rfl).rethrow _).bind fun _ => .pure _

theorem healthCheck_reads (faults : Faults) : (healthCheck faults).Reads := by
  refine (request_reads faults rfl).attempt.bind fun outcome => ?_
  cases outcome <;> exact .pure _

end HttpOracleProvider

namespace System

variable (env : Environment)

theorem getAllOracles_reads : (oracleFinder env).getAllOracles.Reads :=
  ((send_reads env.faults .findOracles fun s => s).rethrow _).zoom _

theorem getOracleById_reads (id : Js.Value) : ((oracleFinder env).getOracleById id).Reads :=
  ((send_reads env.faults .findOracleById _).rethrow _).zoom _

section Listing

variable (engine : SearchEngine)
  (terms : List AssociationRecord → List MongoOracleProviderRepo.TermGroup)

theorem getOracleAdapter_reads (partyType currency : Js.Value) :
    ((listingAggregate env (adapterListing env engine terms)).getOracleAdapter partyType
      currency).Reads := by
  unfold ListingAggregate.getOracleAdapter
  refine Aggregate.getOracleAdapter_state ?_ (fun _ _ => rfl) _ _
  refine ⟨(aggregate_reads env).getParticipantInfo, fun _ _ => ?_⟩
  refine Proc.Reads.zoom ?_ World.oraclesLens
  refine ((send_reads env.faults .findOraclesOfType _).rethrow _).bind fun oracle => ?_
  cases oracle with
  | none => exact .reject _
  | some oracle => exact .pure _

theorem listOracles_reads {β : Type}
    {list : OracleAdapter → Except JsError (Proc JsError World β)}
    (hlist : ∀ adapter call, list adapter = .ok call → call.Reads) (failure : String) (initial : β)
    (oracles : List Oracle) :
    ((listingAggregate env (adapterListing env engine terms)).listOracles list failure initial
      oracles).Reads := by
  refine .foldlM (fun _ oracle => ?_) oracles initial
  refine ((getOracleAdapter_reads env engine terms _ _).rethrow _).bind fun adapter => ?_
  cases hcall : list adapter with
  | error error => exact fun _ => rfl
  | ok call => exact (hlist adapter call hcall).rethrow _

theorem getBuiltInOracleAssociations_reads :
    (listingAggregate env (adapterListing env engine terms)).getBuiltInOracleAssociations.Reads := by
  refine (getAllOracles_reads env).bind fun oracles => listOracles_reads env engine terms ?_ _ _ _
  rintro adapter _ ⟨⟩
  dsimp only [listingAggregate, adapterListing]
  cases adapter.type with
  | builtin => exact (MongoOracleProviderRepo.getAllAssociations_reads env.faults).zoom _
  | remoteHttp => exact (HttpOracleProvider.getAllAssociations_reads env.faults).zoom _

theorem getAllOracleAssociations_reads (search : AssociationSearch) :
    ((listingAggregate env (adapterListing env engine terms)).getAllOracleAssociations
      search).Reads := by
  refine (getAllOracles_reads env).bind fun oracles => listOracles_reads env engine terms ?_ _ _ _
  intro adapter call hcall
  dsimp only [listingAggregate, adapterListing] at hcall
  cases htype : adapter.type with
  | builtin =>
    rw [htype] at hcall
    cases hcall
    exact (((MongoOracleProviderRepo.searchAssociations_reads engine env.faults search).zoom
      _).bind fun _ => .pure _).bind fun _ => .pure _
  | remoteHttp =>
    rw [htype] at hcall
    cases hcall

theorem getSearchKeywords_reads :
    (listingAggregate env (adapterListing env engine terms)).getSearchKeywords.Reads := by
  refine (getAllOracles_reads env).bind fun oracles => listOracles_reads env engine terms ?_ _ _ _
  intro adapter call hcall
  dsimp only [listingAggregate, adapterListing] at hcall
  cases htype : adapter.type with
  | builtin =>
    rw [htype] at hcall
    cases hcall
    exact ((Proc.Reads.read _).bind fun _ => .pure _).zoom World.builtinLens
  | remoteHttp =>
    rw [htype] at hcall
    cases hcall

theorem healthCheck_reads (id : String) :
    ((routesAggregate env (adapterListing env engine terms)).healthCheck id).Reads := by
  refine (Proc.Reads.read _).bind fun adapters => ?_
  split
  · exact .reject _
  next adapter _ =>
    dsimp only [routesAggregate]
    cases adapter.type with
    | builtin => exact (MongoOracleProviderRepo.healthCheck_reads env.faults adapter).zoom _
    | remoteHttp => exact (HttpOracleProvider.healthCheck_reads env.faults).zoom _

end Listing

end System

/-! ### Handlers -/

section Handlers

variable {σ : Type} {packages : Packages} {secCtx : CallSecurityContext}
  {privilege : AccountLookupPrivileges} {handler : Proc JsError σ Response}

theorem privileged_state (statusOf : ErrorClass → Nat) (request : Request) (valid : Bool) (s : σ) :
    ((privileged packages secCtx privilege statusOf request valid handler).run s).2 = s ∨
      enforcePrivilege packages secCtx privilege = .ok () ∧
        ((privileged packages secCtx privilege statusOf request valid handler).run s).2 =
          (handler.run s).2 := by
  cases hprivilege : enforcePrivilege packages secCtx privilege with
  | error error =>
    left
    unfold privileged
    rw [hprivilege, run_answer_error statusOf (Proc.run_bind_error (Proc.run_ofExcept s _))]
  | ok _ =>
    rw [run_privileged_ok hprivilege]
    cases valid with
    | false => exact .inl rfl
    | true =>
      refine .inr ⟨rfl, ?_⟩
      rw [if_pos rfl]
      unfold answer
      rw [Proc.run_attempt_bind]
      cases (handler.run s).1 <;> rfl

theorem privileged_reads (h : handler.Reads) (statusOf : ErrorClass → Nat) (request : Request)
    (valid : Bool) :
    (privileged packages secCtx privilege statusOf request valid handler).Reads := by
  intro s
  rcases @privileged_state _ packages secCtx privilege handler statusOf request valid s with
    hstate | ⟨-, hstate⟩
  · exact hstate
  · exact hstate.trans (h s)

end Handlers

/-! ### Requests -/

/-- A request and what the service meets as it answers it. -/
structure Requested where
  env : Environment
  engine : SearchEngine
  terms : List AssociationRecord → List MongoOracleProviderRepo.TermGroup
  packages : Packages
  request : Request

namespace Requested

variable (step : Requested)

def aggregate : RoutesAggregate World :=
  System.routesAggregate step.env (System.adapterListing step.env step.engine step.terms)

/-- The service after it answers the request. -/
def next (w : World) : World :=
  ((Service.respond step.packages step.aggregate step.request).run w).2

/-- The request is routed to the endpoint, by a caller with the privilege, and has the body. -/
def Makes (endpoint : OracleAdminExpressRoutes.Endpoint) (privilege : AccountLookupPrivileges)
    (body : String → Js.Value) : Prop :=
  ∃ secCtx path, authenticate step.packages step.request = some secCtx ∧
    enforcePrivilege step.packages secCtx privilege = .ok () ∧ step.request.body = .ok body ∧
    Service.mounted step.request.path = .admin path ∧
    OracleAdminExpressRoutes.route step.request.method path = .handler endpoint

/-- An admin handler changes nothing, or it creates or deletes an oracle for a caller with the privilege
of that. -/
theorem admin_state (secCtx : CallSecurityContext) (body : String → Js.Value)
    (endpoint : OracleAdminExpressRoutes.Endpoint) (w : World) :
    let w' := ((OracleAdminExpressRoutes.handle step.packages step.aggregate secCtx step.request body
      endpoint).run w).2
    w' = w ∨
      (endpoint = .createOracle ∧
        enforcePrivilege step.packages secCtx .createOracle = .ok () ∧
        w' = ((step.aggregate.addOracle (OracleAdminExpressRoutes.oracleOf body)).run w).2) ∨
      ∃ id, endpoint = .deleteOracle id ∧
        enforcePrivilege step.packages secCtx .removeOracle = .ok () ∧
        w' = ((step.aggregate.removeOracle id).run w).2 := by
  have hreads {handler : Proc JsError World Response} (h : handler.Reads) :
      ((handler >>= fun response => pure (some response)).run w).2 = w := (h.bind fun _ => .pure _) w
  unfold OracleAdminExpressRoutes.handle aggregate
  cases endpoint with
  | getAllOracles =>
    left
    exact hreads (privileged_reads ((System.getAllOracles_reads step.env).bind fun _ => .pure _) _ _ _)
  | getAllBuiltinOracleAssociations =>
    left
    exact hreads (privileged_reads ((System.getBuiltInOracleAssociations_reads step.env step.engine
      step.terms).bind
      fun _ => .pure _) _ _ _)
  | getAllOracleAssociations =>
    left
    dsimp only
    cases OracleAdminExpressRoutes.searchOf step.request with
    | error error => rfl
    | ok search =>
      exact hreads (privileged_reads ((System.getAllOracleAssociations_reads step.env step.engine
        step.terms search).bind
        fun _ => .pure _) _ _ _)
  | getOracleById id =>
    left
    refine hreads (privileged_reads ((System.getOracleById_reads step.env (.str id)).bind
      fun fetched => ?_) _ _ _)
    cases fetched <;> exact .pure _
  | deleteOracle id =>
    dsimp only
    rw [Proc.run_bind_pure_state]
    rcases privileged_state OracleAdminExpressRoutes.notFoundOr500 step.request
      (OracleAdminExpressRoutes.validId step.request body id) w with hsame | ⟨hprivilege, hrun⟩
    · exact .inl hsame
    · exact .inr (.inr ⟨id, rfl, hprivilege, hrun.trans (Proc.run_bind_pure_state ..)⟩)
  | createOracle =>
    dsimp only
    rw [Proc.run_bind_pure_state]
    rcases privileged_state (fun _ => 500) step.request (OracleAdminExpressRoutes.validCreate
      ⟨OracleAdminExpressRoutes.oracleOf body, locations step.request fun _ => .undefined⟩) w with
      hsame | ⟨hprivilege, hrun⟩
    · exact .inl hsame
    · exact .inr (.inl ⟨rfl, hprivilege, hrun.trans (Proc.run_bind_pure_state ..)⟩)
  | healthCheck id =>
    left
    refine hreads (Proc.Reads.bind (Proc.Reads.attempt ?_) fun outcome => ?_)
    · unfold validated
      split
      · exact (System.healthCheck_reads step.env step.engine step.terms id).bind fun _ => .pure _
      · exact .pure _
    · cases outcome <;> exact .pure _
  | getSearchKeywords =>
    left
    exact hreads (privileged_reads ((System.getSearchKeywords_reads step.env step.engine step.terms).bind fun _ => .pure _) _ _ _)

/-- A look-up writes the cache of the builtin oracles at most. -/
theorem lookUp_state (secCtx : CallSecurityContext) (body : String → Js.Value)
    (endpoint : AccountLookupExpressRoutes.Endpoint) (w : World) :
    ∃ cache, ((AccountLookupExpressRoutes.handle step.packages step.aggregate secCtx step.request body
      endpoint).run w).2 = { w with builtin := { w.builtin with cache } } := by
  unfold AccountLookupExpressRoutes.handle
  rw [Proc.run_bind_pure_state]
  rcases privileged_state (fun cls => if cls = .participantNotFoundError then 404 else 500)
    step.request (AccountLookupExpressRoutes.validParty step.request body endpoint) w with
    hsame | ⟨-, hrun⟩
  · rw [hsame]
    exact ⟨w.builtin.cache, rfl⟩
  · rw [hrun]
    cases AccountLookupExpressRoutes.queryText step.request "partySubType" with
    | error error => exact ⟨w.builtin.cache, rfl⟩
    | ok partySubType =>
      cases AccountLookupExpressRoutes.queryText step.request "currency" with
      | error error => exact ⟨w.builtin.cache, rfl⟩
      | ok currency =>
        have hlooks := Aggregate.getAccountLookUp_looks (System.aggregate_reads step.env)
          (System.aggregate_quiet step.env) (.val endpoint.partyId) (.val endpoint.partyType)
          partySubType currency w
        obtain ⟨cache, hcache⟩ := Handled.cache_of_looks hlooks
        exact ⟨cache, (Proc.run_bind_pure_state ..).trans hcache⟩

/-- The answer to a request writes the cache of the builtin oracles at most, or it creates or deletes an
oracle for a caller with the privilege of that. -/
theorem next_cases (w : World) :
    (∃ cache, step.next w = { w with builtin := { w.builtin with cache } }) ∨
      (∃ body, step.Makes .createOracle .createOracle body ∧
        step.next w =
          ((step.aggregate.addOracle (OracleAdminExpressRoutes.oracleOf body)).run w).2) ∨
      ∃ id body, step.Makes (.deleteOracle id) .removeOracle body ∧
        step.next w = ((step.aggregate.removeOracle id).run w).2 := by
  have hkept : ∃ cache, w = { w with builtin := { w.builtin with cache } } := ⟨w.builtin.cache, rfl⟩
  unfold next Service.respond
  rw [Proc.run_bind_pure_state]
  unfold Service.serve
  cases hbody : step.request.body with
  | error status => exact .inl hkept
  | ok body =>
    dsimp only
    cases hmounted : Service.mounted step.request.path with
    | elsewhere => exact .inl hkept
    | admin path =>
      dsimp only
      unfold Service.authenticated
      cases hauthenticate : authenticate step.packages step.request with
      | none => exact .inl hkept
      | some secCtx =>
        unfold Service.dispatch
        dsimp only
        cases hroute : OracleAdminExpressRoutes.route step.request.method path with
        | undecodable => exact .inl hkept
        | unmatched => exact .inl hkept
        | handler endpoint =>
          dsimp only
          rcases step.admin_state secCtx body endpoint w with
            hsame | ⟨rfl, hprivilege, hrun⟩ | ⟨id, rfl, hprivilege, hrun⟩
          · rw [hsame]
            exact .inl hkept
          · exact .inr (.inl ⟨body, ⟨secCtx, path, hauthenticate, hprivilege, hbody, hmounted, hroute⟩,
              hrun⟩)
          · exact .inr (.inr ⟨id, body,
              ⟨secCtx, path, hauthenticate, hprivilege, hbody, hmounted, hroute⟩, hrun⟩)
    | accountLookup path =>
      left
      dsimp only
      unfold Service.authenticated
      cases authenticate step.packages step.request with
      | none => exact hkept
      | some secCtx =>
        unfold Service.dispatch
        dsimp only
        cases AccountLookupExpressRoutes.route step.request.method path with
        | undecodable => exact hkept
        | unmatched => exact hkept
        | handler endpoint =>
          exact step.lookUp_state secCtx body endpoint w

/-! ### The registry -/

/-- The request deletes an oracle with an id that the oracle has, for a caller with the privilege. -/
def Deletes (oracle : Oracle) : Prop :=
  ∃ body id, step.Makes (.deleteOracle id) .removeOracle body ∧
    MongoOracleFinderRepo.hasId step.env.compound (.str id) oracle = true

end Requested

end AccountLookup
