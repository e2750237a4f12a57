import AccountLookup.Model.RemoteRoutes
import AccountLookup.Remote.Atomicity

/-! The parties that the remote oracle service has registered, by the answers that it has given, and
whether it answers lookups of them. -/

namespace AccountLookup

open Async RemoteOracle RemoteOracleExpressRoutes

namespace RemoteOracleExpressRoutes.Handlers

variable (parser : QueryParser)

/-- The party that a request names, by its path and its query. -/
def partyOf (request : RouteRequest) : Option RequestParams :=
  match route request.target.path with
  | .participant partyType partyId =>
    match Url.decodeURIComponent partyType, Url.decodeURIComponent partyId with
    | some partyType, some partyId =>
      (extractRequestParams parser request (String.ofList partyType)
        (String.ofList partyId)).toOption
    | _, _ => none
  | _ => none

/-- The key of a party in the map. -/
def partyKey (party : RequestParams) : String :=
  createKey party.partyId party.partyType party.currency

def changeKind : HttpMethod → Option ChangeKind
  | .get => none
  | .post => some .associate
  | .delete => some .disassociate

/-- The call of the remote oracle for a change that the request asks for. -/
def associationCall (faults : Faults) (request : RouteRequest) (kind : ChangeKind)
    (party : RequestParams) : AssociationCall where
  faults := faults
  kind := kind
  fspId := bodyFspId request
  partyType := party.partyType
  partyId := party.partyId
  partySubType := party.partySubType
  currency := party.currency

/-- The request asks for the change of the party, and passes the check of `fspId`. -/
structure Asks (request : RouteRequest) (kind : ChangeKind) (party : RequestParams) : Prop where
  method : changeKind request.method = some kind
  party : partyOf parser request = some party
  valid : validateRequest parser request = true

/-- The `fspId` that a request gives: the first one, where there are several. -/
def requestedFspId (request : RouteRequest) : Option String :=
  match (fspIds parser request).head? with
  | some (.str fspId) => some fspId
  | _ => none

variable {parser} {faults : Faults} {request : RouteRequest} {kind : ChangeKind}
  {party : RequestParams}

theorem changeKind_eq_none_iff {method : HttpMethod} : changeKind method = none ↔ method = .get := by
  cases method <;> simp [changeKind]

theorem changeKind_eq_some_iff {method : HttpMethod} :
    changeKind method = some kind ↔
      method = match kind with
        | .associate => .post
        | .disassociate => .delete := by
  cases method <;> cases kind <;> simp [changeKind]

theorem Asks.unique {kind' : ChangeKind} {party' : RequestParams}
    (h : Asks parser request kind party) (h' : Asks parser request kind' party') :
    kind' = kind ∧ party' = party :=
  ⟨Option.some.inj (h'.method.symm.trans h.method), Option.some.inj (h'.party.symm.trans h.party)⟩

/-- The parts of a path and a query that name a party. -/
theorem partyOf_eq_some (h : partyOf parser request = some party) :
    ∃ partyType partyId partyTypeText partyIdText,
      route request.target.path = .participant partyType partyId ∧
        Url.decodeURIComponent partyType = some partyTypeText ∧
        Url.decodeURIComponent partyId = some partyIdText ∧
        extractRequestParams parser request (String.ofList partyTypeText)
          (String.ofList partyIdText) = .ok party := by
  unfold partyOf at h
  split at h
  · rename_i partyType partyId hroute
    split at h
    · rename_i partyTypeText partyIdText htype hid
      refine ⟨partyType, partyId, partyTypeText, partyIdText, hroute, htype, hid, ?_⟩
      cases hparams : extractRequestParams parser request (String.ofList partyTypeText)
          (String.ofList partyIdText) with
      | error error =>
        rw [hparams] at h
        cases h
      | ok params =>
        rw [hparams] at h
        cases h
        rfl
    · cases h
  · cases h

theorem serve_of_get (hmethod : request.method = .get) (h : partyOf parser request = some party) :
    serve parser faults request = lookUp party := by
  obtain ⟨partyType, partyId, partyTypeText, partyIdText, hroute, htype, hid, hparams⟩ :=
    partyOf_eq_some h
  simp only [serve, hroute, htype, hid, hmethod, getParticipantFspId, hparams]
  rfl

/-- A change that passes the check is answered by the remote oracle. -/
theorem serve_of_asks (h : Asks parser request kind party) :
    serve parser faults request =
      answerChange (associationCall faults request kind party).perform := by
  obtain ⟨hmethod, hparty, hvalid⟩ := h
  obtain ⟨partyType, partyId, partyTypeText, partyIdText, hroute, htype, hid, hparams⟩ :=
    partyOf_eq_some hparty
  have hmethod := changeKind_eq_some_iff.mp hmethod
  cases kind with
  | associate =>
    simp only [serve, hroute, htype, hid, hmethod, associateParticipant, handleChange, hvalid,
      if_true, hparams]
    rfl
  | disassociate =>
    simp only [serve, hroute, htype, hid, hmethod, disassociateParticipant, handleChange, hvalid,
      if_true, hparams]
    rfl

theorem serve_of_not_valid (hmethod : request.method ≠ .get)
    (hparty : partyOf parser request = some party)
    (hvalid : validateRequest parser request = false) :
    serve parser faults request = pure { status := 422 } := by
  obtain ⟨partyType, partyId, partyTypeText, partyIdText, hroute, htype, hid, -⟩ :=
    partyOf_eq_some hparty
  cases hm : request.method with
  | get => exact absurd hm hmethod
  | post | delete =>
    simp [serve, hroute, htype, hid, hm, associateParticipant, disassociateParticipant,
      handleChange, hvalid]

/-- A request that names no party leaves the oracle as it is. -/
theorem run_serve_of_no_party (h : partyOf parser request = none) (s : RemoteOracle) :
    ((serve parser faults request).run s).2 = s := by
  unfold serve
  split
  · rfl
  · rename_i partyType partyId hroute
    unfold partyOf at h
    rw [hroute] at h
    dsimp only at h
    split
    · rename_i partyTypeText partyIdText htype hid
      rw [htype, hid] at h
      dsimp only at h
      cases hparams : extractRequestParams parser request (String.ofList partyTypeText)
          (String.ofList partyIdText) with
      | ok params =>
        rw [hparams] at h
        cases h
      | error error =>
        cases request.method with
        | get =>
          simp only [getParticipantFspId, hparams]
          rfl
        | post =>
          simp only [associateParticipant, handleChange, hparams]
          split <;> rfl
        | delete =>
          simp only [disassociateParticipant, handleChange, hparams]
          split <;> rfl
    · rfl
  · rfl

/-- The answer to a lookup: an association is found when its `fspId` counts as true. -/
theorem run_lookUp (party : RequestParams) (s : RemoteOracle) :
    (lookUp party).run s =
      (.ok (match s.associations.get (partyKey party) with
        | some association =>
          if association.fspId.truthy then { status := 200, fspId := association.fspId }
          else { status := 404 }
        | none => { status := 404 }), s) := by
  unfold lookUp
  rw [Proc.run_bind_ok (run_getParticipantFspId party.partyType party.partyId party.partySubType
    party.currency s)]
  unfold partyKey
  cases s.associations.get (createKey party.partyId party.partyType party.currency) with
  | none => rfl
  | some association =>
    dsimp only [Option.map_some, Option.getD_some]
    split <;> rfl

theorem run_lookUp_eq_found_iff {s : RemoteOracle} {fspId : String} :
    (lookUp party).run s = (.ok { status := 200, fspId := .val fspId }, s) ↔
      ∃ association, s.associations.get (partyKey party) = some association ∧
        association.fspId = .val fspId ∧ fspId ≠ "" := by
  rw [run_lookUp]
  cases s.associations.get (partyKey party) with
  | none => simp
  | some association =>
    cases hfspId : association.fspId with
    | undefined | null => simp [hfspId]
    | val owner =>
      by_cases howner : owner = ""
      · simp [hfspId, howner, Js.Field.truthy, eq_comm]
      · simp only [hfspId, Js.Field.truthy, howner, ne_eq, not_false_iff, decide_true, if_true,
          Prod.mk.injEq, Except.ok.injEq, HttpResponse.mk.injEq, Js.Field.val.injEq, true_and,
          and_true, Option.some.injEq, exists_eq_left']
        constructor
        · rintro rfl
          exact ⟨rfl, howner⟩
        · exact And.left

/-- What the check guarantees: the body has a non-empty string, or it has no `fspId`. -/
theorem body_of_valid (h : validateRequest parser request = true) :
    request.fspId = .undefined ∨
      ∃ fspId, request.fspId = .str fspId ∧ fspId ≠ "" ∧
        bodyFspId request = .val fspId ∧ requestedFspId parser request = some fspId := by
  by_cases hbody : request.fspId = .undefined
  · exact .inl hbody
  · refine .inr ?_
    have hhead : (fspIds parser request).head? = some request.fspId := by
      unfold fspIds
      rw [List.filter_cons_of_pos (by simpa using hbody)]
      rfl
    have hmem : request.fspId ∈ fspIds parser request := List.mem_of_mem_head? hhead
    have hall : (fspIds parser request).all OracleAdminExpressRoutes.isNonEmptyString = true :=
      (Bool.and_eq_true_iff.mp h).2
    have hstring := List.all_eq_true.mp hall _ hmem
    cases hfspId : request.fspId with
    | str fspId =>
      rw [hfspId] at hstring hhead
      refine ⟨fspId, rfl, of_decide_eq_true hstring, ?_, ?_⟩
      · simp only [bodyFspId, hfspId]
      · simp only [requestedFspId, hhead]
    | undefined => exact absurd hfspId hbody
    | null | bool | num | compound =>
      rw [hfspId] at hstring
      cases hstring

end RemoteOracleExpressRoutes.Handlers

open RemoteOracleExpressRoutes.Handlers

/-- A request and the commands that fail while it is served. -/
structure RouteCall where
  faults : Faults
  request : RouteRequest

/-- The oracle, and for each party the `fspId` that was asked for in the association that was answered
200 and not removed since. -/
structure Registrations where
  oracle : RemoteOracle
  owners : RequestParams → Option String

namespace Registrations

def start (filePath : String) : Registrations := ⟨.empty filePath, fun _ => none⟩

variable (parser : QueryParser)

/-- What an answer of 200 to the request says about the owners. -/
def record (request : RouteRequest) (party : RequestParams)
    (owners : RequestParams → Option String) : RequestParams → Option String :=
  match request.method with
  | .get => owners
  | .post => Function.update owners party (requestedFspId parser request)
  | .delete => Function.update owners party none

def isOk : Except JsError HttpResponse → Bool
  | .ok response => response.status = 200
  | .error _ => false

def next (r : Registrations) (call : RouteCall) : Registrations :=
  let (answer, oracle) := (Handlers.serve parser call.faults call.request).run r.oracle
  { oracle
    owners :=
      match partyOf parser call.request with
      | some party => if isOk answer then record parser call.request party r.owners else r.owners
      | none => r.owners }

/-- Every association has a non-empty string as its `fspId`, and a lookup of a party that is registered
is answered with the one that was asked for. -/
structure Answered (r : Registrations) : Prop where
  fspIds : ∀ entry ∈ r.oracle.associations.entries, ∃ fspId,
    entry.2.fspId = .val fspId ∧ fspId ≠ ""
  lookups : ∀ party fspId, r.owners party = some fspId →
    ∀ faults request, request.method = .get → partyOf parser request = some party →
      (Handlers.serve parser faults request).run r.oracle =
        (.ok { status := 200, fspId := .val fspId }, r.oracle)

/-- An addition has its `fspId` in the body, and a removal is that of no registered party but its own,
and the file is then written. -/
def HarmlessChange (r : Registrations) (call : RouteCall) (party : RequestParams) :
    ChangeKind → Prop
  | .associate => call.request.fspId ≠ .undefined
  | .disassociate => ∀ other, partyKey other = partyKey party → r.owners other ≠ none →
      other = party ∧ call.faults .writeFile = none

/-- The change that a request makes, if it makes one, is harmless. -/
def Harmless (r : Registrations) (call : RouteCall) : Prop :=
  ∀ kind party, Asks parser call.request kind party →
    (associationCall call.faults call.request kind party).Passes r.oracle →
      r.HarmlessChange call party kind

/-- What the map has for the registered parties. -/
structure Stored (r : Registrations) : Prop where
  fspIds : ∀ entry ∈ r.oracle.associations.entries, ∃ fspId,
    entry.2.fspId = .val fspId ∧ fspId ≠ ""
  owners : ∀ party fspId, r.owners party = some fspId →
    ∃ association, r.oracle.associations.get (partyKey party) = some association ∧
      association.fspId = .val fspId

/-- The registered parties are named by requests. -/
def Named (r : Registrations) : Prop :=
  ∀ party, r.owners party ≠ none →
    ∃ request : RouteRequest, request.method = .get ∧ partyOf parser request = some party

variable {parser} {r : Registrations} {call : RouteCall} {kind : ChangeKind}
  {party : RequestParams}

theorem answered_iff_stored (hnamed : r.Named parser) : r.Answered parser ↔ r.Stored := by
  constructor
  · intro h
    refine ⟨h.fspIds, ?_⟩
    intro party fspId howner
    obtain ⟨request, hmethod, hparty⟩ := hnamed party (by rw [howner]; exact nofun)
    have hlookup := h.lookups party fspId howner .none request hmethod hparty
    rw [serve_of_get hmethod hparty] at hlookup
    obtain ⟨association, hget, hfspId, -⟩ := run_lookUp_eq_found_iff.mp hlookup
    exact ⟨association, hget, hfspId⟩
  · intro h
    refine ⟨h.fspIds, ?_⟩
    intro party fspId howner faults request hmethod hparty
    obtain ⟨association, hget, hfspId⟩ := h.owners party fspId howner
    obtain ⟨stored, hstored, hne⟩ := h.fspIds _ (Js.Map.mem_of_get hget)
    rw [hfspId, Js.Field.val.injEq] at hstored
    subst hstored
    rw [serve_of_get hmethod hparty]
    exact run_lookUp_eq_found_iff.mpr ⟨association, hget, hfspId, hne⟩

/-- A request that asks for no change leaves the oracle and its registrations. -/
theorem next_of_not_asks (h : ∀ kind party, ¬Asks parser call.request kind party) :
    r.next parser call = r := by
  cases hparty : partyOf parser call.request with
  | none =>
    have hrun : ((Handlers.serve parser call.faults call.request).run r.oracle).2 = r.oracle :=
      run_serve_of_no_party hparty r.oracle
    simp only [next, hparty, hrun]
  | some party =>
    cases hkind : changeKind call.request.method with
    | none =>
      have hmethod := changeKind_eq_none_iff.mp hkind
      simp only [next, hparty, serve_of_get hmethod hparty, run_lookUp, record, hmethod, ite_self]
    | some kind =>
      have hmethod : call.request.method ≠ .get := by
        intro hmethod
        rw [changeKind_eq_none_iff.mpr hmethod] at hkind
        cases hkind
      have hvalid : validateRequest parser call.request = false := by
        by_contra hvalid
        exact h kind party ⟨hkind, hparty, by simpa using hvalid⟩
      simp [next, hparty, serve_of_not_valid hmethod hparty hvalid, isOk]

/-- A change that the remote oracle refuses leaves them too. -/
theorem next_of_refused (hasks : Asks parser call.request kind party)
    (hrefused : ¬(associationCall call.faults call.request kind party).Passes r.oracle) :
    r.next parser call = r := by
  obtain ⟨error, hstep⟩ := AssociationCall.step_of_not_passes hrefused
  have hrun : (associationCall call.faults call.request kind party).perform.run r.oracle =
      (.error error, r.oracle) := by
    rw [← Proc.run_step, hstep]
    rfl
  simp [next, hasks.party, serve_of_asks hasks, answerChange, hrun, isOk]

/-- A change that the remote oracle makes is in its map, and it is registered when the file is
written. -/
theorem next_of_passes (hasks : Asks parser call.request kind party)
    (hpasses : (associationCall call.faults call.request kind party).Passes r.oracle) :
    (r.next parser call).oracle.associations =
        (associationCall call.faults call.request kind party).change r.oracle.associations ∧
      (r.next parser call).owners =
        if call.faults .writeFile = none then record parser call.request party r.owners
        else r.owners := by
  have hrun := AssociationCall.run_of_passes hpasses
  rw [run_writeFile] at hrun
  have hfaults : (associationCall call.faults call.request kind party).faults = call.faults := rfl
  rw [hfaults] at hrun
  simp only [next, hasks.party, serve_of_asks hasks, answerChange, Proc.run_attempt_bind]
  rw [hrun]
  cases call.faults .writeFile with
  | none => exact ⟨rfl, by simp [isOk]⟩
  | some error => exact ⟨rfl, by simp [isOk]⟩

/-- The map gets an association with an `fspId` under a free key, and the registrations at most its
party. -/
theorem Stored.add {r' : Registrations} {association : Association} {fspId : String}
    (h : r.Stored) (hfree : r.oracle.associations.get (partyKey party) = none)
    (hfspId : association.fspId = .val fspId) (hne : fspId ≠ "")
    (hadded : r'.oracle.associations = r.oracle.associations.set (partyKey party) association)
    (howners : ∀ other owner, r'.owners other = some owner →
      r.owners other = some owner ∨ other = party ∧ owner = fspId) : r'.Stored where
  fspIds := by
    intro entry hentry
    rw [hadded] at hentry
    rcases Js.Map.mem_set hentry with hentry | rfl
    · exact h.fspIds entry hentry
    · exact ⟨fspId, hfspId, hne⟩
  owners := by
    intro other owner howner
    rcases howners other owner howner with hbefore | ⟨rfl, rfl⟩
    · obtain ⟨stored, hget, howned⟩ := h.owners other owner hbefore
      have hkey : partyKey other ≠ partyKey party := by
        intro hkey
        rw [hkey, hfree] at hget
        cases hget
      refine ⟨stored, ?_, howned⟩
      rw [hadded, Js.Map.get_set_of_ne hkey]
      exact hget
    · refine ⟨association, ?_, hfspId⟩
      rw [hadded]
      exact Js.Map.get_set_self hfree _

/-- The map loses the association under a key, and the registrations every party that has it. -/
theorem Stored.remove {r' : Registrations} {key : String} (h : r.Stored)
    (hremoved : r'.oracle.associations = r.oracle.associations.delete key)
    (howners : ∀ other owner, r'.owners other = some owner →
      r.owners other = some owner ∧ partyKey other ≠ key) : r'.Stored where
  fspIds := by
    intro entry hentry
    rw [hremoved] at hentry
    exact h.fspIds entry (List.mem_of_mem_filter hentry)
  owners := by
    intro other owner howner
    obtain ⟨hbefore, hkey⟩ := howners other owner howner
    obtain ⟨stored, hget, howned⟩ := h.owners other owner hbefore
    refine ⟨stored, ?_, howned⟩
    rw [hremoved, Js.Map.get_delete_of_ne hkey]
    exact hget

/-- Only the party of the request is registered by an addition. -/
theorem owners_next_associate {other : RequestParams} {owner fspId : String}
    (hasks : Asks parser call.request .associate party)
    (hpasses : (associationCall call.faults call.request .associate party).Passes r.oracle)
    (hrequested : requestedFspId parser call.request = some fspId)
    (howner : (r.next parser call).owners other = some owner) :
    r.owners other = some owner ∨ other = party ∧ owner = fspId := by
  have hmethod : call.request.method = .post := changeKind_eq_some_iff.mp hasks.method
  rw [(next_of_passes hasks hpasses).2] at howner
  split at howner
  · simp only [record, hmethod, Function.update_apply, hrequested] at howner
    split at howner
    · rename_i hparty
      exact .inr ⟨hparty, (Option.some.inj howner).symm⟩
    · exact .inl howner
  · exact .inl howner

/-- A removal takes its party out of the registrations, when the file is written. -/
theorem owners_next_disassociate {other : RequestParams} {owner : String}
    (hasks : Asks parser call.request .disassociate party)
    (hpasses : (associationCall call.faults call.request .disassociate party).Passes r.oracle) :
    (r.next parser call).owners other = some owner ↔
      r.owners other = some owner ∧ ¬(other = party ∧ call.faults .writeFile = none) := by
  have hmethod : call.request.method = .delete := changeKind_eq_some_iff.mp hasks.method
  rw [(next_of_passes hasks hpasses).2]
  simp only [record, hmethod]
  by_cases hwritten : call.faults .writeFile = none
  · by_cases hother : other = party
    · simp [hwritten, hother]
    · simp [hwritten, hother]
  · simp [hwritten]

/-- An addition keeps the map in step with the registrations exactly when the body has the `fspId`. -/
theorem stored_next_associate_iff (h : r.Stored)
    (hasks : Asks parser call.request .associate party)
    (hpasses : (associationCall call.faults call.request .associate party).Passes r.oracle) :
    (r.next parser call).Stored ↔ r.HarmlessChange call party .associate := by
  have hfree : r.oracle.associations.get (partyKey party) = none := hpasses
  have hadded : (r.next parser call).oracle.associations =
      r.oracle.associations.set (partyKey party)
        ⟨bodyFspId call.request, party.partyType, party.partyId, party.partySubType,
          party.currency⟩ := (next_of_passes hasks hpasses).1
  constructor
  · intro hstored hundefined
    have hget := Js.Map.get_set_self hfree (⟨bodyFspId call.request, party.partyType, party.partyId,
      party.partySubType, party.currency⟩ : Association)
    rw [← hadded] at hget
    obtain ⟨fspId, hfspId, -⟩ := hstored.fspIds _ (Js.Map.mem_of_get hget)
    simp [bodyFspId, hundefined] at hfspId
  · intro hbody
    rcases body_of_valid hasks.valid with hundefined | ⟨fspId, -, hne, hfspId, hrequested⟩
    · exact absurd hundefined hbody
    · exact h.add hfree hfspId hne hadded fun _ _ howner =>
        owners_next_associate hasks hpasses hrequested howner

/-- A removal keeps the map in step with the registrations exactly when it is that of no registered
party but its own, and the file is written. -/
theorem stored_next_disassociate_iff (h : r.Stored)
    (hasks : Asks parser call.request .disassociate party)
    (hpasses : (associationCall call.faults call.request .disassociate party).Passes r.oracle) :
    (r.next parser call).Stored ↔ r.HarmlessChange call party .disassociate := by
  have hremoved : (r.next parser call).oracle.associations =
      r.oracle.associations.delete (partyKey party) := (next_of_passes hasks hpasses).1
  constructor
  · intro hstored other hkey howned
    obtain ⟨owner, howner⟩ := Option.ne_none_iff_exists'.mp howned
    by_contra hnot
    obtain ⟨stored, hget, -⟩ := hstored.owners other owner
      ((owners_next_disassociate hasks hpasses).mpr ⟨howner, hnot⟩)
    rw [hremoved, hkey, Js.Map.get_delete_self] at hget
    cases hget
  · intro hown
    refine h.remove hremoved ?_
    intro other owner howner
    obtain ⟨hbefore, hnot⟩ := (owners_next_disassociate hasks hpasses).mp howner
    refine ⟨hbefore, ?_⟩
    intro hkey
    exact hnot (hown other hkey (by rw [hbefore]; exact nofun))

theorem stored_next_iff (h : r.Stored) : (r.next parser call).Stored ↔ r.Harmless parser call := by
  by_cases hmade : ∃ kind party, Asks parser call.request kind party ∧
      (associationCall call.faults call.request kind party).Passes r.oracle
  · obtain ⟨kind, party, hasks, hpasses⟩ := hmade
    have hiff : (r.next parser call).Stored ↔ r.HarmlessChange call party kind := by
      cases kind with
      | associate => exact stored_next_associate_iff h hasks hpasses
      | disassociate => exact stored_next_disassociate_iff h hasks hpasses
    rw [hiff]
    constructor
    · intro hkind kind' party' hasks' _
      obtain ⟨rfl, rfl⟩ := hasks.unique hasks'
      exact hkind
    · intro hharmless
      exact hharmless kind party hasks hpasses
  · have hsame : r.next parser call = r := by
      by_cases hasks : ∃ kind party, Asks parser call.request kind party
      · obtain ⟨kind, party, hasks⟩ := hasks
        exact next_of_refused hasks fun hpasses => hmade ⟨kind, party, hasks, hpasses⟩
      · exact next_of_not_asks fun kind party hasks' => hasks ⟨kind, party, hasks'⟩
    rw [hsame]
    constructor
    · intro _ kind party hasks hpasses
      exact absurd ⟨kind, party, hasks, hpasses⟩ hmade
    · exact fun _ => h

theorem named_next (r : Registrations) (call : RouteCall) (h : r.Named parser) :
    (r.next parser call).Named parser := by
  intro party howner
  by_cases hbefore : r.owners party = none
  · -- The request that registers the party names it.
    refine ⟨{ call.request with method := .get }, rfl, ?_⟩
    show partyOf parser call.request = some party
    cases hnamed : partyOf parser call.request with
    | none =>
      simp only [next, hnamed] at howner
      exact absurd hbefore howner
    | some named =>
      simp only [next, hnamed] at howner
      by_contra hother
      have hne : party ≠ named := fun hparty => hother (by rw [hparty])
      apply howner
      split
      · unfold record
        cases call.request.method with
        | get => exact hbefore
        | post | delete => exact (Function.update_of_ne hne _ _).trans hbefore
      · exact hbefore
  · exact h party hbefore

theorem stored_start (filePath : String) : (start filePath).Stored where
  fspIds := fun _ hmem => nomatch hmem
  owners := fun _ _ howner => nomatch howner

/-- In every run of the service from an empty oracle, every association has a non-empty string as its
`fspId` and the registered parties are found under theirs, in every state, exactly when every request of
the run is harmless. -/
theorem always_answered_iff (parser : QueryParser) (filePath : String) (calls : List RouteCall) :
    Runs.Always (next parser) (Answered parser) (start filePath) calls ↔
      Runs.Each (next parser) (Harmless parser) (start filePath) calls := by
  have hnamed : (start filePath).Named parser := fun _ howner => absurd rfl howner
  refine Runs.always_iff_each_of (J := Named parser) named_next ?_ hnamed
    ((answered_iff_stored hnamed).mpr (stored_start filePath)) calls
  intro r call hr hanswered
  rw [answered_iff_stored (named_next r call hr)]
  exact stored_next_iff ((answered_iff_stored hr).mp hanswered)

/-- An association that is asked for with the `fspId` in the query and an empty body. -/
def bodyless : RouteCall where
  faults := .none
  request :=
    { method := .post
      target := ⟨["participants".toList, "MSISDN".toList, "1".toList], some "fspId=bluebank".toList⟩
      fspId := .undefined
      others := [] }

/-- The query passes the check, and `null` goes to the map. -/
theorem not_always_answered :
    ¬Runs.Always (next .plain) (Answered .plain) (start "/app/data/db.json") [bodyless] := by
  intro h
  have hentry : ("1-MSISDN-NULL", (⟨.null, "MSISDN", "1", .null, .null⟩ : Association)) ∈
      ((start "/app/data/db.json").next .plain bodyless).oracle.associations.entries := by
    decide +kernel
  obtain ⟨fspId, hfspId, -⟩ := h.2.fspIds _ hentry
  cases hfspId

-- The party is registered, is looked up in vain, and cannot be associated again.
example :
    let r := (start "/app/data/db.json").next .plain bodyless
    r.owners ⟨"MSISDN", "1", .null, .null⟩ = some "bluebank" ∧
      ((Handlers.serve .plain .none { bodyless.request with method := .get }).run
        r.oracle).1.toOption = some { status := 404 } ∧
      ((Handlers.serve .plain .none { bodyless.request with fspId := .str "bluebank" }).run
        r.oracle).1.toOption = some { status := 500 } := by
  decide +kernel

end Registrations

end AccountLookup
