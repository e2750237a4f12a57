import AccountLookup.Async.Linearization
import AccountLookup.Remote.Registrations
import AccountLookup.Remote.Writes

/-! Requests that the remote oracle service handles at the same time: lookups, additions and removals.
Each does all that it does to the map in its first step, so they are linearizable, and what the file has
is always a map that the order passes through. -/

namespace AccountLookup

open Async RemoteOracle RemoteOracleExpressRoutes RemoteOracleExpressRoutes.Handlers

namespace RemoteOracleExpressRoutes.Handlers

variable {parser : QueryParser} {faults : Faults} {request : RouteRequest}

theorem settled_serve_of_no_party (h : partyOf parser request = none) :
    (serve parser faults request).settled = true := by
  unfold serve
  split
  · rfl
  · rename_i partyType partyId hroute
    unfold partyOf at h
    rw [hroute] at h
    dsimp only at h
    split
    · rename_i partyTypeText partyIdText htype hid
      rw [htype, hid] at h
      dsimp only at h
      cases hparams : extractRequestParams parser request (String.ofList partyTypeText)
          (String.ofList partyIdText) with
      | ok params =>
        rw [hparams] at h
        cases h
      | error error =>
        cases request.method with
        | get =>
          simp only [getParticipantFspId, hparams]
          rfl
        | post =>
          simp only [associateParticipant, handleChange, hparams]
          split <;> rfl
        | delete =>
          simp only [disassociateParticipant, handleChange, hparams]
          split <;> rfl
    · rfl
  · rfl

/-- The parameters of the request can be read from its query.  Otherwise its handler throws where it
reads them, outside its `try`, and the exception ends the process. -/
def Readable (parser : QueryParser) (request : RouteRequest) : Prop :=
  ∀ partyType partyId, ∃ params, extractRequestParams parser request partyType partyId = .ok params

/-- A readable request that names no party is answered. -/
theorem run_serve_of_readable_no_party (h : Readable parser request)
    (hparty : partyOf parser request = none) (s : RemoteOracle) :
    ∃ response, ((serve parser faults request).run s).1 = .ok response := by
  unfold serve
  split
  · exact ⟨_, rfl⟩
  · rename_i partyType partyId hroute
    split
    · rename_i partyTypeText partyIdText htype hid
      obtain ⟨params, hparams⟩ := h (String.ofList partyTypeText) (String.ofList partyIdText)
      unfold partyOf at hparty
      rw [hroute] at hparty
      dsimp only at hparty
      rw [htype, hid] at hparty
      dsimp only at hparty
      rw [hparams] at hparty
      cases hparty
    · exact ⟨_, rfl⟩
  · exact ⟨_, rfl⟩

/-- A request is answered without a look at the oracle, looks a party up, or asks for a change. -/
theorem serve_cases (parser : QueryParser) (faults : Faults) (request : RouteRequest) :
    (serve parser faults request).settled = true ∨
      (∃ party, partyOf parser request = some party ∧
        serve parser faults request = lookUp party) ∨
      ∃ kind party, Asks parser request kind party ∧
        serve parser faults request =
          answerChange (associationCall faults request kind party).perform := by
  cases hparty : partyOf parser request with
  | none => exact .inl (settled_serve_of_no_party hparty)
  | some party =>
    cases hkind : changeKind request.method with
    | none =>
      exact .inr (.inl ⟨party, rfl, serve_of_get (changeKind_eq_none_iff.mp hkind) hparty⟩)
    | some kind =>
      cases hvalid : validateRequest parser request with
      | true =>
        have hasks : Asks parser request kind party := ⟨hkind, hparty, hvalid⟩
        exact .inr (.inr ⟨kind, party, hasks, serve_of_asks hasks⟩)
      | false =>
        left
        have hmethod : request.method ≠ .get := by
          intro hget
          rw [changeKind_eq_none_iff.mpr hget] at hkind
          cases hkind
        rw [serve_of_not_valid hmethod hparty hvalid]
        rfl

theorem step_answerChange {change rest : Proc JsError RemoteOracle Unit} {s t : RemoteOracle}
    (h : change.step s = (rest, t)) : (answerChange change).step s = (answerChange rest, t) := by
  cases change with
  | resolve value | reject error =>
    cases h
    rfl
  | access update next =>
    cases h
    rfl

/-- The status of the answer to a change that the oracle has made in its map. -/
def statusOfWrite (faults : Faults) : ℕ := if faults .writeFile = none then 200 else 500

theorem finishes_answerChange (faults : Faults) (filePath : String) (contents : List Association) :
    (answerChange (writeFile faults filePath contents)).Finishes associations
      (.ok { status := statusOfWrite faults }) 1 := by
  unfold writeFile send statusOfWrite
  cases faults .writeFile with
  | none => exact fun s => ⟨rfl, rfl⟩
  | some error => rfl

/-- The answer to a lookup of what the map has. -/
def answerOf : Option Association → HttpResponse
  | some association =>
    if association.fspId.truthy then { status := 200, fspId := association.fspId }
    else { status := 404 }
  | none => { status := 404 }

theorem step_lookUp (party : RequestParams) (s : RemoteOracle) :
    (lookUp party).step s =
      (.resolve (answerOf (s.associations.get (partyKey party))), s) := by
  have hnext : (lookUp party).step s =
      ((match s.associations.get (partyKey party) with
        | some association => pure association.fspId
        | none => pure .null : Proc JsError RemoteOracle Js.Str) >>= fun fetched =>
        if fetched.truthy then pure { status := 200, fspId := fetched }
        else pure { status := 404 }, s) := rfl
  rw [hnext]
  cases s.associations.get (partyKey party) with
  | none => rfl
  | some association =>
    show (if association.fspId.truthy then _ else _, s) = _
    unfold answerOf
    dsimp only
    split <;> rfl

/-- The request on an oracle with the map: the answer, and the map after it. -/
def effect (parser : QueryParser) (faults : Faults) (request : RouteRequest)
    (m : Js.Map String Association) : Except JsError HttpResponse × Js.Map String Association :=
  let (answer, s) := (serve parser faults request).run ((RemoteOracle.empty "").holding m)
  (answer, s.associations)

theorem takesEffect_lookUp (party : RequestParams) :
    (lookUp party).TakesEffect associations
      (fun m => (.ok (answerOf (m.get (partyKey party))), m)) 1 := by
  intro s
  rw [step_lookUp]
  exact ⟨rfl, rfl⟩

open Classical in
theorem takesEffect_change (call : AssociationCall) :
    (answerChange call.perform).TakesEffect associations
      (fun m => if call.Passes ((RemoteOracle.empty "").holding m) then
          (.ok { status := statusOfWrite call.faults }, call.change m)
        else (.ok { status := 500 }, m)) 1 := by
  intro s
  dsimp only
  have hsame : call.Passes ((RemoteOracle.empty "").holding s.associations) ↔ call.Passes s := Iff.rfl
  by_cases hpasses : call.Passes s
  · rw [step_answerChange (AssociationCall.step_of_passes hpasses), if_pos (hsame.mpr hpasses)]
    exact ⟨rfl, finishes_answerChange call.faults s.filePath _⟩
  · obtain ⟨error, hstep⟩ := AssociationCall.step_of_not_passes hpasses
    rw [step_answerChange hstep, if_neg (mt hsame.mp hpasses)]
    exact ⟨rfl, rfl⟩

/-- Each request does to the map, in its first step, what it does on its own. -/
theorem serve_takesEffect (parser : QueryParser) (faults : Faults) (request : RouteRequest) :
    (serve parser faults request).TakesEffect associations (effect parser faults request) 1 := by
  have hsome : ∃ f, (serve parser faults request).TakesEffect associations f 1 := by
    rcases serve_cases parser faults request with hsettled | ⟨party, -, hserve⟩ | ⟨kind, party, -, hserve⟩
    · exact ⟨_, .of_settled hsettled (.empty "")⟩
    · exact ⟨_, hserve ▸ takesEffect_lookUp party⟩
    · exact ⟨_, hserve ▸ takesEffect_change _⟩
  obtain ⟨f, hf⟩ := hsome
  have heffect : f = effect parser faults request :=
    funext fun m => (hf.run ((RemoteOracle.empty "").holding m)).symm
  rwa [← heffect]

/-- After its first step a request has at most the write of the map that it made left. -/
theorem serve_stores (parser : QueryParser) (faults : Faults) (request : RouteRequest)
    (s : RemoteOracle) :
    ((serve parser faults request).step s).2.file = s.file ∧
      ((serve parser faults request).step s).1.Stores RemoteOracle.file
        (· = (effect parser faults request s.associations).2.values) := by
  have heffect := (serve_takesEffect parser faults request s).1
  rcases serve_cases parser faults request with hsettled | ⟨party, -, hserve⟩ | ⟨kind, party, -, hserve⟩
  · rw [Proc.step_of_settled s hsettled]
    refine ⟨rfl, ?_⟩
    cases hp : serve parser faults request with
    | access update next =>
      rw [hp] at hsettled
      cases hsettled
    | resolve answer => trivial
    | reject error => trivial
  · rw [hserve, step_lookUp]
    exact ⟨rfl, trivial⟩
  · rw [← heffect, hserve]
    generalize associationCall faults request kind party = call
    by_cases hpasses : call.Passes s
    · rw [step_answerChange (AssociationCall.step_of_passes hpasses)]
      refine ⟨rfl, ?_⟩
      unfold writeFile send
      cases call.faults .writeFile with
      | none => exact fun t => ⟨rfl, trivial⟩
      | some error => trivial
    · obtain ⟨error, hstep⟩ := AssociationCall.step_of_not_passes hpasses
      rw [step_answerChange hstep]
      exact ⟨rfl, trivial⟩

/-- A request leaves the map, or asks for a change. -/
theorem effect_cases (parser : QueryParser) (faults : Faults) (request : RouteRequest)
    (m : Js.Map String Association) :
    (effect parser faults request m).2 = m ∨ ∃ kind party, Asks parser request kind party := by
  have heffect := (serve_takesEffect parser faults request ((RemoteOracle.empty "").holding m)).1
  change _ = (effect parser faults request m).2 at heffect
  rw [← heffect]
  rcases serve_cases parser faults request with hsettled | ⟨party, -, hserve⟩ | ⟨kind, party, hasks, -⟩
  · left
    rw [Proc.step_of_settled _ hsettled]
    rfl
  · left
    rw [hserve, step_lookUp]
    rfl
  · exact .inr ⟨kind, party, hasks⟩

open Classical in
theorem effect_of_asks {kind : ChangeKind} {party : RequestParams}
    (h : Asks parser request kind party) (m : Js.Map String Association) :
    effect parser faults request m =
      if (associationCall faults request kind party).Passes ((RemoteOracle.empty "").holding m) then
        (.ok { status := statusOfWrite faults },
          (associationCall faults request kind party).change m)
      else (.ok { status := 500 }, m) := by
  have hrun := (takesEffect_change (associationCall faults request kind party)).run
    ((RemoteOracle.empty "").holding m)
  rw [← serve_of_asks h] at hrun
  exact hrun

theorem keyed_effect {m : Js.Map String Association} (h : m.KeyedBy keyOf) (parser : QueryParser)
    (faults : Faults) (request : RouteRequest) :
    (effect parser faults request m).2.KeyedBy keyOf := by
  rcases effect_cases parser faults request m with hsame | ⟨kind, party, hasks⟩
  · rw [hsame]
    exact h
  · rw [effect_of_asks hasks]
    split
    next hpasses => exact AssociationCall.keyed_change hpasses h
    next => exact h

/-- A request that asks for no change under a key leaves what the map has there. -/
theorem get_effect_of_not_asks {key : String}
    (h : ∀ kind party, Asks parser request kind party → partyKey party ≠ key)
    (m : Js.Map String Association) : (effect parser faults request m).2.get key = m.get key := by
  rcases effect_cases parser faults request m with hsame | ⟨kind, party, hasks⟩
  · rw [hsame]
  · have hne : key ≠ (associationCall faults request kind party).key := (h kind party hasks).symm
    rw [effect_of_asks hasks]
    split
    · exact AssociationCall.get_change_of_ne hne m
    · rfl

/-- A readable request is answered. -/
theorem effect_of_readable (h : Readable parser request) (m : Js.Map String Association) :
    ∃ response, (effect parser faults request m).1 = .ok response := by
  cases hparty : partyOf parser request with
  | none => exact run_serve_of_readable_no_party h hparty _
  | some party =>
    cases hkind : changeKind request.method with
    | none =>
      unfold effect
      rw [serve_of_get (changeKind_eq_none_iff.mp hkind) hparty, run_lookUp]
      exact ⟨_, rfl⟩
    | some kind =>
      cases hvalid : validateRequest parser request with
      | true =>
        classical
        rw [effect_of_asks ⟨hkind, hparty, hvalid⟩]
        split <;> exact ⟨_, rfl⟩
      | false =>
        have hmethod : request.method ≠ .get := by
          intro hget
          rw [changeKind_eq_none_iff.mpr hget] at hkind
          cases hkind
        unfold effect
        rw [serve_of_not_valid hmethod hparty hvalid]
        exact ⟨_, rfl⟩

/-- A request for an association makes it when its key is free, and is refused otherwise. -/
theorem effect_associate {party : RequestParams} (h : Asks parser request .associate party)
    (m : Js.Map String Association) :
    effect parser faults request m =
      if m.get (partyKey party) = none then
        (.ok { status := statusOfWrite faults },
          m.set (partyKey party)
            { fspId := bodyFspId request, partyType := party.partyType, partyId := party.partyId,
              partySubType := party.partySubType, currency := party.currency })
      else (.ok { status := 500 }, m) := by
  classical
  rw [effect_of_asks h]
  exact if_congr Iff.rfl rfl rfl

end RemoteOracleExpressRoutes.Handlers

namespace RouteCall

section Requests

variable {ι : Type} (parser : QueryParser) (calls : ι → RouteCall)

/-- The service's handling of each of the requests. -/
def handling (i : ι) : Proc JsError RemoteOracle HttpResponse :=
  Handlers.serve parser (calls i).faults (calls i).request

variable [DecidableEq ι]

/-- The service after some steps of its requests, which are all received at the start.  The process goes on
as long as all of them are readable. -/
def served (s : RemoteOracle) (schedule : List ι) :
    Pool (Except JsError HttpResponse) RemoteOracle ι :=
  (Pool.answering (handling parser calls) s).run schedule

/-- The requests of the order one after the other, each when the one before it has been answered: the
oracle, and the answers. -/
def inTurn (s : RemoteOracle) (order : List ι) :
    RemoteOracle × (ι → Option (Except JsError HttpResponse)) :=
  Pool.oneByOne (handling parser calls) s order

omit [DecidableEq ι] in
theorem handling_takesEffect (i : ι) :
    (handling parser calls i).TakesEffect associations
      (effect parser (calls i).faults (calls i).request) 1 :=
  serve_takesEffect parser (calls i).faults (calls i).request

theorem associations_inTurn_append (s : RemoteOracle) (order : List ι) (i : ι) :
    (inTurn parser calls s (order ++ [i])).1.associations =
      (effect parser (calls i).faults (calls i).request
        (inTurn parser calls s order).1.associations).2 := by
  unfold inTurn
  rw [Pool.oneByOne_append]
  exact congrArg Prod.snd ((handling_takesEffect parser calls i).run _)

theorem answer_inTurn (s : RemoteOracle) {before after : List ι} {i : ι} (h : i ∉ after) :
    (inTurn parser calls s (before ++ i :: after)).2 i =
      some (effect parser (calls i).faults (calls i).request
        (inTurn parser calls s before).1.associations).1 := by
  have halone := @Pool.answer_oneByOne _ _ _ _ (handling parser calls) _ s before after i h
  have hrun := congrArg Prod.fst
    ((handling_takesEffect parser calls i).run (inTurn parser calls s before).1)
  exact halone.trans (congrArg some hrun)

theorem keyed_inTurn {s : RemoteOracle} (h : s.associations.KeyedBy keyOf) (order : List ι) :
    (inTurn parser calls s order).1.associations.KeyedBy keyOf := by
  induction order using List.reverseRecOn with
  | nil => exact h
  | append_singleton order i ih =>
    rw [associations_inTurn_append]
    exact keyed_effect ih parser _ _

/-- Requests that are handled at the same time change the map, and settle, as one after the other in the
order of their first steps. -/
theorem handled_in_turn (s : RemoteOracle) (schedule : List ι) :
    (served parser calls s schedule).state.associations =
        (inTurn parser calls s (Pool.started schedule)).1.associations ∧
      ∀ i ∈ schedule, ∃ answer,
        (inTurn parser calls s (Pool.started schedule)).2 i = some answer ∧
        (∀ answer', (served parser calls s schedule).calls i = .reject answer' → answer' = answer) ∧
        (1 < schedule.count i → (served parser calls s schedule).calls i = .reject answer) :=
  Pool.linearizable (handling_takesEffect parser calls) s schedule

/-- A readable request is answered where it is handled in turn. -/
theorem inTurn_of_readable {i : ι} (h : Readable parser (calls i).request) (s : RemoteOracle)
    {schedule : List ι} (hi : i ∈ schedule) :
    ∃ response, (inTurn parser calls s (Pool.started schedule)).2 i = some (.ok response) := by
  obtain ⟨before, after, horder, -, hafter, -⟩ :=
    Lists.exists_eq_append (Pool.nodup_started schedule) (Pool.mem_started.mpr hi)
  rw [horder, answer_inTurn parser calls s hafter]
  obtain ⟨response, hresponse⟩ := @effect_of_readable parser (calls i).faults _ h
    (inTurn parser calls s before).1.associations
  exact ⟨response, congrArg some hresponse⟩

/-- Readable requests that are handled at the same time are answered, and change the map, as one after
the other in the order of their first steps, after any steps of theirs; so a request that has been answered
before another one starts comes before it.  Each is answered with its second step at the latest. -/
theorem requests_linearizable (parser : QueryParser) (calls : ι → RouteCall)
    (hreadable : ∀ i, Readable parser (calls i).request) (s : RemoteOracle) (schedule : List ι) :
    (served parser calls s schedule).state.associations =
        (inTurn parser calls s (Pool.started schedule)).1.associations ∧
      (∀ i ∈ schedule, ∃ response,
        (inTurn parser calls s (Pool.started schedule)).2 i = some (.ok response) ∧
        (∀ answer, (served parser calls s schedule).calls i = .reject answer →
          answer = .ok response) ∧
        (1 < schedule.count i →
          (served parser calls s schedule).calls i = .reject (.ok response))) ∧
      ∀ earlier later, schedule = earlier ++ later →
        Pool.started earlier <+: Pool.started schedule := by
  obtain ⟨hstate, hanswers⟩ := handled_in_turn parser calls s schedule
  refine ⟨hstate, ?_, ?_⟩
  · intro i hi
    obtain ⟨answer, hanswer, hsame, hcount⟩ := hanswers i hi
    obtain ⟨response, hresponse⟩ := inTurn_of_readable parser calls (hreadable i) s hi
    obtain rfl : answer = .ok response := Option.some.inj (hanswer.symm.trans hresponse)
    exact ⟨response, hresponse, hsame, hcount⟩
  · rintro earlier later rfl
    exact Pool.started_prefix earlier later

/-! ### The file -/

/-- The contents are those that the map has, or those that it was loaded from. -/
def FileOf (records : List Association) (m : Js.Map String Association)
    (contents : List Association) : Prop :=
  contents = m.values ∨ contents = records ∧ m = load records

omit [DecidableEq ι] in
theorem handling_stores (records : List Association) (i : ι) (s : RemoteOracle) :
    ((handling parser calls i).step s).2.file = s.file ∧
      ((handling parser calls i).step s).1.Stores RemoteOracle.file
        (FileOf records
          (effect parser (calls i).faults (calls i).request s.associations).2) := by
  obtain ⟨hfile, hstores⟩ := serve_stores parser (calls i).faults (calls i).request s
  exact ⟨hfile, hstores.mono fun contents hcontents => .inl hcontents⟩

theorem fileOf_loaded (filePath : String) (records : List Association) :
    FileOf records (loaded filePath records).associations (loaded filePath records).file := by
  rw [loaded_eq]
  exact .inr ⟨rfl, rfl⟩

/-- A file of the map loads as it. -/
theorem FileOf.sameAssociations {records contents : List Association}
    {m : Js.Map String Association} (h : FileOf records m contents) (hm : m.KeyedBy keyOf)
    (filePath : String) : SameAssociations (loaded filePath contents).associations m := by
  rw [loaded_eq]
  rcases h with rfl | ⟨rfl, rfl⟩
  · intro key
    dsimp only
    rw [get_load_values hm, Association.rel_agrees_newAssociation]
    exact Association.rel_agrees_refl _
  · exact sameAssociations_refl _

/-- Whenever the service stops, between two steps of whatever requests, its file loads as the map that
some first requests of the order make one after the other: no request is there in part, and none without
those before it. -/
theorem file_is_snapshot (parser : QueryParser) (calls : ι → RouteCall) (filePath : String)
    (records : List Association) (schedule : List ι) :
    ∃ done, done <+: Pool.started schedule ∧
      SameAssociations
        (loaded filePath
          (served parser calls (loaded filePath records) schedule).state.file).associations
        (inTurn parser calls (loaded filePath records) done).1.associations := by
  have hkeyed := keyed_loaded filePath records
  have hstart := fileOf_loaded filePath records
  obtain ⟨done, hdone, -, hfile⟩ := Pool.stored_snapshot (handling_takesEffect parser calls)
    (handling_stores parser calls records) hstart schedule
  exact ⟨done, hdone, hfile.sameAssociations (keyed_inTurn parser calls hkeyed done) filePath⟩

/-- A change that is written when every request before it in the order has been answered is in the file
from then on, whatever is served and written later. -/
theorem written_stays (parser : QueryParser) (calls : ι → RouteCall) (filePath : String)
    (records : List Association) {earlier : List ι} {i : ι} (hi : i ∈ earlier)
    (hwrites : ((served parser calls (loaded filePath records) earlier).calls i).settled = false)
    (hbefore : ∀ j ∈ Lists.upTo (Pool.started earlier) i, j ≠ i →
      ((served parser calls (loaded filePath records) earlier).calls j).settled = true)
    (later : List ι) :
    ∃ done, done <+: Pool.started (earlier ++ [i] ++ later) ∧ i ∈ done ∧
      SameAssociations
        (loaded filePath (served parser calls (loaded filePath records)
          (earlier ++ [i] ++ later)).state.file).associations
        (inTurn parser calls (loaded filePath records) done).1.associations := by
  have hkeyed := keyed_loaded filePath records
  have hstart := fileOf_loaded filePath records
  obtain ⟨done, hdone, hmem, hfile⟩ := Pool.stored_covers (handling_takesEffect parser calls)
    (handling_stores parser calls records) hstart hi hwrites hbefore later
  exact ⟨done, hdone, hmem, hfile.sameAssociations (keyed_inTurn parser calls hkeyed done) filePath⟩

/-! ### Requests for one party -/

/-- The request asks for an association under the key. -/
def AsksUnder (parser : QueryParser) (request : RouteRequest) (key : String) : Prop :=
  ∃ party, Asks parser request .associate party ∧ partyKey party = key

variable {parser calls} {s : RemoteOracle} {key : String}

/-- Requests that ask for no change under a key leave what the map has there. -/
theorem get_inTurn_of_not_asks {order : List ι}
    (h : ∀ i ∈ order, ∀ kind party, Asks parser (calls i).request kind party → partyKey party ≠ key) :
    (inTurn parser calls s order).1.associations.get key = s.associations.get key := by
  induction order using List.reverseRecOn with
  | nil => rfl
  | append_singleton order i ih =>
    rw [associations_inTurn_append, get_effect_of_not_asks (h i (by simp))]
    exact ih fun j hj => h j (List.mem_append_left [i] hj)

/-- What the map has under a key stays, when no request asks for a removal under the key. -/
theorem get_inTurn_of_some {before after : List ι} {association : Association}
    (hkeeps : ∀ i party, Asks parser (calls i).request .disassociate party → partyKey party ≠ key)
    (h : (inTurn parser calls s before).1.associations.get key = some association) :
    (inTurn parser calls s (before ++ after)).1.associations.get key = some association := by
  induction after using List.reverseRecOn with
  | nil => simpa using h
  | append_singleton after i ih =>
    rw [← List.append_assoc, associations_inTurn_append]
    by_cases hasks : AsksUnder parser (calls i).request key
    · obtain ⟨party, hasks, rfl⟩ := hasks
      rw [effect_associate hasks, if_neg (by rw [ih]; exact Option.some_ne_none _)]
      exact ih
    · rw [get_effect_of_not_asks]
      · exact ih
      · intro kind party hparty hkey
        cases kind with
        | associate => exact hasks ⟨party, hparty, hkey⟩
        | disassociate => exact hkeeps i party hparty hkey

/-- Once a request has asked for an association under a key, the map has one there. -/
theorem get_inTurn_ne_none {order : List ι}
    (hkeeps : ∀ i party, Asks parser (calls i).request .disassociate party → partyKey party ≠ key)
    {i : ι} (hi : i ∈ order) (hasks : AsksUnder parser (calls i).request key) :
    (inTurn parser calls s order).1.associations.get key ≠ none := by
  obtain ⟨before, after, rfl⟩ := List.append_of_mem hi
  obtain ⟨party, hasks, rfl⟩ := hasks
  have hthere : ∃ association, (inTurn parser calls s (before ++ [i])).1.associations.get
      (partyKey party) = some association := by
    rw [associations_inTurn_append, effect_associate hasks]
    split
    next hfree => exact ⟨_, Js.Map.get_set_self hfree _⟩
    next htaken => exact Option.ne_none_iff_exists'.mp htaken
  obtain ⟨association, hassociation⟩ := hthere
  rw [List.append_cons, get_inTurn_of_some hkeeps hassociation]
  exact Option.some_ne_none _

/-- Of the requests for associations under a free key, the first one of the order is answered by whether
the file is written, and its association is the one that the map keeps; all others are refused.  As long
as all requests are readable, each of them is answered with its second step. -/
theorem first_come_first_served (parser : QueryParser) (calls : ι → RouteCall) (s : RemoteOracle)
    {key : String} (hfree : s.associations.get key = none)
    (hkeeps : ∀ i party, Asks parser (calls i).request .disassociate party → partyKey party ≠ key)
    (schedule : List ι) {i : ι} (hi : i ∈ schedule) {party : RequestParams}
    (hasks : Asks parser (calls i).request .associate party) (hkey : partyKey party = key) :
    let first := ∀ j ∈ Lists.upTo (Pool.started schedule) i,
      AsksUnder parser (calls j).request key → j = i
    (∀ answer, (served parser calls s schedule).calls i = .reject answer →
        first ∧ answer = .ok { status := statusOfWrite (calls i).faults } ∨
          ¬first ∧ answer = .ok { status := 500 }) ∧
      ((∀ j, Readable parser (calls j).request) → 1 < schedule.count i →
        ∃ response, (served parser calls s schedule).calls i = .reject (.ok response)) ∧
      (first → (served parser calls s schedule).state.associations.get key =
        some { fspId := bodyFspId (calls i).request, partyType := party.partyType,
               partyId := party.partyId, partySubType := party.partySubType,
               currency := party.currency }) := by
  dsimp only
  subst hkey
  obtain ⟨before, after, horder, hbefore, hafter, hupTo⟩ :=
    Lists.exists_eq_append (Pool.nodup_started schedule) (Pool.mem_started.mpr hi)
  have hfirst : (∀ j ∈ Lists.upTo (Pool.started schedule) i,
      AsksUnder parser (calls j).request (partyKey party) → j = i) ↔
        (inTurn parser calls s before).1.associations.get (partyKey party) = none := by
    rw [hupTo]
    constructor
    · intro h
      rw [get_inTurn_of_not_asks, hfree]
      intro j hj kind party' hparty' hkey
      cases kind with
      | associate =>
        have hji := h j (List.mem_append_left [i] hj) ⟨party', hparty', hkey⟩
        exact hbefore (hji ▸ hj)
      | disassociate => exact hkeeps j party' hparty' hkey
    · intro hnone j hj hasks'
      rcases List.mem_append.mp hj with hj | hj
      · exact absurd hnone (get_inTurn_ne_none hkeeps hj hasks')
      · exact List.mem_singleton.mp hj
  have heffect := @effect_associate parser (calls i).faults (calls i).request party hasks
    (inTurn parser calls s before).1.associations
  obtain ⟨hstate, hanswers⟩ := handled_in_turn parser calls s schedule
  obtain ⟨outcome, houtcome, hsame, hcount⟩ := hanswers i hi
  rw [hfirst, hstate]
  refine ⟨?_, ?_, ?_⟩
  · intro answer hanswer
    rw [horder, answer_inTurn parser calls s hafter, heffect] at houtcome
    rw [hsame answer hanswer, ← Option.some.inj houtcome]
    by_cases hnone : (inTurn parser calls s before).1.associations.get (partyKey party) = none
    · rw [if_pos hnone]
      exact .inl ⟨hnone, rfl⟩
    · rw [if_neg hnone]
      exact .inr ⟨hnone, rfl⟩
  · intro hreadable hsteps
    obtain ⟨response, hresponse⟩ := inTurn_of_readable parser calls (hreadable i) s hi
    refine ⟨response, ?_⟩
    rw [hcount hsteps, Option.some.inj (houtcome.symm.trans hresponse)]
  · intro hnone
    rw [horder, List.append_cons]
    apply get_inTurn_of_some hkeeps
    rw [associations_inTurn_append, heffect, if_pos hnone]
    exact Js.Map.get_set_self hnone _

end Requests

/-! ### Two banks that ask for one party -/

/-- Requests of two banks for the association of one party. -/
def contenders (second : Bool) : RouteCall where
  faults := .none
  request :=
    { method := .post
      target := ⟨["participants".toList, "MSISDN".toList, "1".toList], none⟩
      fspId := .str (if second then "greenbank" else "bluebank")
      others := [] }

theorem contenders_ask (second : Bool) :
    Asks .plain (contenders second).request .associate ⟨"MSISDN", "1", .null, .null⟩ := by
  cases second <;> exact ⟨rfl, by decide +kernel, by decide +kernel⟩

theorem contenders_keep (second : Bool) (party : RequestParams)
    (h : Asks .plain (contenders second).request .disassociate party) :
    partyKey party ≠ "1-MSISDN-NULL" :=
  absurd h.method nofun

theorem readable_plain (request : RouteRequest) : Readable .plain request :=
  fun _ _ => ⟨_, rfl⟩

/-- The second bank is served first, and the first one is answered first. -/
theorem requests_linearizable_contenders :
    (served .plain contenders (.empty "/app/data/db.json") [true, false, false]).state.associations =
        (inTurn .plain contenders (.empty "/app/data/db.json") [true, false]).1.associations ∧
      ∃ response, (inTurn .plain contenders (.empty "/app/data/db.json") [true, false]).2 false =
          some (.ok response) ∧
        (served .plain contenders (.empty "/app/data/db.json") [true, false, false]).calls false =
          .reject (.ok response) := by
  obtain ⟨hstate, hanswers, -⟩ := requests_linearizable .plain contenders
    (fun i => readable_plain (contenders i).request) (.empty "/app/data/db.json") [true, false, false]
  refine ⟨hstate, ?_⟩
  obtain ⟨response, hresponse, -, hcount⟩ := hanswers false (by decide)
  exact ⟨response, hresponse, hcount (by decide)⟩

/-- The second bank is the first to be served. -/
theorem first_come_first_served_contenders :
    (served .plain contenders (.empty "/app/data/db.json")
        [true, false, false, true]).state.associations.get "1-MSISDN-NULL" =
      some ⟨.val "greenbank", "MSISDN", "1", .null, .null⟩ := by
  refine (first_come_first_served .plain contenders (.empty "/app/data/db.json") rfl contenders_keep
    [true, false, false, true] (by decide) (contenders_ask true) (by decide +kernel)).2.2 ?_
  have hupTo : Lists.upTo (Pool.started [true, false, false, true]) true = [true] := by decide
  rw [hupTo]
  intro j hj _
  exact List.mem_singleton.mp hj

/-- The second bank is served first and its write is the first one, so its association stays in the
file. -/
theorem written_stays_contenders :
    ∃ done, done <+: Pool.started [true, false, true, false] ∧ true ∈ done ∧
      SameAssociations
        (loaded "/app/data/db.json" (served .plain contenders (loaded "/app/data/db.json" [])
          [true, false, true, false]).state.file).associations
        (inTurn .plain contenders (loaded "/app/data/db.json" []) done).1.associations := by
  have hupTo : Lists.upTo (Pool.started [true, false]) true = [true] := by decide
  have hbefore : ∀ j ∈ Lists.upTo (Pool.started [true, false]) true, j ≠ true →
      ((served .plain contenders (loaded "/app/data/db.json" []) [true, false]).calls j).settled =
        true := by
    rw [hupTo]
    intro j hj hne
    exact absurd (List.mem_singleton.mp hj) hne
  exact written_stays .plain contenders "/app/data/db.json" [] (by decide) (by decide +kernel) hbefore
    [false]

end RouteCall

end AccountLookup
