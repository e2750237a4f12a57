import AccountLookup.Remote.Concurrency
import AccountLookup.Runs.Simulation

/-! The remote oracle service over its whole life: requests, writes that fail or are torn, exceptions that
end the process, and restarts.  It behaves as a directory of which the live copy answers and the saved
copy is what a restart goes back to. -/

namespace AccountLookup

open Async RemoteOracle RemoteOracleExpressRoutes RemoteOracleExpressRoutes.Handlers

/-! ### The directory -/

/-- What a request is for the directory: an addition and a removal come with whether they are saved, and a
request that throws ends the process. -/
inductive Directory.Operation where
  | find (key : String)
  | add (key : String) (fspId : Js.Str) (isSaved : Bool)
  | remove (key : String) (fspId : Js.Str) (isSaved : Bool)
  | other (answer : HttpResponse)
  | crash

/-- The owners under the keys: those that are answered, unless the service is down, and those that are
saved. -/
structure Directory where
  live : Option (String → Option Js.Str)
  saved : String → Option Js.Str

namespace Directory

/-- The directory with new live owners, which are saved or not. -/
def change (d : Directory) (owners : String → Option Js.Str) (isSaved : Bool) :
    Option HttpResponse × Directory :=
  if isSaved then (some { status := 200 }, ⟨some owners, owners⟩)
  else (some { status := 500 }, ⟨some owners, d.saved⟩)

/-- An operation on a directory with the live owners `owners`. -/
def perform (d : Directory) (owners : String → Option Js.Str) :
    Operation → Option HttpResponse × Directory
  | .find key =>
    match owners key with
    | some fspId =>
      (some (if fspId.truthy then { status := 200, fspId } else { status := 404 }), d)
    | none => (some { status := 404 }, d)
  | .add key fspId isSaved =>
    if owners key = none then d.change (Function.update owners key (some fspId)) isSaved
    else (some { status := 500 }, d)
  | .remove key fspId isSaved =>
    if owners key = some fspId then d.change (Function.update owners key none) isSaved
    else (some { status := 500 }, d)
  | .other answer => (some answer, d)
  | .crash => (none, ⟨none, d.saved⟩)

/-- An operation, a write that leaves other saved owners, or a restart that succeeds or fails. -/
inductive Event where
  | perform (operation : Operation)
  | torn (saved : String → Option Js.Str)
  | restart (succeeds : Bool)

/-- A service that is down gives no answer.  A restart goes back to the saved owners. -/
def next (d : Directory) : Event → Option HttpResponse × Directory
  | .perform operation =>
    match d.live with
    | some owners => d.perform owners operation
    | none => (none, d)
  | .torn saved => (none, ⟨d.live, saved⟩)
  | .restart succeeds => (none, ⟨if succeeds then some d.saved else none, d.saved⟩)

/-- The saved owners are the live ones. -/
def Synced (d : Directory) : Prop := d.live = some d.saved

/-- The operation is answered, and it is saved, if it is a change. -/
def Operation.IsSaved : Operation → Prop
  | .add _ _ isSaved => isSaved = true
  | .remove _ _ isSaved => isSaved = true
  | .crash => False
  | _ => True

/-- The event is a saved operation, or a restart that succeeds. -/
def Event.Succeeds : Event → Prop
  | .perform operation => operation.IsSaved
  | .torn _ => False
  | .restart succeeds => succeeds = true

theorem Synced.perform {d : Directory} (h : d.Synced) (owners : String → Option Js.Str)
    {operation : Operation} (hsaved : operation.IsSaved) : (d.perform owners operation).2.Synced := by
  cases operation with
  | find key =>
    unfold Directory.perform
    dsimp only
    split <;> exact h
  | add key fspId isSaved =>
    cases hsaved
    unfold Directory.perform
    dsimp only
    split
    · rfl
    · exact h
  | remove key fspId isSaved =>
    cases hsaved
    unfold Directory.perform
    dsimp only
    split
    · rfl
    · exact h
  | other answer => exact h
  | crash => exact hsaved.elim

theorem Synced.next {d : Directory} (h : d.Synced) {event : Event} (hevent : event.Succeeds) :
    (d.next event).2.Synced := by
  cases event with
  | perform operation =>
    unfold Directory.next
    rw [h]
    exact h.perform d.saved hevent
  | torn saved => exact hevent.elim
  | restart succeeds =>
    cases hevent
    rfl

/-- A restart of a directory of which everything is saved does nothing. -/
theorem Synced.next_restart {d : Directory} (h : d.Synced) : d.next (.restart true) = (none, d) := by
  unfold Directory.next
  dsimp only
  rw [if_pos rfl, ← h]

end Directory

/-! ### The service -/

/-- A start of the service: which commands fail in it, and whether a file without associations exists.  A
file that does not exist is not read. -/
structure Restart where
  faults : Faults
  emptyExists : Bool
  unread : emptyExists = false → faults .readFile = none

/-- The remote oracle, and whether the service has started and has not ended. -/
structure RemoteService where
  isRunning : Bool
  oracle : RemoteOracle

namespace RemoteService

/-- A request, a torn write, or a restart.  A torn write leaves other records in the file: it comes after
the request whose write fails, or before the restart when the process stops in the middle of a write, whose
request has no answer then.  When what it leaves is not JSON, the file cannot be read at a restart. -/
inductive Event where
  | request (call : RouteCall)
  | torn (contents : List Association)
  | restart (restart : Restart)

/-- A handler that throws gives no answer, and ends the process. -/
def settle (run : Except JsError HttpResponse × RemoteOracle) : Option HttpResponse × RemoteService :=
  (run.1.toOption, ⟨run.1.isOk, run.2⟩)

variable (parser : QueryParser)

/-- A service whose start was rejected, or that has ended, gives no answer. -/
def next (service : RemoteService) : Event → Option HttpResponse × RemoteService
  | .request call =>
    if service.isRunning then
      settle ((Handlers.serve parser call.faults call.request).run service.oracle)
    else (none, service)
  | .torn contents => (none, { service with oracle := { service.oracle with file := contents } })
  | .restart restart =>
    let (outcome, oracle) :=
      (RemoteOracle.start restart.faults restart.emptyExists).run service.oracle
    (none, ⟨outcome.isOk, oracle⟩)

/-- What a request asks of the directory. -/
def operationOf (call : RouteCall) : Directory.Operation :=
  match partyOf parser call.request with
  | some party =>
    match changeKind call.request.method with
    | none => .find (partyKey party)
    | some kind =>
      if validateRequest parser call.request then
        match kind with
        | .associate =>
          .add (partyKey party) (bodyFspId call.request) (call.faults .writeFile = none)
        | .disassociate =>
          .remove (partyKey party) (bodyFspId call.request) (call.faults .writeFile = none)
      else .other { status := 422 }
  | none =>
    match (effect parser call.faults call.request .empty).1 with
    | .ok answer => .other answer
    | .error _ => .crash

/-- The owners of what a map has. -/
def owners (m : Js.Map String Association) (key : String) : Option Js.Str :=
  (m.get key).map (·.fspId)

/-- What an event is for the directory. -/
def eventOf : Event → Directory.Event
  | .request call => .perform (operationOf parser call)
  | .torn contents => .torn (owners (load contents))
  | .restart restart => .restart (restart.faults .readFile = none)

/-- The oracle of a running service as a directory. -/
def directoryOf (s : RemoteOracle) : Directory := ⟨some (owners s.associations), owners (load s.file)⟩

/-- The service as a directory. -/
def directory (service : RemoteService) : Directory where
  live := if service.isRunning then some (owners service.oracle.associations) else none
  saved := owners (load service.oracle.file)

variable {parser} {m : Js.Map String Association} {key : String}

theorem owners_set (h : m.get key = none) (association : Association) :
    owners (m.set key association) = Function.update (owners m) key (some association.fspId) := by
  funext other
  unfold owners
  by_cases hother : other = key
  · subst hother
    rw [Js.Map.get_set_self h, Function.update_self]
    rfl
  · rw [Js.Map.get_set_of_ne hother, Function.update_of_ne hother]

theorem owners_delete (m : Js.Map String Association) (key : String) :
    owners (m.delete key) = Function.update (owners m) key none := by
  funext other
  unfold owners
  by_cases hother : other = key
  · subst hother
    rw [Js.Map.get_delete_self, Function.update_self]
    rfl
  · rw [Js.Map.get_delete_of_ne hother, Function.update_of_ne hother]

theorem owners_load_values (h : m.KeyedBy keyOf) : owners (load m.values) = owners m := by
  funext key
  unfold owners
  rw [get_load_values h, Option.map_map]
  rfl

theorem run_loadFromFile_error {faults : Faults} {error : JsError}
    (h : faults .readFile = some error) (s : RemoteOracle) :
    ∃ error', (loadFromFile faults).run s = (.error error', s.holding .empty) := by
  unfold loadFromFile
  rw [Proc.run_bind_ok (Proc.run_read _ _), Proc.run_bind_ok (Proc.run_modify _ _), Proc.run_bind,
    run_send_rethrow, h]
  exact ⟨_, rfl⟩

/-- A start loads the file when nothing fails, and is rejected otherwise; in no case it changes the
file. -/
theorem run_start (restart : Restart) (s : RemoteOracle) :
    match restart.faults .readFile with
    | none => (RemoteOracle.start restart.faults restart.emptyExists).run s =
        (.ok (), s.holding (load s.file))
    | some _ => ∃ error, (RemoteOracle.start restart.faults restart.emptyExists).run s =
        (.error error, s.holding .empty) := by
  unfold RemoteOracle.start RemoteOracle.init
  rw [Proc.run_bind_ok (Proc.run_modify _ _), Proc.run_bind_ok (Proc.run_read _ _)]
  cases hexists : existsSync restart.emptyExists (s.holding .empty) with
  | true =>
    rw [show existsSync _ { s with associations := Js.Map.empty } = true from hexists, if_pos rfl]
    cases hfault : restart.faults .readFile with
    | none => exact run_loadFromFile hfault _
    | some error => exact run_loadFromFile_error hfault (s.holding .empty)
  | false =>
    rw [show existsSync _ { s with associations := Js.Map.empty } = false from hexists, if_neg nofun]
    obtain ⟨hfile, hempty⟩ := Bool.or_eq_false_iff.mp hexists
    have hload : load s.file = .empty := by
      rw [show s.file = [] from not_not.mp (of_decide_eq_false hfile)]
      rfl
    rw [restart.unread hempty, hload]
    rfl

/-- A change that the oracle makes, in the map and in the file. -/
theorem run_serve_of_passes {call : RouteCall} {kind : ChangeKind} {party : RequestParams}
    {s : RemoteOracle} (hasks : Asks parser call.request kind party)
    (hpasses : (associationCall call.faults call.request kind party).Passes s) :
    let changed := (associationCall call.faults call.request kind party).change s.associations
    (Handlers.serve parser call.faults call.request).run s =
      if call.faults .writeFile = none then
        (.ok { status := 200 }, { s with associations := changed, file := changed.values })
      else (.ok { status := 500 }, s.holding changed) := by
  have hfaults : (associationCall call.faults call.request kind party).faults = call.faults := rfl
  have hrun := AssociationCall.run_of_passes hpasses
  rw [run_writeFile, hfaults] at hrun
  rw [serve_of_asks hasks]
  unfold answerChange
  rw [Proc.run_attempt_bind, hrun]
  cases call.faults .writeFile with
  | none => rfl
  | some error => rfl

theorem run_serve_of_not_passes {call : RouteCall} {kind : ChangeKind} {party : RequestParams}
    {s : RemoteOracle} (hasks : Asks parser call.request kind party)
    (hpasses : ¬(associationCall call.faults call.request kind party).Passes s) :
    (Handlers.serve parser call.faults call.request).run s = (.ok { status := 500 }, s) := by
  obtain ⟨error, hstep⟩ := AssociationCall.step_of_not_passes hpasses
  rw [serve_of_asks hasks, ← Proc.run_step, step_answerChange hstep]
  rfl

/-- A change of the map is the same change of the directory, which is saved when the file is written. -/
theorem directoryOf_of_passes {call : RouteCall} {kind : ChangeKind} {party : RequestParams}
    {s : RemoteOracle} (hkeyed : s.associations.KeyedBy keyOf)
    (hasks : Asks parser call.request kind party)
    (hpasses : (associationCall call.faults call.request kind party).Passes s) :
    let settled := settle ((Handlers.serve parser call.faults call.request).run s)
    (settled.1, settled.2.directory) =
      (directoryOf s).change
        (owners ((associationCall call.faults call.request kind party).change s.associations))
        (call.faults .writeFile = none) := by
  dsimp only
  rw [run_serve_of_passes hasks hpasses]
  unfold Directory.change
  by_cases hwritten : call.faults .writeFile = none
  · simp only [hwritten, decide_true, if_true, settle, directory, Except.isOk, Except.toBool,
      owners_load_values (AssociationCall.keyed_change hpasses hkeyed)]
    rfl
  · simp only [hwritten, decide_false, Bool.false_eq_true, if_false]
    rfl

open Classical in
/-- The directory makes a change exactly when the map passes its check. -/
theorem perform_change (call : RouteCall) (kind : ChangeKind) (party : RequestParams)
    (s : RemoteOracle) (isSaved : Bool) :
    (directoryOf s).perform (owners s.associations)
        (match kind with
          | .associate => .add (partyKey party) (bodyFspId call.request) isSaved
          | .disassociate => .remove (partyKey party) (bodyFspId call.request) isSaved) =
      if (associationCall call.faults call.request kind party).Passes s then
        (directoryOf s).change
          (owners ((associationCall call.faults call.request kind party).change s.associations))
          isSaved
      else (some { status := 500 }, directoryOf s) := by
  cases kind with
  | associate =>
    have hpasses : (associationCall call.faults call.request .associate party).Passes s ↔
        owners s.associations (partyKey party) = none := Option.map_eq_none_iff.symm
    by_cases hfree : owners s.associations (partyKey party) = none
    · rw [if_pos (hpasses.mpr hfree)]
      have hset := owners_set (Option.map_eq_none_iff.mp hfree) (⟨bodyFspId call.request,
        party.partyType, party.partyId, party.partySubType, party.currency⟩ : Association)
      simp only [Directory.perform, if_pos hfree, ← hset]
      rfl
    · rw [if_neg (mt hpasses.mp hfree)]
      exact if_neg hfree
  | disassociate =>
    have hpasses : (associationCall call.faults call.request .disassociate party).Passes s ↔
        owners s.associations (partyKey party) = some (bodyFspId call.request) :=
      Option.map_eq_some_iff.symm
    by_cases howned : owners s.associations (partyKey party) = some (bodyFspId call.request)
    · rw [if_pos (hpasses.mpr howned)]
      simp only [Directory.perform, if_pos howned, ← owners_delete]
      rfl
    · rw [if_neg (mt hpasses.mp howned)]
      exact if_neg howned

/-- The service answers a request, and goes on or ends, as the directory does. -/
theorem directoryOf_run_serve (call : RouteCall) {s : RemoteOracle}
    (hkeyed : s.associations.KeyedBy keyOf) :
    let settled := settle ((Handlers.serve parser call.faults call.request).run s)
    (settled.1, settled.2.directory) =
      (directoryOf s).perform (owners s.associations) (operationOf parser call) := by
  dsimp only
  unfold operationOf
  cases hparty : partyOf parser call.request with
  | none =>
    have hsettled := @settled_serve_of_no_party parser call.faults call.request hparty
    unfold effect
    cases hp : Handlers.serve parser call.faults call.request with
    | access update next =>
      rw [hp] at hsettled
      cases hsettled
    | resolve answer | reject error => rfl
  | some party =>
    dsimp only
    cases hkind : changeKind call.request.method with
    | none =>
      rw [serve_of_get (changeKind_eq_none_iff.mp hkind) hparty, run_lookUp]
      simp only [Directory.perform, owners]
      cases s.associations.get (partyKey party) with
      | none => rfl
      | some association => rfl
    | some kind =>
      dsimp only
      cases hvalid : validateRequest parser call.request with
      | false =>
        have hmethod : call.request.method ≠ .get := by
          intro hget
          rw [changeKind_eq_none_iff.mpr hget] at hkind
          cases hkind
        rw [serve_of_not_valid hmethod hparty hvalid]
        rfl
      | true =>
        have hasks : Asks parser call.request kind party := ⟨hkind, hparty, hvalid⟩
        rw [if_pos rfl, perform_change]
        by_cases hpasses : (associationCall call.faults call.request kind party).Passes s
        · rw [if_pos hpasses, directoryOf_of_passes hkeyed hasks hpasses]
        · rw [if_neg hpasses, run_serve_of_not_passes hasks hpasses]
          rfl

/-- The service and the directory are in the same state, and the map of the service has every
association under its own key. -/
structure Refines (service : RemoteService) (d : Directory) : Prop where
  directory : service.directory = d
  keyed : service.oracle.associations.KeyedBy keyOf

theorem keyed_run_serve (parser : QueryParser) (call : RouteCall) {s : RemoteOracle}
    (h : s.associations.KeyedBy keyOf) :
    ((Handlers.serve parser call.faults call.request).run s).2.associations.KeyedBy keyOf := by
  have hrun := (serve_takesEffect parser call.faults call.request).run s
  rw [show (_ : RemoteOracle).associations = _ from congrArg Prod.snd hrun]
  exact keyed_effect h parser call.faults call.request

theorem Refines.next {service : RemoteService} {d : Directory} (h : Refines service d)
    (event : Event) :
    (service.next parser event).1 = (d.next (eventOf parser event)).1 ∧
      Refines (service.next parser event).2 (d.next (eventOf parser event)).2 := by
  obtain ⟨rfl, hkeyed⟩ := h
  cases event with
  | request call =>
    obtain ⟨isRunning, s⟩ := service
    cases isRunning with
    | false => exact ⟨rfl, rfl, hkeyed⟩
    | true =>
      have hrun := @directoryOf_run_serve parser call s hkeyed
      exact ⟨congrArg Prod.fst hrun, congrArg Prod.snd hrun, keyed_run_serve parser call hkeyed⟩
  | torn contents => exact ⟨rfl, rfl, hkeyed⟩
  | restart restart =>
    have hrun := run_start restart service.oracle
    cases hfault : restart.faults .readFile with
    | none =>
      rw [hfault] at hrun
      simp only [RemoteService.next, eventOf, Directory.next, hrun, hfault, decide_true]
      exact ⟨trivial, rfl, keyed_load service.oracle.file⟩
    | some error =>
      rw [hfault] at hrun
      obtain ⟨error', hrun⟩ := hrun
      simp only [RemoteService.next, eventOf, Directory.next, hrun, hfault]
      exact ⟨trivial, rfl, Js.Map.keyedBy_empty⟩

theorem refines_loaded (filePath : String) (records : List Association) :
    Refines ⟨true, loaded filePath records⟩
      ⟨some (owners (load records)), owners (load records)⟩ := by
  rw [loaded_eq]
  exact ⟨rfl, keyed_load records⟩

theorem Refines.answers {service : RemoteService} {d : Directory} (h : Refines service d)
    (events : List Event) :
    (Runs.answers (RemoteService.next parser) service events).1 =
      (Runs.answers Directory.next d (events.map (eventOf parser))).1 :=
  (Runs.answers_of_simulates (fun _ _ event hrefines => hrefines.next event) h events).1

/-- Whatever requests the service gets, one after the other, whichever writes fail and whatever they leave,
and whenever and however often it is restarted: it gives the answers of the directory that starts with what
the file has, live and saved. -/
theorem service_refines_directory (parser : QueryParser) (filePath : String)
    (records : List Association) (events : List Event) :
    (Runs.answers (next parser) ⟨true, loaded filePath records⟩ events).1 =
      (Runs.answers Directory.next ⟨some (owners (load records)), owners (load records)⟩
        (events.map (eventOf parser))).1 :=
  (refines_loaded filePath records).answers events

/-! ### Restarts without failures -/

/-- No write and no read of the file fails in the event, and a request is readable. -/
def Event.Succeeds (parser : QueryParser) : Event → Prop
  | .request call => call.faults .writeFile = none ∧ Readable parser call.request
  | .torn _ => False
  | .restart start => start.faults .readFile = none

def Event.isRequest : Event → Bool
  | .request _ => true
  | _ => false

theorem succeeds_eventOf {event : Event} (h : event.Succeeds parser) :
    (eventOf parser event).Succeeds := by
  cases event with
  | request call =>
    obtain ⟨hwritten, hreadable⟩ := h
    show (operationOf parser call).IsSaved
    unfold operationOf
    split
    · split
      · trivial
      · split
        · split <;> exact decide_eq_true hwritten
        · trivial
    · obtain ⟨response, hresponse⟩ := @effect_of_readable parser call.faults _ hreadable .empty
      rw [hresponse]
      trivial
  | torn contents => exact h.elim
  | restart restart => exact decide_eq_true h

theorem answers_without_restarts {d : Directory} (hd : d.Synced) {events : List Event}
    (h : ∀ event ∈ events, event.Succeeds parser) :
    (Runs.answers Directory.next d (events.map (eventOf parser))).1.filterMap id =
      (Runs.answers Directory.next d
        ((events.filter Event.isRequest).map (eventOf parser))).1.filterMap id := by
  induction events generalizing d with
  | nil => rfl
  | cons event rest ih =>
    have hevent := h event List.mem_cons_self
    have hrest := fun event hmem => h event (List.mem_cons_of_mem _ hmem)
    cases event with
    | request call =>
      have hsucceeds := @succeeds_eventOf parser _ hevent
      have hnext := ih (hd.next hsucceeds) hrest
      rw [List.filter_cons_of_pos rfl]
      simp only [List.map_cons, Runs.answers, List.filterMap_cons, hnext]
    | torn contents => exact hevent.elim
    | restart restart =>
      have hread : eventOf parser (.restart restart) = .restart true :=
        congrArg Directory.Event.restart (decide_eq_true hevent)
      have hfilter : (Event.restart restart :: rest).filter Event.isRequest =
          rest.filter Event.isRequest := rfl
      rw [hfilter]
      simp only [List.map_cons, Runs.answers, hread, hd.next_restart, List.filterMap_cons, id]
      exact ih hd hrest

/-- When no write and no read of the file fails and every request is readable, the requests are answered as
they would be without the restarts. -/
theorem restarts_unseen (parser : QueryParser) (filePath : String) (records : List Association)
    {events : List Event} (h : ∀ event ∈ events, event.Succeeds parser) :
    (Runs.answers (next parser) ⟨true, loaded filePath records⟩ events).1.filterMap id =
      (Runs.answers (next parser) ⟨true, loaded filePath records⟩
        (events.filter Event.isRequest)).1.filterMap id := by
  rw [(refines_loaded filePath records).answers, (refines_loaded filePath records).answers]
  have hsynced : Directory.Synced ⟨some (owners (load records)), owners (load records)⟩ := rfl
  exact answers_without_restarts hsynced h

/-- An association, a restart and a lookup. -/
def associateAndRestart : List Event :=
  [.request (RouteCall.contenders false),
    .restart ⟨.none, true, nofun⟩,
    .request { faults := .none
               request := { (RouteCall.contenders false).request with method := .get } }]

theorem restarts_unseen_associateAndRestart :
    (Runs.answers (next .plain) ⟨true, loaded "/app/data/db.json" []⟩
        associateAndRestart).1.filterMap id =
      (Runs.answers (next .plain) ⟨true, loaded "/app/data/db.json" []⟩
        (associateAndRestart.filter Event.isRequest)).1.filterMap id := by
  apply restarts_unseen .plain "/app/data/db.json" []
  intro event hmem
  simp only [associateAndRestart, List.mem_cons, List.not_mem_nil, or_false] at hmem
  rcases hmem with rfl | rfl | rfl
  · exact ⟨rfl, RouteCall.readable_plain _⟩
  · rfl
  · exact ⟨rfl, RouteCall.readable_plain _⟩

end RemoteService

end AccountLookup
