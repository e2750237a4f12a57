import AccountLookup.Async.Projection
import AccountLookup.Remote.Concurrency

/-! Requests that the remote oracle service handles at the same time for different keys: what the map
has under a key, and the answers to the requests for it, do not depend on the other requests. -/

namespace AccountLookup

open Async RemoteOracle RemoteOracleExpressRoutes RemoteOracleExpressRoutes.Handlers

namespace RouteCall

variable {parser : QueryParser} {faults : Faults} {key : String}

/-- What the map has under the key. -/
def entryOf (key : String) (s : RemoteOracle) : Option Association := s.associations.get key

theorem lookUp_alike {party : RequestParams} (h : partyKey party = key) :
    (lookUp party).Alike (entryOf key) (lookUp party) := by
  refine Proc.Alike.of_step rfl fun s t hst => ?_
  rw [step_lookUp, step_lookUp, h]
  refine ⟨hst, ?_⟩
  rw [show s.associations.get key = t.associations.get key from hst]
  exact rfl

theorem lookUp_invisible (party : RequestParams) : (lookUp party).Invisible (entryOf key) := by
  refine Proc.Invisible.of_step fun s => ?_
  rw [step_lookUp]
  exact ⟨rfl, trivial⟩

theorem answerChange_writeFile_alike (faults : Faults) (filePath filePath' : String)
    (contents contents' : List Association) :
    (answerChange (writeFile faults filePath contents)).Alike (entryOf key)
      (answerChange (writeFile faults filePath' contents')) := by
  unfold writeFile send
  cases faults .writeFile with
  | some error => exact rfl
  | none => exact ⟨_, _, rfl, fun s t hst => ⟨hst, rfl⟩⟩

theorem answerChange_writeFile_invisible (faults : Faults) (filePath : String)
    (contents : List Association) :
    (answerChange (writeFile faults filePath contents)).Invisible (entryOf key) := by
  unfold writeFile send
  cases faults .writeFile with
  | some error => trivial
  | none => exact fun s => ⟨rfl, trivial⟩

/-- The check of a change, and what it leaves under its key, depend on what is under its key. -/
theorem passes_congr {call : AssociationCall} {s t : RemoteOracle}
    (h : s.associations.get call.key = t.associations.get call.key) :
    call.Passes s ↔ call.Passes t := by
  unfold AssociationCall.Passes
  rw [h]

theorem get_change_self {call : AssociationCall} {s t : RemoteOracle}
    (hs : call.Passes s) (ht : call.Passes t) :
    (call.change s.associations).get call.key = (call.change t.associations).get call.key := by
  unfold AssociationCall.Passes at hs ht
  unfold AssociationCall.change
  cases hkind : call.kind with
  | associate =>
    rw [hkind] at hs ht
    dsimp only at hs ht ⊢
    rw [Js.Map.get_set_self hs, Js.Map.get_set_self ht]
  | disassociate =>
    dsimp only
    rw [Js.Map.get_delete_self, Js.Map.get_delete_self]

theorem settled_answerChange_perform (call : AssociationCall) :
    (answerChange call.perform).settled = false := by
  unfold AssociationCall.perform
  cases call.kind <;> rfl

theorem answerChange_alike (call : AssociationCall) :
    (answerChange call.perform).Alike (entryOf call.key) (answerChange call.perform) := by
  refine Proc.Alike.of_step (settled_answerChange_perform call) fun s t hst => ?_
  have hcongr : call.Passes s ↔ call.Passes t := passes_congr hst
  by_cases hpasses : call.Passes s
  · rw [step_answerChange (AssociationCall.step_of_passes hpasses),
      step_answerChange (AssociationCall.step_of_passes (hcongr.mp hpasses))]
    exact ⟨get_change_self hpasses (hcongr.mp hpasses), answerChange_writeFile_alike ..⟩
  · obtain ⟨error, hstep⟩ := AssociationCall.step_of_not_passes hpasses
    obtain ⟨error', hstep'⟩ := AssociationCall.step_of_not_passes (mt hcongr.mpr hpasses)
    rw [step_answerChange hstep, step_answerChange hstep']
    exact ⟨hst, rfl⟩

theorem answerChange_invisible {call : AssociationCall} (h : key ≠ call.key) :
    (answerChange call.perform).Invisible (entryOf key) := by
  refine Proc.Invisible.of_step fun s => ?_
  by_cases hpasses : call.Passes s
  · rw [step_answerChange (AssociationCall.step_of_passes hpasses)]
    exact ⟨AssociationCall.get_change_of_ne h s.associations, answerChange_writeFile_invisible ..⟩
  · obtain ⟨error, hstep⟩ := AssociationCall.step_of_not_passes hpasses
    rw [step_answerChange hstep]
    exact ⟨rfl, trivial⟩

/-- The request names a party with the key. -/
def names (parser : QueryParser) (key : String) (call : RouteCall) : Bool :=
  (partyOf parser call.request).any fun party => partyKey party = key

theorem names_iff {call : RouteCall} {party : RequestParams}
    (h : partyOf parser call.request = some party) :
    call.names parser key = true ↔ partyKey party = key := by
  unfold names
  rw [h]
  exact decide_eq_true_iff

/-- A request for a key depends on what is under the key. -/
theorem handling_alike {ι : Type} {calls : ι → RouteCall} {i : ι}
    (h : (calls i).names parser key = true) :
    (handling parser calls i).Alike (entryOf key) (handling parser calls i) := by
  unfold handling
  rcases serve_cases parser (calls i).faults (calls i).request with
    hsettled | ⟨party, hparty, hserve⟩ | ⟨kind, party, hasks, hserve⟩
  · exact .of_settled hsettled
  · rw [hserve]
    exact lookUp_alike ((names_iff hparty).mp h)
  · rw [hserve, ← (names_iff hasks.party).mp h]
    exact answerChange_alike (associationCall (calls i).faults (calls i).request kind party)

/-- Any other request leaves it. -/
theorem handling_invisible {ι : Type} {calls : ι → RouteCall} {i : ι}
    (h : (calls i).names parser key = false) :
    (handling parser calls i).Invisible (entryOf key) := by
  unfold handling
  rcases serve_cases parser (calls i).faults (calls i).request with
    hsettled | ⟨party, -, hserve⟩ | ⟨kind, party, hasks, hserve⟩
  · exact .of_settled hsettled
  · rw [hserve]
    exact lookUp_invisible party
  · rw [hserve]
    have hne : key ≠ (associationCall (calls i).faults (calls i).request kind party).key := by
      intro hkey
      rw [(names_iff hasks.party).mpr hkey.symm] at h
      cases h
    exact answerChange_invisible hne

/-- No readable request throws, so the process goes on. -/
theorem served_ne_error {ι : Type} [DecidableEq ι] {calls : ι → RouteCall}
    (hreadable : ∀ i, Readable parser (calls i).request) (s : RemoteOracle) (schedule : List ι) (i : ι)
    (error : JsError) : (served parser calls s schedule).calls i ≠ .reject (.error error) := by
  intro hrejected
  by_cases hi : i ∈ schedule
  · obtain ⟨answer, hanswer, hsame, -⟩ := (handled_in_turn parser calls s schedule).2 i hi
    obtain ⟨response, hresponse⟩ := inTurn_of_readable parser calls (hreadable i) s hi
    rw [← hsame _ hrejected, hresponse] at hanswer
    cases hanswer
  · have hwaiting := (Pool.ordered_run (handling_takesEffect parser calls) s schedule).waiting i hi
    have hrun := congrArg Prod.fst ((handling_takesEffect parser calls i).run s)
    obtain ⟨response, hresponse⟩ :=
      @effect_of_readable parser (calls i).faults _ (hreadable i) s.associations
    change _ = (effect parser (calls i).faults (calls i).request s.associations).1 at hrun
    rw [hresponse] at hrun
    unfold served at hrejected
    rw [hwaiting] at hrejected
    cases hp : handling parser calls i with
    | access update next =>
      rw [hp] at hrejected
      cases hrejected
    | resolve value =>
      rw [hp] at hrejected
      cases hrejected
    | reject error =>
      rw [hp] at hrun
      cases hrun

/-- Whatever readable requests the service handles at the same time, in whatever order and with whatever
writes failing: none of them ends the process, and after any steps, what the map has under a key, and the
answers to the requests for it, lookups included, are those that the steps of these requests alone lead
to. -/
theorem keys_undisturbed {ι : Type} [DecidableEq ι] (parser : QueryParser) (calls : ι → RouteCall)
    (hreadable : ∀ i, Readable parser (calls i).request) (s : RemoteOracle) (schedule : List ι)
    (key : String) :
    let all := served parser calls s schedule
    let alone := served parser calls s (schedule.filter fun i => (calls i).names parser key)
    (∀ i error, all.calls i ≠ .reject (.error error)) ∧
      all.state.associations.get key = alone.state.associations.get key ∧
      ∀ i, (calls i).names parser key = true →
        ∀ answer, all.calls i = .reject answer ↔ alone.calls i = .reject answer := by
  refine ⟨served_ne_error hreadable s schedule, ?_⟩
  exact @Pool.projected _ _ _ _ _ (entryOf key) (fun i => (calls i).names parser key) _ _
    (fun _ hi => handling_alike hi) (fun _ hi => handling_invisible hi) s schedule

/-- Requests for two parties: an association of the one, and a lookup and an association of the other. -/
def neighbours (i : Fin 3) : RouteCall where
  faults := .none
  request :=
    { method := if i = 1 then .get else .post
      target := ⟨["participants".toList, "MSISDN".toList, if i = 0 then "1".toList else "2".toList], none⟩
      fspId := .str "bluebank"
      others := [] }

/-- The first request is taken in turns with those for the other party. -/
theorem keys_undisturbed_neighbours :
    (served .plain neighbours (.empty "/app/data/db.json")
        [0, 2, 0, 1, 2]).state.associations.get "2-MSISDN-NULL" =
      (served .plain neighbours (.empty "/app/data/db.json")
        [2, 1, 2]).state.associations.get "2-MSISDN-NULL" := by
  have hnamed : [0, 2, 0, 1, 2].filter (fun i => (neighbours i).names .plain "2-MSISDN-NULL") =
      [2, 1, 2] := by decide +kernel
  rw [← hnamed]
  exact (keys_undisturbed .plain neighbours (fun i => readable_plain (neighbours i).request)
    (.empty "/app/data/db.json") [0, 2, 0, 1, 2] "2-MSISDN-NULL").2.1

end RouteCall

end AccountLookup
