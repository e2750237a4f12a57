import AccountLookup.Handling.Correlation
import AccountLookup.Model.EventHandler
import Mathlib.Data.List.Forall2

/-! What a batch publishes: one reply to each message, in the order of the messages, up to the first
message whose handling throws. -/

namespace AccountLookup

open Async

variable {σ : Type}

/-- The calls on the batch as a whole, as opposed to those on one message. -/
def TelemetryCall.isBatchCall : TelemetryCall → Bool
  | .startTimer callName | .timerEnd callName _ => callName ≠ "handleAccountLookUpEvent"
  | .batchSize _ => true
  | .msgDelay | .startActiveSpan .. | .observeDuration _ | .spanEnd => false

namespace EventHandler

variable (h : EventHandler σ)

/-- The handler's own calls on the batch as a whole do not throw. -/
structure BatchCallsSucceed : Prop where
  telemetry : ∀ call, call.isBatchCall = true → (h.telemetry call).NeverRejects
  producerSend : ∀ events, (h.producerSend events).NeverRejects

/-- The handler's own calls on a message do not throw. -/
structure MessageCallsSucceed : Prop where
  telemetry : ∀ call, call.isBatchCall = false → (h.telemetry call).NeverRejects
  propagationExtract : ∀ tracingInfo, (h.propagationExtract tracingInfo).NeverRejects
  propagationInject : h.propagationInject.NeverRejects
  getBaggage : ∀ context, (h.getBaggage context).NeverRejects

/-- `reply` is what the aggregate answered to `message`, about the same party, with the protocol
fields of the message. -/
structure Answers (message : Message) (reply : DomainEvent) : Prop where
  inboundProtocolType : reply.inboundProtocolType = message.inboundProtocolType
  inboundProtocolOpaqueState :
    reply.inboundProtocolOpaqueState = message.inboundProtocolOpaqueState
  concerns : Concerns message reply
  handled : ∃ s t event, (h.aggregate.handleEvent message).run s = (.ok event, t) ∧
    reply.msgName = event.msgName ∧ reply.payload = event.payload

/-- The one call of `producer.send` for `events`, none for an empty list. -/
def sends (events : List DomainEvent) : List (List DomainEvent) :=
  if events = [] then [] else [events]

/-! ### One message -/

/-- The batch has sent `sent` and holds `events` for sending. -/
def Holds (sent : List (List DomainEvent)) (events : List DomainEvent) (st : BatchState σ) : Prop :=
  st.sent = sent ∧ st.outputEvents = events

variable {h} {sent : List (List DomainEvent)} {events : List DomainEvent}

theorem call_holds {α : Type} (p : Proc JsError σ α) :
    (call p).Triple (Holds sent events) (fun _ => Holds sent events)
      (fun _ => Holds sent events) :=
  Proc.Triple.zoom_frame _ _ fun _ _ ht => ht

theorem recordMetrics_holds (msgName : EventName) (context : Js.Value) :
    (h.recordMetricsFromContext msgName context).Triple (Holds sent events)
      (fun _ => Holds sent events) (fun _ => Holds sent events) := by
  apply (call_holds _).bind
  intro baggage
  match baggage with
  | none => exact .pure fun _ hs => hs
  | some baggage =>
    dsimp only
    split_ifs
    · exact call_holds _
    · exact (call_holds _).bind fun _ => call_holds _
    · exact (call_holds _).bind fun _ => .pure fun _ hs => hs
    · exact .pure fun _ hs => hs

theorem recordMetrics_neverRejects (hcalls : h.MessageCallsSucceed) (msgName : EventName)
    (context : Js.Value) : (h.recordMetricsFromContext msgName context).NeverRejects := by
  have observe (leg : String) : (call (h.telemetry (.observeDuration leg))).NeverRejects :=
    (hcalls.telemetry _ rfl).zoom _
  apply ((hcalls.getBaggage context).zoom _).bind
  intro baggage
  match baggage with
  | none => exact .pure ()
  | some baggage =>
    dsimp only
    split_ifs
    · exact observe _
    · exact (observe _).bind fun _ => observe _
    · exact (observe _).bind fun _ => .pure ()
    · exact .pure ()

/-- Building a reply leaves the batch as it is, and the reply answers the message. -/
theorem buildReply_answers (batchSize : Nat) (message : Message) :
    (h.buildReply batchSize message).Triple (Holds sent events)
      (fun r st => Holds sent events st ∧ h.Answers message r.1) (fun _ => Holds sent events) := by
  refine (call_holds _).bind fun _ => (call_holds _).bind fun _ => (call_holds _).bind fun context =>
    (call_holds _).bind fun _ => ?_
  -- The event of the aggregate goes into the reply, so its run is kept beside the invariant.
  have handled : (call (h.aggregate.handleEvent message)).Triple (Holds sent events)
      (fun event st => Holds sent events st ∧ Concerns message event ∧
        ∃ s t, (h.aggregate.handleEvent message).run s = (.ok event, t))
      (fun _ => Holds sent events) := by
    intro st hst
    rw [call, Proc.run_zoom]
    rcases hrun : (h.aggregate.handleEvent message).run ((BatchState.servicesLens σ).get st) with
      ⟨_ | event, t⟩
    · exact hst
    · exact ⟨hst, (h.aggregate.handleEvent_concerns message).run hrun, _, _, hrun⟩
  refine handled.bind fun event => .fact fun ⟨hconcerns, hrun⟩ => (call_holds _).bind fun _ =>
    (call_holds _).bind fun _ => .pure fun _ hst => ⟨hst, ?_⟩
  obtain ⟨s, t, hrun⟩ := hrun
  exact ⟨rfl, rfl, ⟨hconcerns.partyId, hconcerns.partyType⟩, s, t, event, hrun, rfl, rfl⟩

theorem buildReply_neverRejects (hbatch : h.BatchCallsSucceed) (hcalls : h.MessageCallsSucceed)
    (batchSize : Nat) (message : Message) : (h.buildReply batchSize message).NeverRejects := by
  have telemetry (c : TelemetryCall) : (call (h.telemetry c)).NeverRejects := by
    cases hc : c.isBatchCall
    · exact (hcalls.telemetry c hc).zoom _
    · exact (hbatch.telemetry c hc).zoom _
  exact (telemetry _).bind fun _ => (telemetry _).bind fun _ =>
    ((hcalls.propagationExtract _).zoom _).bind fun _ => (telemetry _).bind fun _ =>
    ((h.aggregate.handleEvent_neverRejects message).zoom _).bind fun _ => (telemetry _).bind fun _ =>
    (hcalls.propagationInject.zoom _).bind fun _ => .pure _

/-- What the batch holds after a message, however its handling ends: its reply is added once it is
built. -/
theorem handleMessage_holds (batchSize : Nat) (message : Message) {u v : BatchState σ}
    {outcome : Except JsError Unit} (hu : Holds sent events u)
    (hrun : (h.handleMessage batchSize message).run u = (outcome, v)) :
    match ((h.buildReply batchSize message).run u).1 with
    | .ok (reply, _) => h.Answers message reply ∧ Holds sent (events ++ [reply]) v
    | .error e => outcome = .error e ∧ Holds sent events v := by
  rcases hbuild : (h.buildReply batchSize message).run u with ⟨e | ⟨reply, context⟩, w⟩
  · rw [show (h.handleMessage batchSize message).run u = _ from Proc.run_bind_error hbuild] at hrun
    cases hrun
    exact ⟨rfl, (buildReply_answers batchSize message).error hu hbuild⟩
  · obtain ⟨hw, hanswers⟩ := (buildReply_answers batchSize message).ok hu hbuild
    rw [show (h.handleMessage batchSize message).run u = _ from Proc.run_bind_ok hbuild] at hrun
    rw [show _ = _ from Proc.run_bind_ok (Proc.run_modify _ _)] at hrun
    have rest : (h.recordMetricsFromContext reply.msgName context >>= fun _ =>
        call (h.telemetry .spanEnd)).Triple (Holds sent (events ++ [reply]))
          (fun _ => Holds sent (events ++ [reply])) (fun _ => Holds sent (events ++ [reply])) :=
      (recordMetrics_holds _ _).bind fun _ => call_holds _
    have hw' : Holds sent (events ++ [reply])
        { w with outputEvents := w.outputEvents ++ [reply] } := ⟨hw.1, by simp [hw.2]⟩
    cases outcome with
    | ok done => exact ⟨hanswers, rest.ok hw' hrun⟩
    | error e => exact ⟨hanswers, rest.error hw' hrun⟩

theorem handleMessage_neverRejects (hbatch : h.BatchCallsSucceed) (hcalls : h.MessageCallsSucceed)
    (batchSize : Nat) (message : Message) : (h.handleMessage batchSize message).NeverRejects :=
  (buildReply_neverRejects hbatch hcalls batchSize message).bind fun (reply, context) =>
    (Proc.NeverRejects.modify _).bind fun _ =>
      (recordMetrics_neverRejects hcalls reply.msgName context).bind fun _ =>
        (hcalls.telemetry _ rfl).zoom _

/-! ### The loop -/

/-- The run of the loop: the events for sending are the replies to the messages handled so far. -/
theorem forM_handleMessage_holds (batchSize : Nat) (messages : List Message) :
    (messages.forM (h.handleMessage batchSize)).Triple (Holds sent [])
      (fun _ st => ∃ replies, List.Forall₂ h.Answers messages replies ∧ Holds sent replies st)
      (fun _ _ => True) := by
  have loop : (messages.forM (h.handleMessage batchSize)).Triple _ _ (fun _ _ => True) :=
    Proc.Triple.forM (fun done st => ∃ replies, List.Forall₂ h.Answers done replies ∧
      Holds sent replies st) ?_
  · exact loop.mono (fun st hst => ⟨[], .nil, hst⟩) (fun _ _ hst => hst) fun _ _ _ => trivial
  rintro done message rest - st ⟨replies, hreplies, hst⟩
  rcases hrun : (h.handleMessage batchSize message).run st with ⟨_ | _, t⟩
  · trivial
  have holds := handleMessage_holds batchSize message hst hrun
  rcases hbuild : ((h.buildReply batchSize message).run st).1 with _ | ⟨reply, context⟩ <;>
    rw [hbuild] at holds
  · cases holds.1
  · exact ⟨replies ++ [reply], List.rel_append hreplies (.cons holds.1 .nil), holds.2⟩

theorem startBatch_holds (batchSize : Nat) :
    (h.startBatch batchSize).Triple (fun st => st.sent = sent) (fun _ => Holds sent [])
      (fun _ _ => True) := by
  refine (Proc.Triple.zoom_frame (fun st : BatchState σ => st.sent = sent) _
    fun _ _ hs => hs).forgetError.bind fun _ => ?_
  have clear : (Proc.modify fun st => { st with outputEvents := [] } :
      Proc JsError (BatchState σ) Unit).Triple (fun st => st.sent = sent)
        (fun _ => Holds sent []) (fun _ _ => True) :=
    fun st hst => ⟨hst, rfl⟩
  exact clear.bind fun _ => (call_holds _).forgetError

theorem startBatch_neverRejects (hbatch : h.BatchCallsSucceed) (batchSize : Nat) :
    (h.startBatch batchSize).NeverRejects :=
  ((hbatch.telemetry _ rfl).zoom _).bind fun _ => (Proc.NeverRejects.modify _).bind fun _ =>
    (hbatch.telemetry _ rfl).zoom _

/-! ### The batch -/

theorem sendOutputEvents_sends :
    h.sendOutputEvents.Triple (Holds sent events) (fun _ st => st.sent = sent ++ sends events)
      (fun _ _ => True) := by
  have stays {α : Type} (sent' : List (List DomainEvent)) (p : Proc JsError σ α) :
      (call p).Triple (fun st => st.sent = sent') (fun _ st => st.sent = sent')
        (fun _ _ => True) :=
    (Proc.Triple.zoom_frame _ _ fun _ _ ht => ht).forgetError
  have look : (Proc.read BatchState.outputEvents :
      Proc JsError (BatchState σ) _).Triple (Holds sent events)
        (fun found st => Holds sent events st ∧ found = events) (fun _ _ => True) :=
    fun st hst => ⟨hst, hst.2⟩
  refine look.bind fun found => .fact ?_
  rintro rfl
  split_ifs with hempty
  · have push : (Proc.modify fun st => { st with sent := st.sent ++ [found] } :
        Proc JsError (BatchState σ) Unit).Triple (Holds sent found)
          (fun _ st => st.sent = sent ++ sends found) (fun _ _ => True) :=
      fun st hst => by simp [sends, hempty, hst.1]
    exact (call_holds _).forgetError.bind fun _ => push.bind fun _ => (stays _ _).bind fun _ =>
      (stays _ _).bind fun _ => stays _ _
  · have hnil : found = [] := not_not.mp hempty
    have keep : (pure () : Proc JsError (BatchState σ) Unit).Triple (Holds sent found)
        (fun _ st => st.sent = sent ++ sends found) (fun _ _ => True) :=
      fun st hst => by simp [sends, hnil, hst.1]
    exact keep.bind fun _ => stays _ _

theorem sendOutputEvents_neverRejects (hbatch : h.BatchCallsSucceed) :
    h.sendOutputEvents.NeverRejects := by
  have telemetry (c : TelemetryCall) (hc : c.isBatchCall = true) :
      (call (h.telemetry c)).NeverRejects := (hbatch.telemetry c hc).zoom _
  refine Proc.NeverRejects.bind (fun st => ⟨_, _, Proc.run_read st _⟩) fun outputEvents => ?_
  split_ifs
  · exact (telemetry _ rfl).bind fun _ => (Proc.NeverRejects.modify _).bind fun _ =>
      ((hbatch.producerSend _).zoom _).bind fun _ => (telemetry _ rfl).bind fun _ => telemetry _ rfl
  · exact (Proc.NeverRejects.pure ()).bind fun _ => telemetry _ rfl

/-- However the loop ends, what it collected is sent and the batch settles as the loop did. -/
theorem batchMsgHandler_finishes (hbatch : h.BatchCallsSucceed) {messages : List Message}
    {st s u : BatchState σ} {outcome : Except JsError Unit}
    (hstart : (h.startBatch messages.length).run st = (.ok (), s))
    (hloop : (messages.forM (h.handleMessage messages.length)).run s = (outcome, u))
    (hu : Holds sent events u) :
    ∃ t, (h.batchMsgHandler messages).run st = (outcome, t) ∧ t.sent = sent ++ sends events := by
  have settles : ∃ v, Holds sent events v ∧
      (h.batchMsgHandler messages).run st =
        (h.sendOutputEvents >>= fun _ => Proc.ofExcept outcome).run v := by
    unfold batchMsgHandler
    rw [Proc.run_bind_ok hstart, Proc.run_attempt_bind, Proc.run_attempt_bind, hloop]
    cases outcome with
    | ok done => exact ⟨u, hu, rfl⟩
    | error e =>
      obtain ⟨_, v, hv⟩ := (hbatch.telemetry (.timerEnd "handleAccountLookUpEventBatch" false)
        rfl).zoom (BatchState.servicesLens σ) u
      have hrejects := Proc.run_bind_ok (f := fun _ => (Proc.reject e : Proc _ _ Unit)) hv
      refine ⟨v, (call_holds _).ok hu hv, ?_⟩
      dsimp only
      rw [call, hrejects]
      rfl
  obtain ⟨v, hv, hrun⟩ := settles
  obtain ⟨_, t, ht⟩ := sendOutputEvents_neverRejects hbatch v
  refine ⟨t, ?_, sendOutputEvents_sends.ok hv ht⟩
  rw [hrun, Proc.run_bind_ok ht, Proc.run_ofExcept]

/-- While the handler's own calls do not throw, whatever the aggregate and its metrics do, a batch
resolves and sends exactly one reply to each message, in the order of the messages.  When one on a
message throws, the batch rejects with what was thrown and sends the replies to the messages before
it, with the reply to that message if it had been built. -/
theorem batchMsgHandler_sends (hbatch : h.BatchCallsSucceed) (messages : List Message)
    (st : BatchState σ) :
    (h.MessageCallsSucceed → ∃ replies t, List.Forall₂ h.Answers messages replies ∧
      (h.batchMsgHandler messages).run st = (.ok (), t) ∧ t.sent = st.sent ++ sends replies) ∧
    ∀ before message after error s u v, messages = before ++ message :: after →
      (h.startBatch messages.length).run st = (.ok (), s) →
      (before.forM (h.handleMessage messages.length)).run s = (.ok (), u) →
      (h.handleMessage messages.length message).run u = (.error error, v) →
      ∃ replies t, (h.batchMsgHandler messages).run st = (.error error, t) ∧
        t.sent = st.sent ++ sends replies ∧
        match ((h.buildReply messages.length message).run u).1 with
        | .ok _ => List.Forall₂ h.Answers (before ++ [message]) replies
        | .error _ => List.Forall₂ h.Answers before replies := by
  constructor
  · intro hcalls
    obtain ⟨_, s, hstart⟩ := startBatch_neverRejects hbatch messages.length st
    have hs := (startBatch_holds messages.length).ok rfl hstart
    obtain ⟨_, u, hloop⟩ := Proc.NeverRejects.forM
      (handleMessage_neverRejects hbatch hcalls messages.length) messages s
    obtain ⟨replies, hreplies, hu⟩ := (forM_handleMessage_holds messages.length messages).ok hs hloop
    obtain ⟨t, hrun, ht⟩ := batchMsgHandler_finishes hbatch hstart hloop hu
    exact ⟨replies, t, hreplies, hrun, ht⟩
  · intro before message after error s u v hmessages hstart hbefore hmessage
    have hs := (startBatch_holds messages.length).ok rfl hstart
    obtain ⟨replies, hreplies, hu⟩ := (forM_handleMessage_holds messages.length before).ok hs hbefore
    have hloop : (messages.forM (h.handleMessage messages.length)).run s = (.error error, v) := by
      rw [congrArg (List.forM · _) hmessages, Proc.run_forM_append hbefore]
      exact Proc.run_bind_error hmessage
    have holds := handleMessage_holds _ _ hu hmessage
    rcases hbuild : ((h.buildReply messages.length message).run u).1 with _ | ⟨reply, context⟩ <;>
      rw [hbuild] at holds
    · obtain ⟨t, hrun, ht⟩ := batchMsgHandler_finishes hbatch hstart hloop holds.2
      exact ⟨replies, t, hrun, ht, hreplies⟩
    · obtain ⟨t, hrun, ht⟩ := batchMsgHandler_finishes hbatch hstart hloop holds.2
      exact ⟨replies ++ [reply], t, hrun, ht, List.rel_append hreplies (.cons holds.1 .nil)⟩

/-- A handler over `agg` whose tracing information is always empty. -/
def withTelemetry (agg : Aggregate σ) (telemetry : TelemetryCall → Proc JsError σ Unit) :
    EventHandler σ where
  aggregate := agg
  telemetry := telemetry
  propagationExtract _ := pure .undefined
  propagationInject := pure .undefined
  getBaggage _ := pure none
  producerSend _ := pure ()

/-- A query for a party in the name of a participant that does not exist. -/
def partyQuery : Message where
  msgType := .domainEvent
  msgName := .partyQueryReceivedEvt
  payload := some
    { partyId := .val "123", partyType := .val "MSISDN", requesterFspId := .val "bluebank" }
  inboundProtocolOpaqueState := .str "state"

def outOfMemory : JsError := ⟨.error, "out of memory"⟩

/-- A query that comes with tracing information, between two that come without. -/
def queries : List Message := [partyQuery, { partyQuery with tracingInfo := .bool true }, partyQuery]

/-- A handler whose calls all succeed. -/
def answering : EventHandler (List OracleAdapter) :=
  withTelemetry (.withoutOracles fun _ => none) fun _ => pure ()

/-- A call on tracing information that throws when there is some. -/
def throwsOn {α : Type} (value : α) : Js.Value → Proc JsError (List OracleAdapter) α
  | .bool true => Proc.reject outOfMemory
  | _ => pure value

/-- A handler that throws on tracing information before it has built the reply. -/
def throwingBefore : EventHandler (List OracleAdapter) :=
  { answering with propagationExtract := throwsOn .undefined }

/-- A handler that throws on it after it has. -/
def throwingAfter : EventHandler (List OracleAdapter) :=
  { answering with propagationExtract := pure, getBaggage := throwsOn none }

/-- The three handlers on the three queries: all are answered, the first one is, and the first two. -/
theorem batchMsgHandler_sends_partyQuery :
    (∃ replies t, List.Forall₂ answering.Answers queries replies ∧
      (answering.batchMsgHandler queries).run ⟨[], [], []⟩ = (.ok (), t) ∧
        t.sent = [] ++ sends replies) ∧
    (∃ replies t, (throwingBefore.batchMsgHandler queries).run ⟨[], [], []⟩ = (.error outOfMemory, t) ∧
      t.sent = [] ++ sends replies ∧
        List.Forall₂ throwingBefore.Answers (queries.take 1) replies) ∧
    ∃ replies t, (throwingAfter.batchMsgHandler queries).run ⟨[], [], []⟩ = (.error outOfMemory, t) ∧
      t.sent = [] ++ sends replies ∧
        List.Forall₂ throwingAfter.Answers (queries.take 2) replies := by
  refine ⟨?_, ?_, ?_⟩
  · exact (batchMsgHandler_sends (h := answering) ⟨fun _ _ => .pure (), fun _ => .pure ()⟩ queries
      ⟨[], [], []⟩).1 ⟨fun _ _ => .pure (), fun _ => .pure _, .pure _, fun _ => .pure _⟩
  · exact (batchMsgHandler_sends (h := throwingBefore) ⟨fun _ _ => .pure (), fun _ => .pure ()⟩ queries
      ⟨[], [], []⟩).2 [partyQuery] _ [partyQuery] outOfMemory _ _ _ rfl rfl rfl rfl
  · exact (batchMsgHandler_sends (h := throwingAfter) ⟨fun _ _ => .pure (), fun _ => .pure ()⟩ queries
      ⟨[], [], []⟩).2 [partyQuery] _ [partyQuery] outOfMemory _ _ _ rfl rfl rfl rfl

/-- A metrics call of the aggregate that throws does not end the batch: the message is answered. -/
theorem batchMsgHandler_answers_after_histo_throws :
    ∃ agg : Aggregate (List OracleAdapter), (∀ call s,
        (agg.histo call).run s = (.error outOfMemory, s)) ∧
      ∃ reply t, ((withTelemetry agg fun _ => pure ()).batchMsgHandler [partyQuery]).run
        ⟨[], [], []⟩ = (.ok (), t) ∧ t.sent = [[reply]] ∧ reply.msgName = .unknownErrorEvent :=
  ⟨{ Aggregate.withoutOracles fun _ => none with histo := fun _ => Proc.reject outOfMemory },
    fun _ _ => rfl, _, _, rfl, rfl, rfl⟩

end EventHandler

end AccountLookup
