import AccountLookup.Js.Number
import AccountLookup.Model.Aggregate

/-! `AccountLookupEventHandler`: the handling of a batch of messages off the topic. -/

namespace AccountLookup

open Async

/-- A metrics or tracing call that returns nothing the handler uses. -/
inductive TelemetryCall where
  | startTimer (callName : String)
  | timerEnd (callName : String) (success : Bool)
  | batchSize (size : Nat)
  | msgDelay
  | startActiveSpan (msgName : MessageName) (partyId : Js.Str) (batchSize : Nat)
  | observeDuration (leg : String)
  | spanEnd
  deriving DecidableEq, Repr

/-- The two timestamps of a tracing context, as header text. -/
structure Baggage where
  requestStart : Option String
  responseStart : Option String
  deriving DecidableEq, Repr

/-- The fields of `AccountLookupEventHandler`, with the calls of its tracing client. -/
structure EventHandler (σ : Type) where
  aggregate : Aggregate σ
  telemetry : TelemetryCall → Proc JsError σ Unit
  propagationExtract : (tracingInfo : Js.Value) → Proc JsError σ Js.Value
  propagationInject : Proc JsError σ Js.Value
  getBaggage : (context : Js.Value) → Proc JsError σ (Option Baggage)
  producerSend : List DomainEvent → Proc JsError σ Unit

/-- The state of a batch: that of the services, the local list `outputEvents`, and the calls of
`producer.send` so far. -/
structure BatchState (σ : Type) where
  services : σ
  outputEvents : List DomainEvent
  sent : List (List DomainEvent)

def BatchState.servicesLens (σ : Type) : Lens (BatchState σ) σ where
  get st := st.services
  set s st := { st with services := s }
  get_set _ _ := rfl
  set_get _ := rfl
  set_set _ _ _ := rfl

namespace EventHandler

variable {σ : Type} (h : EventHandler σ)

/-- A computation of the services inside a batch. -/
def call {α : Type} (p : Proc JsError σ α) : Proc JsError (BatchState σ) α :=
  p.zoom (BatchState.servicesLens σ)

/-- The timestamp that a baggage entry holds, if it counts as true. -/
def startTimestamp (entry : Option String) : Option Int := do
  let text ← entry
  if text = "" then none
  else
    let timestamp ← Js.parseInt text
    if timestamp = 0 then none else some timestamp

def recordMetricsFromContext (msgName : EventName) (context : Js.Value) :
    Proc JsError (BatchState σ) Unit := do
  match ← call (h.getBaggage context) with
  | none => pure ()
  | some baggage =>
    let startTs := startTimestamp baggage.requestStart
    let respTs := startTimestamp baggage.responseStart
    if msgName = .partyInfoRequestedEvt ∧ startTs.isSome then
      call (h.telemetry (.observeDuration "request"))
    else if msgName = .partyQueryResponseEvt ∧ respTs.isSome then
      call (h.telemetry (.observeDuration "response"))
      if startTs.isSome then call (h.telemetry (.observeDuration "total"))

/-- The handling of one message up to the reply, with the message's opaque state and its own tracing
information.  The aggregate always answers with an event, so the reply is never missing. -/
def buildReply (batchSize : Nat) (message : Message) :
    Proc JsError (BatchState σ) (DomainEvent × Js.Value) := do
  call (h.telemetry .msgDelay)
  call (h.telemetry (.startTimer "handleAccountLookUpEvent"))
  let context ← call (h.propagationExtract message.tracingInfo)
  call (h.telemetry (.startActiveSpan message.msgName message.fields.partyId batchSize))
  let eventToPublish ← call (h.aggregate.handleEvent message)
  call (h.telemetry (.timerEnd "handleAccountLookUpEvent" true))
  let tracingInfo ← call h.propagationInject
  pure
    ({ eventToPublish with
        inboundProtocolType := message.inboundProtocolType
        inboundProtocolOpaqueState := message.inboundProtocolOpaqueState
        tracingInfo }, context)

/-- The body of the loop over the messages. -/
def handleMessage (batchSize : Nat) (message : Message) : Proc JsError (BatchState σ) Unit := do
  let (reply, context) ← h.buildReply batchSize message
  Proc.modify fun st => { st with outputEvents := st.outputEvents ++ [reply] }
  h.recordMetricsFromContext reply.msgName context
  call (h.telemetry .spanEnd)

/-- The `finally` block. -/
def sendOutputEvents : Proc JsError (BatchState σ) Unit := do
  let outputEvents ← Proc.read BatchState.outputEvents
  if outputEvents ≠ [] then
    call (h.telemetry (.startTimer "handleAccountLookUpEventBatch - producer send"))
    Proc.modify fun st => { st with sent := st.sent ++ [outputEvents] }
    call (h.producerSend outputEvents)
    call (h.telemetry (.timerEnd "handleAccountLookUpEventBatch - producer send" true))
  call (h.telemetry (.timerEnd "handleAccountLookUpEventBatch" true))

/-- What comes before the `try` block. -/
def startBatch (batchSize : Nat) : Proc JsError (BatchState σ) Unit := do
  call (h.telemetry (.startTimer "handleAccountLookUpEventBatch"))
  Proc.modify fun st => { st with outputEvents := [] }
  call (h.telemetry (.batchSize batchSize))

def batchMsgHandler (receivedMessages : List Message) : Proc JsError (BatchState σ) Unit := do
  h.startBatch receivedMessages.length
  let outcome ← Proc.attempt do
    match ← (receivedMessages.forM (h.handleMessage receivedMessages.length)).attempt with
    | .ok () => pure ()
    | .error error =>
      call (h.telemetry (.timerEnd "handleAccountLookUpEventBatch" false))
      Proc.reject error
  h.sendOutputEvents
  Proc.ofExcept outcome

end EventHandler

end AccountLookup
