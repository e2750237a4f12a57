import AccountLookup.Builtin.Redelivery
import AccountLookup.Runs.Simulation

/-! What the messages and their replies tell of the collection of the builtin oracles. -/

namespace AccountLookup

open MongoOracleProviderRepo

/-- The association of a request that has all of its fields. -/
def ChangeRequest.association : ChangeRequest → Option FullAssociation
  | ⟨_, .val fspId, .val partyType, .val partyId, .val partySubType, .val currency⟩ =>
    some ⟨fspId, partyType, partyId, partySubType, currency⟩
  | _ => none

namespace Delivery

variable (env : Environment)

/-- The reply to the message, and the service after it. -/
def replied (w : World) (d : Delivery) : Except JsError DomainEvent × World :=
  ((System.aggregate (d.handled env).env).handleEvent d.full.message).run w

/-- The change that the reply to a message reports as made. -/
def reported (message : Message) (reply : Except JsError DomainEvent) :
    Option (ChangeKind × FullAssociation) :=
  match message.changeRequest, reply with
  | some request, .ok event =>
    if event.msgName = request.kind.answer then
      request.association.map fun association => (request.kind, association)
    else none
  | _, _ => none

/-- The documents of one who makes in them what is reported. -/
def follow (documents : List AssociationRecord) (entry : Delivery × Except JsError DomainEvent) :
    List AssociationRecord :=
  match reported entry.1.full.message entry.2 with
  | some (kind, association) => association.applied kind documents
  | none => documents

variable {env} {w : World} {d : Delivery}

theorem follow_of_not_asks {reply : Except JsError DomainEvent} (documents : List AssociationRecord)
    (h : d.full.message.changeRequest = none) : follow documents (d, reply) = documents := by
  unfold follow reported
  rw [h]

theorem follow_of_error {event : DomainEvent} (documents : List AssociationRecord)
    (h : event.msgName.isSuccess = false) : follow documents (d, .ok event) = documents := by
  unfold follow reported
  cases d.full.message.changeRequest with
  | none => rfl
  | some request =>
    dsimp only
    rw [if_neg]
    intro hanswer
    rw [hanswer] at h
    cases hkind : request.kind <;> rw [hkind] at h <;> cases h

theorem follow_of_answer {event : DomainEvent} (documents : List AssociationRecord)
    {association : FullAssociation} {kind : ChangeKind}
    (h : d.full.message.changeRequest = some (association.request kind))
    (hanswer : event.msgName = kind.answer) :
    follow documents (d, .ok event) = association.applied kind documents := by
  have hreported : reported d.full.message (.ok event) = some (kind, association) := by
    unfold reported
    rw [h]
    exact if_pos hanswer
  unfold follow
  rw [hreported]

/-- The reply to a message tells what its handling changes in the collection. -/
theorem parties_replied (hbuiltin : ∀ adapter ∈ w.adapters, adapter.type = .builtin)
    (hworks : CacheWorks d.faults) :
    (replied env w d).2.builtin.parties = follow w.builtin.parties (d, (replied env w d).1) := by
  have reads := System.aggregate_reads (d.handled env).env
  have quiet := System.aggregate_quiet (d.handled env).env
  cases hrequest : d.full.message.changeRequest with
  | none =>
    rw [follow_of_not_asks _ hrequest]
    unfold replied
    cases hname : d.full.message.msgName.asksForChange with
    | false =>
      obtain ⟨cache, hcache⟩ :=
        Handled.cache_of_looks (Aggregate.handleEvent_looks reads quiet hname w)
      rw [hcache]
    | true =>
      obtain ⟨_, -, hrun⟩ :=
        (System.aggregate (d.handled env).env).handleEvent_malformed hname hrequest w
      rw [hrun]
  | some request =>
    obtain ⟨association, hnonEmpty, hassociation⟩ := d.full.full request hrequest
    unfold replied
    rcases Aggregate.handleEvent_answers reads quiet hrequest w with
      ⟨event, hevent, hrun, -⟩ | ⟨adapter, ⟨-, hselects⟩, event, hrun, hanswer⟩ <;> rw [hrun]
    · rw [follow_of_error _ hevent]
    · have hadapter := mem_of_adapterFor (System.selects_iff.mp hselects).2.2
      have htype := hbuiltin adapter hadapter
      dsimp only
      rw [parties_perform _ htype]
      rw [System.run_perform_builtin _ htype] at hanswer
      dsimp only at hanswer
      rw [hassociation] at hanswer hrequest ⊢
      rcases hnonEmpty.perform_cases (d.handled env).env w.builtin with
        ⟨error, hrun, -⟩ | ⟨hparties, hmade⟩
      · rw [hrun] at hanswer ⊢
        rw [follow_of_error _ hanswer]
      · have hdone := hmade.resolve_right fun hnot => hnot hworks
        rw [hdone] at hanswer
        rw [hparties, follow_of_answer _ hrequest hanswer]

theorem adapters_replied (d : Delivery) : (replied env w d).2.adapters = w.adapters :=
  (Handled.registry_next w (d.handled env)).2

/-- The replies are a journal of the collection: as long as the writes to the cache do not fail, the
documents after any messages about associations without empty fields, with any other commands failing,
are those before them with the changes in turn that the replies report as made. -/
theorem journal_faithful (hbuiltin : ∀ adapter ∈ w.adapters, adapter.type = .builtin)
    {deliveries : List Delivery} (hworks : ∀ d ∈ deliveries, CacheWorks d.faults) :
    let (replies, w') := Runs.answers (replied env) w deliveries
    w'.builtin.parties = (deliveries.zip replies).foldl follow w.builtin.parties := by
  refine @Runs.answers_followed World Delivery (Except JsError DomainEvent) (replied env) _
    (·.builtin.parties) follow (∀ adapter ∈ ·.adapters, adapter.type = .builtin)
    (CacheWorks ·.faults) ?_ ?_ w hbuiltin deliveries hworks
  · intro w d h
    rw [adapters_replied]
    exact h
  · intro w d h hworks
    exact parties_replied h hworks

/-- The collection refuses the association once. -/
def refusedOnce : List Delivery :=
  [⟨personal_nonEmpty.message .associate, fun command =>
      if command = .insertAssociation then some ⟨.error, "not primary"⟩ else none⟩,
    ⟨personal_nonEmpty.message .associate, .none⟩]

theorem journal_faithful_refusedOnce :
    let (replies, w') := Runs.answers (replied (System.withFaults .none)) System.builtinWorld refusedOnce
    w'.builtin.parties = (refusedOnce.zip replies).foldl follow System.builtinWorld.builtin.parties := by
  have hbuiltin : ∀ adapter ∈ System.builtinWorld.adapters, adapter.type = .builtin := by
    intro adapter hmem
    rw [List.mem_singleton.mp hmem]
  have hworks : ∀ d ∈ refusedOnce, CacheWorks d.faults := by
    intro d hmem
    rcases List.mem_cons.mp hmem with rfl | hmem
    · exact ⟨rfl, rfl⟩
    · rw [List.mem_singleton.mp hmem]
      exact ⟨rfl, rfl⟩
  exact @journal_faithful (System.withFaults .none) System.builtinWorld hbuiltin refusedOnce hworks

end Delivery

end AccountLookup
