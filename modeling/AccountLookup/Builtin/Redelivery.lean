import AccountLookup.Builtin.Atomicity
import AccountLookup.Builtin.History
import AccountLookup.Handling.Steps
import AccountLookup.Runs.Retries

/-! Messages that are delivered again: what a batch of requests leaves in the collection of the builtin
oracles when attempts at it failed before. -/

namespace AccountLookup

open Store MongoOracleProviderRepo

/-- The writes to the cache do not fail. -/
structure CacheWorks (faults : Faults) : Prop where
  setex : faults .redisSetex = none
  del : faults .redisDel = none

namespace FullAssociation

/-- The request to make or to remove the association. -/
def request (association : FullAssociation) (kind : ChangeKind) : ChangeRequest where
  kind := kind
  fspId := .val association.fspId
  partyType := .val association.partyType
  partyId := .val association.partyId
  partySubType := .val association.partySubType
  currency := .val association.currency

/-- The filter of an association without empty fields selects its own document only. -/
theorem NonEmpty.selects_iff {association : FullAssociation} (h : association.NonEmpty)
    {stored : AssociationRecord} :
    association.document.selects stored = true ↔ stored = association.document := by
  rw [h.document_eq]
  unfold AssociationRecord.selects record
  rcases stored with ⟨fspId, partyType, partyId, partySubType, currency⟩
  simp [Mongo.accepts, and_assoc]

theorem NonEmpty.selects_eq {association : FullAssociation} (h : association.NonEmpty) :
    association.document.selects = (association.document == ·) := by
  funext stored
  rw [Bool.eq_iff_iff, h.selects_iff, beq_iff_eq, eq_comm]

/-- The documents after a change of the association is made in them. -/
def applied (association : FullAssociation) (kind : ChangeKind) (parties : List AssociationRecord) :
    List AssociationRecord :=
  match kind with
  | .associate =>
    if association.document ∈ parties then parties else parties ++ [association.document]
  | .disassociate => parties.erase association.document

section Applied

variable {association : FullAssociation} {kind : ChangeKind} {parties : List AssociationRecord}

theorem nodup_applied (h : parties.Nodup) : (association.applied kind parties).Nodup := by
  unfold applied
  cases kind with
  | associate =>
    dsimp only
    split_ifs with hmem
    · exact h
    · exact h.append (List.nodup_singleton _) (by simpa using hmem)
  | disassociate => exact h.erase _

theorem mem_applied (h : parties.Nodup) (document : AssociationRecord) :
    document ∈ association.applied kind parties ↔
      if document = association.document then kind = .associate else document ∈ parties := by
  unfold applied
  cases kind with
  | associate =>
    dsimp only
    split_ifs with hmem heq heq
    · simpa [heq] using hmem
    · exact Iff.rfl
    · simp [heq]
    · simp [heq]
  | disassociate =>
    dsimp only
    rw [h.mem_erase_iff]
    split_ifs with heq <;> simp [heq]

/-- A change is refused and changes nothing, which it is without a failed command only if it is made
already, or it is made in the collection.  It is then answered as made, unless the cache fails. -/
theorem NonEmpty.perform_cases (h : association.NonEmpty) (env : Environment) (s : BuiltinStore) :
    let outcome := (System.performBuiltin env (association.request kind)).run s
    (∃ error, outcome = (.error error, s) ∧
        (env.faults = .none → association.applied kind s.parties = s.parties)) ∨
      outcome.2.parties = association.applied kind s.parties ∧
        (outcome.1 = .ok () ∨ ¬CacheWorks env.faults) := by
  unfold System.performBuiltin applied
  cases kind with
  | associate =>
    have hfind : s.parties.find? association.document.selects = none ↔
        association.document ∉ s.parties := by
      rw [h.selects_eq, List.find?_eq_none]
      constructor
      · exact fun hnone hmem => hnone _ hmem (beq_self_eq_true _)
      · intro hmem stored hstored heq
        rw [beq_iff_eq] at heq
        exact hmem (heq ▸ hstored)
    dsimp only [request]
    rcases associateParticipant_cases env.faults (.val association.fspId) (.val association.partyType)
      (.val association.partyId) (.val association.partySubType) (.val association.currency) s with
      ⟨error, hrefused, hrun⟩ | ⟨hnone, -, -, error, hfault, hrun⟩ | ⟨hnone, -, -, -, hrun⟩ <;>
        rw [hrun]
    · refine .inl ⟨error, rfl, fun hfaults => ?_⟩
      rw [hfaults] at hrefused
      rcases hrefused with hfault | hfault | ⟨stored, hstored⟩
      · cases hfault
      · cases hfault
      · rw [if_pos]
        by_contra hmem
        have hnone := hfind.mpr hmem
        unfold document at hnone
        rw [hstored] at hnone
        cases hnone
    · rw [if_neg (hfind.mp hnone)]
      refine .inr ⟨rfl, .inr fun hworks => ?_⟩
      rw [hworks.setex] at hfault
      cases hfault
    · rw [if_neg (hfind.mp hnone)]
      exact .inr ⟨rfl, .inl rfl⟩
  | disassociate =>
    have herase : s.parties.eraseP association.document.selects =
        s.parties.erase association.document := by
      rw [h.selects_eq, List.erase_eq_eraseP]
    dsimp only [request]
    rcases disassociateParticipant_cases env.faults (.val association.fspId)
      (.val association.partyType) (.val association.partyId) (.val association.partySubType)
      (.val association.currency) s with
      ⟨error, hfault, hrun⟩ | ⟨-, error, hfault, hrun⟩ | ⟨-, -, hrun⟩ <;> rw [hrun]
    · refine .inl ⟨error, rfl, fun hfaults => ?_⟩
      rw [hfaults] at hfault
      cases hfault
    · refine .inr ⟨herase, .inr fun hworks => ?_⟩
      rw [hworks.del] at hfault
      cases hfault
    · exact .inr ⟨herase, .inl rfl⟩

end Applied

end FullAssociation

/-- A message that asks for a change, if it does, of an association without empty fields. -/
structure FullMessage where
  message : Message
  full : ∀ request, message.changeRequest = some request →
    ∃ association : FullAssociation, association.NonEmpty ∧ request = association.request request.kind

/-- The message that asks for a change of an association without empty fields. -/
def FullAssociation.NonEmpty.message {association : FullAssociation} (h : association.NonEmpty)
    (kind : ChangeKind) : FullMessage where
  message :=
    { msgType := .domainEvent
      msgName := match kind with
        | .associate => .participantAssociationRequestReceivedEvt
        | .disassociate => .participantDisassociateRequestReceivedEvt
      payload := some
        { ownerFspId := .val association.fspId
          partyType := .val association.partyType
          partyId := .val association.partyId
          partySubType := .val association.partySubType
          currency := .val association.currency } }
  full request hrequest := by
    cases kind <;> cases hrequest <;> exact ⟨association, h, rfl⟩

/-- A message that is delivered to the service, and the commands that fail in its handling. -/
structure Delivery where
  full : FullMessage
  faults : Faults

namespace Delivery

variable (env : Environment)

def handled (d : Delivery) : Handled where
  env := { env with faults := d.faults }
  message := d.full.message

/-- The service after a message is delivered to it. -/
def deliver (w : World) (d : Delivery) : World := Handled.next w (d.handled env)

/-- The collection holds the document. -/
def holds (w : World) (document : AssociationRecord) : Bool := document ∈ w.builtin.parties

/-- With the registry of `start`, the delivery is meant to make the document present, or absent. -/
def Sets (start : World) (d : Delivery) (document : AssociationRecord) (present : Bool) : Prop :=
  ∃ association : FullAssociation, association.NonEmpty ∧ ∃ kind adapter,
    (d.handled env).Reaches start (association.request kind) adapter ∧
      document = association.document ∧ present = decide (kind = .associate)

/-- The registry is that of `start`, and no document is there twice. -/
structure Follows (start w : World) : Prop where
  oracles : w.oracles = start.oracles
  adapters : w.adapters = start.adapters
  nodup : w.builtin.parties.Nodup

variable {env} {start : World}

theorem Follows.reaches_iff {w : World} (h : Follows start w) {step : Handled}
    {request : ChangeRequest} {adapter : OracleAdapter} :
    step.Reaches w request adapter ↔ step.Reaches start request adapter := by
  have hsame : System.adapterFor step.env.compound w request.partyType request.currency =
      System.adapterFor step.env.compound start request.partyType request.currency := by
    unfold System.adapterFor
    rw [h.oracles, h.adapters]
  exact ⟨fun ⟨hasks, hknows, hselects⟩ => ⟨hasks, hknows, hsame ▸ hselects⟩,
    fun ⟨hasks, hknows, hselects⟩ => ⟨hasks, hknows, hsame ▸ hselects⟩⟩

theorem mem_of_adapterFor {compound : Js.Value → Js.Value → Bool} {w : World}
    {partyType currency : Js.Str} {adapter : OracleAdapter}
    (h : System.adapterFor compound w partyType currency = some adapter) : adapter ∈ w.adapters := by
  obtain ⟨oracle, -, hfind⟩ := Option.bind_eq_some_iff.mp h
  exact List.mem_of_find?_eq_some hfind

theorem parties_perform (env : Environment) {request : ChangeRequest} {adapter : OracleAdapter}
    (htype : adapter.type = .builtin) (w : World) :
    (((System.aggregate env).perform request adapter).run w).2.builtin.parties =
      ((System.performBuiltin env request).run w.builtin).2.parties := by
  rw [System.run_perform_builtin env htype]

section

variable (hbuiltin : ∀ adapter ∈ start.adapters, adapter.type = .builtin) {w : World}
  (h : Follows start w)
include hbuiltin h

/-- A delivery leaves the collection, or makes the change of its request in it. -/
theorem deliver_cases (d : Delivery) :
    (deliver env w d).builtin.parties = w.builtin.parties ∨
      ∃ association : FullAssociation, association.NonEmpty ∧ ∃ kind adapter,
        (d.handled env).Reaches start (association.request kind) adapter ∧
          (deliver env w d).builtin.parties = association.applied kind w.builtin.parties := by
  unfold deliver
  rcases Handled.next_cases w (d.handled env) with
    ⟨cache, hnext⟩ | ⟨request, adapter, hreaches, hnext⟩ <;> rw [hnext]
  · exact .inl rfl
  · obtain ⟨association, hnonEmpty, hrequest⟩ := d.full.full request hreaches.asks
    rw [h.reaches_iff] at hreaches
    have htype := hbuiltin adapter (mem_of_adapterFor hreaches.selects)
    rw [parties_perform _ htype]
    rw [hrequest] at hreaches ⊢
    rcases hnonEmpty.perform_cases (d.handled env).env w.builtin with
      ⟨error, hrun, -⟩ | ⟨hparties, -⟩
    · rw [hrun]
      exact .inl rfl
    · exact .inr ⟨association, hnonEmpty, request.kind, adapter, hreaches, hparties⟩

/-- A delivery in which no command fails makes the change of its request. -/
theorem deliver_of_reaches {d : Delivery} (hfaults : d.faults = .none)
    {association : FullAssociation} (hnonEmpty : association.NonEmpty) {kind : ChangeKind}
    {adapter : OracleAdapter}
    (hreaches : (d.handled env).Reaches start (association.request kind) adapter) :
    (deliver env w d).builtin.parties = association.applied kind w.builtin.parties := by
  have htype := hbuiltin adapter (mem_of_adapterFor hreaches.selects)
  have hfind : (d.handled env).env.faults .findOraclesOfType = none := by
    unfold handled
    rw [hfaults]
    rfl
  unfold deliver
  rw [Handled.next_of_reaches (h.reaches_iff.mpr hreaches) hfind, parties_perform _ htype]
  rcases hnonEmpty.perform_cases (d.handled env).env w.builtin with
    ⟨error, hrun, hmade⟩ | ⟨hparties, -⟩
  · rw [hrun]
    exact (hmade hfaults).symm
  · exact hparties

theorem follows_deliver (d : Delivery) : Follows start (deliver env w d) := by
  obtain ⟨horacles, hadapters⟩ := Handled.registry_next w (d.handled env)
  refine ⟨horacles.trans h.oracles, hadapters.trans h.adapters, ?_⟩
  rcases deliver_cases hbuiltin h d with hparties | ⟨association, -, kind, _, -, hparties⟩ <;>
    rw [hparties]
  · exact h.nodup
  · exact FullAssociation.nodup_applied h.nodup

end

theorem holds_of_applied {association : FullAssociation} {kind : ChangeKind} {w w' : World}
    (hnodup : w.builtin.parties.Nodup)
    (h : w'.builtin.parties = association.applied kind w.builtin.parties)
    (document : AssociationRecord) :
    holds w' document =
      if document = association.document then decide (kind = .associate) else holds w document := by
  have hmem := @FullAssociation.mem_applied association kind _ hnodup document
  rw [← h] at hmem
  split_ifs with heq
  · rw [if_pos heq] at hmem
    exact decide_eq_decide.mpr hmem
  · rw [if_neg heq] at hmem
    exact decide_eq_decide.mpr hmem

/-- Deliveries write the documents of their requests. -/
theorem writes_deliver (hbuiltin : ∀ adapter ∈ start.adapters, adapter.type = .builtin) :
    Runs.Writes (deliver env) (Follows start) holds (Sets env start) (·.faults = .none) where
  keeps w d h := follows_deliver hbuiltin h d
  unique {d document present present'} h h' := by
    obtain ⟨association, -, kind, adapter, hreaches, -, rfl⟩ := h
    obtain ⟨association', -, kind', adapter', hreaches', -, rfl⟩ := h'
    have hrequest := Option.some.inj (hreaches.asks.symm.trans hreaches'.asks)
    have hkind : kind = kind' := congrArg ChangeRequest.kind hrequest
    rw [hkind]
  writes {w d} document h := by
    rcases deliver_cases hbuiltin h d with
      hparties | ⟨association, hnonEmpty, kind, adapter, hreaches, hparties⟩
    · exact .inl (by rw [holds, hparties]; rfl)
    · rw [holds_of_applied h.nodup hparties]
      split_ifs with heq
      · exact .inr ⟨_, ⟨association, hnonEmpty, kind, adapter, hreaches, heq, rfl⟩, rfl⟩
      · exact .inl rfl
  completes {w d document present} h hfaults hsets := by
    obtain ⟨association, hnonEmpty, kind, adapter, hreaches, rfl, rfl⟩ := hsets
    have hparties := deliver_of_reaches hbuiltin h hfaults hnonEmpty hreaches
    rw [holds_of_applied h.nodup hparties, if_pos rfl]

/-- Delivery at least once: on builtin oracles, and a collection that has no document twice, a batch of
messages about associations without empty fields leaves the same documents, none of them twice, whether it
is delivered once or after any attempts at its messages, in any order and number and with any commands
failing. -/
theorem redelivered (hbuiltin : ∀ adapter ∈ start.adapters, adapter.type = .builtin)
    (hnodup : start.builtin.parties.Nodup) (batch : List FullMessage) {attempts : List Delivery}
    (hattempts : ∀ d ∈ attempts, d.full ∈ batch) :
    let deliveries := batch.map (⟨·, .none⟩)
    let once := (deliveries.foldl (deliver env) start).builtin.parties
    let again := (deliveries.foldl (deliver env) (attempts.foldl (deliver env) start)).builtin.parties
    (∀ document, document ∈ again ↔ document ∈ once) ∧ once.Nodup ∧ again.Nodup := by
  intro deliveries once again
  have hfollows : Follows start start := ⟨rfl, rfl, hnodup⟩
  have hrun (w : World) (hw : Follows start w) (ds : List Delivery) :
      Follows start (ds.foldl (deliver env) w) :=
    @Runs.invariant_of_step _ _ (deliver env) (Follows start)
      (fun _ d h => follows_deliver hbuiltin h d) w hw ds
  have hcomplete : ∀ d ∈ deliveries, d.faults = .none := by
    intro d hmem
    obtain ⟨message, -, rfl⟩ := List.mem_map.mp hmem
    rfl
  have hsets : ∀ d ∈ attempts, ∀ document present, Sets env start d document present →
      ∃ d' ∈ deliveries, ∃ present', Sets env start d' document present' := by
    intro d hmem document present hset
    obtain ⟨association, hnonEmpty, kind, adapter, ⟨hasks, hknows, hselects⟩, hdocument⟩ := hset
    exact ⟨⟨d.full, .none⟩, List.mem_map.mpr ⟨d.full, hattempts d hmem, rfl⟩, present, association,
      hnonEmpty, kind, adapter, ⟨hasks, hknows, hselects⟩, hdocument⟩
  refine ⟨?_, (hrun start hfollows deliveries).nodup,
    (hrun _ (hrun start hfollows attempts) deliveries).nodup⟩
  intro document
  have hholds := (writes_deliver hbuiltin).retried hfollows hcomplete hsets document
  unfold holds at hholds
  exact decide_eq_decide.mp hholds

/-- An association of the party `123`. -/
def personal : FullAssociation := ⟨"bluebank", "MSISDN", "123", "PERSONAL", "EUR"⟩

theorem personal_nonEmpty : personal.NonEmpty := ⟨by decide, by decide⟩

/-- The messages that make the association and remove it again. -/
def madeAndRemoved : List FullMessage :=
  [personal_nonEmpty.message .associate, personal_nonEmpty.message .disassociate]

/-- The making of the association fails at the cache. -/
def failedAtCache : List Delivery :=
  [⟨personal_nonEmpty.message .associate, System.cacheFull⟩]

theorem redelivered_personal :
    let env := System.withFaults .none
    let deliveries : List Delivery := madeAndRemoved.map (⟨·, .none⟩)
    let once := (deliveries.foldl (deliver env) System.builtinWorld).builtin.parties
    let again := (deliveries.foldl (deliver env)
      (failedAtCache.foldl (deliver env) System.builtinWorld)).builtin.parties
    personal.document ∈ (failedAtCache.foldl (deliver env) System.builtinWorld).builtin.parties ∧
      (∀ document, document ∈ again ↔ document ∈ once) ∧ once.Nodup ∧ again.Nodup := by
  have hbuiltin : ∀ adapter ∈ System.builtinWorld.adapters, adapter.type = .builtin := by
    intro adapter hmem
    rw [List.mem_singleton.mp hmem]
  have hattempts : ∀ d ∈ failedAtCache, d.full ∈ madeAndRemoved := by
    intro d hmem
    rw [List.mem_singleton.mp hmem]
    exact List.mem_cons_self
  refine ⟨by decide +kernel, ?_⟩
  exact @redelivered (System.withFaults .none) System.builtinWorld hbuiltin List.nodup_nil
    madeAndRemoved failedAtCache hattempts

end Delivery

end AccountLookup
