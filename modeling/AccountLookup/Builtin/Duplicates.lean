import AccountLookup.Async.Pool
import AccountLookup.Builtin.Provider

/-! Associations that are made at the same time: when the collection gets a document twice, or one
that its own removal leaves. -/

namespace AccountLookup

open Async Store MongoOracleProviderRepo

namespace AssociationRecord

/-- The documents have equal fields, where absent fields and `null` are the same. -/
structure Same (document other : AssociationRecord) : Prop where
  fspId : document.fspId.orNull = other.fspId.orNull
  partyType : document.partyType.orNull = other.partyType.orNull
  partyId : document.partyId.orNull = other.partyId.orNull
  partySubType : document.partySubType.orNull = other.partySubType.orNull
  currency : document.currency.orNull = other.currency.orNull

theorem Same.refl (document : AssociationRecord) : document.Same document :=
  ⟨rfl, rfl, rfl, rfl, rfl⟩

theorem Same.symm {document other : AssociationRecord} (h : document.Same other) :
    other.Same document :=
  ⟨h.fspId.symm, h.partyType.symm, h.partyId.symm, h.partySubType.symm, h.currency.symm⟩

/-- The filter of a removal that has the fields of the document as its arguments. -/
def ownFilter (document : AssociationRecord) : AssociationRecord :=
  buildLookupQuery document.partyId document.fspId document.partyType document.partySubType
    document.currency

theorem accepts_optional {field other : Js.Str} (h : field.orNull = other.orNull) :
    Mongo.accepts (if other.truthy then other else .undefined) field = true := by
  split
  · rename_i htruthy
    obtain ⟨s, rfl, -⟩ := Js.Field.truthy_iff.mp htruthy
    rw [Js.Field.orNull_eq_val.mp h]
    exact Mongo.accepts_self _
  · exact Mongo.accepts_undefined field

theorem Same.selects {document other : AssociationRecord} (h : document.Same other) :
    other.ownFilter.selects document = true := by
  simp only [AssociationRecord.selects, ownFilter, buildLookupQuery, lookupQuery, Bool.and_eq_true,
    Mongo.accepts_orNull]
  exact ⟨⟨⟨⟨h.fspId, h.partyType⟩, h.partyId⟩, accepts_optional h.partySubType⟩,
    accepts_optional h.currency⟩

/-- The document that an association inserts is its own filter. -/
theorem ownFilter_buildLookupQuery (fspId partyType partyId partySubType currency : Js.Str) :
    (buildLookupQuery partyId fspId partyType partySubType currency).ownFilter =
      buildLookupQuery partyId fspId partyType partySubType currency := by
  by_cases hsubType : partySubType.truthy = true <;> by_cases hcurrency : currency.truthy = true <;>
    simp [ownFilter, buildLookupQuery, lookupQuery, hsubType, hcurrency]

end AssociationRecord

open AssociationRecord

/-! ### Collections -/

section Collections

variable {parties : List AssociationRecord}

/-- No two documents are the same. -/
def NoDuplicates (parties : List AssociationRecord) : Prop :=
  parties.Pairwise fun document other => ¬document.Same other

/-- One removal with the fields of a document leaves none that is the same. -/
def RemovedByOne (s : BuiltinStore) : Prop :=
  ∀ document ∈ s.parties, ∀ left ∈ ((disassociateParticipant .none document.fspId
      document.partyType document.partyId document.partySubType document.currency).run s).2.parties,
    ¬left.Same document

/-- No document comes before one whose own filter selects it. -/
def Unshadowed (parties : List AssociationRecord) : Prop :=
  parties.Pairwise fun document other => other.ownFilter.selects document = false

theorem Unshadowed.noDuplicates (h : Unshadowed parties) : NoDuplicates parties := by
  apply List.Pairwise.imp _ h
  intro document other hnot hsame
  rw [hsame.selects] at hnot
  cases hnot

theorem unshadowed_append_iff {document : AssociationRecord} (h : Unshadowed parties) :
    Unshadowed (parties ++ [document]) ↔ parties.find? document.ownFilter.selects = none := by
  unfold Unshadowed
  rw [List.pairwise_append, List.find?_eq_none]
  simp only [List.pairwise_singleton, List.mem_singleton, forall_eq, true_and,
    Bool.not_eq_true]
  exact and_iff_right h

theorem parties_of_removal (document : AssociationRecord) (s : BuiltinStore) :
    ((disassociateParticipant .none document.fspId document.partyType document.partyId
      document.partySubType document.currency).run s).2.parties =
        s.parties.eraseP document.ownFilter.selects := by
  rcases disassociateParticipant_cases .none document.fspId document.partyType document.partyId
      document.partySubType document.currency s with ⟨_, hfault, -⟩ | ⟨-, _, hfault, -⟩ | ⟨-, -, hrun⟩
  · cases hfault
  · cases hfault
  · rw [hrun]
    rfl

/-- The removal of a document removes it and all that are the same exactly when its filter selects no
document before it. -/
theorem removedByOne_iff (s : BuiltinStore) : RemovedByOne s ↔ Unshadowed s.parties := by
  unfold RemovedByOne Unshadowed
  simp only [parties_of_removal]
  constructor
  · intro h
    rw [List.pairwise_iff_forall_sublist]
    intro shadowing document hsublist
    by_contra hselects
    have hleft : [document].Sublist (s.parties.eraseP document.ownFilter.selects) := by
      have herase := hsublist.eraseP (p := document.ownFilter.selects)
      rw [List.eraseP_cons_of_pos (by simpa using hselects)] at herase
      exact herase
    have hmem : document ∈ s.parties := hsublist.subset (by simp)
    exact h document hmem document (List.singleton_sublist.mp hleft) (.refl document)
  · intro h document hmem left hleft hsame
    obtain ⟨before, after, hsplit⟩ := List.append_of_mem hmem
    rw [hsplit, List.pairwise_append, List.pairwise_cons] at h
    obtain ⟨-, ⟨hafter, -⟩, hbefore⟩ := h
    have hnone : ∀ other ∈ before, ¬document.ownFilter.selects other = true := by
      intro other hother
      rw [hbefore other hother document List.mem_cons_self]
      exact nofun
    rw [hsplit, List.eraseP_append_right _ hnone,
      List.eraseP_cons_of_pos (Same.refl document).selects] at hleft
    rcases List.mem_append.mp hleft with hleft | hleft
    · exact hnone left hleft hsame.selects
    · have hselects := hafter left hleft
      rw [hsame.symm.selects] at hselects
      cases hselects

end Collections

/-! ### Associations -/

/-- A call that associates a participant, and the commands that fail in it. -/
structure AssociateCall where
  faults : Faults
  fspId : Js.Str
  partyType : Js.Str
  partyId : Js.Str
  partySubType : Js.Str
  currency : Js.Str

namespace AssociateCall

def perform (call : AssociateCall) : Proc JsError BuiltinStore Unit :=
  associateParticipant call.faults call.fspId call.partyType call.partyId call.partySubType
    call.currency

/-- The document that the call inserts. -/
def query (call : AssociateCall) : AssociationRecord :=
  buildLookupQuery call.partyId call.fspId call.partyType call.partySubType call.currency

/-- What is left of the call when its document is stored. -/
def caching (call : AssociateCall) : Proc JsError BuiltinStore Unit :=
  setToCache call.faults
    { fspId := call.fspId, partyId := call.partyId, partyType := call.partyType,
      partySubType := call.partySubType, currency := call.currency }

/-- What is left of the call when it has found no document. -/
def insertion (call : AssociateCall) : Proc JsError BuiltinStore Unit := do
  (send call.faults .insertAssociation fun s =>
      ((), { s with parties := s.parties ++ [call.query] })).rethrow
    fun error => ⟨.unableToAssociateParticipantError,
      s!"Unable to store participant association for partyType {call.partyType.text} partyId " ++
        s!"{call.partyId.text}, currency {call.currency.text}: " ++ error.message⟩
  call.caching

theorem perform_eq (call : AssociateCall) :
    call.perform = (do
      match ← send call.faults .findAssociation fun s =>
          (s.parties.find? call.query.selects, s) with
      | some _ =>
        Proc.reject ⟨.participantAssociationAlreadyExistsError,
          "Participant association already exists for " ++
            partyText call.partyType call.partyId call.currency⟩
      | none => call.insertion) := rfl

/-- A call is to look for a document, to insert its own, to fill the cache, or it has settled. -/
inductive At (call : AssociateCall) : Proc JsError BuiltinStore Unit → Prop
  | finding : At call call.perform
  | inserting : At call call.insertion
  | caching : At call call.caching
  | settled {p : Proc JsError BuiltinStore Unit} (h : p.settled = true) : At call p

/-- The call inserts its document in its next step. -/
def Inserts (call : AssociateCall) (p : Proc JsError BuiltinStore Unit) : Prop :=
  call.faults .insertAssociation = none ∧ p = call.insertion

variable {call : AssociateCall} {p : Proc JsError BuiltinStore Unit} (s : BuiltinStore)

theorem step_insertion (h : call.faults .insertAssociation = none) :
    call.insertion.step s = (call.caching, { s with parties := s.parties ++ [call.query] }) :=
  step_send_rethrow_bind s h _ _

/-- A step of a call leaves the collection as it is, unless it inserts the document. -/
theorem At.step (h : At call p) :
    At call (p.step s).1 ∧ (¬call.Inserts p → (p.step s).2.parties = s.parties) := by
  have hstays (hsettled : p.settled = true) :
      At call (p.step s).1 ∧ (¬call.Inserts p → (p.step s).2.parties = s.parties) := by
    rw [Proc.step_of_settled s hsettled]
    exact ⟨.settled hsettled, fun _ => rfl⟩
  cases h with
  | finding =>
    cases hfault : call.faults .findAssociation with
    | some error => exact hstays (settled_send_bind hfault _)
    | none =>
      rw [perform_eq, step_send_bind s hfault]
      dsimp only
      split
      · exact ⟨.settled rfl, fun _ => rfl⟩
      · exact ⟨.inserting, fun _ => rfl⟩
  | inserting =>
    cases hfault : call.faults .insertAssociation with
    | some error => exact hstays (settled_send_rethrow_bind hfault _ _)
    | none =>
      rw [step_insertion s hfault]
      exact ⟨.caching, fun hinserts => absurd ⟨hfault, rfl⟩ hinserts⟩
  | caching =>
    cases hfault : call.faults .redisSetex with
    | some error => exact hstays (settled_send hfault)
    | none =>
      have hstep : call.caching.step s = (.resolve (), _) := step_send s hfault
      rw [hstep]
      exact ⟨.settled rfl, fun _ => rfl⟩
  | settled hsettled => exact hstays hsettled

end AssociateCall

section Interleaving

variable {ι : Type} (calls : ι → AssociateCall)

/-- The calls before the first step. -/
def associating (s : BuiltinStore) : Pool JsError BuiltinStore ι where
  state := s
  calls i := (calls i).perform

/-- The collection has no document twice, and one removal is enough for each. -/
def FreeOfDuplicates (pool : Pool JsError BuiltinStore ι) : Prop :=
  NoDuplicates pool.state.parties ∧ RemovedByOne pool.state

/-- The condition on a step: a call that inserts its document would still find none. -/
def StillNew (pool : Pool JsError BuiltinStore ι) (i : ι) : Prop :=
  (calls i).Inserts (pool.calls i) → pool.state.parties.find? (calls i).query.selects = none

theorem freeOfDuplicates_iff (pool : Pool JsError BuiltinStore ι) :
    FreeOfDuplicates pool ↔ Unshadowed pool.state.parties := by
  unfold FreeOfDuplicates
  rw [removedByOne_iff]
  exact and_iff_right_of_imp Unshadowed.noDuplicates

variable {calls} [DecidableEq ι] {pool : Pool JsError BuiltinStore ι} {i : ι}

theorem freeOfDuplicates_step_iff (hat : (calls i).At (pool.calls i))
    (h : FreeOfDuplicates pool) : FreeOfDuplicates (pool.step i) ↔ StillNew calls pool i := by
  rw [freeOfDuplicates_iff] at h ⊢
  by_cases hinserts : (calls i).Inserts (pool.calls i)
  · have hparties : (pool.step i).state.parties =
        pool.state.parties ++ [(calls i).query] := by
      show ((pool.calls i).step pool.state).2.parties = _
      rw [hinserts.2, AssociateCall.step_insertion _ hinserts.1]
    have hquery : (calls i).query.ownFilter = (calls i).query := ownFilter_buildLookupQuery ..
    rw [hparties, unshadowed_append_iff h, hquery]
    exact ⟨fun hnone _ => hnone, fun hnew => hnew hinserts⟩
  · apply iff_of_true
    · have hparties : (pool.step i).state.parties = pool.state.parties :=
        (hat.step pool.state).2 hinserts
      rw [hparties]
      exact h
    · exact fun hinserts' => absurd hinserts' hinserts

/-- In every state of a run the collection has no document twice, and one removal is enough for each,
exactly when no document comes before one whose own filter selects it at the start, and every call
that inserts its document would still find none. -/
theorem always_freeOfDuplicates_iff (calls : ι → AssociateCall) (s : BuiltinStore)
    (schedule : List ι) :
    Runs.Always Pool.step FreeOfDuplicates (associating calls s) schedule ↔
      Unshadowed s.parties ∧
        Runs.Each Pool.step (StillNew calls) (associating calls s) schedule := by
  have hiff (h : FreeOfDuplicates (associating calls s)) :=
    Runs.always_iff_each_of (J := fun pool => ∀ j, (calls j).At (pool.calls j))
      (fun pool i hat => Pool.forall_step (R := fun j p => (calls j).At p)
        (fun s p h => (h.step s).1) hat)
      (fun pool i hat => freeOfDuplicates_step_iff (hat i)) (fun _ => .finding) h schedule
  rw [← show FreeOfDuplicates (associating calls s) ↔ Unshadowed s.parties from
    freeOfDuplicates_iff _]
  constructor
  · intro halways
    exact ⟨halways.start, (hiff halways.start).mp halways⟩
  · intro h
    obtain ⟨hstart, heach⟩ := h
    exact (hiff hstart).mpr heach

end Interleaving

/-! ### A message that is delivered twice -/

/-- The association of `bluebank` with a party, when no command fails. -/
def bluebank (_ : Bool) : AssociateCall where
  faults := .none
  fspId := .val "bluebank"
  partyType := .val "MSISDN"
  partyId := .val "123"
  partySubType := .null
  currency := .null

/-- Both calls look for a document before one of them inserts it. -/
theorem duplicate_of_redelivery :
    let pool := associating bluebank ⟨[], .empty, []⟩
    FreeOfDuplicates pool ∧ ¬NoDuplicates (pool.run [false, true, false, true]).state.parties ∧
      ¬RemovedByOne (pool.run [false, true, false, true]).state := by
  have hparties : ((associating bluebank ⟨[], .empty, []⟩).run
      [false, true, false, true]).state.parties = [(bluebank true).query, (bluebank true).query] :=
    rfl
  dsimp only
  rw [freeOfDuplicates_iff, removedByOne_iff, hparties]
  refine ⟨.nil, ?_, ?_⟩
  · intro h
    exact (List.pairwise_cons.mp h).1 _ List.mem_cons_self (.refl _)
  · intro h
    have hselects := (List.pairwise_cons.mp h).1 _ List.mem_cons_self
    rw [(Same.refl (bluebank true).query).selects] at hselects
    cases hselects

end AccountLookup
