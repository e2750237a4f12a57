import AccountLookup.Builtin.Isolation

/-! The owners of a party in a builtin oracle: which requests give a party a second one. -/

namespace AccountLookup

open Async Store MongoOracleProviderRepo

namespace AssociationRecord

/-- The documents are associations of one party key, where absent fields and `null` are the same. -/
structure SameParty (document other : AssociationRecord) : Prop where
  partyType : document.partyType.orNull = other.partyType.orNull
  partyId : document.partyId.orNull = other.partyId.orNull
  partySubType : document.partySubType.orNull = other.partySubType.orNull
  currency : document.currency.orNull = other.currency.orNull

theorem SameParty.symm {document other : AssociationRecord} (h : document.SameParty other) :
    other.SameParty document :=
  ⟨h.partyType.symm, h.partyId.symm, h.partySubType.symm, h.currency.symm⟩

/-- The document gives the party of the other another owner. -/
def Conflicts (document other : AssociationRecord) : Prop :=
  document.SameParty other ∧ document.fspId.orNull ≠ other.fspId.orNull

theorem Conflicts.symm {document other : AssociationRecord} (h : document.Conflicts other) :
    other.Conflicts document :=
  ⟨h.1.symm, h.2.symm⟩

theorem not_conflicts_self (document : AssociationRecord) : ¬document.Conflicts document :=
  fun h => h.2 rfl

end AssociationRecord

open AssociationRecord

/-- No party has two owners in the collection. -/
def SingleOwner (s : BuiltinStore) : Prop :=
  ∀ document ∈ s.parties, ∀ other ∈ s.parties, ¬document.Conflicts other

/-- The party of the document has another owner in the collection. -/
def OwnedByOther (s : BuiltinStore) (query : AssociationRecord) : Prop :=
  ∃ document ∈ s.parties, document.Conflicts query

theorem singleOwner_append_iff {s s' : BuiltinStore} {document : AssociationRecord}
    (h : SingleOwner s) (hparties : s'.parties = s.parties ++ [document]) :
    SingleOwner s' ↔ ¬OwnedByOther s document := by
  unfold SingleOwner OwnedByOther
  rw [hparties]
  constructor
  · intro hsingle howned
    obtain ⟨other, hmem, hconflicts⟩ := howned
    exact hsingle other (List.mem_append_left _ hmem) document (by simp) hconflicts
  · intro hnot first hfirst second hsecond hconflicts
    rcases List.mem_append.mp hfirst with hfirst | hfirst <;>
      rcases List.mem_append.mp hsecond with hsecond | hsecond
    · exact h first hfirst second hsecond hconflicts
    · rw [List.mem_singleton.mp hsecond] at hconflicts
      exact hnot ⟨first, hfirst, hconflicts⟩
    · rw [List.mem_singleton.mp hfirst] at hconflicts
      exact hnot ⟨second, hsecond, hconflicts.symm⟩
    · rw [List.mem_singleton.mp hfirst, List.mem_singleton.mp hsecond] at hconflicts
      exact not_conflicts_self document hconflicts

theorem SingleOwner.subset {s s' : BuiltinStore} (h : SingleOwner s)
    (hsubset : s'.parties ⊆ s.parties) : SingleOwner s' :=
  fun document hmem other hmem' => h document (hsubset hmem) other (hsubset hmem')

namespace OracleCall

/-- A request for a party that another FSP owns is refused as a duplicate and changes nothing, unless
the look for an existing association fails. -/
def RefusesSecondOwner (s : BuiltinStore) (call : OracleCall) : Prop :=
  ∀ fspId partyType partyId partySubType currency,
    call.request = .associate fspId partyType partyId partySubType currency →
    call.faults .findAssociation = none →
    OwnedByOther s (buildLookupQuery partyId (.val fspId) partyType partySubType currency) →
    ∃ error, error.cls = .participantAssociationAlreadyExistsError ∧
      call.serve.run s = (.error error, s)

/-- The condition on a request for a party that another FSP owns: the requesting FSP has an
association of its own that the filter of the request selects. -/
def FindsOwnToo (s : BuiltinStore) (call : OracleCall) : Prop :=
  ∀ fspId partyType partyId partySubType currency,
    call.request = .associate fspId partyType partyId partySubType currency →
    call.faults .findAssociation = none →
    OwnedByOther s (buildLookupQuery partyId (.val fspId) partyType partySubType currency) →
    ∃ document ∈ s.parties,
      (buildLookupQuery partyId (.val fspId) partyType partySubType currency).selects document

variable {s : BuiltinStore} {faults : Faults}

theorem run_serve_associate_error {fspId : String}
    {partyType partyId partySubType currency : Js.Str} {error : JsError} {t : BuiltinStore} :
    (serve ⟨faults, .associate fspId partyType partyId partySubType currency⟩).run s =
        (.error error, t) ↔
      (associateParticipant faults (.val fspId) partyType partyId partySubType currency).run s =
        (.error error, t) := by
  constructor
  · intro hrun
    unfold serve at hrun
    rw [Proc.run_bind] at hrun
    rcases hout : (associateParticipant faults (.val fspId) partyType partyId partySubType
      currency).run s with ⟨error' | _, u⟩ <;> rw [hout] at hrun
    · cases hrun
      rfl
    · cases hrun
  · intro hrun
    exact Proc.run_bind_error hrun

theorem run_associate_of_found {fspId : String} {partyType partyId partySubType currency : Js.Str}
    (hlook : faults .findAssociation = none)
    (hfound : (s.parties.find? (buildLookupQuery partyId (.val fspId) partyType partySubType
      currency).selects).isSome = true) :
    ∃ error, error.cls = .participantAssociationAlreadyExistsError ∧
      (associateParticipant faults (.val fspId) partyType partyId partySubType currency).run s =
        (.error error, s) := by
  obtain ⟨document, hfind⟩ := Option.isSome_iff_exists.mp hfound
  unfold associateParticipant
  rw [Proc.run_bind, run_send, hlook]
  dsimp only
  rw [hfind]
  exact ⟨_, rfl, rfl⟩

theorem not_refused_of_not_found {fspId : String}
    {partyType partyId partySubType currency : Js.Str} (hlook : faults .findAssociation = none)
    (hfind : s.parties.find? (buildLookupQuery partyId (.val fspId) partyType partySubType
      currency).selects = none) {error : JsError}
    (hrun : (associateParticipant faults (.val fspId) partyType partyId partySubType currency).run s =
      (.error error, s)) : error.cls ≠ .participantAssociationAlreadyExistsError := by
  unfold associateParticipant at hrun
  rw [Proc.run_bind, run_send, hlook] at hrun
  dsimp only at hrun
  rw [hfind] at hrun
  dsimp only at hrun
  rw [Proc.run_bind, run_send_rethrow] at hrun
  cases hinsert : faults .insertAssociation with
  | some failure =>
    rw [hinsert] at hrun
    cases hrun
    exact nofun
  | none =>
    -- the document is stored before anything else can fail
    exfalso
    rw [hinsert] at hrun
    dsimp only at hrun
    have hstate := congrArg (fun outcome => outcome.2.parties) hrun
    unfold setToCache at hstate
    rw [run_send] at hstate
    cases hset : faults .redisSetex <;> simp [hset] at hstate

theorem refusesSecondOwner_iff (s : BuiltinStore) (call : OracleCall) :
    RefusesSecondOwner s call ↔ FindsOwnToo s call := by
  obtain ⟨faults, request⟩ := call
  constructor
  · intro hrefuses fspId partyType partyId partySubType currency hrequest hlook howned
    cases hrequest
    obtain ⟨error, hcls, hrun⟩ := hrefuses _ _ _ _ _ rfl hlook howned
    by_contra hnone
    have hfind : s.parties.find? (buildLookupQuery partyId (.val fspId) partyType partySubType
        currency).selects = none :=
      List.find?_eq_none.mpr fun document hmem hselects => hnone ⟨document, hmem, hselects⟩
    exact not_refused_of_not_found hlook hfind (run_serve_associate_error.mp hrun) hcls
  · intro hfinds fspId partyType partyId partySubType currency hrequest hlook howned
    cases hrequest
    obtain ⟨document, hmem, hselects⟩ := hfinds _ _ _ _ _ rfl hlook howned
    obtain ⟨error, hcls, hrun⟩ := run_associate_of_found hlook
      (List.find?_isSome.mpr ⟨document, hmem, hselects⟩)
    exact ⟨error, hcls, run_serve_associate_error.mpr hrun⟩

/-- The step: a call under the condition gives no party a second owner. -/
theorem singleOwner_after (call : OracleCall) (h : SingleOwner s) (hfinds : FindsOwnToo s call) :
    SingleOwner (call.after s) := by
  obtain ⟨faults, request⟩ := call
  cases request with
  | associate fspId partyType partyId partySubType currency =>
    have hinserted (hlook : faults .findAssociation = none) (hfind : s.parties.find?
        (buildLookupQuery partyId (.val fspId) partyType partySubType currency).selects = none) :
        SingleOwner (inserted (.val fspId) partyType partyId partySubType currency s) := by
      apply (singleOwner_append_iff h rfl).mpr
      intro howned
      obtain ⟨document, hmem, hselects⟩ := hfinds _ _ _ _ _ rfl hlook howned
      exact List.find?_eq_none.mp hfind document hmem hselects
    rcases after_associate faults fspId partyType partyId partySubType currency with
      hsame | ⟨hlook, hfind, hstored | hcached⟩
    · rw [hsame]
      exact h
    · rw [hstored]
      exact hinserted hlook hfind
    · rw [hcached]
      exact hinserted hlook hfind
  | disassociate fspId partyType partyId partySubType currency =>
    apply h.subset
    rcases after_disassociate faults fspId partyType partyId partySubType currency with
      hsame | hleft | hinvalidated
    · rw [hsame]
      exact List.Subset.refl _
    · rw [hleft]
      exact List.eraseP_subset
    · rw [hinvalidated]
      exact List.eraseP_subset
  | lookup partyType partyId partySubType currency =>
    rcases after_lookup faults partyType partyId partySubType currency with
      hsame | ⟨document, -, -, -, hcached⟩
    · rw [hsame]
      exact h
    · rw [hcached]
      exact h
  | expire key => exact h

/-- In a run from an empty store no party ever has two owners, and every request for a party that
another FSP owns is refused, exactly when every such request finds an association of the requesting
FSP itself. -/
theorem always_singleOwner_iff (calls : List OracleCall) :
    Runs.Always after SingleOwner Ledger.start.store calls ∧
        Runs.Each after RefusesSecondOwner Ledger.start.store calls ↔
      Runs.Each after FindsOwnToo Ledger.start.store calls := by
  have hrefuses : Runs.Each after RefusesSecondOwner Ledger.start.store calls ↔
      Runs.Each after FindsOwnToo Ledger.start.store calls :=
    Runs.each_congr (J := fun _ => True) (fun _ _ _ => trivial)
      (fun s call _ => refusesSecondOwner_iff s call) trivial calls
  rw [hrefuses]
  constructor
  · exact And.right
  · intro heach
    have hstart : SingleOwner Ledger.start.store := nofun
    exact ⟨Runs.always_of_each (fun _ call h hfinds => singleOwner_after call h hfinds) hstart heach,
      heach⟩

/-- Two FSPs that associate the same party. -/
def contending : List OracleCall :=
  [⟨.none, .associate "bluebank" (.val "MSISDN") (.val "123") .null .null⟩,
    ⟨.none, .associate "greenbank" (.val "MSISDN") (.val "123") .null .null⟩]

/-- The second one is not refused; it owns the party too, and the cache names it. -/
theorem not_singleOwner :
    ¬SingleOwner (contending.foldl after Ledger.start.store) ∧
      ((OracleCall.mk .none (.associate "greenbank" (.val "MSISDN") (.val "123") .null .null)).serve.run
        ((contending.take 1).foldl after Ledger.start.store)).1 = .ok .null ∧
      ((getParticipantFspId .none (.val "MSISDN") (.val "123") .null .null).run
        (contending.foldl after Ledger.start.store)).1 = .ok (.val "greenbank") := by
  refine ⟨?_, rfl, rfl⟩
  intro hsingle
  have hfirst : buildLookupQuery (.val "123") (.val "bluebank") (.val "MSISDN") .null .null ∈
      (contending.foldl after Ledger.start.store).parties := List.mem_cons_self
  have hsecond : buildLookupQuery (.val "123") (.val "greenbank") (.val "MSISDN") .null .null ∈
      (contending.foldl after Ledger.start.store).parties :=
    List.mem_cons_of_mem _ List.mem_cons_self
  exact hsingle _ hfirst _ hsecond ⟨⟨rfl, rfl, rfl, rfl⟩, by decide⟩

end OracleCall

end AccountLookup
