import AccountLookup.Async.Projection
import AccountLookup.Builtin.Isolation

/-! Calls on the builtin oracles that run at the same time for different parties: what the collection
has of a party, and the outcomes of the changes of the party, do not depend on the other calls. -/

namespace AccountLookup

open Async Store MongoOracleProviderRepo

section Lists

variable {α : Type} {p q : α → Bool}

theorem find?_of_filter (h : ∀ a, q a = true → p a = true) (l : List α) :
    l.find? q = (l.filter p).find? q := by
  rw [List.find?_filter]
  congr 1
  funext a
  cases hq : q a with
  | false => simp
  | true => simp [h a hq]

theorem filter_eraseP_of_imp (h : ∀ a, q a = true → p a = true) (l : List α) :
    (l.eraseP q).filter p = (l.filter p).eraseP q := by
  induction l with
  | nil => rfl
  | cons a l ih =>
    by_cases hq : q a = true
    · rw [List.eraseP_cons_of_pos hq, List.filter_cons_of_pos (h a hq), List.eraseP_cons_of_pos hq]
    · rw [List.eraseP_cons_of_neg hq]
      by_cases hp : p a = true
      · rw [List.filter_cons_of_pos hp, List.filter_cons_of_pos hp, List.eraseP_cons_of_neg hq, ih]
      · rw [List.filter_cons_of_neg hp, List.filter_cons_of_neg hp, ih]

theorem filter_eraseP_of_disjoint (h : ∀ a, q a = true → p a = false) (l : List α) :
    (l.eraseP q).filter p = l.filter p := by
  induction l with
  | nil => rfl
  | cons a l ih =>
    by_cases hq : q a = true
    · rw [List.eraseP_cons_of_pos hq, List.filter_cons_of_neg (by rw [h a hq]; exact nofun)]
    · rw [List.eraseP_cons_of_neg hq, List.filter_cons, List.filter_cons, ih]

end Lists

/-! ### Documents of a party -/

/-- The document is of the party, where absent fields and `null` are the same. -/
def AssociationRecord.isOfParty (partyType partyId : Js.Str) (document : AssociationRecord) : Bool :=
  document.partyType.orNull = partyType.orNull && document.partyId.orNull = partyId.orNull

/-- What the collection has of the party. -/
def documentsOf (partyType partyId : Js.Str) (s : BuiltinStore) : List AssociationRecord :=
  s.parties.filter (AssociationRecord.isOfParty partyType partyId)

/-- The request is an association or a removal of the party. -/
def OracleRequest.changesParty (partyType partyId : Js.Str) : OracleRequest → Bool
  | .associate _ partyType' partyId' _ _ | .disassociate _ partyType' partyId' _ _ =>
    partyType'.orNull = partyType.orNull && partyId'.orNull = partyId.orNull
  | _ => false

section Calls

variable {faults : Faults} {fspId partyType partyId partySubType currency : Js.Str}

/-- A filter of a change selects documents of its party alone. -/
theorem isOfParty_of_selects {partyType' partyId' : Js.Str} {document : AssociationRecord}
    (h : (buildLookupQuery partyId fspId partyType partySubType currency).selects document = true) :
    document.isOfParty partyType' partyId' =
      (partyType.orNull = partyType'.orNull && partyId.orNull = partyId'.orNull) := by
  obtain ⟨-, htype, hid⟩ := isOf_of_buildLookupQuery_selects h
  unfold AssociationRecord.isOfParty
  rw [htype, hid]

theorem isOfParty_buildLookupQuery (partyType' partyId' : Js.Str) :
    (buildLookupQuery partyId fspId partyType partySubType currency).isOfParty partyType' partyId' =
      (partyType.orNull = partyType'.orNull && partyId.orNull = partyId'.orNull) := by
  simp [AssociationRecord.isOfParty, buildLookupQuery, lookupQuery]

theorem send_alike {σ τ α : Type} {view : σ → τ} {command : Command} {f : σ → α × σ}
    (h : ∀ s t, view s = view t → (f s).1 = (f t).1 ∧ view (f s).2 = view (f t).2) :
    (send faults command f).Alike view (send faults command f) := by
  unfold send
  split
  · exact rfl
  · refine Proc.Alike.atomic fun s t hst => ?_
    obtain ⟨hvalue, hview⟩ := h s t hst
    exact ⟨congrArg Except.ok hvalue, hview⟩

theorem send_invisible {σ τ α : Type} {view : σ → τ} {command : Command} {f : σ → α × σ}
    (h : ∀ s, view (f s).2 = view s) : (send faults command f).Invisible view := by
  unfold send
  split
  · trivial
  · exact Proc.Invisible.atomic h

theorem associateParticipant_alike :
    (associateParticipant faults fspId partyType partyId partySubType currency).Alike
      (documentsOf partyType partyId)
      (associateParticipant faults fspId partyType partyId partySubType currency) := by
  have hselects (document : AssociationRecord) (h : (buildLookupQuery partyId fspId partyType
      partySubType currency).selects document = true) :
      document.isOfParty partyType partyId = true := by
    rw [isOfParty_of_selects h]
    simp
  unfold associateParticipant
  refine Proc.Alike.bind (send_alike fun s t hst => ?_) ?_
  · refine ⟨?_, hst⟩
    show s.parties.find? _ = t.parties.find? _
    rw [find?_of_filter hselects s.parties, find?_of_filter hselects t.parties]
    exact congrArg (List.find? _) hst
  · intro found
    cases found with
    | some document => exact rfl
    | none =>
      refine Proc.Alike.bind (Proc.Alike.rethrow (send_alike fun s t hst => ⟨rfl, ?_⟩) _) ?_
      · show (s.parties ++ [_]).filter _ = (t.parties ++ [_]).filter _
        rw [List.filter_append, List.filter_append]
        exact congrArg (· ++ _) hst
      · exact fun _ => send_alike fun s t hst => ⟨rfl, hst⟩

theorem disassociateParticipant_alike :
    (disassociateParticipant faults fspId partyType partyId partySubType currency).Alike
      (documentsOf partyType partyId)
      (disassociateParticipant faults fspId partyType partyId partySubType currency) := by
  have hselects (document : AssociationRecord) (h : (buildLookupQuery partyId fspId partyType
      partySubType currency).selects document = true) :
      document.isOfParty partyType partyId = true := by
    rw [isOfParty_of_selects h]
    simp
  unfold disassociateParticipant
  refine Proc.Alike.bind (Proc.Alike.rethrow (send_alike fun s t hst => ⟨rfl, ?_⟩) _) ?_
  · show (s.parties.eraseP _).filter _ = (t.parties.eraseP _).filter _
    rw [filter_eraseP_of_imp hselects, filter_eraseP_of_imp hselects]
    exact congrArg (List.eraseP _) hst
  · exact fun _ => send_alike fun s t hst => ⟨rfl, hst⟩

variable {partyType' partyId' : Js.Str}

theorem documentsOf_congr (htype : partyType.orNull = partyType'.orNull)
    (hid : partyId.orNull = partyId'.orNull) :
    documentsOf partyType partyId = documentsOf partyType' partyId' := by
  unfold documentsOf AssociationRecord.isOfParty
  rw [htype, hid]

theorem associateParticipant_invisible
    (h : (partyType.orNull = partyType'.orNull && partyId.orNull = partyId'.orNull) = false) :
    (associateParticipant faults fspId partyType partyId partySubType currency).Invisible
      (documentsOf partyType' partyId') := by
  unfold associateParticipant
  refine Proc.Invisible.bind (send_invisible fun s => rfl) ?_
  intro found
  cases found with
  | some document => trivial
  | none =>
    refine Proc.Invisible.bind (Proc.Invisible.rethrow (send_invisible fun s => ?_) _) ?_
    · show (s.parties ++ [_]).filter _ = s.parties.filter _
      have hother : ¬(buildLookupQuery partyId fspId partyType partySubType currency).isOfParty
          partyType' partyId' = true := by
        rw [isOfParty_buildLookupQuery, h]
        exact nofun
      rw [List.filter_append, List.filter_cons_of_neg hother]
      exact List.append_nil _
    · exact fun _ => send_invisible fun s => rfl

theorem disassociateParticipant_invisible
    (h : (partyType.orNull = partyType'.orNull && partyId.orNull = partyId'.orNull) = false) :
    (disassociateParticipant faults fspId partyType partyId partySubType currency).Invisible
      (documentsOf partyType' partyId') := by
  unfold disassociateParticipant
  refine Proc.Invisible.bind (Proc.Invisible.rethrow (send_invisible fun s => ?_) _) ?_
  · refine filter_eraseP_of_disjoint (fun document hselects => ?_) s.parties
    rw [isOfParty_of_selects hselects, h]
  · exact fun _ => send_invisible fun s => rfl

theorem getParticipantFspId_invisible :
    (getParticipantFspId faults partyType partyId partySubType currency).Invisible
      (documentsOf partyType' partyId') := by
  unfold getParticipantFspId
  refine Proc.Invisible.bind (send_invisible fun s => rfl) ?_
  intro cached
  cases cached with
  | some record => trivial
  | none =>
    refine Proc.Invisible.bind (Proc.Invisible.rethrow (send_invisible fun s => rfl) _) ?_
    intro found
    cases found with
    | none => trivial
    | some document =>
      exact Proc.Invisible.bind (send_invisible fun s => rfl) fun _ => trivial

end Calls

namespace OracleCall

/-- A change of the party depends on the documents of the party alone. -/
theorem serve_alike {call : OracleCall} {partyType partyId : Js.Str}
    (h : call.request.changesParty partyType partyId = true) :
    call.serve.Alike (documentsOf partyType partyId) call.serve := by
  obtain ⟨faults, request⟩ := call
  cases request with
  | associate fspId partyType' partyId' partySubType currency =>
    obtain ⟨htype, hid⟩ := Bool.and_eq_true_iff.mp h
    rw [← documentsOf_congr (of_decide_eq_true htype) (of_decide_eq_true hid)]
    exact associateParticipant_alike.bind fun _ => rfl
  | disassociate fspId partyType' partyId' partySubType currency =>
    obtain ⟨htype, hid⟩ := Bool.and_eq_true_iff.mp h
    rw [← documentsOf_congr (of_decide_eq_true htype) (of_decide_eq_true hid)]
    exact disassociateParticipant_alike.bind fun _ => rfl
  | lookup => cases h
  | expire => cases h

/-- Any other call leaves them. -/
theorem serve_invisible {call : OracleCall} {partyType partyId : Js.Str}
    (h : call.request.changesParty partyType partyId = false) :
    call.serve.Invisible (documentsOf partyType partyId) := by
  obtain ⟨faults, request⟩ := call
  cases request with
  | associate => exact (associateParticipant_invisible h).bind fun _ => trivial
  | disassociate => exact (disassociateParticipant_invisible h).bind fun _ => trivial
  | lookup => exact getParticipantFspId_invisible
  | expire key => exact Proc.Invisible.bind (fun s => ⟨rfl, trivial⟩) fun _ => trivial

/-- Whatever calls run at the same time on the builtin oracles, in whatever order and with whatever
failures: after any steps, the documents of a party and the outcomes of its associations and removals are
those that the steps of these alone lead to. -/
theorem parties_undisturbed {ι : Type} [DecidableEq ι] (calls : ι → OracleCall) (s : BuiltinStore)
    (schedule : List ι) (partyType partyId : Js.Str) :
    let changes := fun i => (calls i).request.changesParty partyType partyId
    let all := (Pool.answering (fun i => (calls i).serve) s).run schedule
    let alone := (Pool.answering (fun i => (calls i).serve) s).run (schedule.filter changes)
    documentsOf partyType partyId all.state = documentsOf partyType partyId alone.state ∧
      ∀ i, changes i = true →
        ∀ answer, all.calls i = .reject answer ↔ alone.calls i = .reject answer :=
  Pool.projected (fun _ hi => serve_alike hi) (fun _ hi => serve_invisible hi) s schedule

end OracleCall

end AccountLookup
