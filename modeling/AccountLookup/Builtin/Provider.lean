import AccountLookup.Model.MongoOracleProvider

/-! What each operation of a builtin adapter does to the collection and the cache, for every command
that may fail. -/

namespace AccountLookup

open Async Store

namespace AssociationRecord

/-- The document is an association of the party with `fspId`, where absent fields and `null` are the
same. -/
def IsOf (document : AssociationRecord) (fspId partyType partyId : Js.Str) : Prop :=
  document.fspId.orNull = fspId.orNull ∧ document.partyType.orNull = partyType.orNull ∧
    document.partyId.orNull = partyId.orNull

instance (document : AssociationRecord) (fspId partyType partyId : Js.Str) :
    Decidable (document.IsOf fspId partyType partyId) := by
  unfold IsOf
  infer_instance

end AssociationRecord

namespace MongoOracleProviderRepo

section Queries

variable {fspId partyType partyId partySubType currency : Js.Str} {document : AssociationRecord}

theorem party_of_lookupQuery_selects
    (h : (lookupQuery partyType partyId partySubType currency).selects document = true) :
    document.partyType.orNull = partyType.orNull ∧ document.partyId.orNull = partyId.orNull := by
  simp only [AssociationRecord.selects, lookupQuery, Bool.and_eq_true, Mongo.accepts_orNull] at h
  exact ⟨h.1.1.1.2, h.1.1.2⟩

theorem isOf_of_buildLookupQuery_selects
    (h : (buildLookupQuery partyId fspId partyType partySubType currency).selects document = true) :
    document.IsOf fspId partyType partyId := by
  simp only [AssociationRecord.selects, buildLookupQuery, lookupQuery, Bool.and_eq_true,
    Mongo.accepts_orNull] at h
  exact ⟨h.1.1.1.1, h.1.1.1.2, h.1.1.2⟩

theorem buildLookupQuery_isOf :
    (buildLookupQuery partyId fspId partyType partySubType currency).IsOf fspId partyType
      partyId := by
  simp [AssociationRecord.IsOf, buildLookupQuery, lookupQuery]

/-- The document that an association inserts is found by a lookup with the same arguments. -/
theorem lookupQuery_selects_buildLookupQuery :
    (lookupQuery partyType partyId partySubType currency).selects
      (buildLookupQuery partyId fspId partyType partySubType currency) = true := by
  simp [AssociationRecord.selects, buildLookupQuery, lookupQuery, Mongo.accepts_self]

end Queries

section Runs

variable (faults : Faults) (fspId partyType partyId partySubType currency : Js.Str)
  (s : BuiltinStore)

/-- The store after `record` is written to the cache. -/
def cached (record : AssociationRecord) : BuiltinStore :=
  { s with
    cache := s.cache.set (getKeyWithPrefix record.partyType record.partyId record.partySubType
      record.currency) record }

/-- A lookup answers from the cache, or it finds no document, or it caches and answers the first
document that it finds.  It rejects only when a command fails, and then it changes nothing. -/
theorem getParticipantFspId_cases :
    (∃ error command, command ∈ [Command.redisGet, .findParticipant, .redisSetex] ∧
      (faults command).isSome ∧
      (getParticipantFspId faults partyType partyId partySubType currency).run s =
        (.error error, s)) ∨
    (∃ record, s.cache.get (getKeyWithPrefix partyType partyId partySubType currency) =
        some record ∧
      (getParticipantFspId faults partyType partyId partySubType currency).run s =
        (.ok record.fspId, s)) ∨
    (s.cache.get (getKeyWithPrefix partyType partyId partySubType currency) = none ∧
      s.parties.find? (lookupQuery partyType partyId partySubType currency).selects = none ∧
      (getParticipantFspId faults partyType partyId partySubType currency).run s =
        (.ok .null, s)) ∨
    ∃ document, s.cache.get (getKeyWithPrefix partyType partyId partySubType currency) = none ∧
      s.parties.find? (lookupQuery partyType partyId partySubType currency).selects =
        some document ∧
      (getParticipantFspId faults partyType partyId partySubType currency).run s =
        (.ok document.fspId, cached s
          { fspId := document.fspId, partyType, partyId, partySubType, currency }) := by
  unfold getParticipantFspId getFromCache setToCache
  rw [Proc.run_bind, run_send]
  cases hget : faults .redisGet with
  | some error => exact .inl ⟨_, .redisGet, by simp, by simp [hget], rfl⟩
  | none =>
    dsimp only
    cases s.cache.get (getKeyWithPrefix partyType partyId partySubType currency) with
    | some record => exact .inr (.inl ⟨record, rfl, rfl⟩)
    | none =>
      dsimp only
      rw [Proc.run_bind, run_send_rethrow]
      cases hfind : faults .findParticipant with
      | some error => exact .inl ⟨_, .findParticipant, by simp, by simp [hfind], rfl⟩
      | none =>
        dsimp only
        cases s.parties.find? (lookupQuery partyType partyId partySubType currency).selects with
        | none => exact .inr (.inr (.inl ⟨rfl, rfl, rfl⟩))
        | some document =>
          dsimp only
          rw [Proc.run_bind, run_send]
          cases hset : faults .redisSetex with
          | some error => exact .inl ⟨_, .redisSetex, by simp, by simp [hset], rfl⟩
          | none => exact .inr (.inr (.inr ⟨document, rfl, rfl, rfl⟩))

/-- The store after the document of an association is inserted. -/
def inserted : BuiltinStore :=
  { s with
    parties := s.parties ++ [buildLookupQuery partyId fspId partyType partySubType currency] }

/-- An association is refused and changes nothing, or the document is inserted and the write to the
cache then fails, or both are made. -/
theorem associateParticipant_cases :
    (∃ error, ((faults .findAssociation).isSome ∨ (faults .insertAssociation).isSome ∨
        ∃ document, s.parties.find?
          (buildLookupQuery partyId fspId partyType partySubType currency).selects =
            some document) ∧
      (associateParticipant faults fspId partyType partyId partySubType currency).run s =
        (.error error, s)) ∨
    (s.parties.find? (buildLookupQuery partyId fspId partyType partySubType currency).selects =
        none ∧ faults .findAssociation = none ∧ faults .insertAssociation = none ∧
      ∃ error, faults .redisSetex = some error ∧
        (associateParticipant faults fspId partyType partyId partySubType currency).run s =
          (.error error, inserted fspId partyType partyId partySubType currency s)) ∨
    s.parties.find? (buildLookupQuery partyId fspId partyType partySubType currency).selects =
        none ∧ faults .findAssociation = none ∧ faults .insertAssociation = none ∧
      faults .redisSetex = none ∧
        (associateParticipant faults fspId partyType partyId partySubType currency).run s =
          (.ok (), cached (inserted fspId partyType partyId partySubType currency s)
            { fspId, partyType, partyId, partySubType, currency }) := by
  unfold associateParticipant setToCache
  rw [Proc.run_bind, run_send]
  cases hfind : faults .findAssociation with
  | some error => exact .inl ⟨_, .inl rfl, rfl⟩
  | none =>
    dsimp only
    cases s.parties.find?
        (buildLookupQuery partyId fspId partyType partySubType currency).selects with
    | some document => exact .inl ⟨_, .inr (.inr ⟨document, rfl⟩), rfl⟩
    | none =>
      dsimp only
      rw [Proc.run_bind, run_send_rethrow]
      cases hinsert : faults .insertAssociation with
      | some error => exact .inl ⟨_, .inr (.inl rfl), rfl⟩
      | none =>
        dsimp only
        rw [run_send]
        cases hset : faults .redisSetex with
        | some error => exact .inr (.inl ⟨rfl, rfl, rfl, error, rfl, rfl⟩)
        | none => exact .inr (.inr ⟨rfl, rfl, rfl, rfl, rfl⟩)

/-- The store after the first document that a change selects is deleted. -/
def deleted : BuiltinStore :=
  { s with
    parties := s.parties.eraseP
      (buildLookupQuery partyId fspId partyType partySubType currency).selects }

theorem deleted_parties_ne_iff :
    (deleted fspId partyType partyId partySubType currency s).parties ≠ s.parties ↔
      (s.parties.find?
        (buildLookupQuery partyId fspId partyType partySubType currency).selects).isSome = true := by
  rw [List.find?_isSome]
  simp [deleted]

/-- A disassociation fails and changes nothing, or the document is deleted and the removal of the
cache entry then fails, or both are made.  It does not matter whether there is a document. -/
theorem disassociateParticipant_cases :
    (∃ error, (faults .deleteAssociation).isSome ∧
      (disassociateParticipant faults fspId partyType partyId partySubType currency).run s =
        (.error error, s)) ∨
    (faults .deleteAssociation = none ∧ ∃ error, faults .redisDel = some error ∧
      (disassociateParticipant faults fspId partyType partyId partySubType currency).run s =
        (.error error, deleted fspId partyType partyId partySubType currency s)) ∨
    faults .deleteAssociation = none ∧ faults .redisDel = none ∧
      (disassociateParticipant faults fspId partyType partyId partySubType currency).run s =
        (.ok (), { deleted fspId partyType partyId partySubType currency s with
          cache := s.cache.del (getKeyWithPrefix partyType partyId partySubType currency) }) := by
  unfold disassociateParticipant delFromCache
  rw [Proc.run_bind, run_send_rethrow]
  cases hdelete : faults .deleteAssociation with
  | some error => exact .inl ⟨_, rfl, rfl⟩
  | none =>
    dsimp only
    rw [run_send]
    cases hdel : faults .redisDel with
    | some error => exact .inr (.inl ⟨rfl, error, rfl, rfl⟩)
    | none => exact .inr (.inr ⟨rfl, rfl, rfl⟩)

end Runs

end MongoOracleProviderRepo

end AccountLookup
