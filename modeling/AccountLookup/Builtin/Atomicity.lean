import AccountLookup.Handling.Service

/-! When a request that is answered with an error has still changed the collection of the builtin
oracles. -/

namespace AccountLookup

open Async MongoOracleProviderRepo

namespace System

variable (env : Environment)

/-- The command to the database changes the collection, and the command to the cache that follows
fails. -/
def CacheWriteLost (request : ChangeRequest) (s : BuiltinStore) : Prop :=
  let query := buildLookupQuery request.partyId request.fspId request.partyType
    request.partySubType request.currency
  match request.kind with
  | .associate => s.parties.find? query.selects = none ∧ env.faults .findAssociation = none ∧
      env.faults .insertAssociation = none ∧ (env.faults .redisSetex).isSome = true
  | .disassociate => (s.parties.find? query.selects).isSome = true ∧
      env.faults .deleteAssociation = none ∧ (env.faults .redisDel).isSome = true

section Changes

variable {request : ChangeRequest} (s : BuiltinStore)

theorem associate_changes_iff (hkind : request.kind = .associate) :
    (∃ error t, (performBuiltin env request).run s = (.error error, t) ∧ t.parties ≠ s.parties) ↔
      CacheWriteLost env request s := by
  simp only [performBuiltin, CacheWriteLost, hkind]
  rcases associateParticipant_cases env.faults request.fspId request.partyType request.partyId
    request.partySubType request.currency s with
    ⟨error, hrefused, hrun⟩ | ⟨hfind, hlook, hinsert, error, hset, hrun⟩ |
      ⟨hfind, hlook, hinsert, hset, hrun⟩ <;> rw [hrun]
  · constructor
    · intro h
      obtain ⟨_, _, ⟨⟩, hne⟩ := h
      exact absurd rfl hne
    · intro h
      obtain ⟨hfind, hlook, hinsert, -⟩ := h
      rcases hrefused with h | h | ⟨document, h⟩
      · simp [hlook] at h
      · simp [hinsert] at h
      · rw [hfind] at h
        cases h
  · constructor
    · intro _
      exact ⟨hfind, hlook, hinsert, by simp [hset]⟩
    · intro _
      exact ⟨_, _, rfl, by simp [inserted]⟩
  · constructor
    · intro h
      obtain ⟨_, _, h, -⟩ := h
      cases h
    · intro h
      obtain ⟨-, -, -, h⟩ := h
      simp [hset] at h

theorem disassociate_changes_iff (hkind : request.kind = .disassociate) :
    (∃ error t, (performBuiltin env request).run s = (.error error, t) ∧ t.parties ≠ s.parties) ↔
      CacheWriteLost env request s := by
  simp only [performBuiltin, CacheWriteLost, hkind]
  rcases disassociateParticipant_cases env.faults request.fspId request.partyType request.partyId
    request.partySubType request.currency s with
    ⟨error, hdelete, hrun⟩ | ⟨hdelete, error, hdel, hrun⟩ | ⟨hdelete, hdel, hrun⟩ <;> rw [hrun]
  · constructor
    · intro h
      obtain ⟨_, _, ⟨⟩, hne⟩ := h
      exact absurd rfl hne
    · intro h
      obtain ⟨-, h, -⟩ := h
      simp [h] at hdelete
  · constructor
    · intro h
      obtain ⟨_, _, ⟨⟩, hne⟩ := h
      exact ⟨(deleted_parties_ne_iff ..).mp hne, hdelete, by simp [hdel]⟩
    · intro h
      obtain ⟨hfind, -, -⟩ := h
      exact ⟨_, _, rfl, (deleted_parties_ne_iff ..).mpr hfind⟩
  · constructor
    · intro h
      obtain ⟨_, _, h, -⟩ := h
      cases h
    · intro h
      obtain ⟨-, -, h⟩ := h
      simp [hdel] at h

/-- A change that fails has changed the collection exactly when only its command to the cache
failed. -/
theorem performBuiltin_changes_iff (request : ChangeRequest) :
    (∃ error t, (performBuiltin env request).run s = (.error error, t) ∧ t.parties ≠ s.parties) ↔
      CacheWriteLost env request s := by
  cases hkind : request.kind with
  | associate => exact associate_changes_iff env s hkind
  | disassociate => exact disassociate_changes_iff env s hkind

end Changes

/-- The handling of a message that asks for a change, when it is answered with an error event, leaves
the collection as it was, unless the message reaches a builtin oracle and its write to the database
is made while the command to the cache that follows fails. -/
theorem handleEvent_atomic_iff (w : World) {message : Message}
    (hname : message.msgName.asksForChange = true) :
    (∀ e w', ((aggregate env).handleEvent message).run w = (.ok e, w') →
        e.msgName.isSuccess = false → w'.builtin.parties = w.builtin.parties) ↔
      ¬∃ request adapter, message.changeRequest = some request ∧ adapter.type = .builtin ∧
        (aggregate env).Reaches request.fspId request.partyType request.currency adapter w ∧
        CacheWriteLost env request w.builtin := by
  have hiff := Aggregate.handleEvent_forall_iff (aggregate_reads env) (aggregate_quiet env) hname
    (s := w) (P := fun e w' => e.msgName.isSuccess = false → w'.builtin.parties = w.builtin.parties)
    (Q := fun request adapter => adapter.type = .builtin ∧ CacheWriteLost env request w.builtin)
    (fun _ _ _ => rfl) ?_
  · simpa only [and_left_comm] using hiff
  intro request adapter e hrequest hreaches hanswer
  cases htype : adapter.type with
  | remoteHttp =>
    rw [run_perform_remote env htype]
    constructor
    · exact fun _ => nofun
    · exact fun _ _ => rfl
  | builtin =>
    rw [run_perform_builtin env htype] at hanswer ⊢
    have hchanges := performBuiltin_changes_iff env w.builtin request
    constructor
    · intro hsame hlost
      obtain ⟨error, t, hperform, hne⟩ := hchanges.mpr hlost.2
      rw [hperform] at hanswer hsame
      exact hne (hsame hanswer)
    · intro hnot herror
      by_contra hne
      rcases hperform : (performBuiltin env request).run w.builtin with ⟨error | done, t⟩ <;>
        rw [hperform] at hanswer hne
      · exact hnot ⟨rfl, hchanges.mp ⟨error, t, hperform, hne⟩⟩
      · dsimp only at hanswer
        rw [hanswer] at herror
        cases hkind : request.kind <;> rw [hkind] at herror <;> cases herror

/-- The cache refuses every write. -/
def cacheFull : Faults := fun command =>
  if command = .redisSetex then some ⟨.error, "OOM command not allowed"⟩ else none

theorem handleEvent_atomic_iff_cacheWorks :
    (∀ e w', ((aggregate (withFaults .none)).handleEvent
        (changeMessage .participantAssociationRequestReceivedEvt)).run builtinWorld = (.ok e, w') →
        e.msgName.isSuccess = false → w'.builtin.parties = builtinWorld.builtin.parties) ↔
      ¬∃ request adapter,
        (changeMessage .participantAssociationRequestReceivedEvt).changeRequest = some request ∧
        adapter.type = .builtin ∧ (aggregate (withFaults .none)).Reaches request.fspId
          request.partyType request.currency adapter builtinWorld ∧
        CacheWriteLost (withFaults .none) request builtinWorld.builtin :=
  handleEvent_atomic_iff (withFaults .none) builtinWorld rfl

/-- The association is stored although the answer says that it could not be made. -/
theorem handleEvent_not_atomic :
    ∃ e w', ((aggregate (withFaults cacheFull)).handleEvent
        (changeMessage .participantAssociationRequestReceivedEvt)).run builtinWorld = (.ok e, w') ∧
      e.msgName = .unableToAssociateParticipantErrorEvent ∧
      builtinWorld.builtin.parties = [] ∧ w'.builtin.parties =
        [⟨.val "bluebank", .val "MSISDN", .val "123", .undefined, .undefined⟩] :=
  ⟨_, _, rfl, rfl, rfl, rfl⟩

end System

end AccountLookup
