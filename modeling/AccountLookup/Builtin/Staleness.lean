import AccountLookup.Async.Expiry
import AccountLookup.Builtin.Isolation

/-! The age of what lookups on the builtin oracles answer, when the entries of the cache expire after its
duration. -/

namespace AccountLookup

open Async Store MongoOracleProviderRepo

/-- The cache of the builtin oracles: the owner that the entry of a key names. -/
def ownersCache : Expiring BuiltinStore String Js.Str where
  get s key := (s.cache.get key).map (·.fspId)
  keep p s := { s with cache := fun key => if p key then s.cache.get key else none }
  get_keep p s key := by
    unfold Cache.get
    dsimp only
    split <;> rfl

/-- The collection has a document of the FSP that a lookup with the cache key selects. -/
def Owns (s : BuiltinStore) (key : String) (fspId : Js.Str) : Prop :=
  ∃ partyType partyId partySubType currency,
    key = getKeyWithPrefix partyType partyId partySubType currency ∧
      ∃ document ∈ s.parties,
        (lookupQuery partyType partyId partySubType currency).selects document = true ∧
          document.fspId = fspId

theorem get_cached (s : BuiltinStore) (record : AssociationRecord) (key : String) :
    ownersCache.get (cached s record) key =
      if key = getKeyWithPrefix record.partyType record.partyId record.partySubType record.currency then
        some record.fspId
      else ownersCache.get s key := by
  show ((s.cache.set _ record).get key).map _ = _
  split_ifs with hkey
  · rw [hkey, Cache.get_set_self]
    rfl
  · rw [Cache.get_set_of_ne hkey]
    rfl

theorem writes_cached (s : BuiltinStore) (record : AssociationRecord) (key : String) :
    ownersCache.writes (cached · record) s key =
      decide (key = getKeyWithPrefix record.partyType record.partyId record.partySubType
        record.currency) := by
  unfold Expiring.writes
  rw [get_cached, ownersCache.get_keep]
  by_cases hkey : key = getKeyWithPrefix record.partyType record.partyId record.partySubType
    record.currency <;> simp [hkey]

theorem get_of_get_del {s : BuiltinStore} {removed key : String} {fspId : Js.Str}
    (h : ownersCache.get { s with cache := s.cache.del removed } key = some fspId) :
    ownersCache.get s key = some fspId := by
  obtain ⟨record, hget, hfspId⟩ := Option.map_eq_some_iff.mp h
  exact Option.map_eq_some_iff.mpr ⟨record, (Cache.get_del_eq_some.mp hget).2, hfspId⟩

section Commands

variable {α : Type} {faults : Faults} {command : Command}
  {Q : (String → Js.Str → Prop) → (String → Js.Str → Prop) → Except JsError α → Prop}
  {seen live : String → Js.Str → Prop}

/-- A command that adds nothing to the cache. -/
theorem backs_send {f : BuiltinStore → α × BuiltinStore}
    (hkeeps : ∀ s key fspId, ownersCache.get (f s).2 key = some fspId →
      ownersCache.get s key = some fspId)
    (herror : ∀ error, Q seen live (.error error))
    (hok : ∀ s, Q (fun key fspId => seen key fspId ∨ Owns (f s).2 key fspId)
      (fun key fspId => ownersCache.get (f s).2 key = some fspId) (.ok (f s).1)) :
    (send faults command f).Backs ownersCache Owns Q seen live := by
  unfold send
  cases faults command with
  | some error => exact herror error
  | none =>
    refine fun s => ⟨fun key fspId hget => ?_, hok s⟩
    rw [Expiring.writes_eq_false hkeeps, if_neg nofun]
    exact hkeeps s key fspId hget

theorem backs_setToCache {record : AssociationRecord}
    {Q : (String → Js.Str → Prop) → (String → Js.Str → Prop) → Except JsError Unit → Prop}
    (hseen : seen (getKeyWithPrefix record.partyType record.partyId record.partySubType
      record.currency) record.fspId)
    (herror : ∀ error, Q seen live (.error error))
    (hok : ∀ s, Q (fun key fspId => seen key fspId ∨ Owns s key fspId)
      (fun key fspId => ownersCache.get (cached s record) key = some fspId) (.ok ())) :
    (setToCache faults record).Backs ownersCache Owns Q seen live := by
  unfold setToCache send
  cases faults .redisSetex with
  | some error => exact herror error
  | none =>
    refine fun s => ⟨fun key fspId hget => ?_, hok s⟩
    change ownersCache.get (cached s record) key = some fspId at hget
    rw [get_cached] at hget
    show if ownersCache.writes (cached · record) s key then _ else _
    rw [writes_cached]
    split_ifs at hget with hkey
    · rw [decide_eq_true hkey, if_pos rfl, hkey, ← Option.some.inj hget]
      exact .inl hseen
    · rw [decide_eq_false hkey, if_neg nofun]
      exact hget

end Commands

/-! ### Calls -/

namespace OracleCall

/-- The call is a lookup that is answered with the FSP. -/
def Vouches (call : OracleCall) (answer : Except JsError Js.Str) (key : String) (fspId : Js.Str) :
    Prop :=
  ∃ partyType partyId partySubType currency,
    call.request = .lookup partyType partyId partySubType currency ∧
      key = getKeyWithPrefix partyType partyId partySubType currency ∧
      answer = .ok fspId ∧ fspId.truthy = true

/-- What a call answers is what it has seen or what is live. -/
def Answers (call : OracleCall) (seen live : String → Js.Str → Prop)
    (answer : Except JsError Js.Str) : Prop :=
  ∀ key fspId, call.Vouches answer key fspId → seen key fspId ∨ live key fspId

variable {call : OracleCall} {seen live : String → Js.Str → Prop}

theorem answers_error (error : JsError) : call.Answers seen live (.error error) := by
  rintro key fspId ⟨_, _, _, _, -, -, hanswer, -⟩
  cases hanswer

theorem answers_null : call.Answers seen live (.ok .null) := by
  rintro key fspId ⟨_, _, _, _, -, -, hanswer, htruthy⟩
  cases hanswer
  cases htruthy

theorem backs_getParticipantFspId {partyType partyId partySubType currency : Js.Str}
    (h : call.request = .lookup partyType partyId partySubType currency) :
    (getParticipantFspId call.faults partyType partyId partySubType currency).Backs ownersCache Owns
      call.Answers seen live := by
  unfold getParticipantFspId getFromCache
  have answers {fspId : Js.Str} {seen live : String → Js.Str → Prop}
      (hbacked : seen (getKeyWithPrefix partyType partyId partySubType currency) fspId ∨
        live (getKeyWithPrefix partyType partyId partySubType currency) fspId) :
      call.Answers seen live (.ok fspId) := by
    rintro key fspId' ⟨_, _, _, _, hrequest, rfl, hanswer, -⟩
    rw [h] at hrequest
    cases hrequest
    cases hanswer
    exact hbacked
  refine .bind (backs_send (fun _ _ _ h => h) answers_error fun s => ?_)
  unfold Proc.ThenBacks
  dsimp only
  cases hget : s.cache.get (getKeyWithPrefix partyType partyId partySubType currency) with
  | some record =>
    apply answers
    right
    show (s.cache.get _).map _ = _
    rw [hget]
    rfl
  | none =>
    refine .bind (.rethrow (backs_send (fun _ _ _ h => h) (fun _ => answers_error _) fun s => ?_))
    unfold Proc.ThenBacks Except.mapError
    dsimp only
    cases hfind : s.parties.find? (lookupQuery partyType partyId partySubType currency).selects with
    | none => exact answers_null
    | some document =>
      have howns : Owns s (getKeyWithPrefix partyType partyId partySubType currency)
          document.fspId :=
        ⟨partyType, partyId, partySubType, currency, rfl, document, List.mem_of_find?_eq_some hfind,
          List.find?_some hfind, rfl⟩
      refine .bind (backs_setToCache (.inr howns) answers_error fun s => ?_)
      exact answers (.inl (.inl (.inr howns)))

theorem backs_associateParticipant (fspId : String) (partyType partyId partySubType currency : Js.Str)
    {Q : (String → Js.Str → Prop) → (String → Js.Str → Prop) → Except JsError Unit → Prop}
    (hQ : ∀ seen live outcome, Q seen live outcome) :
    (associateParticipant call.faults (.val fspId) partyType partyId partySubType currency).Backs
      ownersCache Owns Q seen live := by
  unfold associateParticipant
  refine .bind (backs_send (fun _ _ _ h => h) (fun _ => hQ _ _ _) fun s => ?_)
  unfold Proc.ThenBacks
  dsimp only
  cases s.parties.find? (buildLookupQuery partyId (.val fspId) partyType partySubType
    currency).selects with
  | some _ => exact hQ _ _ _
  | none =>
    refine .bind (.rethrow (backs_send (fun _ _ _ h => h) (fun _ => hQ _ _ _) fun s => ?_))
    refine backs_setToCache (.inr ?_) (fun _ => hQ _ _ _) fun _ => hQ _ _ _
    exact ⟨partyType, partyId, partySubType, currency, rfl, _, List.mem_append_right _
      (List.mem_singleton_self _), lookupQuery_selects_buildLookupQuery, rfl⟩

theorem backs_disassociateParticipant (fspId : String)
    (partyType partyId partySubType currency : Js.Str)
    {Q : (String → Js.Str → Prop) → (String → Js.Str → Prop) → Except JsError Unit → Prop}
    (hQ : ∀ seen live outcome, Q seen live outcome) :
    (disassociateParticipant call.faults (.val fspId) partyType partyId partySubType currency).Backs
      ownersCache Owns Q seen live := by
  unfold disassociateParticipant
  refine .bind (.rethrow (backs_send (fun _ _ _ h => h) (fun _ => hQ _ _ _) fun s => ?_))
  exact backs_send (fun _ _ _ => get_of_get_del) (fun _ => hQ _ _ _) fun _ => hQ _ _ _

theorem thenBacks_null (seen live : String → Js.Str → Prop) (outcome : Except JsError Unit) :
    Proc.ThenBacks ownersCache Owns (fun _ => pure .null) call.Answers seen live outcome := by
  cases outcome with
  | ok _ => exact answers_null
  | error error => exact answers_error error

theorem backs_serve : call.serve.Backs ownersCache Owns call.Answers seen live := by
  unfold serve
  cases hrequest : call.request with
  | associate => exact .bind (backs_associateParticipant _ _ _ _ _ thenBacks_null)
  | disassociate => exact .bind (backs_disassociateParticipant _ _ _ _ _ thenBacks_null)
  | lookup => exact backs_getParticipantFspId hrequest
  | expire key =>
    refine fun s => ⟨fun key' fspId hget => ?_, answers_null⟩
    rw [Expiring.writes_eq_false fun _ _ _ => get_of_get_del, if_neg nofun]
    exact get_of_get_del hget

/-! ### Answers over time -/

variable {ι : Type} [DecidableEq ι] (duration : ℕ) (calls : ι → OracleCall) (s : BuiltinStore)

/-- The calls after some turns, which start with an empty cache. -/
def afterTurns (turns : List (Turn ι)) : TimedPool (Except JsError Js.Str) BuiltinStore String ι :=
  TimedPool.after ownersCache duration (fun i => (calls i).serve) s turns

/-- Bounded staleness: whatever calls run at the same time on the builtin oracles, in whatever order and
with whatever failures, as time passes.  A lookup is answered with an FSP only if the collection held it
for the cache key after some access of a call, a later access of which was made no longer ago than the
cache's duration. -/
theorem staleness_bounded {turns : List (Turn ι)} {i : ι}
    {partyType partyId partySubType currency fspId : Js.Str}
    (hlookup : (calls i).request = .lookup partyType partyId partySubType currency)
    (hwaiting : ((afterTurns duration calls s turns).pool.calls i).settled = false)
    (hanswer : (afterTurns duration calls s (turns ++ [.step i])).pool.calls i = .reject (.ok fspId))
    (htruthy : fspId.truthy = true) :
    ∃ j written seen,
      written ++ [.step j] <+: turns ++ [.step i] ∧ seen ++ [.step j] <+: written ++ [.step j] ∧
        Owns (afterTurns duration calls s (seen ++ [.step j])).pool.state
          (getKeyWithPrefix partyType partyId partySubType currency) fspId ∧
        (afterTurns duration calls s (turns ++ [.step i])).clock ≤
          (afterTurns duration calls s (written ++ [.step j])).clock + duration := by
  have hvouches : (calls i).Vouches (.ok fspId)
      (getKeyWithPrefix partyType partyId partySubType currency) fspId :=
    ⟨partyType, partyId, partySubType, currency, hlookup, rfl, rfl, htruthy⟩
  obtain ⟨j, written, hwritten, ⟨seen, hseen, howns⟩, hclock⟩ :=
    @TimedPool.recent_of_answer _ _ _ _ _ _ _ ownersCache duration (fun i => (calls i).serve) s Owns
      turns i (fun i => (calls i).Vouches) (fun _ => backs_serve) hwaiting _ hanswer _ _ hvouches
  exact ⟨j, written, seen, hwritten, hseen, howns, hclock⟩

/-- A lookup that fills the cache, a removal that does not reach it, and a later lookup. -/
def lateLookup : ℕ → OracleCall
  | 0 => ⟨.none, .lookup (.val "MSISDN") (.val "123") .null .null⟩
  | 1 =>
    { faults := fun command => if command = .redisDel then some ⟨.error, "timeout"⟩ else none
      request := .disassociate "greenbank" (.val "MSISDN") (.val "123") .null .null }
  | _ => ⟨.none, .lookup (.val "MSISDN") (.val "123") .null .null⟩

def beforeLateLookup : List (Turn ℕ) := [.step 0, .step 0, .step 0, .step 1, .wait 20]

def greenbankStore : BuiltinStore where
  parties := [⟨.val "greenbank", .val "MSISDN", .val "123", .undefined, .undefined⟩]
  cache := .empty
  connections := []

theorem staleness_bounded_lateLookup :
    (afterTurns 30 lateLookup greenbankStore (beforeLateLookup ++ [.step 2])).pool.state.parties = [] ∧
      ∃ j written seen,
        written ++ [.step j] <+: beforeLateLookup ++ [.step 2] ∧
          seen ++ [.step j] <+: written ++ [.step j] ∧
          Owns (afterTurns 30 lateLookup greenbankStore (seen ++ [.step j])).pool.state
            (getKeyWithPrefix (.val "MSISDN") (.val "123") .null .null) (.val "greenbank") ∧
          (afterTurns 30 lateLookup greenbankStore (beforeLateLookup ++ [.step 2])).clock ≤
            (afterTurns 30 lateLookup greenbankStore (written ++ [.step j])).clock + 30 := by
  refine ⟨by decide +kernel, ?_⟩
  exact @staleness_bounded ℕ _ 30 lateLookup greenbankStore beforeLateLookup 2
    (.val "MSISDN") (.val "123") .null .null (.val "greenbank") rfl (by decide +kernel) rfl (by decide)

end OracleCall

end AccountLookup
