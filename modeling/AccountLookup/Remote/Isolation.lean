import AccountLookup.Remote.Writes

/-! The parties of a remote oracle: which of them an operation on another party cannot touch. -/

namespace AccountLookup

open Async

/-- What the associations of the remote oracle are for. -/
structure RemoteParty where
  partyId : String
  partyType : String
  partySubType : Option String
  currency : Option String
  deriving DecidableEq, Repr

namespace RemoteParty

/-- The key of the party in the map. -/
def key (party : RemoteParty) : String :=
  RemoteOracle.createKey party.partyId party.partyType (.ofOption party.currency)

def getParticipantFspId (party : RemoteParty) : Proc JsError RemoteOracle Js.Str :=
  RemoteOracle.getParticipantFspId party.partyType party.partyId (.ofOption party.partySubType)
    (.ofOption party.currency)

def associateParticipant (party : RemoteParty) (faults : Faults) (fspId : Js.Str) :
    Proc JsError RemoteOracle Unit :=
  RemoteOracle.associateParticipant faults fspId party.partyType party.partyId
    (.ofOption party.partySubType) (.ofOption party.currency)

def disassociateParticipant (party : RemoteParty) (faults : Faults) (fspId : Js.Str) :
    Proc JsError RemoteOracle Unit :=
  RemoteOracle.disassociateParticipant faults fspId party.partyType party.partyId
    (.ofOption party.partySubType) (.ofOption party.currency)

/-- Every operation on the party has the same result in the two states. -/
structure SameResults (party : RemoteParty) (s t : RemoteOracle) : Prop where
  getParticipantFspId : (party.getParticipantFspId.run s).1 = (party.getParticipantFspId.run t).1
  associateParticipant : ∀ faults fspId,
    ((party.associateParticipant faults fspId).run s).1 =
      ((party.associateParticipant faults fspId).run t).1
  disassociateParticipant : ∀ faults fspId,
    ((party.disassociateParticipant faults fspId).run s).1 =
      ((party.disassociateParticipant faults fspId).run t).1

/-- The results depend on what the map has under the party's key and on the path of the file. -/
theorem sameResults_of_get {party : RemoteParty} {s t : RemoteOracle}
    (hget : s.associations.get party.key = t.associations.get party.key)
    (hpath : s.filePath = t.filePath) : party.SameResults s t := by
  unfold key at hget
  constructor
  · simp only [RemoteParty.getParticipantFspId, RemoteOracle.run_getParticipantFspId, hget]
  · intro faults fspId
    simp only [RemoteParty.associateParticipant, RemoteOracle.associateParticipant, Proc.run_turn,
      Proc.run_bind, Proc.run_read, hget]
    cases t.associations.get
        (RemoteOracle.createKey party.partyId party.partyType (.ofOption party.currency)) with
    | some association => rfl
    | none =>
      simp only [Proc.run_bind, Proc.run_modify, RemoteOracle.run_saveToFile,
        RemoteOracle.run_writeFile, hpath]
      cases faults .writeFile <;> rfl
  · intro faults fspId
    simp only [RemoteParty.disassociateParticipant, RemoteOracle.disassociateParticipant,
      Proc.run_turn, Proc.run_bind, Proc.run_read, hget]
    cases t.associations.get
        (RemoteOracle.createKey party.partyId party.partyType (.ofOption party.currency)) with
    | none => rfl
    | some association =>
      by_cases howner : association.fspId = fspId
      · simp only [howner, if_true, Proc.run_bind, Proc.run_modify, RemoteOracle.run_saveToFile,
          RemoteOracle.run_writeFile, hpath]
        cases faults .writeFile <;> rfl
      · simp only [howner, if_false, Proc.run_reject]

end RemoteParty

/-- The call is an operation on the party. -/
structure AssociationCall.On (call : AssociationCall) (party : RemoteParty) : Prop where
  partyId : call.partyId = party.partyId
  partyType : call.partyType = party.partyType
  partySubType : call.partySubType = .ofOption party.partySubType
  currency : call.currency = .ofOption party.currency

theorem AssociationCall.On.key_eq {call : AssociationCall} {party : RemoteParty}
    (h : call.On party) : call.key = party.key := by
  unfold AssociationCall.key RemoteParty.key
  rw [h.partyId, h.partyType, h.currency]

namespace RemoteOracle

section Requests

variable {ι : Type} {calls : ι → AssociationCall} {filePath : String}
variable {pool : Pool JsError RemoteOracle ι}

/-- A step of a request leaves what the map has under the keys of the others, and the path of the
file. -/
theorem Serving.state_step [DecidableEq ι] (h : Serving calls filePath pool) (i : ι) :
    (∀ key, key ≠ (calls i).key →
      (pool.step i).state.associations.get key = pool.state.associations.get key) ∧
      (pool.step i).state.filePath = pool.state.filePath := by
  have hat := h.at_call i
  show (∀ key, key ≠ (calls i).key →
    ((pool.calls i).step pool.state).2.associations.get key = pool.state.associations.get key) ∧
      ((pool.calls i).step pool.state).2.filePath = pool.state.filePath
  generalize pool.calls i = p at hat
  cases hat with
  | received =>
    by_cases hpasses : (calls i).Passes pool.state
    · rw [AssociationCall.step_of_passes hpasses]
      exact ⟨fun key hkey => AssociationCall.get_change_of_ne hkey _, rfl⟩
    · obtain ⟨error, hstep⟩ := AssociationCall.step_of_not_passes hpasses
      rw [hstep]
      exact ⟨fun key _ => rfl, rfl⟩
  | writing contents =>
    cases hfault : (calls i).faults .writeFile with
    | some error =>
      rw [Proc.step_of_settled _ (settled_writeFile hfault contents)]
      exact ⟨fun key _ => rfl, rfl⟩
    | none =>
      rw [step_writeFile hfault]
      exact ⟨fun key _ => rfl, rfl⟩
  | settled hsettled =>
    rw [Proc.step_of_settled _ hsettled]
    exact ⟨fun key _ => rfl, rfl⟩

end Requests

/-- Whatever requests an oracle that starts empty serves, and in whatever order it takes their
steps, no step of a request on `other` changes the result of an operation on `party`. -/
def Isolated (filePath : String) (party other : RemoteParty) : Prop :=
  ∀ (ι : Type) [DecidableEq ι] (calls : ι → AssociationCall) (schedule : List ι) (i : ι),
    (calls i).On other →
      party.SameResults ((serving calls filePath []).run schedule).state
        (((serving calls filePath []).run schedule).step i).state

theorem isolated_of_key_ne {filePath : String} {party other : RemoteParty}
    (h : party.key ≠ other.key) : Isolated filePath party other := by
  intro ι _ calls schedule i hother
  have hserving : Serving calls filePath ((serving calls filePath []).run schedule) :=
    Runs.invariant_of_step (fun _ j hpool => hpool.step j) serving_start schedule
  have hkey : party.key ≠ (calls i).key := by
    rw [hother.key_eq]
    exact h
  obtain ⟨hget, hpath⟩ := hserving.state_step i
  exact RemoteParty.sameResults_of_get (hget party.key hkey).symm hpath.symm

/-- The association of a party with `bank`. -/
def associating (party : RemoteParty) : AssociationCall where
  faults := .none
  kind := .associate
  fspId := .val "bank"
  partyType := party.partyType
  partyId := party.partyId
  partySubType := .ofOption party.partySubType
  currency := .ofOption party.currency

/-- After an association of `other` from the empty map, there is one under the key of `party`. -/
theorem not_isolated_of_key_eq {filePath : String} {party other : RemoteParty}
    (h : party.key = other.key) : ¬Isolated filePath party other := by
  intro hisolated
  have hsame := hisolated Unit (fun _ => associating other) [] () ⟨rfl, rfl, rfl, rfl⟩
  have hpasses : (associating other).Passes (empty filePath) := rfl
  have hstate : ((serving (fun _ : Unit => associating other) filePath []).step ()).state =
      (empty filePath).holding ((associating other).change .empty) :=
    congrArg Prod.snd (AssociationCall.step_of_passes hpasses)
  have hget : ((associating other).change .empty).get party.key =
      some ⟨.val "bank", other.partyType, other.partyId, .ofOption other.partySubType,
        .ofOption other.currency⟩ := by
    rw [h]
    exact Js.Map.get_set_self rfl _
  have hafter : (party.getParticipantFspId.run
      ((serving (fun _ : Unit => associating other) filePath []).step ()).state).1 =
        .ok (.val "bank") := by
    unfold RemoteParty.getParticipantFspId
    rw [run_getParticipantFspId, hstate]
    unfold RemoteParty.key at hget
    simp only [holding, hget, Option.map_some, Option.getD_some]
  have hbefore : (party.getParticipantFspId.run (empty filePath)).1 = .ok .null := rfl
  have hresults := hbefore.symm.trans (hsame.getParticipantFspId.trans hafter)
  cases hresults

/-- The operations on `other` never change a result for `party` exactly when the two have different
keys. -/
theorem isolated_iff_key_ne (filePath : String) (party other : RemoteParty) :
    Isolated filePath party other ↔ party.key ≠ other.key := by
  constructor
  · intro hisolated hkey
    exact not_isolated_of_key_eq hkey hisolated
  · exact isolated_of_key_ne

/-- The accounts of two branches of a business have one key. -/
theorem not_isolated_branches :
    ¬∀ (filePath : String) (party other : RemoteParty), party ≠ other →
      Isolated filePath party other := by
  intro hall
  have hne : (⟨"acme", "BUSINESS", some "NORTH", some "USD"⟩ : RemoteParty) ≠
      ⟨"acme", "BUSINESS", some "SOUTH", some "USD"⟩ := by
    decide
  refine not_isolated_of_key_eq ?_ (hall "/app/data/db.json" _ _ hne)
  rfl

-- A separator in an identifier makes a key ambiguous, and so does a currency that is called `NULL`.
example : RemoteParty.key ⟨"a-b", "C", none, none⟩ = RemoteParty.key ⟨"a", "b-C", none, none⟩ := by
  decide +kernel

example :
    RemoteParty.key ⟨"a", "C", none, none⟩ = RemoteParty.key ⟨"a", "C", none, some "NULL"⟩ := by
  decide +kernel

end RemoteOracle

end AccountLookup
