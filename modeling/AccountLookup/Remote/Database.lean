import AccountLookup.Handling.Changes
import AccountLookup.Remote.Provider
import AccountLookup.Runs.Invariant

/-! The file of the remote oracle: a map that is saved and loaded again. -/

namespace AccountLookup

open Async

/-- The two differ at most where one lacks a field that the other has as `null`. -/
structure Association.Agrees (a b : Association) : Prop where
  fspId : a.fspId = b.fspId
  partyType : a.partyType = b.partyType
  partyId : a.partyId = b.partyId
  partySubType : a.partySubType.orNull = b.partySubType.orNull
  currency : a.currency.orNull = b.currency.orNull

/-- A call that changes the associations of the remote oracle, and the commands that fail in it. -/
structure AssociationCall where
  faults : Faults
  kind : ChangeKind
  fspId : Js.Str
  partyType : String
  partyId : String
  partySubType : Js.Str
  currency : Js.Str

namespace RemoteOracle

/-- The key of an association. -/
def keyOf (association : Association) : String :=
  createKey association.partyId association.partyType association.currency

theorem newAssociation_agrees (record : Association) : (newAssociation record).Agrees record :=
  ⟨rfl, rfl, rfl, Js.Field.orNull_orNull _, Js.Field.orNull_orNull _⟩

@[simp] theorem keyOf_newAssociation (record : Association) :
    keyOf (newAssociation record) = keyOf record := by
  unfold keyOf newAssociation createKey
  cases record.currency <;> rfl

@[simp] theorem newAssociation_newAssociation (record : Association) :
    newAssociation (newAssociation record) = newAssociation record := by
  simp [newAssociation]

/-! ### Loading -/

/-- The map that a fresh oracle holds after it has loaded the records of a file. -/
def load (records : List Association) : Js.Map String Association := records.foldl loadRecord .empty

theorem load_eq (records : List Association) :
    load records = (records.map newAssociation).foldl (Js.Map.insertNew keyOf) .empty := by
  rw [List.foldl_map]
  rfl

/-- A file that can be read is loaded, and the map that the oracle held before is lost. -/
theorem run_loadFromFile {faults : Faults} (h : faults .readFile = none) (s : RemoteOracle) :
    (loadFromFile faults).run s = (.ok (), { s with associations := load s.file }) := by
  unfold loadFromFile
  rw [Proc.run_bind_ok (Proc.run_read _ _), Proc.run_bind_ok (Proc.run_modify _ _), Proc.run_bind,
    run_send_rethrow, h]
  rfl

theorem keyed_load (records : List Association) : (load records).KeyedBy keyOf := by
  rw [load_eq]
  exact Js.Map.keyedBy_empty.foldl_insertNew _

theorem mem_load {records : List Association} {entry : String × Association}
    (h : entry ∈ (load records).entries) : ∃ record ∈ records, entry.2 = newAssociation record := by
  rw [load_eq] at h
  rcases Js.Map.mem_foldl_insertNew h with hmem | hmem
  · cases hmem
  · obtain ⟨record, hrecord, hentry⟩ := List.mem_map.mp hmem
    exact ⟨record, hrecord, hentry.symm⟩

/-- The records that are saved from a map give the map again, with `null` for what an association
lacks. -/
theorem entries_load_values {m : Js.Map String Association} (h : m.KeyedBy keyOf) :
    (load m.values).entries = m.entries.map fun entry => (entry.1, newAssociation entry.2) := by
  rw [load_eq]
  exact h.refill keyOf_newAssociation

theorem entries_load_values_agree {m : Js.Map String Association} (h : m.KeyedBy keyOf) :
    List.Forall₂ (fun entry entry' => entry.1 = entry'.1 ∧ entry.2.Agrees entry'.2)
      (load m.values).entries m.entries := by
  rw [entries_load_values h, List.forall₂_map_left_iff]
  apply List.forall₂_same.mpr
  intro entry _
  exact ⟨rfl, newAssociation_agrees entry.2⟩

/-- Under each key, the map that is loaded again has what the saved map had. -/
theorem get_load_values {m : Js.Map String Association} (h : m.KeyedBy keyOf) (key : String) :
    (load m.values).get key = (m.get key).map newAssociation := by
  unfold Js.Map.get
  rw [entries_load_values h, List.find?_map, Option.map_map, Option.map_map]
  rfl

/-- A map that was loaded is the same after it is saved and loaded again. -/
theorem load_values_load (records : List Association) : load (load records).values = load records := by
  apply Js.Map.ext
  rw [entries_load_values (keyed_load records)]
  conv_rhs => rw [← List.map_id (load records).entries]
  apply List.map_congr_left
  intro entry hmem
  obtain ⟨record, -, hentry⟩ := mem_load hmem
  rw [hentry, newAssociation_newAssociation, ← hentry]
  rfl

/-! ### Changes -/

end RemoteOracle

open RemoteOracle

namespace AssociationCall

def perform (call : AssociationCall) : Proc JsError RemoteOracle Unit :=
  match call.kind with
  | .associate =>
    associateParticipant call.faults call.fspId call.partyType call.partyId call.partySubType
      call.currency
  | .disassociate =>
    disassociateParticipant call.faults call.fspId call.partyType call.partyId call.partySubType
      call.currency

/-- The oracle when the call has settled. -/
def after (s : RemoteOracle) (call : AssociationCall) : RemoteOracle := (call.perform.run s).2

/-- The key under which the call reads and changes the map. -/
def key (call : AssociationCall) : String := createKey call.partyId call.partyType call.currency

/-- The check of the call succeeds: the key is free, or the association under it is the FSP's. -/
def Passes (s : RemoteOracle) (call : AssociationCall) : Prop :=
  match call.kind with
  | .associate => s.associations.get call.key = none
  | .disassociate => ∃ association, s.associations.get call.key = some association ∧
      association.fspId = call.fspId

/-- The map with the association that the call adds, or without the one that it removes. -/
def change (call : AssociationCall) (m : Js.Map String Association) : Js.Map String Association :=
  match call.kind with
  | .associate => m.set call.key
      { fspId := call.fspId
        partyType := call.partyType
        partyId := call.partyId
        partySubType := call.partySubType
        currency := call.currency }
  | .disassociate => m.delete call.key

variable {call : AssociationCall} {s : RemoteOracle}

/-- A call whose check fails is refused in its first step. -/
theorem step_of_not_passes (h : ¬call.Passes s) :
    ∃ error, call.perform.step s = (.reject error, s) := by
  unfold Passes at h
  unfold perform
  cases hkind : call.kind with
  | associate =>
    rw [hkind] at h
    rcases step_associateParticipant call.faults s call.fspId call.partyType call.partyId
      call.partySubType call.currency with ⟨-, hstep⟩ | ⟨hnew, -⟩
    · exact hstep
    · exact absurd hnew h
  | disassociate =>
    rw [hkind] at h
    rcases step_disassociateParticipant call.faults s call.fspId call.partyType call.partyId
      call.partySubType call.currency with ⟨-, hstep⟩ | ⟨howned, -⟩
    · exact hstep
    · exact absurd howned h

/-- A call whose check succeeds changes the map in its first step, and the write of the map is left. -/
theorem step_of_passes (h : call.Passes s) :
    call.perform.step s = (writeFile call.faults s.filePath (call.change s.associations).values,
      s.holding (call.change s.associations)) := by
  unfold Passes at h
  unfold perform change
  cases hkind : call.kind with
  | associate =>
    rw [hkind] at h
    rcases step_associateParticipant call.faults s call.fspId call.partyType call.partyId
      call.partySubType call.currency with ⟨⟨association, hget⟩, -⟩ | ⟨-, hstep⟩
    · exact absurd (hget.symm.trans h) nofun
    · exact hstep
  | disassociate =>
    rw [hkind] at h
    rcases step_disassociateParticipant call.faults s call.fspId call.partyType call.partyId
      call.partySubType call.currency with ⟨hnone, -⟩ | ⟨-, hstep⟩
    · obtain ⟨association, hget, howner⟩ := h
      exact absurd howner (hnone association hget)
    · exact hstep

theorem keyed_change (h : call.Passes s) (hkeyed : s.associations.KeyedBy keyOf) :
    (call.change s.associations).KeyedBy keyOf := by
  unfold Passes at h
  unfold change
  cases hkind : call.kind with
  | associate =>
    rw [hkind] at h
    exact hkeyed.set_new ⟨call.fspId, call.partyType, call.partyId, call.partySubType,
      call.currency⟩ (Js.Map.get_eq_none_iff.mp h)
  | disassociate => exact hkeyed.delete _

theorem get_change_of_ne {key : String} (h : key ≠ call.key) (m : Js.Map String Association) :
    (call.change m).get key = m.get key := by
  unfold change
  cases call.kind with
  | associate => exact Js.Map.get_set_of_ne h _
  | disassociate => exact Js.Map.get_delete_of_ne h

/-- A call is refused in its first step, or the map has one association more or less and the write of
the map is left. -/
theorem step_perform (call : AssociationCall) {s : RemoteOracle}
    (h : s.associations.KeyedBy keyOf) :
    (∃ error, call.perform.step s = (.reject error, s)) ∨
      ∃ m : Js.Map String Association, m.KeyedBy keyOf ∧
        call.perform.step s = (writeFile call.faults s.filePath m.values, s.holding m) := by
  by_cases hpasses : call.Passes s
  · exact .inr ⟨_, keyed_change hpasses h, step_of_passes hpasses⟩
  · exact .inl (step_of_not_passes hpasses)

theorem keyed_after (s : RemoteOracle) (call : AssociationCall)
    (h : s.associations.KeyedBy keyOf) : (after s call).associations.KeyedBy keyOf := by
  unfold after
  rw [← Proc.run_step]
  rcases call.step_perform h with ⟨error, hstep⟩ | ⟨m, hm, hstep⟩ <;> rw [hstep]
  · exact h
  · rw [run_writeFile]
    cases call.faults .writeFile with
    | some error => exact hm
    | none => exact hm

end AssociationCall

namespace RemoteOracle

/-- A fresh oracle that has loaded its file. -/
def loaded (filePath : String) (records : List Association) : RemoteOracle :=
  ((loadFromFile .none).run ⟨filePath, .empty, records⟩).2

/-- The file after the oracle has saved its map. -/
def saved (s : RemoteOracle) : List Association := ((saveToFile .none >>= id).run s).2.file

theorem loaded_eq (filePath : String) (records : List Association) :
    loaded filePath records = ⟨filePath, load records, records⟩ := by
  unfold loaded
  rw [run_loadFromFile rfl]

theorem saved_eq (s : RemoteOracle) : s.saved = s.associations.values := by
  unfold saved
  rw [Proc.run_bind_ok (run_saveToFile _ s)]
  rfl

theorem keyed_loaded (filePath : String) (records : List Association) :
    (loaded filePath records).associations.KeyedBy keyOf := by
  rw [loaded_eq]
  exact keyed_load records

/-- Every map that the service can hold has each association under its own key. -/
theorem keyed_after_calls (filePath : String) (records : List Association)
    (calls : List AssociationCall) :
    (calls.foldl AssociationCall.after (loaded filePath records)).associations.KeyedBy keyOf :=
  Runs.invariant_of_step (P := fun s : RemoteOracle => s.associations.KeyedBy keyOf)
    AssociationCall.keyed_after (keyed_loaded filePath records) calls

theorem run_getParticipantFspId (partyType partyId : String) (partySubType currency : Js.Str)
    (s : RemoteOracle) :
    (getParticipantFspId partyType partyId partySubType currency).run s =
      (.ok (((s.associations.get (createKey partyId partyType currency)).map (·.fspId)).getD .null),
        s) := by
  unfold getParticipantFspId
  rw [Proc.run_bind_ok (Proc.run_read _ _)]
  cases s.associations.get (createKey partyId partyType currency) <;> rfl

/-- A file loads as the map that was saved to it, whatever calls led to that map, and the answers are
the same; and the map that a file loads as is kept by saving it and loading it again. -/
theorem loaded_saved (filePath : String) (records : List Association)
    (calls : List AssociationCall) :
    let s := calls.foldl AssociationCall.after (loaded filePath records)
    let t := loaded filePath s.saved
    List.Forall₂ (fun entry entry' => entry.1 = entry'.1 ∧ entry.2.Agrees entry'.2)
        t.associations.entries s.associations.entries ∧
      (∀ partyType partyId partySubType currency,
        ((getParticipantFspId partyType partyId partySubType currency).run t).1 =
          ((getParticipantFspId partyType partyId partySubType currency).run s).1) ∧
      (loaded filePath (loaded filePath records).saved).associations =
        (loaded filePath records).associations := by
  dsimp only
  have hkeyed := keyed_after_calls filePath records calls
  generalize calls.foldl AssociationCall.after (loaded filePath records) = s at *
  simp only [saved_eq, loaded_eq]
  refine ⟨entries_load_values_agree hkeyed, ?_, load_values_load records⟩
  intro partyType partyId partySubType currency
  rw [run_getParticipantFspId, run_getParticipantFspId]
  dsimp only
  rw [get_load_values hkeyed, Option.map_map]
  rfl

end RemoteOracle

end AccountLookup
