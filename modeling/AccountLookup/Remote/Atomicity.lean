import AccountLookup.Remote.Database

/-! Calls of the remote oracle that reject: which of them have still changed the map. -/

namespace AccountLookup

open Async RemoteOracle

namespace AssociationCall

/-- If the call rejects, the oracle is as it was before, its map and its file included. -/
def Unmade (s : RemoteOracle) (call : AssociationCall) : Prop :=
  ∀ error, (call.perform.run s).1 = .error error → call.after s = s

/-- The call passes its check, and the write of the map that it changes fails. -/
def HalfDone (s : RemoteOracle) (call : AssociationCall) : Prop :=
  call.Passes s ∧ (call.faults .writeFile).isSome = true

variable {s : RemoteOracle} {call : AssociationCall}

theorem run_of_passes (h : call.Passes s) :
    call.perform.run s =
      (writeFile call.faults s.filePath (call.change s.associations).values).run
        (s.holding (call.change s.associations)) := by
  rw [← Proc.run_step, step_of_passes h]

theorem after_of_not_passes (h : ¬call.Passes s) : call.after s = s := by
  obtain ⟨error, hstep⟩ := step_of_not_passes h
  unfold after
  rw [← Proc.run_step, hstep]
  rfl

/-- The change of a call that passes its check shows under its key. -/
theorem get_change_ne (h : call.Passes s) :
    (call.change s.associations).get call.key ≠ s.associations.get call.key := by
  unfold Passes at h
  unfold change
  cases hkind : call.kind with
  | associate =>
    rw [hkind] at h
    dsimp only at h ⊢
    rw [h, Js.Map.get_set_self h]
    exact nofun
  | disassociate =>
    rw [hkind] at h
    obtain ⟨association, hget, -⟩ := h
    dsimp only
    rw [hget, Js.Map.get_delete_self]
    exact nofun

/-- The check does not pass again in the changed map. -/
theorem not_passes_change (h : call.Passes s) :
    ¬call.Passes (s.holding (call.change s.associations)) := by
  intro hagain
  unfold Passes change holding at *
  cases hkind : call.kind with
  | associate =>
    rw [hkind] at h hagain
    dsimp only at h hagain
    rw [Js.Map.get_set_self h] at hagain
    cases hagain
  | disassociate =>
    rw [hkind] at hagain
    obtain ⟨association, hget, -⟩ := hagain
    dsimp only at hget
    rw [Js.Map.get_delete_self] at hget
    cases hget

/-- A call that is half done rejects with its change in the map alone. -/
theorem run_of_halfDone (h : HalfDone s call) :
    (∃ error, (call.perform.run s).1 = .error error) ∧
      call.after s = s.holding (call.change s.associations) := by
  obtain ⟨hpasses, hfault⟩ := h
  obtain ⟨error, hfault⟩ := Option.isSome_iff_exists.mp hfault
  unfold after
  rw [run_of_passes hpasses, run_writeFile, hfault]
  exact ⟨⟨_, rfl⟩, rfl⟩

/-- The same call is refused when it is made again. -/
theorem halfDone_refused (h : HalfDone s call) (faults : Faults) :
    ∃ error, (({ call with faults } : AssociationCall).perform.run (call.after s)).1 =
      .error error := by
  rw [(run_of_halfDone h).2]
  have hagain : ¬({ call with faults } : AssociationCall).Passes
      (s.holding (call.change s.associations)) := not_passes_change h.1
  obtain ⟨error, hstep⟩ := step_of_not_passes hagain
  rw [← Proc.run_step, hstep]
  exact ⟨error, rfl⟩

theorem unmade_iff : Unmade s call ↔ ¬HalfDone s call := by
  constructor
  · intro hunmade hhalf
    obtain ⟨⟨error, hrejects⟩, hafter⟩ := run_of_halfDone hhalf
    have hsame : s.holding (call.change s.associations) = s :=
      hafter.symm.trans (hunmade error hrejects)
    have hget : (call.change s.associations).get call.key = s.associations.get call.key :=
      congrArg (fun t : RemoteOracle => t.associations.get call.key) hsame
    exact get_change_ne hhalf.1 hget
  · intro hwhole error hrejects
    by_cases hpasses : call.Passes s
    · have hfault : call.faults .writeFile = none := by
        by_contra hfault
        exact hwhole ⟨hpasses, Option.isSome_iff_ne_none.mpr hfault⟩
      rw [run_of_passes hpasses, run_writeFile, hfault] at hrejects
      cases hrejects
    · exact after_of_not_passes hpasses

/-- In every run, whatever state it starts in, all the calls that reject leave the oracle as it was
exactly when none of its calls is half done. -/
theorem each_unmade_iff (s : RemoteOracle) (calls : List AssociationCall) :
    Runs.Each after Unmade s calls ↔ Runs.Each after (fun t call => ¬HalfDone t call) s calls :=
  Runs.each_congr (fun _ _ _ => trivial) (fun _ _ _ => unmade_iff)
    (J := fun _ => True) trivial calls

/-- The disk has no space left for the file. -/
def diskFull : Faults := fun command =>
  if command = .writeFile then some ⟨.error, "ENOSPC: no space left on device, write"⟩ else none

def unwritten : AssociationCall where
  faults := diskFull
  kind := .associate
  fspId := .val "bank"
  partyType := "MSISDN"
  partyId := "1"
  partySubType := .null
  currency := .null

/-- The association stays in the map after it was rejected. -/
theorem not_unmade : ¬Runs.Each after Unmade (loaded "/app/data/db.json" []) [unwritten] := by
  intro h
  have hhalf : HalfDone (loaded "/app/data/db.json" []) unwritten := ⟨rfl, rfl⟩
  exact unmade_iff.mp h.1 hhalf

end AssociationCall

end AccountLookup
