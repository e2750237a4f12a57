import AccountLookup.Async.Linearization
import AccountLookup.Remote.Database

/-! Requests that the remote oracle serves at the same time.  Each changes the map in its first step
and writes the whole file in its second, so the order of the writes need not be that of the changes. -/

namespace AccountLookup

open Async RemoteOracle

/-- The maps have associations under the same keys, and those of a key agree. -/
def SameAssociations (m m' : Js.Map String Association) : Prop :=
  ∀ key, Option.Rel Association.Agrees (m.get key) (m'.get key)

namespace Association

theorem Agrees.refl (association : Association) : association.Agrees association :=
  ⟨rfl, rfl, rfl, rfl, rfl⟩

theorem rel_agrees_refl (association : Option Association) :
    Option.Rel Agrees association association := by
  cases association with
  | none => exact .none
  | some association => exact .some (.refl association)

/-- What is lost of an association in the file is no matter. -/
theorem rel_agrees_newAssociation {a b : Option Association} :
    Option.Rel Agrees (a.map newAssociation) b ↔ Option.Rel Agrees a b := by
  have hagrees (a b : Association) : (newAssociation a).Agrees b ↔ a.Agrees b := by
    have hsame := newAssociation_agrees a
    constructor
    · intro h
      exact ⟨hsame.fspId.symm.trans h.fspId, hsame.partyType.symm.trans h.partyType,
        hsame.partyId.symm.trans h.partyId, hsame.partySubType.symm.trans h.partySubType,
        hsame.currency.symm.trans h.currency⟩
    · intro h
      exact ⟨hsame.fspId.trans h.fspId, hsame.partyType.trans h.partyType,
        hsame.partyId.trans h.partyId, hsame.partySubType.trans h.partySubType,
        hsame.currency.trans h.currency⟩
  cases a <;> cases b <;> simp [hagrees]

end Association

namespace AssociationCall

/-- The association that a request leaves under its key. -/
def leaves (call : AssociationCall) : Option Association :=
  match call.kind with
  | .associate => some
      { fspId := call.fspId
        partyType := call.partyType
        partyId := call.partyId
        partySubType := call.partySubType
        currency := call.currency }
  | .disassociate => none

theorem get_change {call : AssociationCall} {s : RemoteOracle} (h : call.Passes s) (key : String) :
    (call.change s.associations).get key =
      if call.key = key then call.leaves else s.associations.get key := by
  by_cases hkey : call.key = key
  · subst hkey
    rw [if_pos rfl]
    unfold Passes at h
    unfold change leaves
    cases hkind : call.kind with
    | associate =>
      rw [hkind] at h
      exact Js.Map.get_set_self h _
    | disassociate => exact Js.Map.get_delete_self _ _
  · rw [if_neg hkey]
    exact get_change_of_ne (Ne.symm hkey) _

end AssociationCall

namespace RemoteOracle

section Requests

variable {ι : Type} (calls : ι → AssociationCall) (filePath : String) (records : List Association)

/-- The requests `calls` before the first of them is served, by an oracle that has loaded its file. -/
def serving : Pool JsError RemoteOracle ι where
  state := loaded filePath records
  calls i := (calls i).perform

/-- What is under a key when the requests have been served in the given order: the association that the
last request for the key leaves, or the one of the file. -/
def lastWord (order : List ι) (key : String) : Option Association :=
  order.foldl (fun word i => if (calls i).key = key then (calls i).leaves else word)
    ((load records).get key)

/-- A request is to be served, has its write left, or has settled. -/
inductive At (call : AssociationCall) (filePath : String) : Proc JsError RemoteOracle Unit → Prop
  | received : At call filePath call.perform
  | writing (contents : List Association) : At call filePath (writeFile call.faults filePath contents)
  | settled {p : Proc JsError RemoteOracle Unit} (h : p.settled = true) : At call filePath p

/-- What holds of the oracle and of all its requests after every step. -/
structure Serving (pool : Pool JsError RemoteOracle ι) : Prop where
  path : pool.state.filePath = filePath
  keyed : pool.state.associations.KeyedBy keyOf
  at_call : ∀ i, At (calls i) filePath (pool.calls i)

/-- The contents are those of the map when the requests have been served in the given order. -/
def Snapshot (order : List ι) (contents : List Association) : Prop :=
  ∃ m : Js.Map String Association, m.KeyedBy keyOf ∧
    (∀ key, m.get key = lastWord calls records order key) ∧ contents = m.values

variable {calls filePath records} {pool : Pool JsError RemoteOracle ι} {schedule : List ι} {i : ι}

theorem step_writeFile {faults : Faults} (h : faults .writeFile = none)
    (contents : List Association) (s : RemoteOracle) :
    (writeFile faults filePath contents).step s = (.resolve (), { s with file := contents }) := by
  unfold writeFile send
  rw [h]
  rfl

theorem settled_writeFile {faults : Faults} {error : JsError} (h : faults .writeFile = some error)
    (contents : List Association) : (writeFile faults filePath contents).settled = true := by
  unfold writeFile send
  rw [h]
  rfl

theorem writeFile_ne_resolve (faults : Faults) (contents : List Association) :
    writeFile faults filePath contents ≠ .resolve () := by
  unfold writeFile send
  split
  · exact nofun
  · exact nofun

theorem serving_start : Serving calls filePath (serving calls filePath records) := by
  refine ⟨?_, keyed_loaded filePath records, fun i => .received⟩
  simp only [serving, loaded_eq]

theorem lastWord_append (order : List ι) (i : ι) (key : String) :
    lastWord calls records (order ++ [i]) key =
      if (calls i).key = key then (calls i).leaves else lastWord calls records order key := by
  simp [lastWord]

/-- A snapshot loads as what the requests leave. -/
theorem Snapshot.get_load {order : List ι} {contents : List Association}
    (h : Snapshot calls records order contents) (key : String) :
    (load contents).get key = (lastWord calls records order key).map newAssociation := by
  obtain ⟨m, hkeyed, hget, rfl⟩ := h
  rw [get_load_values hkeyed, hget]

variable [DecidableEq ι]

theorem Serving.step (h : Serving calls filePath pool) (i : ι) :
    Serving calls filePath (pool.step i) := by
  have hstay : (pool.calls i).settled = true → Serving calls filePath (pool.step i) := by
    intro hsettled
    rw [Pool.step_of_settled hsettled]
    exact h
  have hnext {p : Proc JsError RemoteOracle Unit} (hp : At (calls i) filePath p) (j : ι) :
      At (calls j) filePath (Function.update pool.calls i p j) := by
    by_cases hj : j = i
    · subst hj
      rw [Function.update_self]
      exact hp
    · rw [Function.update_of_ne hj]
      exact h.at_call j
  generalize hp : pool.calls i = p at *
  cases hp ▸ h.at_call i with
  | received =>
    rcases (calls i).step_perform h.keyed with ⟨error, hstep⟩ | ⟨m, hm, hstep⟩
    · rw [← hp] at hstep
      rw [Pool.step_eq hstep]
      exact ⟨h.path, h.keyed, hnext (.settled (p := .reject error) rfl)⟩
    · rw [← hp] at hstep
      rw [Pool.step_eq hstep]
      refine ⟨h.path, hm, hnext ?_⟩
      rw [h.path]
      exact .writing m.values
  | writing contents =>
    cases hfault : (calls i).faults .writeFile with
    | some error => exact hstay (settled_writeFile hfault contents)
    | none =>
      have hstep := @step_writeFile filePath _ hfault contents pool.state
      rw [← hp] at hstep
      rw [Pool.step_eq hstep]
      exact ⟨h.path, h.keyed, hnext (.settled (p := .resolve ()) rfl)⟩
  | settled hsettled => exact hstay hsettled

/-- What holds after the steps of a schedule in which no request was refused and no write failed. -/
structure Served (calls : ι → AssociationCall) (filePath : String) (records : List Association)
    (pool : Pool JsError RemoteOracle ι) (schedule : List ι) : Prop where
  map : ∀ key, pool.state.associations.get key = lastWord calls records (Pool.started schedule) key
  waiting : ∀ i ∉ schedule, pool.calls i = (calls i).perform
  writing : ∀ i ∈ schedule, i ∉ Pool.resumed schedule → ∃ contents,
    Snapshot calls records (Lists.upTo (Pool.started schedule) i) contents ∧
      pool.calls i = writeFile (calls i).faults filePath contents
  written : ∀ i ∈ Pool.resumed schedule, pool.calls i = .resolve ()
  file : ∀ i ∈ (Pool.resumed schedule).getLast?,
    Snapshot calls records (Lists.upTo (Pool.started schedule) i) pool.state.file

/-- A request is served: the first step of it. -/
theorem Served.serves (h : Served calls filePath records pool schedule)
    (hserving : Serving calls filePath pool) (hi : i ∉ schedule)
    (hpasses : (calls i).Passes pool.state) :
    Served calls filePath records (pool.step i) (schedule ++ [i]) := by
  have hstep : pool.step i =
      ⟨pool.state.holding ((calls i).change pool.state.associations),
        Function.update pool.calls i
          (writeFile (calls i).faults filePath ((calls i).change pool.state.associations).values)⟩ := by
    rw [← hserving.path]
    exact Pool.step_eq (by rw [h.waiting i hi]; exact AssociationCall.step_of_passes hpasses)
  have hmap (key : String) : ((calls i).change pool.state.associations).get key =
      lastWord calls records (Pool.started schedule ++ [i]) key := by
    rw [AssociationCall.get_change hpasses, lastWord_append, h.map]
  have hupTo {j : ι} (hj : j ∈ schedule) :
      Lists.upTo (Pool.started schedule ++ [i]) j = Lists.upTo (Pool.started schedule) j :=
    Lists.upTo_append_of_mem (Pool.mem_started.mpr hj) [i]
  have hne {j : ι} (hj : j ∈ schedule) : j ≠ i := fun hji => hi (hji ▸ hj)
  refine ⟨?_, ?_, ?_, ?_, ?_⟩
  · rw [hstep, Pool.started_append_of_not_mem hi]
    exact hmap
  · intro j hj
    rw [List.mem_append, not_or, List.mem_singleton] at hj
    rw [Pool.step_calls_of_ne hj.2]
    exact h.waiting j hj.1
  · intro j hj hopen
    rw [Pool.resumed_append_of_not_mem hi] at hopen
    rw [Pool.started_append_of_not_mem hi]
    rcases List.mem_append.mp hj with hj | hj
    · rw [hupTo hj, Pool.step_calls_of_ne (hne hj)]
      exact h.writing j hj hopen
    · rw [List.mem_singleton.mp hj, Lists.upTo_append_self (mt Pool.mem_started.mp hi), hstep]
      exact ⟨_, ⟨_, AssociationCall.keyed_change hpasses hserving.keyed, hmap, rfl⟩,
        Function.update_self ..⟩
  · intro j hj
    rw [Pool.resumed_append_of_not_mem hi] at hj
    rw [Pool.step_calls_of_ne (hne (Pool.mem_of_mem_resumed hj))]
    exact h.written j hj
  · intro j hj
    rw [Pool.resumed_append_of_not_mem hi] at hj
    rw [Pool.started_append_of_not_mem hi,
      hupTo (Pool.mem_of_mem_resumed (List.mem_of_getLast? hj)), hstep]
    exact h.file j hj

/-- A request completes its write: the second step of it. -/
theorem Served.writes (h : Served calls filePath records pool schedule) (hi : i ∈ schedule)
    (hopen : i ∉ Pool.resumed schedule) (hfault : (calls i).faults .writeFile = none) :
    Served calls filePath records (pool.step i) (schedule ++ [i]) := by
  obtain ⟨contents, hsnapshot, hp⟩ := h.writing i hi hopen
  have hstep : pool.step i = ⟨{ pool.state with file := contents },
      Function.update pool.calls i (.resolve ())⟩ :=
    Pool.step_eq (by rw [hp]; exact step_writeFile hfault contents pool.state)
  have hresumed : Pool.resumed (schedule ++ [i]) = Pool.resumed schedule ++ [i] := by
    rw [Pool.resumed_append_of_mem hi, Lists.pushNew, if_neg hopen]
  have hmem {j : ι} (hj : j ∈ schedule ++ [i]) : j ∈ schedule := by
    rcases List.mem_append.mp hj with hj | hj
    · exact hj
    · rwa [List.mem_singleton.mp hj]
  refine ⟨?_, ?_, ?_, ?_, ?_⟩
  · rw [hstep, Pool.started_append_of_mem hi]
    exact h.map
  · intro j hj
    rw [List.mem_append, not_or, List.mem_singleton] at hj
    rw [Pool.step_calls_of_ne hj.2]
    exact h.waiting j hj.1
  · intro j hj hopen'
    rw [hresumed, List.mem_append, not_or, List.mem_singleton] at hopen'
    rw [Pool.started_append_of_mem hi, Pool.step_calls_of_ne hopen'.2]
    exact h.writing j (hmem hj) hopen'.1
  · intro j hj
    by_cases hji : j = i
    · rw [hstep, hji]
      exact Function.update_self ..
    · rw [hresumed, List.mem_append, List.mem_singleton] at hj
      rw [Pool.step_calls_of_ne hji]
      exact h.written j (hj.resolve_right hji)
  · intro j hj
    rw [hresumed, List.getLast?_concat, Option.mem_some_iff] at hj
    subst hj
    rw [Pool.started_append_of_mem hi, hstep]
    exact hsnapshot

theorem Served.step (h : Served calls filePath records pool schedule)
    (hserving : Serving calls filePath pool) (hkept : ∀ error, (pool.step i).calls i ≠ .reject error) :
    Served calls filePath records (pool.step i) (schedule ++ [i]) := by
  have hself := @Pool.step_calls_self _ _ _ _ pool i
  by_cases hi : i ∈ schedule
  · by_cases hopen : i ∈ Pool.resumed schedule
    · have hstay : pool.step i = pool := Pool.step_of_settled (by rw [h.written i hopen]; rfl)
      have hresumed : Pool.resumed (schedule ++ [i]) = Pool.resumed schedule := by
        rw [Pool.resumed_append_of_mem hi, Lists.pushNew, if_pos hopen]
      have hmem (j : ι) : j ∈ schedule ++ [i] ↔ j ∈ schedule := by
        rw [List.mem_append, List.mem_singleton, or_iff_left_iff_imp]
        rintro rfl
        exact hi
      rw [hstay]
      refine ⟨?_, ?_, ?_, ?_, ?_⟩ <;> simp only [Pool.started_append_of_mem hi, hresumed, hmem]
      · exact h.map
      · exact h.waiting
      · exact h.writing
      · exact h.written
      · exact h.file
    · cases hfault : (calls i).faults .writeFile with
      | none => exact h.writes hi hopen hfault
      | some error =>
        obtain ⟨contents, -, hp⟩ := h.writing i hi hopen
        rw [hself, Proc.step_of_settled _ (hp ▸ settled_writeFile hfault contents), hp] at hkept
        unfold writeFile send at hkept
        rw [hfault] at hkept
        exact absurd rfl (hkept _)
  · by_cases hpasses : (calls i).Passes pool.state
    · exact h.serves hserving hi hpasses
    · obtain ⟨error, hstep⟩ := AssociationCall.step_of_not_passes hpasses
      rw [hself, h.waiting i hi, hstep] at hkept
      exact absurd rfl (hkept error)

theorem served_start : Served calls filePath records (serving calls filePath records) [] := by
  refine ⟨?_, fun i _ => rfl, nofun, nofun, nofun⟩
  intro key
  simp only [serving, loaded_eq]
  rfl

/-- A request that was refused stays refused. -/
theorem rejected_step {error : JsError} {j : ι} (h : pool.calls j = .reject error) :
    (pool.step i).calls j = .reject error := by
  by_cases hj : j = i
  · subst hj
    rw [Pool.step_of_settled (by rw [h]; rfl), h]
  · rw [Pool.step_calls_of_ne hj, h]

theorem served_run (schedule : List ι)
    (h : ∀ i error, ((serving calls filePath records).run schedule).calls i ≠ .reject error) :
    Served calls filePath records ((serving calls filePath records).run schedule) schedule := by
  induction schedule using List.reverseRecOn with
  | nil => exact served_start
  | append_singleton schedule i ih =>
    rw [Pool.run_append] at h ⊢
    have hserving : Serving calls filePath ((serving calls filePath records).run schedule) :=
      Runs.invariant_of_step (fun _ j hpool => hpool.step j) serving_start schedule
    exact (ih fun j error hrejected => h j error (rejected_step hrejected)).step hserving (h i)

end Requests

theorem sameAssociations_refl (m : Js.Map String Association) : SameAssociations m m :=
  fun _ => Association.rel_agrees_refl _

variable {ι : Type} [DecidableEq ι]

/-- When every request has been answered with success, the file loads as the map exactly when, for every
key, the last request that was served for it and the last one that was served for it no later than the
request whose write was completed last leave it alike. -/
theorem saved_iff_lastWord (calls : ι → AssociationCall) (filePath : String)
    (records : List Association) (schedule : List ι)
    (h : ((serving calls filePath records).run schedule).Resolved) :
    SameAssociations
        (loaded filePath ((serving calls filePath records).run schedule).state.file).associations
        ((serving calls filePath records).run schedule).state.associations ↔
      ∀ i ∈ (Pool.resumed schedule).getLast?, ∀ key, Option.Rel Association.Agrees
        (lastWord calls records (Lists.upTo (Pool.started schedule) i) key)
        (lastWord calls records (Pool.started schedule) key) := by
  have hserved := served_run schedule fun i error hrejected => by
    rw [h i] at hrejected
    cases hrejected
  cases hlast : (Pool.resumed schedule).getLast? with
  | none =>
    -- No write was completed, so there are no requests.
    have hempty : schedule = [] := by
      rw [List.eq_nil_iff_forall_not_mem]
      intro i hi
      obtain ⟨contents, -, hp⟩ := hserved.writing i hi (by simp [List.getLast?_eq_none_iff.mp hlast])
      exact writeFile_ne_resolve _ _ (hp.symm.trans (h i))
    subst hempty
    refine iff_of_true ?_ nofun
    simp only [Pool.run, List.foldl_nil, serving, loaded_eq]
    exact sameAssociations_refl _
  | some i =>
    have hfile := hserved.file i hlast
    simp only [Option.mem_some_iff, forall_eq', loaded_eq]
    apply forall_congr'
    intro key
    rw [hfile.get_load, hserved.map, Association.rel_agrees_newAssociation]

/-- Two requests for new associations of `bank`. -/
def twoParties (second : Bool) : AssociationCall where
  faults := .none
  kind := .associate
  fspId := .val "bank"
  partyType := "MSISDN"
  partyId := if second then "2" else "1"
  partySubType := .null
  currency := .null

/-- The run of the two requests on an empty file. -/
def servedBoth (schedule : List Bool) : Pool JsError RemoteOracle Bool :=
  (serving twoParties "/app/data/db.json" []).run schedule

/-- Both are served before the first of their writes is completed, and the write of the second is
completed last. -/
theorem saved_iff_lastWord_inOrder :
    SameAssociations
      (loaded "/app/data/db.json" (servedBoth [false, true, false, true]).state.file).associations
      (servedBoth [false, true, false, true]).state.associations := by
  have hresolved : (servedBoth [false, true, false, true]).Resolved := by
    intro i
    cases i <;> rfl
  refine (saved_iff_lastWord twoParties "/app/data/db.json" [] _ hresolved).mpr ?_
  intro i hi key
  have hlast : (Pool.resumed [false, true, false, true]).getLast? = some true := by decide
  rw [hlast, Option.mem_some_iff] at hi
  have hall : Lists.upTo (Pool.started [false, true, false, true]) true =
      Pool.started [false, true, false, true] := by decide
  rw [← hi, hall]
  exact Association.rel_agrees_refl _

/-- The write of the first request is completed last, without the association of the second. -/
theorem not_saved :
    (servedBoth [false, true, true, false]).Resolved ∧
      ¬SameAssociations
        (loaded "/app/data/db.json" (servedBoth [false, true, true, false]).state.file).associations
        (servedBoth [false, true, true, false]).state.associations := by
  constructor
  · intro i
    cases i <;> rfl
  · intro h
    have hfile : (loaded "/app/data/db.json"
        (servedBoth [false, true, true, false]).state.file).associations.get "2-MSISDN-NULL" =
          none := by
      decide +kernel
    have hmap : (servedBoth [false, true, true, false]).state.associations.get "2-MSISDN-NULL" =
        some ⟨.val "bank", "MSISDN", "2", .null, .null⟩ := by
      decide +kernel
    have hsecond := h "2-MSISDN-NULL"
    rw [hfile, hmap] at hsecond
    cases hsecond

end RemoteOracle

end AccountLookup
