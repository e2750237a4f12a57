import AccountLookup.Builtin.Provider
import AccountLookup.Handling.Changes
import AccountLookup.Model.BuiltinListing
import AccountLookup.Runs.Invariant
import AccountLookup.Store.Collection
import Mathlib.Data.Finset.Basic

/-! The associations of a builtin oracle after a run of changes: what the collection holds of them,
and which runs `getAllAssociations` lists as they were made. -/

namespace AccountLookup

open Async Store MongoOracleProviderRepo

/-- An association with all of its fields. -/
@[ext] structure FullAssociation where
  fspId : String
  partyType : String
  partyId : String
  partySubType : String
  currency : String
  deriving DecidableEq, Repr

namespace FullAssociation

/-- The association as an `Association` of a listing. -/
def record (association : FullAssociation) : AssociationRecord where
  fspId := .val association.fspId
  partyType := .val association.partyType
  partyId := .val association.partyId
  partySubType := .val association.partySubType
  currency := .val association.currency

/-- The document that is stored for the association, which is also the filter that selects it. -/
def document (association : FullAssociation) : AssociationRecord :=
  buildLookupQuery (.val association.partyId) (.val association.fspId) (.val association.partyType)
    (.val association.partySubType) (.val association.currency)

/-- The filter of the one selects the document of the other. -/
def selects (association stored : FullAssociation) : Bool :=
  association.document.selects stored.document

theorem selects_self (association : FullAssociation) : association.selects association = true := by
  simp [selects, document, AssociationRecord.selects, buildLookupQuery, lookupQuery,
    Mongo.accepts_self]

/-- The subtype and the currency are not empty. -/
def NonEmpty (association : FullAssociation) : Prop :=
  association.partySubType ≠ "" ∧ association.currency ≠ ""

theorem NonEmpty.document_eq {association : FullAssociation} (h : association.NonEmpty) :
    association.document = association.record := by
  obtain ⟨hsubType, hcurrency⟩ := h
  simp [document, record, buildLookupQuery, lookupQuery, Js.Field.truthy, hsubType, hcurrency]

theorem document_partySubType (association : FullAssociation) :
    association.document.partySubType =
      if association.partySubType = "" then .undefined else .val association.partySubType := by
  simp [document, buildLookupQuery, lookupQuery, Js.Field.truthy]

theorem document_currency (association : FullAssociation) :
    association.document.currency =
      if association.currency = "" then .undefined else .val association.currency := by
  simp [document, buildLookupQuery, lookupQuery, Js.Field.truthy]

/-- The filter of an association without empty fields selects its own document only. -/
theorem NonEmpty.eq_of_selects {association stored : FullAssociation} (h : association.NonEmpty)
    (hselects : association.selects stored = true) : stored = association := by
  unfold selects AssociationRecord.selects at hselects
  rw [h.document_eq, document_partySubType, document_currency] at hselects
  simp only [record, document, buildLookupQuery, lookupQuery, Mongo.accepts, Js.Field.orNull_val,
    Bool.and_eq_true, decide_eq_true_eq, Js.Field.val.injEq] at hselects
  obtain ⟨⟨⟨⟨hfspId, hpartyType⟩, hpartyId⟩, hsubType⟩, hcurrency⟩ := hselects
  have hsame (text : String) {stored : String}
      (hstored : (if stored = "" then Js.Field.undefined else .val stored) = Js.Field.val text) :
      stored = text := by
    split at hstored
    · cases hstored
    · exact Js.Field.val.inj hstored
  exact FullAssociation.ext hfspId hpartyType hpartyId (hsame _ hsubType) (hsame _ hcurrency)

end FullAssociation

open FullAssociation

/-- A change to the associations, and the commands that fail in it. -/
structure AssociationChange where
  faults : Faults
  kind : ChangeKind
  association : FullAssociation

def AssociationChange.perform (change : AssociationChange) : Proc JsError BuiltinStore Unit :=
  let association := change.association.record
  match change.kind with
  | .associate =>
    associateParticipant change.faults association.fspId association.partyType association.partyId
      association.partySubType association.currency
  | .disassociate =>
    disassociateParticipant change.faults association.fspId association.partyType
      association.partyId association.partySubType association.currency

/-- The store, and the associations that were made and not removed since. -/
structure AssociationHistory where
  store : BuiltinStore
  made : Finset FullAssociation

namespace AssociationHistory

/-- The store and the associations after the change. -/
def change (h : AssociationHistory) (c : AssociationChange) : AssociationHistory where
  store := (c.perform.run h.store).2
  made :=
    match c.kind with
    | .associate => insert c.association h.made
    | .disassociate => h.made.erase c.association

/-- The change resolves. -/
def Succeeds (h : AssociationHistory) (c : AssociationChange) : Prop :=
  (c.perform.run h.store).1 = .ok ()

/-- `getAllAssociations` lists the associations that were made and not removed since with their
fields, each of them once. -/
def ListsMade (h : AssociationHistory) : Prop :=
  ∃ listed, (getAllAssociations .none).run h.store = (.ok listed, h.store) ∧ listed.Nodup ∧
    ∀ listing, listing ∈ listed ↔ ∃ association ∈ h.made, association.record = listing

/-- The collection holds the documents of `held`, where no filter selects one before its own. -/
structure Holds (h : AssociationHistory) (held : List FullAssociation) : Prop where
  parties : h.store.parties = held.map document
  apart : Collection.Apart selects held

/-- What the collection holds after the change. -/
def heldAfter (held : List FullAssociation) (c : AssociationChange) : List FullAssociation :=
  match c.kind with
  | .associate => held ++ [c.association]
  | .disassociate => held.eraseP c.association.selects

variable {h : AssociationHistory} {held : List FullAssociation} {c : AssociationChange}

/-- The step: a change that resolves was made in the collection. -/
theorem Holds.change (holds : h.Holds held) (hsuccess : h.Succeeds c) :
    (h.change c).Holds (heldAfter held c) := by
  obtain ⟨faults, kind, association⟩ := c
  unfold Succeeds at hsuccess
  unfold AssociationHistory.change heldAfter
  unfold AssociationChange.perform at *
  cases kind with
  | associate =>
    rcases associateParticipant_cases faults association.record.fspId association.record.partyType
        association.record.partyId association.record.partySubType association.record.currency
        h.store with
      ⟨error, -, hrun⟩ | ⟨-, -, -, error, -, hrun⟩ | ⟨hfind, -, -, -, hrun⟩
    · rw [hrun] at hsuccess
      cases hsuccess
    · rw [hrun] at hsuccess
      cases hsuccess
    · dsimp only
      rw [hrun]
      constructor
      · rw [List.map_append, ← holds.parties]
        rfl
      · apply holds.apart.append
        rw [holds.parties, List.find?_map, Option.map_eq_none_iff] at hfind
        exact hfind
  | disassociate =>
    rcases disassociateParticipant_cases faults association.record.fspId
        association.record.partyType association.record.partyId association.record.partySubType
        association.record.currency h.store with
      ⟨error, -, hrun⟩ | ⟨-, error, -, hrun⟩ | ⟨-, -, hrun⟩
    · rw [hrun] at hsuccess
      cases hsuccess
    · rw [hrun] at hsuccess
      cases hsuccess
    · dsimp only
      rw [hrun]
      constructor
      · show h.store.parties.eraseP association.document.selects = _
        rw [holds.parties, List.eraseP_map]
        rfl
      · exact holds.apart.delete association

/-- What the collection holds was made and not removed since. -/
def HoldsMade (h : AssociationHistory) : Prop :=
  ∃ held, h.Holds held ∧ ∀ association ∈ held, association ∈ h.made

/-- It is all that was made and not removed since, and none of it has an empty field. -/
def HoldsAllMade (h : AssociationHistory) : Prop :=
  ∃ held, h.Holds held ∧ (∀ association, association ∈ held ↔ association ∈ h.made) ∧
    ∀ association ∈ held, association.NonEmpty

theorem holdsMade_change (h : AssociationHistory) (c : AssociationChange) (hmade : h.HoldsMade)
    (hsuccess : h.Succeeds c) : (h.change c).HoldsMade := by
  obtain ⟨held, holds, hmade⟩ := hmade
  refine ⟨_, holds.change hsuccess, ?_⟩
  obtain ⟨faults, kind, association⟩ := c
  unfold change heldAfter
  cases kind with
  | associate =>
    intro other hmem
    apply Finset.mem_insert.mpr
    rcases List.mem_append.mp hmem with hmem | hmem
    · exact .inr (hmade other hmem)
    · exact .inl (List.mem_singleton.mp hmem)
  | disassociate =>
    intro other hmem
    obtain ⟨hother, hne⟩ := holds.apart.of_mem_delete selects_self hmem
    exact Finset.mem_erase.mpr ⟨hne, hmade other hother⟩

theorem holdsAllMade_change (h : AssociationHistory) (c : AssociationChange)
    (hmade : h.HoldsAllMade) (hchange : h.Succeeds c ∧ c.association.NonEmpty) :
    (h.change c).HoldsAllMade := by
  obtain ⟨held, holds, hmade, hnonEmpty⟩ := hmade
  refine ⟨_, holds.change hchange.1, ?_⟩
  obtain ⟨faults, kind, association⟩ := c
  unfold change heldAfter
  cases kind with
  | associate =>
    refine ⟨?_, ?_⟩
    · intro other
      rw [List.mem_append, List.mem_singleton, hmade, Finset.mem_insert, or_comm]
    · intro other hmem
      rcases List.mem_append.mp hmem with hmem | hmem
      · exact hnonEmpty other hmem
      · rw [List.mem_singleton.mp hmem]
        exact hchange.2
  | disassociate =>
    refine ⟨?_, fun other hmem => hnonEmpty other (List.mem_of_mem_eraseP hmem)⟩
    intro other
    rw [holds.apart.mem_delete_iff selects_self fun stored _ => hchange.2.eq_of_selects, hmade,
      Finset.mem_erase, and_comm]

/-! ### Runs -/

/-- An empty collection, whatever the cache has and whichever connections are open. -/
def start (cache : Cache String AssociationRecord) (connections : List Connection) :
    AssociationHistory where
  store := ⟨[], cache, connections⟩
  made := ∅

variable {cache : Cache String AssociationRecord} {connections : List Connection}
  {changes : List AssociationChange}

theorem holds_start : (start cache connections).Holds [] := ⟨rfl, Collection.apart_nil⟩

theorem run_getAllAssociations (s : BuiltinStore) :
    (getAllAssociations .none).run s = (.ok (s.parties.map mappedAssociation), s) := rfl

/-- After a run of changes that resolve, whose associations have no empty field, the listing has those
that were made and not removed since, each of them once, but for their subtypes. -/
theorem lists_without_subTypes
    (hsuccess : Runs.Each change (fun h c => h.Succeeds c ∧ c.association.NonEmpty)
      (start cache connections) changes) :
    let h := changes.foldl change (start cache connections)
    ∃ held : List FullAssociation, held.Nodup ∧ (∀ association, association ∈ held ↔
        association ∈ h.made) ∧
      (getAllAssociations .none).run h.store =
        (.ok (held.map fun association => { association.record with partySubType := .undefined }),
          h.store) := by
  intro h
  obtain ⟨held, holds, hmade, hnonEmpty⟩ : h.HoldsAllMade :=
    Runs.invariant holdsAllMade_change ⟨[], holds_start, by simp [start], by simp⟩ hsuccess
  refine ⟨held, holds.apart.nodup selects_self, hmade, ?_⟩
  have hmapped : h.store.parties.map mappedAssociation =
      held.map fun association => { association.record with partySubType := .undefined } := by
    rw [holds.parties, List.map_map]
    apply List.map_congr_left
    intro association hmem
    rw [Function.comp_apply, (hnonEmpty association hmem).document_eq]
    rfl
  rw [run_getAllAssociations, hmapped]

/-- What is listed has no subtype, so it is none of the associations that were made. -/
theorem ListsMade.made_eq_empty (hlists : h.ListsMade) : h.made = ∅ := by
  obtain ⟨listed, hrun, -, hlisted⟩ := hlists
  rw [run_getAllAssociations] at hrun
  cases hrun
  by_contra hne
  obtain ⟨association, hmem⟩ := Finset.nonempty_iff_ne_empty.mpr hne
  obtain ⟨stored, -, hmapped⟩ := List.mem_map.mp ((hlisted _).mpr ⟨association, hmem, rfl⟩)
  exact nomatch congrArg AssociationRecord.partySubType hmapped

/-- After a run of changes that resolve, from an empty collection, the listing has the associations
that were made and not removed since exactly when there are none. -/
theorem listsMade_iff
    (hsuccess : Runs.Each change Succeeds (start cache connections) changes) :
    (changes.foldl change (start cache connections)).ListsMade ↔
      (changes.foldl change (start cache connections)).made = ∅ := by
  obtain ⟨held, holds, hmade⟩ : (changes.foldl change (start cache connections)).HoldsMade :=
    Runs.invariant holdsMade_change ⟨[], holds_start, by simp⟩ hsuccess
  generalize changes.foldl change (start cache connections) = h at *
  constructor
  · exact ListsMade.made_eq_empty
  · intro hempty
    rw [hempty] at hmade
    obtain rfl : held = [] := List.eq_nil_iff_forall_not_mem.mpr fun a hmem =>
      Finset.notMem_empty a (hmade a hmem)
    refine ⟨[], ?_, List.nodup_nil, ?_⟩
    · rw [run_getAllAssociations, holds.parties]
      rfl
    · simp [hempty]

/-- An association with a subtype, and the run that makes it and removes it. -/
def merchant : FullAssociation where
  fspId := "bluebank"
  partyType := "BUSINESS"
  partyId := "acme"
  partySubType := "NORTH"
  currency := "USD"

def madeAndRemoved : List AssociationChange :=
  [⟨.none, .associate, merchant⟩, ⟨.none, .disassociate, merchant⟩]

theorem listsMade_iff_removed :
    (madeAndRemoved.foldl change (start Cache.empty [])).ListsMade ↔
      (madeAndRemoved.foldl change (start Cache.empty [])).made = ∅ :=
  listsMade_iff ⟨rfl, rfl, trivial⟩

/-- An association that is made is listed without its subtype. -/
theorem not_listsMade :
    Runs.Each change Succeeds (start Cache.empty []) [⟨.none, .associate, merchant⟩] ∧
      ((getAllAssociations .none).run
          ([⟨.none, .associate, merchant⟩].foldl change (start Cache.empty [])).store).1 =
        .ok [{ merchant.record with partySubType := .undefined }] ∧
      ¬([⟨.none, .associate, merchant⟩].foldl change (start Cache.empty [])).ListsMade := by
  refine ⟨⟨rfl, trivial⟩, rfl, ?_⟩
  intro hlists
  exact absurd hlists.made_eq_empty (by decide)

end AssociationHistory

end AccountLookup
