import AccountLookup.Builtin.Duplicates

/-! The documents that a change in a builtin oracle touches: when they are the association that it was
asked for and no other. -/

namespace AccountLookup

open Async Store MongoOracleProviderRepo AssociationRecord

instance (document other : AssociationRecord) : Decidable (document.Same other) :=
  decidable_of_iff (document.fspId.orNull = other.fspId.orNull ∧
      document.partyType.orNull = other.partyType.orNull ∧
      document.partyId.orNull = other.partyId.orNull ∧
      document.partySubType.orNull = other.partySubType.orNull ∧
      document.currency.orNull = other.currency.orNull)
    ⟨fun ⟨h₁, h₂, h₃, h₄, h₅⟩ => ⟨h₁, h₂, h₃, h₄, h₅⟩,
      fun ⟨h₁, h₂, h₃, h₄, h₅⟩ => ⟨h₁, h₂, h₃, h₄, h₅⟩⟩

/-- The documents that differ from the association. -/
def others (association : AssociationRecord) (parties : List AssociationRecord) :
    List AssociationRecord :=
  parties.filter fun document => !decide (document.Same association)

/-- A removal of the association leaves all other documents, and an association is refused as a
duplicate only if the document is there. -/
structure ExactWrites (association : AssociationRecord) (parties : List AssociationRecord) : Prop where
  removal : ∀ faults s, s.parties = parties →
    others association ((disassociateParticipant faults association.fspId association.partyType
      association.partyId association.partySubType association.currency).run s).2.parties =
        others association parties
  refusal : ∀ s error t, s.parties = parties →
    (associateParticipant .none association.fspId association.partyType association.partyId
      association.partySubType association.currency).run s = (.error error, t) →
    error.cls = .participantAssociationAlreadyExistsError →
    ∃ document ∈ parties, document.Same association

/-- The condition: a document that only agrees with the association in the fields that this has comes
after one that is the association. -/
def ExactFirst (association : AssociationRecord) (parties : List AssociationRecord) : Prop :=
  ∀ before document after, parties = before ++ document :: after →
    association.ownFilter.selects document = true → ¬document.Same association →
    ∃ exact ∈ before, exact.Same association

section Collections

variable {association : AssociationRecord} {parties : List AssociationRecord}

/-- The first document that the filter selects is the association, if there is one. -/
theorem exactFirst_iff :
    ExactFirst association parties ↔
      ∀ document, parties.find? association.ownFilter.selects = some document →
        document.Same association := by
  constructor
  · intro h document hfind
    by_contra hdiffers
    obtain ⟨hselects, before, after, hsplit, hbefore⟩ := List.find?_eq_some_iff_append.mp hfind
    obtain ⟨exact, hmem, hsame⟩ := h before document after hsplit hselects hdiffers
    have hunselected := hbefore exact hmem
    rw [hsame.selects] at hunselected
    cases hunselected
  · intro h before document after hsplit hselects hdiffers
    cases hfind : before.find? association.ownFilter.selects with
    | some first =>
      have hfirst : parties.find? association.ownFilter.selects = some first := by
        rw [hsplit, List.find?_append, hfind]
        rfl
      exact ⟨first, List.mem_of_find?_eq_some hfind, h first hfirst⟩
    | none =>
      have hfirst : parties.find? association.ownFilter.selects = some document := by
        rw [hsplit, List.find?_append, hfind, List.find?_cons_of_pos hselects]
        rfl
      exact absurd (h document hfirst) hdiffers

/-- A deletion leaves the other documents exactly when the document that it deletes is the
association. -/
theorem others_eraseP_iff :
    others association (parties.eraseP association.ownFilter.selects) = others association parties ↔
      ExactFirst association parties := by
  rw [exactFirst_iff]
  cases hfind : parties.find? association.ownFilter.selects with
  | none =>
    rw [List.eraseP_of_forall_not (List.find?_eq_none.mp hfind)]
    exact iff_of_true rfl nofun
  | some document =>
    obtain ⟨hselects, before, after, hsplit, hbefore⟩ := List.find?_eq_some_iff_append.mp hfind
    have hnone : ∀ other ∈ before, ¬association.ownFilter.selects other = true := by
      intro other hmem
      simpa using hbefore other hmem
    have herase : parties.eraseP association.ownFilter.selects = before ++ after := by
      rw [hsplit, List.eraseP_append_right _ hnone, List.eraseP_cons_of_pos hselects]
    rw [herase, hsplit]
    unfold others
    by_cases hsame : document.Same association
    · simp [hsame]
    · apply iff_of_false
      · intro heq
        have hlength := congrArg List.length heq
        simp [hsame] at hlength
      · intro h
        exact hsame (h document rfl)

end Collections

/-- The writes for an association are exact exactly when the collection has the association before any
document that only agrees with it in the fields that it has. -/
theorem exactWrites_iff (association : AssociationRecord) (parties : List AssociationRecord) :
    ExactWrites association parties ↔ ExactFirst association parties := by
  constructor
  · intro h
    have hremoval := h.removal .none ⟨parties, Cache.empty, []⟩ rfl
    rw [parties_of_removal] at hremoval
    exact others_eraseP_iff.mp hremoval
  · intro h
    constructor
    · rintro faults s rfl
      have hdeleted := others_eraseP_iff.mpr h
      rcases disassociateParticipant_cases faults association.fspId association.partyType
          association.partyId association.partySubType association.currency s with
        ⟨error, -, hrun⟩ | ⟨-, error, -, hrun⟩ | ⟨-, -, hrun⟩ <;> rw [hrun]
      · exact hdeleted
      · exact hdeleted
    · rintro s error t rfl hrun -
      rcases associateParticipant_cases .none association.fspId association.partyType
          association.partyId association.partySubType association.currency s with
        ⟨_, hrefused, -⟩ | ⟨-, -, -, _, hfault, -⟩ | ⟨-, -, -, -, hrun'⟩
      · rcases hrefused with hfault | hfault | ⟨document, hfind⟩
        · cases hfault
        · cases hfault
        · exact ⟨document, List.mem_of_find?_eq_some hfind, exactFirst_iff.mp h document hfind⟩
      · cases hfault
      · rw [hrun'] at hrun
        cases hrun

/-- An association of `bluebank` with a party, for any currency. -/
def anyCurrency : AssociationRecord where
  fspId := .val "bluebank"
  partyType := .val "MSISDN"
  partyId := .val "123"
  partySubType := .null
  currency := .null

/-- The documents of the same party for one currency each. -/
def perCurrency : List AssociationRecord :=
  [{ anyCurrency with partySubType := .undefined, currency := .val "EUR" },
    { anyCurrency with partySubType := .undefined, currency := .val "USD" }]

/-- A removal of the association without a currency, handled twice, removes both of the others, and
the association is refused as a duplicate although it is not there. -/
theorem not_exactWrites :
    let remove := disassociateParticipant .none anyCurrency.fspId anyCurrency.partyType
      anyCurrency.partyId anyCurrency.partySubType anyCurrency.currency
    let associate := associateParticipant .none anyCurrency.fspId anyCurrency.partyType
      anyCurrency.partyId anyCurrency.partySubType anyCurrency.currency
    let s : BuiltinStore := ⟨perCurrency, Cache.empty, []⟩
    ¬ExactWrites anyCurrency perCurrency ∧
      (∀ document ∈ perCurrency, ¬document.Same anyCurrency) ∧
      ((remove.run (remove.run s).2).2).parties = [] ∧
      ∃ error, error.cls = .participantAssociationAlreadyExistsError ∧
        associate.run s = (.error error, s) := by
  refine ⟨?_, by decide, rfl, _, rfl, rfl⟩
  intro h
  have hremoval := h.removal .none ⟨perCurrency, Cache.empty, []⟩ rfl
  revert hremoval
  decide +kernel

end AccountLookup
