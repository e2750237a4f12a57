import AccountLookup.Builtin.Search

/-! The filter of a search, against the associations that it is to find: those with the given FSP, party
type and currency whose party identifier and subtype contain the given texts. -/

namespace AccountLookup

/-- The values of a filter, each `null` or a text that is not empty. -/
structure SearchTerms where
  fspId : Option { text : String // text ≠ "" }
  partyId : Option { text : String // text ≠ "" }
  partyType : Option { text : String // text ≠ "" }
  partySubType : Option { text : String // text ≠ "" }
  currency : Option { text : String // text ≠ "" }

namespace SearchTerms

/-- No value is given. -/
def any : SearchTerms := ⟨none, none, none, none, none⟩

def valueOf : Option { text : String // text ≠ "" } → Js.Value
  | some text => .str text
  | none => .null

/-- The search with the values. -/
def search (terms : SearchTerms) : AssociationSearch where
  fspId := valueOf terms.fspId
  partyId := valueOf terms.partyId
  partyType := valueOf terms.partyType
  partySubType := valueOf terms.partySubType
  currency := valueOf terms.currency
  pageIndex := none
  pageSize := none

/-- The field has the text in it, in letters of either case. -/
def contains (fold : Char → Char) (text : String) (field : Js.Str) : Bool :=
  match field with
  | .val value => text.toList.map fold <:+: value.toList.map fold
  | _ => false

/-- The association has the FSP, the party type and the currency that are given. -/
def equalsGiven (terms : SearchTerms) (document : AssociationRecord) : Bool :=
  terms.fspId.all (fun text => document.fspId = .val text) &&
    terms.partyType.all (fun text => document.partyType = .val text) &&
    terms.currency.all fun text => document.currency = .val text

/-- Its party identifier and subtype contain the texts that are given. -/
def containsGiven (fold : Char → Char) (terms : SearchTerms) (document : AssociationRecord) : Bool :=
  terms.partyId.all (fun text => contains fold text document.partyId) &&
    terms.partySubType.all fun text => contains fold text document.partySubType

/-- The associations that the search is to find. -/
def wanted (fold : Char → Char) (terms : SearchTerms) (parties : List AssociationRecord) :
    List AssociationRecord :=
  parties.filter fun document => equalsGiven terms document && containsGiven fold terms document

/-- The pattern is valid and the field matches it. -/
def accepts (engine : SearchEngine) (pattern : String) (field : Js.Str) : Bool :=
  match engine.regex pattern, field with
  | .ok accepts, .val value => accepts value
  | _, _ => false

/-- Its party identifier and subtype match the texts that are given as patterns. -/
def matchesGiven (engine : SearchEngine) (terms : SearchTerms) (document : AssociationRecord) :
    Bool :=
  terms.partyId.all (fun text => accepts engine text document.partyId) &&
    terms.partySubType.all fun text => accepts engine text document.partySubType

end SearchTerms

namespace MongoOracleProviderRepo

open SearchTerms

variable {engine : SearchEngine}

/-- The pattern of the condition is valid, and the document meets it. -/
def Condition.meets (engine : SearchEngine) (condition : Condition) (document : AssociationRecord) :
    Bool :=
  match condition.compile engine with
  | .ok accepts => accepts document
  | .error _ => false

/-- The patterns of a filter are all valid, or one of its conditions is met by no document. -/
theorem compile_cases (engine : SearchEngine) (filter : List Condition) :
    (∃ conditions, filter.mapM (Condition.compile engine) = .ok conditions ∧ ∀ document,
        (conditions.all fun accepts => accepts document) = filter.all (·.meets engine document)) ∨
      (∃ error, filter.mapM (Condition.compile engine) = .error error) ∧
        ∃ condition ∈ filter, ∀ document, condition.meets engine document = false := by
  induction filter with
  | nil => exact .inl ⟨[], rfl, fun _ => rfl⟩
  | cons condition rest ih =>
    rw [List.mapM_cons]
    cases hcompile : condition.compile engine with
    | error error =>
      have hnone : ∀ document, condition.meets engine document = false := by
        intro document
        unfold Condition.meets
        rw [hcompile]
      exact .inr ⟨⟨error, rfl⟩, condition, List.mem_cons_self, hnone⟩
    | ok accepts =>
      rcases ih with ⟨conditions, hrest, hall⟩ | ⟨⟨error, hrest⟩, other, hmem, hnone⟩
      · rw [hrest]
        refine .inl ⟨accepts :: conditions, rfl, ?_⟩
        intro document
        have hmeets : condition.meets engine document = accepts document := by
          unfold Condition.meets
          rw [hcompile]
        rw [List.all_cons, List.all_cons, hall, hmeets]
      · rw [hrest]
        exact .inr ⟨⟨error, rfl⟩, other, List.mem_cons_of_mem _ hmem, hnone⟩

/-- A query finds the documents that meet all its conditions; it is refused when the pattern of one is,
which no document meets. -/
theorem find_cases (engine : SearchEngine) (filter : List Condition)
    (parties : List AssociationRecord) :
    let found := parties.filter fun document => filter.all (·.meets engine document)
    find engine filter parties = .ok found ∨
      found = [] ∧ ∃ error, find engine filter parties = .error error := by
  intro found
  unfold find
  rcases compile_cases engine filter with ⟨conditions, hcompile, hall⟩ |
    ⟨⟨error, hcompile⟩, condition, hmem, hnone⟩
  · left
    rw [hcompile]
    show Except.ok (parties.filter fun document => conditions.all fun accepts => accepts document) = _
    simp only [hall]
    rfl
  · right
    rw [hcompile]
    refine ⟨?_, error, rfl⟩
    apply List.filter_eq_nil_iff.mpr
    intro document _ hmeets
    have hmet := List.all_eq_true.mp hmeets condition hmem
    rw [hnone] at hmet
    cases hmet

theorem matching_eq (search : AssociationSearch) (parties : List AssociationRecord) :
    matching engine search parties =
      parties.filter fun document => (filterOf search).all (·.meets engine document) := by
  unfold matching
  rcases find_cases engine (filterOf search) parties with hfind | ⟨hnone, error, hfind⟩
  · rw [hfind]
  · rw [hfind, hnone]

theorem all_given {term : Option { text : String // text ≠ "" }} {value : Js.Value}
    (h : value = valueOf term) (condition : Js.Value → Condition) (document : AssociationRecord) :
    (if value.truthy then [condition value] else []).all (·.meets engine document) =
      term.all fun text => (condition (.str text)).meets engine document := by
  subst h
  cases term with
  | none => rfl
  | some text => simp [valueOf, Js.Value.truthy, text.2]

theorem meets_equals (field : AssociationRecord → Js.Str) (text : String)
    (document : AssociationRecord) :
    (Condition.equals field (.str text)).meets engine document =
      decide (field document = .val text) := by
  show Mongo.acceptsValue engine.compound (.str text) (field document).toValue = _
  cases field document <;> simp [Mongo.acceptsValue, Js.Value.isCompound, Js.Field.toValue]

theorem meets_regex (field : AssociationRecord → Js.Str) (text : String)
    (document : AssociationRecord) :
    (Condition.regex field (.str text)).meets engine document =
      accepts engine text (field document) := by
  have hcompile : (Condition.regex field (.str text)).compile engine =
      (engine.regex text).map fun accepts document =>
        match field document with
        | .val value => accepts value
        | _ => false := rfl
  unfold Condition.meets accepts
  rw [hcompile]
  cases engine.regex text with
  | error error => rfl
  | ok accepts =>
    show (match field document with
      | .val value => accepts value
      | _ => false) = _
    cases field document <;> rfl

/-- What a search with the values selects. -/
theorem matching_search (terms : SearchTerms) (parties : List AssociationRecord) :
    matching engine terms.search parties = parties.filter fun document =>
      equalsGiven terms document && matchesGiven engine terms document := by
  rw [matching_eq]
  congr 1
  funext document
  have hfspId : terms.search.fspId = valueOf terms.fspId := rfl
  have hpartyId : terms.search.partyId = valueOf terms.partyId := rfl
  have hpartyType : terms.search.partyType = valueOf terms.partyType := rfl
  have hpartySubType : terms.search.partySubType = valueOf terms.partySubType := rfl
  have hcurrency : terms.search.currency = valueOf terms.currency := rfl
  unfold filterOf equalsGiven matchesGiven
  simp only [List.all_append, all_given hfspId (.equals _), all_given hpartyId (.regex _),
    all_given hpartyType (.equals _), all_given hpartySubType (.regex _),
    all_given hcurrency (.equals _), meets_equals, meets_regex]
  ac_rfl

theorem find_any (engine : SearchEngine) (parties : List AssociationRecord) :
    find engine (filterOf any.search) parties = .ok parties := by
  show Except.ok (parties.filter fun _ => true) = _
  rw [List.filter_true]

/-- Every page of a search is what the same page of a collection with just the associations that are
to be found would be. -/
def Finds (engine : SearchEngine) (fold : Char → Char) (terms : SearchTerms) (s : BuiltinStore) :
    Prop :=
  ∀ pageIndex pageSize, 1 ≤ pageSize → pageSize ≤ 100 →
    ∃ results, Answers engine (terms.search.at pageIndex pageSize) s results ∧
      Answers engine (any.search.at pageIndex pageSize)
        { s with parties := wanted fold terms s.parties } results

variable {fold : Char → Char} {terms : SearchTerms} {s : BuiltinStore}

theorem matching_eq_wanted (h : ∀ document ∈ s.parties, equalsGiven terms document = true →
    matchesGiven engine terms document = containsGiven fold terms document) :
    matching engine terms.search s.parties = wanted fold terms s.parties := by
  rw [matching_search]
  apply List.filter_congr
  intro document hmem
  cases hequals : equalsGiven terms document with
  | false => rfl
  | true => rw [h document hmem hequals]

/-- A page of an empty collection is what a search with a refused pattern is answered with. -/
theorem answers_empty {pageIndex pageSize : Nat} (hpos : 0 < pageSize) (h : pageSize ≤ 100) :
    Answers engine (any.search.at pageIndex pageSize) { s with parties := [] }
      { pageSize := pageSizeOf (any.search.at pageIndex pageSize)
        pageIndex := pageIndexOf (any.search.at pageIndex pageSize)
        totalPages := .int 0
        items := [] } := by
  have hfind := find_any engine []
  have hpage := findPage_of_ok hfind (skipOf (any.search.at pageIndex pageSize))
  rw [order_nil] at hpage
  have hskip : engine.skip (skipOf (any.search.at pageIndex pageSize)) [] = .ok [] ∨
      ∃ error, engine.skip (skipOf (any.search.at pageIndex pageSize)) [] = .error error := by
    rw [skipOf_at h]
    rcases Js.Number.ofNat_mul_cases hpos pageIndex with hinf | ⟨skip, hint⟩
    · rw [hinf]
      exact engine.skip_posInf []
    · rw [hint, engine.skip_int, List.drop_nil]
      exact .inl rfl
  rcases hskip with hnone | ⟨error, herror⟩
  · rw [hnone] at hpage
    have hanswers : Answers engine (any.search.at pageIndex pageSize) { s with parties := [] } _ :=
      answers_found hpage hfind
    have hsize := @pageSizeOf_at any.search pageIndex pageSize h
    have hmax : (Js.Number.int pageSize).max (.int 0) = .int pageSize := by
      rw [Js.Number.max_int, Int.max_eq_left (Int.natCast_nonneg _)]
    have hcount : Js.Number.ceilDiv 0 (.int pageSize) = .int 0 := by
      rw [Js.Number.ceilDiv_of_pos hpos]
      exact congrArg (fun count : Nat => Js.Number.int count) (Lists.pageCount_zero hpos)
    rw [hsize] at hanswers ⊢
    simp only [List.take_nil, List.length_nil, Int.natCast_zero, hmax, hcount] at hanswers
    exact hanswers
  · rw [herror] at hpage
    exact answers_refused hpage

theorem finds_of_agree (h : ∀ document ∈ s.parties, equalsGiven terms document = true →
    matchesGiven engine terms document = containsGiven fold terms document) :
    Finds engine fold terms s := by
  intro pageIndex pageSize hpos hlimit
  have hwanted := matching_eq_wanted h
  unfold matching at hwanted
  cases hfind : find engine (filterOf terms.search) s.parties with
  | error error =>
    rw [hfind] at hwanted
    refine ⟨_, answers_refused (findPage_of_error hfind _), ?_⟩
    rw [← hwanted]
    exact answers_empty hpos hlimit
  | ok found =>
    rw [hfind] at hwanted
    dsimp only at hwanted
    subst hwanted
    have hfound := find_any engine (wanted fold terms s.parties)
    have hpage := findPage_of_ok hfind (skipOf (terms.search.at pageIndex pageSize))
    have hpage' := findPage_of_ok hfound (skipOf (any.search.at pageIndex pageSize))
    have hskip : skipOf (any.search.at pageIndex pageSize) =
      skipOf (terms.search.at pageIndex pageSize) := rfl
    rw [hskip] at hpage'
    cases hrest : (engine.skip (skipOf (terms.search.at pageIndex pageSize))
        (engine.order (wanted fold terms s.parties))).map (·.take 20) with
    | error error =>
      exact ⟨_, answers_refused (hpage.trans hrest), answers_refused (hpage'.trans hrest)⟩
    | ok result =>
      exact ⟨_, answers_found (hpage.trans hrest) hfind, answers_found (hpage'.trans hrest) hfound⟩

/-- The pages of 20 tell the associations that are found. -/
theorem agree_of_finds
    (hlength : (matching engine terms.search s.parties).length ≤ Js.maxArrayLength)
    (hfinds : Finds engine fold terms s) :
    ∀ document ∈ s.parties, equalsGiven terms document = true →
      matchesGiven engine terms document = containsGiven fold terms document := by
  have hany : matching engine any.search (wanted fold terms s.parties) =
      wanted fold terms s.parties := by
    unfold matching
    rw [find_any]
  have hpage (pageIndex : Nat) (hsafe : pageIndex * 20 < Js.safeLimit) :
      Lists.page 20 20 (engine.order (matching engine terms.search s.parties)) pageIndex =
          Lists.page 20 20 (engine.order (wanted fold terms s.parties)) pageIndex ∧
        Lists.pageCount (matching engine terms.search s.parties).length 20 =
          Lists.pageCount (wanted fold terms s.parties).length 20 := by
    obtain ⟨results, hanswers, hanswers'⟩ := hfinds pageIndex 20 (by omega) (by omega)
    obtain ⟨found, hfound, hitems, htotal⟩ :=
      answers_page engine terms.search s (by omega) (by omega) hsafe
    obtain ⟨found', hfound', hitems', htotal'⟩ :=
      answers_page engine any.search { s with parties := wanted fold terms s.parties } (by omega)
        (by omega) hsafe
    rw [hany] at hitems' htotal'
    have hsame := (hfound.unique hanswers).trans (hanswers'.unique hfound')
    subst hsame
    exact ⟨hitems.symm.trans hitems', Js.Number.natCast_inj.mp (htotal.symm.trans htotal')⟩
  have hcount := (hpage 0 (by decide)).2
  have hpages : Lists.pages 20 20 (engine.order (matching engine terms.search s.parties)) =
      Lists.pages 20 20 (engine.order (wanted fold terms s.parties)) := by
    unfold Lists.pages
    rw [length_order, length_order, ← hcount]
    apply List.flatMap_congr
    intro pageIndex hmem
    have hless := Nat.le_of_lt (List.mem_range.mp hmem)
    exact (hpage pageIndex (pageIndex_mul_safe (by omega) (by omega) hlength hless)).1
  rw [Lists.pages_self (by omega), Lists.pages_self (by omega)] at hpages
  have hperm : (matching engine terms.search s.parties).Perm (wanted fold terms s.parties) :=
    (engine.order_perm _).symm.trans (hpages ▸ engine.order_perm _)
  intro document hmem hequals
  have hiff : document ∈ matching engine terms.search s.parties ↔
      document ∈ wanted fold terms s.parties := hperm.mem_iff
  rw [matching_search, wanted, List.mem_filter, List.mem_filter, hequals, Bool.true_and,
    Bool.true_and, and_iff_right hmem, and_iff_right hmem] at hiff
  exact Bool.eq_iff_iff.mpr hiff

/-- A search finds just what it is to find exactly when, of the associations with the given FSP, party
type and currency, those that match the given texts as patterns are those that contain them. -/
theorem finds_iff (engine : SearchEngine) (fold : Char → Char) (terms : SearchTerms)
    (s : BuiltinStore)
    (hlength : (matching engine terms.search s.parties).length ≤ Js.maxArrayLength) :
    Finds engine fold terms s ↔ ∀ document ∈ s.parties, equalsGiven terms document = true →
      matchesGiven engine terms document = containsGiven fold terms document :=
  ⟨agree_of_finds hlength, finds_of_agree⟩

/-- One party, whose identifier is an international phone number. -/
def oneNumber : BuiltinStore where
  parties := [⟨.val "bank", .val "MSISDN", .val "+351911234567", .null, .null⟩]
  cache := .empty
  connections := []

/-- The search for a part of a party identifier. -/
def byPartyId (text : { text : String // text ≠ "" }) : SearchTerms := { any with partyId := text }

theorem finds_iff_digits :
    Finds plainEngine Char.toLower (byPartyId ⟨"91", by decide⟩) oneNumber ↔
      ∀ document ∈ oneNumber.parties,
        equalsGiven (byPartyId ⟨"91", by decide⟩) document = true →
          matchesGiven plainEngine (byPartyId ⟨"91", by decide⟩) document =
            containsGiven Char.toLower (byPartyId ⟨"91", by decide⟩) document :=
  finds_iff plainEngine Char.toLower _ oneNumber (by decide +kernel)

/-- The plus sign of the identifier makes an invalid pattern. -/
theorem not_finds :
    ¬Finds plainEngine Char.toLower (byPartyId ⟨"+351911234567", by decide⟩) oneNumber := by
  intro hfinds
  have hagree := agree_of_finds (by decide +kernel) hfinds _ List.mem_cons_self rfl
  revert hagree
  decide +kernel

/-- When the given texts are patterns that match just what contains them, it is found in every
collection. -/
theorem finds_of_literal {engine : SearchEngine} {fold : Char → Char} {terms : SearchTerms}
    (hpartyId : ∀ text ∈ terms.partyId, ∀ field,
      accepts engine text field = contains fold text field)
    (hpartySubType : ∀ text ∈ terms.partySubType, ∀ field,
      accepts engine text field = contains fold text field) (s : BuiltinStore) :
    Finds engine fold terms s := by
  apply finds_of_agree
  intro document _ _
  unfold matchesGiven containsGiven
  congr 1
  · cases hterm : terms.partyId with
    | none => rfl
    | some text => exact hpartyId text hterm _
  · cases hterm : terms.partySubType with
    | none => rfl
    | some text => exact hpartySubType text hterm _

end MongoOracleProviderRepo

end AccountLookup
