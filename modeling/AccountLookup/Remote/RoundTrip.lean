import AccountLookup.Remote.Provider
import AccountLookup.Url.Parameters

/-! The two ends of the remote oracle protocol: which parties a remote adapter and the remote oracle
service agree on. -/

namespace AccountLookup

open Url RemoteOracleExpressRoutes

namespace HttpOracleProvider

/-- A party that the URL carries: it has no subtype, its type and identifier are safe in the path, and
the parameter that ends the URL keeps its end. -/
structure Carried (partyType partyId : String) (partySubType currency : Option String) : Prop where
  noSubType : partySubType = none
  typeSafe : PathSafe partyType.toList
  idSafe : PathSafe partyId.toList
  last : match currency with
    | none => EndsPlain partyId.toList
    | some currency => QuerySafe currency.toList

/-- The parameters of a party. -/
def paramsOf (partyType partyId : String) (partySubType currency : Option String) :
    RequestParams :=
  ⟨partyType, partyId, .ofOption partySubType, .ofOption currency⟩

/-! ### The service as a reader of parameters -/

/-- The encoded parameters of a path. -/
def partySegments (path : List (List Char)) : Option (List Char × List Char) :=
  match route path with
  | .participant partyType partyId => some (partyType, partyId)
  | _ => none

theorem path_of_route {path : List (List Char)} {partyType partyId : List Char}
    (h : route path = .participant partyType partyId) :
    ∃ constant, isConstant constant "participants" = true ∧ partyType ≠ [] ∧ partyId ≠ [] ∧
      (path = [constant, partyType, partyId] ∨ path = [constant, partyType, partyId, []]) := by
  unfold route at h
  split at h
  · split at h <;> cases h
  next constant typeSegment idSegment hsegments =>
    split at h
    next hmatch =>
      cases h
      simp only [Bool.and_eq_true, decide_eq_true_eq] at hmatch
      obtain ⟨⟨hconstant, htype⟩, hid⟩ := hmatch
      refine ⟨constant, hconstant, htype, hid, ?_⟩
      split at hsegments
      next hlast =>
        right
        obtain ⟨front, rfl⟩ := List.getLast?_eq_some_iff.mp hlast
        rw [List.dropLast_concat] at hsegments
        rw [hsegments]
        rfl
      next => exact .inl hsegments
    next => cases h
  · cases h

theorem partySegments_eq_some {path : List (List Char)} {segments : List Char × List Char} :
    partySegments path = some segments ↔ route path = .participant segments.1 segments.2 := by
  unfold partySegments
  cases route path with
  | participant partyType partyId => simp [Prod.ext_iff]
  | health | none => simp

theorem readsParameters_partySegments :
    ReadsParameters "participants".toList partySegments where
  segments {path partyType partyId} h := by
    obtain ⟨constant, hconstant, htype, hid, hpath⟩ :=
      path_of_route (partySegments_eq_some.mp h)
    have hne : constant ≠ [] := by
      rintro rfl
      exact absurd hconstant (by decide)
    refine ⟨constant, length_of_isConstant hconstant, ?_⟩
    rcases hpath with rfl | rfl <;> simp [hne, htype, hid]
  reads {partyType partyId} htype hid := by
    have hconstant : isConstant "participants".toList "participants" = true := by decide
    have hlast : ["participants".toList, partyType, partyId].getLast? ≠ some [] := by simpa using hid
    rw [partySegments_eq_some, route, if_neg hlast]
    simp only [hconstant, htype, hid, ne_eq, not_false_eq_true, decide_true, Bool.and_self, if_true]

theorem constantSegment_participants : ConstantSegment "participants".toList :=
  ⟨by decide, forall_mem_of_all (by decide)⟩

theorem queryParam_eq (query : Option (List Char)) (key : String) :
    queryParam query key = .ofOption (joined (queryValues query key)) := by
  unfold queryParam joined
  split
  next h => rw [h, if_pos rfl]; rfl
  next h => rw [if_neg h]; rfl

theorem servedParams_iff {partyType partyId : String} {partySubType currency : Option String}
    {input : List Char} :
    servedParams (parse input) = some (paramsOf partyType partyId partySubType currency) ↔
      Arrive partySegments partyType.toList partyId.toList input ∧
        joined (queryValues (parse input).query "partySubType") = partySubType ∧
        joined (queryValues (parse input).query "currency") = currency := by
  have hread {typeSegment idSegment : List Char} {query : Option (List Char)} :
      extractRequestParams typeSegment idSegment query =
          some (paramsOf partyType partyId partySubType currency) ↔
        (decodeURIComponent typeSegment = some partyType.toList ∧
          decodeURIComponent idSegment = some partyId.toList) ∧
          joined (queryValues query "partySubType") = partySubType ∧
          joined (queryValues query "currency") = currency := by
    unfold extractRequestParams paramsOf
    cases decodeURIComponent typeSegment with
    | none => simp
    | some readType =>
      cases decodeURIComponent idSegment with
      | none => simp
      | some readId =>
        simp [← String.toList_inj, and_assoc, queryParam_eq]
  unfold servedParams Arrive partySegments
  cases hroute : route (parse input).path with
  | participant typeSegment idSegment =>
    dsimp only
    rw [hread]
    simp
  | health | none => simp

/-! ### The URL of a party -/

/-- The URL of a party before its query. -/
def base (partyType partyId : List Char) : List Char :=
  parameterPath "participants".toList partyType partyId

theorem plain_base_of_safe {partyType partyId : List Char} (htype : PathSafe partyType)
    (hid : PathSafe partyId) : Plain (base partyType partyId) :=
  plain_parameterPath constantSegment_participants htype.unbroken hid.unbroken

theorem urlKey_partySubType : UrlKey "partySubType".toList :=
  ⟨forall_mem_of_all (by decide), forall_mem_of_all (by decide)⟩

theorem urlKey_currency : UrlKey "currency".toList :=
  ⟨forall_mem_of_all (by decide), forall_mem_of_all (by decide)⟩

section Url

variable (partyType partyId : String) (partySubType currency : Js.Str)

/-- The part of the URL of a party that follows its base. -/
def tail : List Char :=
  (if partySubType.truthy then
    '?' :: ("partySubType".toList ++ '=' :: '/' :: partySubType.text.toList) else []) ++
    if currency.truthy then '?' :: ("currency".toList ++ '=' :: currency.text.toList) else []

theorem toList_participantUrl :
    (participantUrl (.val partyType) (.val partyId) partySubType currency).toList =
      base partyType.toList partyId.toList ++ tail partySubType currency := by
  have hslash : "/".toList = ['/'] := by decide
  have hconstant : "/participants/".toList = '/' :: ("participants".toList ++ ['/']) := by decide
  have hsubType : "?partySubType=/".toList = '?' :: ("partySubType".toList ++ ['=', '/']) := by
    decide
  have hcurrency : "?currency=".toList = '?' :: ("currency".toList ++ ['=']) := by decide
  have hempty : "".toList = [] := by decide
  unfold participantUrl base parameterPath tail
  simp only [String.toList_append, Js.Field.text_val, hslash, hconstant, apply_ite String.toList,
    hsubType, hcurrency, hempty, List.append_assoc, List.cons_append, List.nil_append]

/-- A subtype is sent after a slash, and what follows it after another question mark. -/
theorem tail_partySubType {partySubType : String} (h : partySubType ≠ "") :
    tail (.val partySubType) currency =
      '?' :: ("partySubType".toList ++ '=' :: '/' ::
        (partySubType.toList ++ tail .null currency)) := by
  have htruthy : Js.Field.truthy (.val partySubType) = true := by simpa [Js.Field.truthy] using h
  unfold tail
  rw [htruthy]
  generalize "partySubType".toList = key
  generalize "currency".toList = key'
  simp

theorem tail_currency {currency : String} (h : currency ≠ "") :
    tail .null (.val currency) = '?' :: ("currency".toList ++ '=' :: currency.toList) := by
  have htruthy : Js.Field.truthy (.val currency) = true := by simpa [Js.Field.truthy] using h
  unfold tail
  rw [htruthy]
  rfl

end Url

/-- The URL of a party without a subtype has its currency, if any, in the query. -/
theorem participantUrl_eq {partyType partyId : String} {currency : Option String}
    (hcurrency : currency ≠ some "") :
    (participantUrl (.val partyType) (.val partyId) .null (.ofOption currency)).toList =
      parameterUrl "participants".toList partyType.toList partyId.toList "currency".toList
        (currency.map String.toList) := by
  rw [toList_participantUrl, base]
  cases currency with
  | none =>
    have htail : tail .null (.ofOption none) = [] := rfl
    rw [htail, List.append_nil]
    rfl
  | some currency =>
    have hne : currency ≠ "" := fun heq => hcurrency (heq ▸ rfl)
    rw [Js.Field.ofOption, tail_currency hne]
    rfl

/-! ### The parties that both ends agree on -/

theorem carried_iff {partyType partyId : String} {currency : Option String} :
    Carried partyType partyId none currency ↔
      ParametersSafe partyType.toList partyId.toList (currency.map String.toList) := by
  cases currency with
  | none | some =>
    exact ⟨fun h => ⟨h.typeSafe, h.idSafe, h.last⟩,
      fun h => ⟨rfl, h.firstSafe, h.secondSafe, h.last⟩⟩

/-- The query of a party that the URL carries has no other key than `currency`. -/
theorem queryValues_of_carried {partyType partyId : String} {currency : Option String}
    (hcurrency : currency ≠ some "") (h : Carried partyType partyId none currency) {key : String}
    (hkey : key ≠ "currency") :
    queryValues (parse (participantUrl (.val partyType) (.val partyId) .null
      (.ofOption currency)).toList).query key = [] := by
  rw [participantUrl_eq hcurrency]
  exact queryValues_other constantSegment_participants urlKey_currency (carried_iff.mp h) hkey

/-- The FSP of a change for a party that the URL carries is that of the body. -/
theorem validFspId_of_carried {partyType partyId : String} {partySubType currency : Option String}
    (hcurrency : currency ≠ some "") (h : Carried partyType partyId partySubType currency)
    (method : HttpMethod) (fspId : Js.Str) :
    validFspId (participantRequest method fspId (.val partyType) (.val partyId)
      (.ofOption partySubType) (.ofOption currency)) = fspId.truthy := by
  obtain rfl := h.noSubType
  have hquery : queryValues (participantRequest method fspId (.val partyType) (.val partyId)
      (.ofOption none) (.ofOption currency)).target.query "fspId" = [] :=
    queryValues_of_carried hcurrency h (by decide)
  unfold validFspId
  rw [hquery]
  simp [participantRequest]

section Carried

variable {partyType partyId : String} (htype : partyType ≠ "") (hid : partyId ≠ "")
include htype hid

/-- The subtype never arrives along with the currency. -/
theorem servedParams_partySubType_ne {partySubType : String} (h : partySubType ≠ "")
    {currency : Option String} (hcurrency : currency ≠ some "") :
    servedParams (parse (participantUrl (.val partyType) (.val partyId) (.val partySubType)
        (.ofOption currency)).toList) ≠
      some (paramsOf partyType partyId (some partySubType) currency) := by
  have htype : partyType.toList ≠ [] := by simpa using htype
  have hid : partyId.toList ≠ [] := by simpa using hid
  rw [toList_participantUrl, tail_partySubType _ h, ne_eq, servedParams_iff,
    base, arrive_query_iff constantSegment_participants readsParameters_partySegments htype hid]
  intro h
  obtain ⟨⟨hsafe, hsafe'⟩, hsubType, hcurrency'⟩ := h
  rw [← base, query_append_question (plain_base_of_safe hsafe hsafe'),
    encode_key urlKey_partySubType] at hsubType hcurrency'
  obtain ⟨first, rest, hsplit⟩ := List.exists_cons_of_ne_nil (List.splitOnP_ne_nil (· = '&')
    (unescapeBrackets (encode inQuerySet
      (beforeFragment ('/' :: (partySubType.toList ++ tail .null (.ofOption currency)))))))
  have hkey : "partySubType".toList ≠ "currency".toList := by decide
  have hsubType' : joined (queryValues (some ("partySubType".toList ++ '=' ::
      encode inQuerySet (beforeFragment ('/' :: (partySubType.toList ++
        tail .null (.ofOption currency)))))) (String.ofList "partySubType".toList)) =
      some (String.ofList partySubType.toList) := by
    rw [String.ofList_toList, String.ofList_toList]
    exact hsubType
  -- the subtype is not in the first part with its slash, and has no room in the others
  have hbracket : splitAfterBracket first = none := by
    refine unbracketed_of_room (fun _ => inQuerySet_of_mem_encode) hsplit urlKey_partySubType.1 hkey
      hsubType' ((weight_encode_le _).trans ?_)
    have hslash : takenFromQuery 1 '/' = 1 := by decide
    have hquestion : takenFromQuery 1 '?' = 1 := by decide
    have hequals : takenFromQuery 1 '=' = 1 := by decide
    have hlength : weight (takenFromQuery 1) "partySubType".toList = 12 := by decide
    rw [weight_cons, weight_append, hslash, hlength]
    cases currency with
    | none =>
      have htail : tail .null (.ofOption none) = [] := rfl
      rw [htail, weight_nil]
      omega
    | some currency =>
      have hne : currency ≠ "" := fun heq => hcurrency (heq ▸ rfl)
      rw [queryValues_append urlKey_partySubType.1 hsplit urlKey_currency.1,
        if_neg fun hboth => hkey hboth.2, ← @String.ofList_toList currency] at hcurrency'
      have hkeyed := le_keyedWeight takenFromQuery_comma hcurrency'
      rw [Js.Field.ofOption, tail_currency hne, weight_cons, weight_append, weight_cons, hquestion,
        hequals]
      omega
  exact joined_slash_ne urlKey_partySubType.1 hsplit hbracket hsubType'

/-- A party without a subtype arrives exactly when the URL carries it. -/
theorem servedParams_iff_carried {currency : Option String} (hcurrency : currency ≠ some "") :
    servedParams (parse (participantUrl (.val partyType) (.val partyId) .null
        (.ofOption currency)).toList) = some (paramsOf partyType partyId none currency) ↔
      Carried partyType partyId none currency := by
  have harrive := @strings_arrive_iff _ constantSegment_participants _ urlKey_currency _ _ currency _
    readsParameters_partySegments htype hid
  rw [← participantUrl_eq hcurrency] at harrive
  rw [servedParams_iff, carried_iff, ← harrive]
  constructor
  · intro h
    exact ⟨h.1, h.2.2⟩
  · intro h
    refine ⟨h.1, ?_, h.2⟩
    rw [queryValues_of_carried hcurrency (carried_iff.mpr (harrive.mp h)) (by decide), joined_nil]

/-- The parameters of a party arrive exactly when the URL carries it. -/
theorem servedParams_participantRequest {partySubType currency : Option String}
    (hsubType : partySubType ≠ some "") (hcurrency : currency ≠ some "") (method : HttpMethod)
    (fspId : Js.Str) :
    servedParams (participantRequest method fspId (.val partyType) (.val partyId)
        (.ofOption partySubType) (.ofOption currency)).target =
          some (paramsOf partyType partyId partySubType currency) ↔
      Carried partyType partyId partySubType currency := by
  cases partySubType with
  | none => exact servedParams_iff_carried htype hid hcurrency
  | some partySubType =>
    have hne : partySubType ≠ "" := fun heq => hsubType (heq ▸ rfl)
    constructor
    · exact fun h => absurd h (servedParams_partySubType_ne htype hid hne hcurrency)
    · intro h
      cases h.noSubType

/-- The request for a party calls the remote oracle with the party's parameters exactly when the URL
carries the party, and a change has a non-empty FSP. -/
theorem calls_participantRequest_iff {partySubType currency : Option String}
    (hsubType : partySubType ≠ some "") (hcurrency : currency ≠ some "") (method : HttpMethod)
    (fspId : Js.Str) :
    calls (participantRequest method fspId (.val partyType) (.val partyId)
        (.ofOption partySubType) (.ofOption currency)) =
          some (paramsOf partyType partyId partySubType currency) ↔
      Carried partyType partyId partySubType currency ∧
        (method = .get ∨ fspId.truthy = true) := by
  rw [calls_eq_some_iff, servedParams_participantRequest htype hid hsubType hcurrency, and_comm]
  apply and_congr_right
  intro hcarried
  rw [validFspId_of_carried hcurrency hcarried]
  rfl

end Carried

theorem calls_participantRequest_iff_currency :
    calls (participantRequest .post (.val "bank") (.val "MSISDN") (.val "123456789") .null
        (.val "EUR")) = some ⟨"MSISDN", "123456789", .null, .val "EUR"⟩ := by
  have hcarried : Carried "MSISDN" "123456789" none (some "EUR") :=
    carried_iff.mpr (by decide +kernel)
  have hsubType : (none : Option String) ≠ some "" := by decide
  have hcurrency : some "EUR" ≠ some "" := by decide
  exact (calls_participantRequest_iff (by decide) (by decide) hsubType hcurrency .post
    (.val "bank")).mpr ⟨hcarried, .inr rfl⟩

/-- The subtype arrives with a slash before it and the currency at its end. -/
theorem calls_participantRequest_subType_ne :
    let req := participantRequest .get .undefined (.val "MSISDN") (.val "123456789")
      (.val "PERSONAL") (.val "EUR")
    calls req = some ⟨"MSISDN", "123456789", .val "/PERSONAL?currency=EUR", .null⟩ ∧
      calls req ≠ some ⟨"MSISDN", "123456789", .val "PERSONAL", .val "EUR"⟩ := by
  decide +kernel

end HttpOracleProvider

end AccountLookup
