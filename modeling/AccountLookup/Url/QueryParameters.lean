import AccountLookup.Url.Queries
import Mathlib.Algebra.Order.BigOperators.Group.List
import Mathlib.Algebra.Order.Ring.Nat

/-! Parameters of a query: which texts at the end of a URL a reader gets that joins the values of
their key, as they were put into it. -/

namespace Url

/-- What a reader has that joins the values of a key. -/
def joined (values : List String) : Option String :=
  if values = [] then none else some (",".intercalate values)

/-- The characters that do not get through a parameter of the query. -/
def queryBreakers : List Char := ['#', '&', '+', '\t', '\n', '\r']

/-- A parameter at the end of the query that gets through: it has none of these characters and no
bracket that its key would end at, does not end in a control or a space, and if it has a percent sign,
it is no encoded text, has nothing to encode and no escapes of brackets. -/
structure QuerySafe (l : List Char) : Prop where
  unbroken : ∀ c ∈ l, c ∉ queryBreakers
  unbracketed : ¬[']', '='] <:+: l
  ends : EndsPlain l
  percent : '%' ∈ l → decodeURIComponent l = none ∧ (∀ c ∈ l, inQuerySet c = false) ∧
    unescapeBrackets l = l

instance (l : List Char) : Decidable (QuerySafe l) :=
  decidable_of_iff (l.all (fun c => decide (c ∉ queryBreakers)) = true ∧
      (splitAfterBracket l).isNone = true ∧ EndsPlain l ∧ ('%' ∈ l → decodeURIComponent l = none ∧
        l.all (fun c => !inQuerySet c) = true ∧ unescapeBrackets l = l)) <| by
    have hset : l.all (fun c => !inQuerySet c) = true ↔ ∀ c ∈ l, inQuerySet c = false := by simp
    rw [hset, Option.isNone_iff_eq_none, splitAfterBracket_eq_none_iff]
    exact ⟨fun h => ⟨forall_mem_of_all h.1, h.2.1, h.2.2.1, h.2.2.2⟩,
      fun h => ⟨List.all_eq_true.mpr fun c hc => decide_eq_true (h.unbroken c hc), h.unbracketed,
        h.ends, h.percent⟩⟩

/-! ### Weights of joined values -/

@[simp] theorem joined_nil : joined [] = none := rfl

@[simp] theorem joined_singleton (value : String) : joined [value] = some value := rfl

theorem joined_map_ofList (value : List Char) (values : List (List Char)) :
    joined ((value :: values).map String.ofList) =
      some (String.ofList ([','].intercalate (value :: values))) := by
  have htext : ",".intercalate ((value :: values).map String.ofList) =
      String.ofList ([','].intercalate (value :: values)) := by
    rw [← String.toList_inj, String.toList_intercalate, String.toList_ofList, List.map_map]
    simp [Function.comp_def]
  rw [joined, if_neg (by simp), htext]

/-- Joined values weigh what they weigh with a comma for each of them, but one comma. -/
theorem weight_of_joined {w : Char → Nat} (hcomma : w ',' = 1) {values : List (List Char)}
    {l : List Char} (h : joined (values.map String.ofList) = some (String.ofList l)) :
    weight w l + 1 = (values.map fun value => weight w value + 1).sum := by
  cases values with
  | nil => cases h
  | cons value values =>
    rw [joined_map_ofList, Option.some.injEq, String.ofList_inj] at h
    rw [← h, weight_intercalate hcomma]

theorem le_keyedWeight {w : Char → Nat} (hcomma : w ',' = 1) {key : List Char}
    {parts : List (List Char)} {l : List Char}
    (h : joined ((valuesOf key parts).map String.ofList) = some (String.ofList l)) :
    weight w key + weight w l + 1 ≤ keyedWeight w key parts := by
  have hweight := weight_of_joined hcomma h
  unfold keyedWeight
  generalize valuesOf key parts = values at h hweight ⊢
  cases values with
  | nil => cases h
  | cons value values =>
    have hrest : (values.map fun value => weight w value + 1).sum ≤
        (values.map fun value => weight w key + weight w value + 1).sum :=
      List.sum_le_sum fun value _ => by omega
    rw [List.map_cons, List.sum_cons] at hweight ⊢
    omega

theorem takenFromQuery_comma : takenFromQuery 1 ',' = 1 := by decide

theorem givenByQuery_separator : givenByQuery '&' = 1 := by decide

section Parts

variable {query : List Char} (hquery : ∀ c ∈ query, inQuerySet c = false)
include hquery

/-- Every piece of a part of an encoded query gives what is decoded from it. -/
theorem weight_decode_of_part {part : List Char}
    (hpart : part ∈ (unescapeBrackets query).splitOnP (· = '&')) :
    ∀ l, l.Sublist part → weight (takenFromQuery 1) (decodeQueryPart l) ≤ weight givenByQuery l := by
  intro l hl
  refine weight_decodeQueryPart_le (fun c hc => ?_) (by omega) (.inl (Nat.le_refl 1))
  obtain ⟨hc, hseparator⟩ := mem_splitOnP hpart c (hl.subset hc)
  refine ⟨?_, by simpa using hseparator⟩
  rcases mem_unescapeBrackets hc with hc | rfl | rfl
  · exact hquery c hc
  · rfl
  · rfl

variable {first : List Char} {rest : List (List Char)}
  (hsplit : (unescapeBrackets query).splitOnP (· = '&') = first :: rest)
include hsplit

/-- The parts that follow the first leave room for it. -/
theorem keyedWeight_rest_le {key key' : List Char} (hne : key ≠ key') :
    keyedWeight (takenFromQuery 1) key rest + keyedWeight (takenFromQuery 1) key' rest +
      weight givenByQuery first ≤ weight givenByQuery query := by
  have hgiven := weight_splitOnP givenByQuery_separator (unescapeBrackets query)
  have hunescape := weight_unescapeBrackets_le query
  have hkeyed := keyedWeight_add_le hne fun part hpart =>
    weight_decode_of_part hquery (hsplit ▸ List.mem_cons_of_mem first hpart)
  rw [hsplit, List.map_cons, List.sum_cons] at hgiven
  omega

/-- The values of the key that a query is put behind, joined, take no more than what the query gives,
and less if its first part has another key. -/
theorem weight_le_of_joined {key l : List Char} (hkey : PlainKey key)
    (h : joined (queryValues (some (key ++ '=' :: query)) (String.ofList key)) =
      some (String.ofList l)) :
    weight (takenFromQuery 1) l ≤ weight givenByQuery (unescapeBrackets query) ∧
      (splitAfterBracket first ≠ none →
        weight (takenFromQuery 1) l < weight givenByQuery (unescapeBrackets query)) := by
  have hgiven := weight_splitOnP givenByQuery_separator (unescapeBrackets query)
  have hfirst := weight_decode_of_part hquery (hsplit ▸ List.mem_cons_self) first
    (List.Sublist.refl _)
  have hkeyed := keyedWeight_le key fun part hpart =>
    weight_decode_of_part hquery (hsplit ▸ List.mem_cons_of_mem first hpart)
  rw [hsplit, List.map_cons, List.sum_cons] at hgiven
  have hkey' : PlainKey (String.ofList key).toList := by rwa [String.toList_ofList]
  rw [queryValues_append hkey hsplit hkey', String.toList_ofList] at h
  by_cases hbracket : splitAfterBracket first = none
  · rw [if_pos ⟨hbracket, rfl⟩] at h
    have hweight := weight_of_joined takenFromQuery_comma h
    have hrest : ((valuesOf key rest).map fun value => weight (takenFromQuery 1) value + 1).sum ≤
        keyedWeight (takenFromQuery 1) key rest :=
      List.sum_le_sum fun value _ => by omega
    rw [List.map_cons, List.sum_cons] at hweight
    exact ⟨by omega, fun hne => absurd hbracket hne⟩
  · rw [if_neg fun hboth => hbracket hboth.1] at h
    have hle := le_keyedWeight takenFromQuery_comma h
    exact ⟨by omega, fun _ => by omega⟩

/-- When a query has no room for its key in the parts that follow the first, beside the values of
another key, the first has the key. -/
theorem unbracketed_of_room {key key' l : List Char} (hkey : PlainKey key) (hne : key ≠ key')
    (h : joined (queryValues (some (key ++ '=' :: query)) (String.ofList key)) =
      some (String.ofList l))
    (hroom : weight givenByQuery query ≤ weight (takenFromQuery 1) key +
      weight (takenFromQuery 1) l + keyedWeight (takenFromQuery 1) key' rest) :
    splitAfterBracket first = none := by
  have hrest := keyedWeight_rest_le hquery hsplit hne
  by_contra hbracket
  have hkey' : PlainKey (String.ofList key).toList := by rwa [String.toList_ofList]
  rw [queryValues_append hkey hsplit hkey', String.toList_ofList,
    if_neg fun hboth => hbracket hboth.1] at h
  have hkeyed := le_keyedWeight takenFromQuery_comma h
  omega

end Parts

/-- The encoded query of a text gives no more than what the text takes. -/
theorem weight_encode_le (l : List Char) :
    weight givenByQuery (encode inQuerySet (beforeFragment l)) ≤ weight (takenFromQuery 1) l := by
  have hencode := weight_encode_beforeFragment_le l
  have hsent : weight sentInQuery (beforeFragment l) ≤
      weight (takenFromQuery 1) (beforeFragment l) := weight_le_weight fun c _ => sentInQuery_le c
  have hsublist := weight_le_of_sublist (w := takenFromQuery 1) (beforeFragment_sublist l)
  omega

/-! ### One value -/

/-- Encoding adds no bracket that a key would end at, and takes none away. -/
theorem bracket_infix_encode_iff {l : List Char} :
    [']', '='] <:+: encode inQuerySet l ↔ [']', '='] <:+: l := by
  have hescape : ∀ d ∈ escapeChars, d ≠ ']' ∧ d ≠ '=' := forall_mem_of_all (by decide +kernel)
  have hskip {p : List Char} (hp : ∀ d ∈ p, d ∈ escapeChars) (r : List Char) :
      [']', '='] <:+: p ++ r ↔ [']', '='] <:+: r := by
    induction p with
    | nil => rfl
    | cons d p ih =>
      have hd := hescape d (hp d List.mem_cons_self)
      rw [List.cons_append, List.infix_cons_iff, List.cons_prefix_cons,
        ih fun e he => hp e (List.mem_cons_of_mem _ he)]
      simp [Ne.symm hd.1]
  have hequals (l : List Char) : ['='] <+: encode inQuerySet l ↔ ['='] <+: l := by
    cases l with
    | nil => rfl
    | cons c l =>
      rw [encode, List.flatMap_cons, List.singleton_prefix_cons_iff]
      cases hc : inQuerySet c with
      | true =>
        obtain ⟨tail, htail⟩ := encodeChar_eq_cons c
        rw [if_pos rfl, htail, List.cons_append, List.singleton_prefix_cons_iff]
        have hne : '=' ≠ c := by
          rintro rfl
          cases hc
        simp [hne]
      | false => simp
  induction l with
  | nil => rfl
  | cons c l ih =>
    have hrest := hequals l
    unfold encode at hrest ih ⊢
    rw [List.flatMap_cons, List.infix_cons_iff, List.cons_prefix_cons]
    cases hc : inQuerySet c with
    | true =>
      have hne : ']' ≠ c := by
        rintro rfl
        cases hc
      rw [if_pos rfl, hskip fun d hd => mem_encodeChar hd]
      simp [hne, ih]
    | false =>
      simp only [Bool.false_eq_true, if_false, List.cons_append, List.nil_append,
        List.infix_cons_iff, List.cons_prefix_cons, hrest, ih]

theorem splitOnP_of_not_mem {query : List Char} (h : '&' ∉ query) :
    query.splitOnP (· = '&') = [query] := by
  refine List.splitOnP_eq_singleton fun c hc => ?_
  rw [decide_eq_false_iff_not]
  rintro rfl
  exact h hc

/-- What a reader gets for a key that one value follows. -/
theorem queryValues_single {key : List Char} (hkey : PlainKey key) {query : List Char}
    (hseparator : '&' ∉ query) (hescape : unescapeBrackets query = query)
    (hbracket : ¬[']', '='] <:+: query) (key' : String) :
    queryValues (some (key ++ '=' :: query)) key' =
      if key = key'.toList then [String.ofList (decodeQueryPart query)] else [] := by
  have hnone := splitAfterBracket_eq_none_iff.mpr hbracket
  have hne : key ++ '=' :: query ≠ [] := by simp
  have hnil : valuesOf key'.toList [] = [] := rfl
  rw [queryValues_some, unescapeBrackets_key hkey, hescape, splitOnP_key hkey,
    splitOnP_of_not_mem hseparator, List.modifyHead_cons, valuesOf_cons, parsePair_append hkey hnone,
    hnil]
  by_cases hkey' : key = key'.toList
  · rw [if_pos ⟨hne, hkey'⟩, if_pos hkey']
    rfl
  · rw [if_neg fun hboth => hkey' hboth.2, if_neg hkey']
    rfl

section Single

variable {l : List Char} (h : QuerySafe l)
include h

theorem QuerySafe.beforeFragment_eq : beforeFragment l = l := by
  have hkept : Kept l := by
    intro c hc
    have hc := h.unbroken c hc
    simp only [queryBreakers, List.mem_cons, List.not_mem_nil, or_false, not_or] at hc
    simp [isTabOrNewline, hc]
  exact hkept.beforeFragment_eq.trans h.ends

/-- A safe value that ends a query is the one value of its key. -/
theorem QuerySafe.queryValues_eq {key : List Char} (hkey : PlainKey key) (key' : String) :
    queryValues (some (key ++ '=' :: encode inQuerySet (beforeFragment l))) key' =
      if key = key'.toList then [String.ofList l] else [] := by
  have hseparator : '&' ∉ l := fun hmem => h.unbroken _ hmem (by decide)
  have hplus : '+' ∉ l := fun hmem => h.unbroken _ hmem (by decide)
  have hpercent (hmem : '%' ∈ l) : decodeURIComponent l = none ∧ ∀ c ∈ l, inQuerySet c = false :=
    ⟨(h.percent hmem).1, (h.percent hmem).2.1⟩
  have hescape : unescapeBrackets (encode inQuerySet l) = encode inQuerySet l := by
    by_cases hmem : '%' ∈ l
    · obtain ⟨-, hset, hescape⟩ := h.percent hmem
      rw [encode_eq_self hset, hescape]
    · exact unescapeBrackets_encode hmem
  rw [h.beforeFragment_eq, queryValues_single hkey (separator_not_mem_encode hseparator) hescape
    (fun hinfix => h.unbracketed (bracket_infix_encode_iff.mp hinfix)),
    (decodeQueryPart_encode_iff hseparator).mpr ⟨hplus, hpercent⟩]

end Single

theorem querySafe_of_joined {key : List Char} (hkey : PlainKey key) {l : List Char}
    (h : joined (queryValues (some (key ++ '=' :: encode inQuerySet (beforeFragment l)))
      (String.ofList key)) = some (String.ofList l)) : QuerySafe l := by
  have hquery : ∀ c ∈ encode inQuerySet (beforeFragment l), inQuerySet c = false :=
    fun _ hc => inQuerySet_of_mem_encode hc
  obtain ⟨first, rest, hsplit⟩ := List.exists_cons_of_ne_nil (List.splitOnP_ne_nil (· = '&')
    (unescapeBrackets (encode inQuerySet (beforeFragment l))))
  obtain ⟨hle, hlt⟩ := weight_le_of_joined hquery hsplit hkey h
  -- the text is as heavy as it can be after each of the steps
  have hunescape := weight_unescapeBrackets_le (encode inQuerySet (beforeFragment l))
  have hencode := weight_encode_beforeFragment_le l
  have hsent : weight sentInQuery (beforeFragment l) ≤
      weight (takenFromQuery 1) (beforeFragment l) := weight_le_weight fun c _ => sentInQuery_le c
  have hsublist := weight_le_of_sublist (w := takenFromQuery 1) (beforeFragment_sublist l)
  have hall : beforeFragment l = l :=
    eq_of_sublist_of_weight_le one_le_takenFromQuery (beforeFragment_sublist l) (by omega)
  have hescape := unescapeBrackets_eq_of_le (l := encode inQuerySet (beforeFragment l)) (by omega)
  have hbracket : splitAfterBracket first = none := by
    by_contra hne
    have hlt := hlt hne
    omega
  have hkept : Kept l := fun c hc => kept_beforeFragment l c (hall.symm ▸ hc)
  rw [hall] at hencode hescape hsplit hsent hunescape hle h
  have hseparator : '&' ∉ l := by
    intro hmem
    have heq := eq_of_weight_le sentInQuery_le (by omega) '&' hmem
    exact absurd heq (by decide)
  have hseparator' := separator_not_mem_encode hseparator
  -- all of the text is the one value of the key
  rw [hescape, splitOnP_of_not_mem hseparator'] at hsplit
  obtain ⟨rfl, -⟩ := List.cons.inj hsplit
  rw [splitAfterBracket_eq_none_iff] at hbracket
  rw [queryValues_single hkey hseparator' hescape hbracket, String.toList_ofList, if_pos rfl,
    joined_singleton, Option.some.injEq, String.ofList_inj] at h
  obtain ⟨hplus, hpercent⟩ := (decodeQueryPart_encode_iff hseparator).mp h
  refine ⟨?_, fun hinfix => hbracket (bracket_infix_encode_iff.mpr hinfix),
    hkept.beforeFragment_eq.symm.trans hall, fun hmem => ?_⟩
  · intro c hc
    obtain ⟨htab, hfragment⟩ := hkept c hc
    simp only [isTabOrNewline, Bool.or_eq_false_iff, decide_eq_false_iff_not] at htab
    have hplus : c ≠ '+' := fun heq => hplus (heq ▸ hc)
    have hseparator : c ≠ '&' := fun heq => hseparator (heq ▸ hc)
    simp [queryBreakers, htab, hfragment, hseparator, hplus]
  · obtain ⟨hdecode, hset⟩ := hpercent hmem
    rw [encode_eq_self hset] at hescape
    exact ⟨hdecode, hset, hescape⟩

/-- A value at the end of a query arrives exactly when it is safe. -/
theorem joined_eq_iff {key : List Char} (hkey : PlainKey key) (l : List Char) :
    joined (queryValues (some (key ++ '=' :: encode inQuerySet (beforeFragment l)))
        (String.ofList key)) = some (String.ofList l) ↔ QuerySafe l := by
  constructor
  · exact querySafe_of_joined hkey
  · intro h
    rw [h.queryValues_eq hkey, String.toList_ofList, if_pos rfl, joined_singleton]

/-! ### Values behind a slash -/

theorem encode_slashes (n : Nat) (l : List Char) :
    unescapeBrackets (encode inQuerySet (beforeFragment (List.replicate n '/' ++ '/' :: l))) =
      List.replicate (n + 1) '/' ++
        unescapeBrackets (encode inQuerySet (beforeFragment l)) := by
  have hslash : ∀ c ∈ List.replicate (n + 1) '/', c = '/' := fun c hc =>
    List.eq_of_mem_replicate hc
  have hcons (l : List Char) :
      List.replicate n '/' ++ '/' :: l = List.replicate (n + 1) '/' ++ l := by
    rw [List.replicate_succ', List.append_assoc]
    rfl
  have hkept : Kept (List.replicate n '/' ++ ['/']) := by
    intro c hc
    rw [← List.replicate_succ'] at hc
    rw [hslash c hc]
    decide
  have hpercent : '%' ∉ List.replicate (n + 1) '/' := by
    intro hmem
    cases hslash '%' hmem
  rw [beforeFragment_append_cons (by decide) hkept, hcons, encode_append,
    encode_eq_self fun c hc => by rw [hslash c hc]; rfl, unescapeBrackets_append hpercent]

/-- How many slashes a text begins with. -/
def leadingSlashes (l : List Char) : Nat := (l.takeWhile (· = '/')).length

theorem leadingSlashes_append (n : Nat) (l : List Char) :
    leadingSlashes (List.replicate n '/' ++ l) = n + leadingSlashes l := by
  unfold leadingSlashes
  rw [List.takeWhile_append_of_pos fun c hc => by simp [List.eq_of_mem_replicate hc],
    List.length_append, List.length_replicate]

theorem replicate_leadingSlashes_append (l : List Char) :
    List.replicate (leadingSlashes l) '/' ++ l.dropWhile (· = '/') = l := by
  have htake : l.takeWhile (· = '/') = List.replicate (leadingSlashes l) '/' := by
    refine List.eq_replicate_iff.mpr ⟨rfl, fun c hc => ?_⟩
    simpa using List.mem_takeWhile_imp hc
  rw [← htake, List.takeWhile_append_dropWhile]

theorem exists_intercalate_append (sep start l : List Char) (ls : List (List Char)) :
    ∃ rest, sep.intercalate ((start ++ l) :: ls) = start ++ rest := by
  cases ls with
  | nil => exact ⟨l, List.intercalate_singleton⟩
  | cons l' ls =>
    rw [List.intercalate_cons_cons, List.append_assoc, List.append_assoc]
    exact ⟨_, rfl⟩

/-- A value that is sent behind a slash does not arrive in the first part of a query: what arrives
begins with one slash more. -/
theorem joined_slash_ne {key : List Char} (hkey : PlainKey key) {l l' first : List Char}
    {rest : List (List Char)}
    (hsplit : (unescapeBrackets (encode inQuerySet (beforeFragment ('/' :: (l ++ l'))))).splitOnP
      (· = '&') = first :: rest) (hbracket : splitAfterBracket first = none) :
    joined (queryValues (some (key ++ '=' :: encode inQuerySet (beforeFragment ('/' :: (l ++ l')))))
      (String.ofList key)) ≠ some (String.ofList l) := by
  have hvalue : '/' :: (l ++ l') =
      List.replicate (leadingSlashes l) '/' ++ '/' :: (l.dropWhile (· = '/') ++ l') := by
    conv_lhs => rw [← replicate_leadingSlashes_append l]
    rw [List.append_assoc, ← List.cons_append, ← List.replicate_succ, List.replicate_succ']
    simp
  -- the first part begins with the slashes, which are decoded to themselves
  obtain ⟨tail, hfirst⟩ : ∃ tail, first = List.replicate (leadingSlashes l + 1) '/' ++ tail := by
    rw [hvalue, encode_slashes, splitOnP_append fun c hc => by
      rw [List.eq_of_mem_replicate hc]; rfl] at hsplit
    obtain ⟨tail, parts, htail⟩ := List.exists_cons_of_ne_nil (List.splitOnP_ne_nil (· = '&')
      (unescapeBrackets (encode inQuerySet (beforeFragment (l.dropWhile (· = '/') ++ l')))))
    rw [htail, List.modifyHead_cons] at hsplit
    exact ⟨tail, (List.cons.inj hsplit).1.symm⟩
  have hdecode : decodeQueryPart first =
      List.replicate (leadingSlashes l + 1) '/' ++ decodeQueryPart tail := by
    rw [hfirst]
    exact decodeQueryPart_append (fun c hc => by rw [List.eq_of_mem_replicate hc]; decide) tail
  have hkey' : PlainKey (String.ofList key).toList := by rwa [String.toList_ofList]
  rw [queryValues_append hkey hsplit hkey', if_pos ⟨hbracket, by rw [String.toList_ofList]⟩,
    joined_map_ofList, ne_eq, Option.some.injEq, String.ofList_inj, hdecode]
  obtain ⟨arrived, harrived⟩ := exists_intercalate_append [',']
    (List.replicate (leadingSlashes l + 1) '/') (decodeQueryPart tail)
    (valuesOf (String.ofList key).toList rest)
  rw [harrived]
  intro h
  have hslashes := congrArg leadingSlashes h
  rw [leadingSlashes_append] at hslashes
  omega

/-! ### Keys -/

/-- A key that stands for itself in a query of a URL. -/
def UrlKey (key : List Char) : Prop :=
  PlainKey key ∧ ∀ c ∈ key, inQuerySet c = false ∧ isTabOrNewline c = false

theorem encode_key {key : List Char} (hkey : UrlKey key) (value : List Char) :
    encode inQuerySet (beforeFragment (key ++ '=' :: value)) =
      key ++ '=' :: encode inQuerySet (beforeFragment value) := by
  have hkeep : Kept (key ++ ['=']) := by
    intro c hc
    rcases List.mem_append.mp hc with hc | hc
    · refine ⟨(hkey.2 c hc).2, ?_⟩
      rintro rfl
      exact absurd (hkey.2 '#' hc).1 (by decide)
    · obtain rfl := List.mem_singleton.mp hc
      decide
  have hcons : key ++ '=' :: beforeFragment value = (key ++ ['=']) ++ beforeFragment value := by
    simp
  have hself : ∀ c ∈ key ++ ['='], inQuerySet c = false := by
    intro c hc
    rcases List.mem_append.mp hc with hc | hc
    · exact (hkey.2 c hc).1
    · obtain rfl := List.mem_singleton.mp hc
      rfl
  rw [beforeFragment_append_cons (by decide) hkeep, hcons, encode_append, encode_eq_self hself]
  simp

end Url
