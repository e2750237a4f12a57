import AccountLookup.Url.Targets
import Mathlib.Algebra.Order.Ring.Nat

/-! Query strings: what the value of a key is decoded to, and how much of the query is left in the
values of a key. -/

namespace Url

/-! ### Pairs -/

/-- A key that stands for itself in a query. -/
def PlainKey (key : List Char) : Prop :=
  ∀ c ∈ key, c ≠ '&' ∧ c ≠ '=' ∧ c ≠ ']' ∧ c ≠ '%' ∧ c ≠ '+'

/-- A plus in a query stands for a space. -/
def plusToSpace (c : Char) : Char := if c = '+' then ' ' else c

theorem decodeQueryPart_eq (part : List Char) :
    decodeQueryPart part =
      (decodeURIComponent (part.map plusToSpace)).getD (part.map plusToSpace) := rfl

theorem plusToSpace_ne (c : Char) : plusToSpace c ≠ '+' := by
  unfold plusToSpace
  split_ifs with hplus
  · decide
  · exact hplus

theorem map_plusToSpace {l : List Char} (h : '+' ∉ l) : l.map plusToSpace = l := by
  have hsame : ∀ c ∈ l, plusToSpace c = id c := by
    intro c hc
    have hne : c ≠ '+' := fun hplus => h (hplus ▸ hc)
    exact if_neg hne
  rw [List.map_congr_left hsame, List.map_id]

theorem decodeQueryPart_nil : decodeQueryPart [] = [] := rfl

/-- A character that is no percent sign and no plus stands for itself. -/
theorem decodeQueryPart_cons {c : Char} (hpercent : c ≠ '%') (hplus : c ≠ '+') (l : List Char) :
    decodeQueryPart (c :: l) = c :: decodeQueryPart l := by
  have hc : plusToSpace c = c := if_neg hplus
  rw [decodeQueryPart_eq, List.map_cons, hc, decodeURIComponent_cons_of_ne hpercent,
    decodeQueryPart_eq]
  cases decodeURIComponent (l.map plusToSpace) <;> rfl

theorem decodeQueryPart_append {l : List Char} (h : ∀ c ∈ l, c ≠ '%' ∧ c ≠ '+') (r : List Char) :
    decodeQueryPart (l ++ r) = l ++ decodeQueryPart r := by
  induction l with
  | nil => rfl
  | cons c l ih =>
    obtain ⟨hpercent, hplus⟩ := h c List.mem_cons_self
    have hrest := ih fun d hd => h d (List.mem_cons_of_mem _ hd)
    rw [List.cons_append, decodeQueryPart_cons hpercent hplus, hrest, List.cons_append]

theorem PlainKey.decode_eq {key : List Char} (h : PlainKey key) : decodeQueryPart key = key := by
  have happend := decodeQueryPart_append (fun c hc => (h c hc).2.2.2) []
  simpa [decodeQueryPart_nil] using happend

/-! ### Brackets -/

/-- A text without percent signs before a query has no escapes of brackets. -/
theorem unescapeBrackets_append {l : List Char} (h : '%' ∉ l) (r : List Char) :
    unescapeBrackets (l ++ r) = l ++ unescapeBrackets r := by
  induction l with
  | nil => rfl
  | cons c l ih =>
    rw [List.mem_cons, not_or] at h
    have hc : unescapeBrackets (c :: (l ++ r)) = c :: unescapeBrackets (l ++ r) := by
      rw [unescapeBrackets]
      rintro _ _ rfl
      exact absurd rfl h.1
    rw [List.cons_append, hc, ih h.2, List.cons_append]

theorem unescapeBrackets_cons {c : Char} (h : c ≠ '%') (l : List Char) :
    unescapeBrackets (c :: l) = c :: unescapeBrackets l :=
  unescapeBrackets_append (l := [c]) (by simpa using h.symm) l

theorem unescapeBrackets_percent {a b : Char} (h : a = '5' → b ∉ ['B', 'b', 'D', 'd'])
    (l : List Char) :
    unescapeBrackets ('%' :: a :: b :: l) = '%' :: unescapeBrackets (a :: b :: l) := by
  by_cases ha : a = '5'
  · subst ha
    have hb := h rfl
    simp only [List.mem_cons, List.not_mem_nil, or_false, not_or] at hb
    rw [unescapeBrackets]
    simp [hb]
  · rw [unescapeBrackets]
    rintro _ _ - heq
    exact absurd (List.cons.inj heq).1 ha

theorem unescapeBrackets_encodeByte {b : UInt8} (h : b ≠ 0x5B ∧ b ≠ 0x5D) (l : List Char) :
    unescapeBrackets (encodeByte b ++ l) = encodeByte b ++ unescapeBrackets l := by
  have hdigits : ∀ n < 256, hexDigit (n / 16) ≠ '%' ∧ hexDigit (n % 16) ≠ '%' ∧
      (hexDigit (n / 16) = '5' → hexDigit (n % 16) ∈ ['B', 'b', 'D', 'd'] → n = 91 ∨ n = 93) := by
    decide +kernel
  obtain ⟨hhigh, hlow, hbracket⟩ := hdigits b.toNat b.toNat_lt
  show unescapeBrackets ('%' :: hexDigit (b.toNat / 16) :: hexDigit (b.toNat % 16) :: l) = _
  have hnot : hexDigit (b.toNat / 16) = '5' → hexDigit (b.toNat % 16) ∉ ['B', 'b', 'D', 'd'] := by
    intro hfive hmem
    rcases hbracket hfive hmem with hb | hb
    · exact h.1 (UInt8.toNat_inj.mp hb)
    · exact h.2 (UInt8.toNat_inj.mp hb)
  rw [unescapeBrackets_percent hnot, unescapeBrackets_cons hhigh, unescapeBrackets_cons hlow]
  rfl

theorem unescapeBrackets_encodeChar {c : Char} (h : inQuerySet c = true) (l : List Char) :
    unescapeBrackets (encodeChar c ++ l) = encodeChar c ++ unescapeBrackets l := by
  have hbytes : ∀ b ∈ String.utf8EncodeChar c, b ≠ 0x5B ∧ b ≠ 0x5D := by
    intro b hmem
    constructor
    · rintro rfl
      have hc : c = '[' := Char.toNat_inj.mp (eq_of_mem_utf8EncodeChar hmem (by decide))
      rw [hc] at h
      cases h
    · rintro rfl
      have hc : c = ']' := Char.toNat_inj.mp (eq_of_mem_utf8EncodeChar hmem (by decide))
      rw [hc] at h
      cases h
  unfold encodeChar
  generalize String.utf8EncodeChar c = bytes at hbytes ⊢
  induction bytes with
  | nil => rfl
  | cons b bs ih =>
    have hrest := ih fun b' hb' => hbytes b' (List.mem_cons_of_mem _ hb')
    rw [List.flatMap_cons, List.append_assoc,
      unescapeBrackets_encodeByte (hbytes b List.mem_cons_self), hrest, List.append_assoc]

/-- The encoded form of a text without percent signs has no escapes of brackets. -/
theorem unescapeBrackets_encode {l : List Char} (h : '%' ∉ l) :
    unescapeBrackets (encode inQuerySet l) = encode inQuerySet l := by
  induction l with
  | nil => rfl
  | cons c l ih =>
    rw [List.mem_cons, not_or] at h
    have hrest := ih h.2
    unfold encode at hrest ⊢
    rw [List.flatMap_cons]
    cases hset : inQuerySet c with
    | true => simp only [if_true, unescapeBrackets_encodeChar hset, hrest]
    | false =>
      simp only [Bool.false_eq_true, if_false, List.cons_append, List.nil_append,
        unescapeBrackets_cons (Ne.symm h.1), hrest]

theorem splitAfterBracket_cons {c : Char} (h : c ≠ ']') (l : List Char) :
    splitAfterBracket (c :: l) = (splitAfterBracket l).map fun pair => (c :: pair.1, pair.2) := by
  rw [splitAfterBracket]
  rintro _ rfl
  exact absurd rfl h

/-- What is split after a bracket is the key and the value with an `=` between them. -/
theorem eq_of_splitAfterBracket {l key value : List Char}
    (h : splitAfterBracket l = some (key, value)) : l = key ++ '=' :: value := by
  fun_induction splitAfterBracket l generalizing key with
  | case1 rest =>
    obtain ⟨rfl, rfl⟩ := Prod.mk.inj (Option.some.inj h)
    rfl
  | case2 c rest hc ih =>
    obtain ⟨pair, hpair, heq⟩ := Option.map_eq_some_iff.mp h
    obtain ⟨rfl, rfl⟩ := Prod.mk.inj heq
    rw [List.cons_append, ← ih hpair]
  | case3 => cases h

theorem splitAfterBracket_append {key : List Char} (h : PlainKey key) (value : List Char) :
    splitAfterBracket (key ++ '=' :: value) =
      (splitAfterBracket value).map fun pair => (key ++ '=' :: pair.1, pair.2) := by
  induction key with
  | nil => exact splitAfterBracket_cons (by decide) value
  | cons c key ih =>
    have hrest := ih fun d hd => h d (List.mem_cons_of_mem _ hd)
    rw [List.cons_append, splitAfterBracket_cons (h c List.mem_cons_self).2.2.1, hrest,
      Option.map_map]
    rfl

/-- A text has a bracket to split after exactly when `]=` is in it. -/
theorem splitAfterBracket_eq_none_iff {l : List Char} :
    splitAfterBracket l = none ↔ ¬[']', '='] <:+: l := by
  fun_induction splitAfterBracket l with
  | case1 rest =>
    have hprefix : [']', '='] <+: ']' :: '=' :: rest := ⟨rest, rfl⟩
    simpa using hprefix.isInfix
  | case2 c rest hc ih =>
    rw [Option.map_eq_none_iff, ih, List.infix_cons_iff, not_or]
    apply (and_iff_right ?_).symm
    rintro ⟨tail, htail⟩
    obtain ⟨rfl, rfl⟩ := List.cons.inj htail
    exact hc tail rfl rfl
  | case3 => simp

/-! ### The values of a key -/

theorem splitPair_of_none {part : List Char} (h : splitAfterBracket part = none) :
    splitPair part = (part.takeWhile (· ≠ '='), (part.dropWhile (· ≠ '=')).drop 1) := by
  rw [splitPair, h]
  rfl

theorem splitPair_sublist (part : List Char) :
    ((splitPair part).1 ++ (splitPair part).2).Sublist part := by
  cases hsplit : splitAfterBracket part with
  | none =>
    rw [splitPair_of_none hsplit]
    conv_rhs => rw [← @List.takeWhile_append_dropWhile _ (· ≠ '=') part]
    exact (List.drop_sublist 1 _).append_left _
  | some pair =>
    obtain ⟨key, value⟩ := pair
    rw [splitPair, hsplit, eq_of_splitAfterBracket hsplit]
    exact (List.sublist_cons_self _ _).append_left _

theorem parsePair_append {key : List Char} (h : PlainKey key) {value : List Char}
    (hvalue : splitAfterBracket value = none) :
    parsePair (key ++ '=' :: value) = (key, decodeQueryPart value) := by
  have hne : ∀ c ∈ key, c ≠ '=' := fun c hc => (h c hc).2.1
  have htake : (key ++ '=' :: value).takeWhile (· ≠ '=') = key := by
    rw [takeWhile_append_stop (by simp), List.takeWhile_eq_self_iff]
    intro c hc
    simpa using hne c hc
  have hdrop : (key ++ '=' :: value).dropWhile (· ≠ '=') = '=' :: value := by
    rw [List.dropWhile_append_of_pos fun c hc => by simpa using hne c hc]
    simp
  have hnone : splitAfterBracket (key ++ '=' :: value) = none := by
    rw [splitAfterBracket_append h, hvalue]
    rfl
  rw [parsePair, splitPair_of_none hnone, htake, hdrop, h.decode_eq]
  rfl

/-- A bracket in the value makes another key of the part. -/
theorem parsePair_append_ne {key key' : List Char} (h : PlainKey key) (hother : PlainKey key')
    {value : List Char} (hvalue : splitAfterBracket value ≠ none) :
    (parsePair (key ++ '=' :: value)).1 ≠ key' := by
  obtain ⟨pair, hpair⟩ := Option.ne_none_iff_exists'.mp hvalue
  have hsplit := splitAfterBracket_append h value
  rw [hpair, Option.map_some] at hsplit
  rw [parsePair, splitPair, hsplit, Option.getD_some]
  have hdecode : decodeQueryPart (key ++ '=' :: pair.1) = key ++ '=' :: decodeQueryPart pair.1 := by
    rw [decodeQueryPart_append fun c hc => (h c hc).2.2.2,
      decodeQueryPart_cons (by decide) (by decide)]
  rw [hdecode]
  rintro rfl
  exact (hother '=' (by simp)).2.1 rfl

/-- The values of a key in the parts of a query. -/
def valuesOf (key : List Char) (parts : List (List Char)) : List (List Char) :=
  (((parts.filter (· ≠ [])).map parsePair).filter fun pair => pair.1 = key).map (·.2)

theorem queryValues_some (query : List Char) (key : String) :
    queryValues (some query) key =
      (valuesOf key.toList ((unescapeBrackets query).splitOnP (· = '&'))).map String.ofList := by
  simp [queryValues, parseQuery, valuesOf]

theorem valuesOf_cons (key part : List Char) (parts : List (List Char)) :
    valuesOf key (part :: parts) =
      if part ≠ [] ∧ (parsePair part).1 = key then (parsePair part).2 :: valuesOf key parts
      else valuesOf key parts := by
  unfold valuesOf
  rw [List.filter_cons]
  by_cases hpart : part = []
  · simp [hpart]
  · simp only [ne_eq, hpart, not_false_eq_true, decide_true, if_true, true_and, List.map_cons,
      List.filter_cons, decide_eq_true_eq]
    split <;> rfl

/-- A first part of a query with its key: without a bracket, it is the first value of that key, and
it is no value of another key. -/
theorem valuesOf_cons_append {key key' : List Char} (h : PlainKey key) (h' : PlainKey key')
    (value : List Char) (parts : List (List Char)) :
    valuesOf key' ((key ++ '=' :: value) :: parts) =
      if splitAfterBracket value = none ∧ key = key' then
        decodeQueryPart value :: valuesOf key' parts
      else valuesOf key' parts := by
  have hfirst : (parsePair (key ++ '=' :: value)).1 = key' ↔
      splitAfterBracket value = none ∧ key = key' := by
    by_cases hvalue : splitAfterBracket value = none
    · rw [parsePair_append h hvalue]
      simp [hvalue]
    · simp [hvalue, parsePair_append_ne h h' hvalue]
  rw [valuesOf_cons]
  simp only [ne_eq, List.append_eq_nil_iff, reduceCtorEq, and_false, not_false_eq_true, true_and,
    hfirst]
  split
  next hkey => rw [parsePair_append h hkey.1]
  next => rfl

theorem splitOnP_append {p : Char → Bool} {l : List Char} (h : ∀ c ∈ l, p c = false)
    (r : List Char) : (l ++ r).splitOnP p = (r.splitOnP p).modifyHead (l ++ ·) := by
  obtain ⟨first, rest, hsplit⟩ := List.exists_cons_of_ne_nil (List.splitOnP_ne_nil p r)
  induction l with
  | nil => rw [List.nil_append, hsplit]; rfl
  | cons c l ih =>
    have hc : p c = false := h c List.mem_cons_self
    have hrest := ih fun d hd => h d (List.mem_cons_of_mem _ hd)
    rw [List.cons_append, List.splitOnP_cons_eq_if_modifyHead, if_neg (by simp [hc]), hrest, hsplit]
    rfl

section Key

variable {key : List Char} (h : PlainKey key)
include h

theorem unescapeBrackets_key (value : List Char) :
    unescapeBrackets (key ++ '=' :: value) = key ++ '=' :: unescapeBrackets value := by
  have hpercent : '%' ∉ key := fun hmem => (h _ hmem).2.2.2.1 rfl
  rw [unescapeBrackets_append hpercent, unescapeBrackets_cons (by decide)]

theorem splitOnP_key (value : List Char) :
    (key ++ '=' :: value).splitOnP (· = '&') =
      (value.splitOnP (· = '&')).modifyHead (key ++ '=' :: ·) := by
  have hseparator : ∀ c ∈ key ++ ['='], decide (c = '&') = false := by
    intro c hc
    rcases List.mem_append.mp hc with hc | hc
    · simpa using (h c hc).1
    · obtain rfl := List.mem_singleton.mp hc
      rfl
  have happend : (key ++ '=' :: ·) = ((key ++ ['=']) ++ ·) := by
    funext l
    simp
  rw [happend, ← splitOnP_append hseparator, ← congrFun happend value]

/-- The values of a query that starts with a key, where `first` and `rest` are the parts of what
follows it. -/
theorem queryValues_append {value first : List Char} {rest : List (List Char)}
    (hsplit : (unescapeBrackets value).splitOnP (· = '&') = first :: rest) {key' : String}
    (h' : PlainKey key'.toList) :
    queryValues (some (key ++ '=' :: value)) key' =
      (if splitAfterBracket first = none ∧ key = key'.toList then
        decodeQueryPart first :: valuesOf key'.toList rest
      else valuesOf key'.toList rest).map String.ofList := by
  rw [queryValues_some, unescapeBrackets_key h, splitOnP_key h, hsplit, List.modifyHead_cons,
    valuesOf_cons_append h h']

end Key

/-! ### Weights -/

section Weights

variable {w g : Char → Nat}

/-- With a separator for each of them, joined texts weigh what they weigh joined, and one separator
more. -/
theorem weight_intercalate {d : Char} (hd : w d = 1) (l : List Char) (ls : List (List Char)) :
    weight w ([d].intercalate (l :: ls)) + 1 =
      ((l :: ls).map fun part => weight w part + 1).sum := by
  induction ls generalizing l with
  | nil => simp
  | cons l' ls ih =>
    have hrest := ih l'
    rw [List.intercalate_cons_cons, List.map_cons, List.sum_cons, ← hrest]
    simp only [weight_append, weight_cons, weight_nil, hd]
    omega

theorem weight_splitOnP {d : Char} (hd : w d = 1) (l : List Char) :
    ((l.splitOnP (· = d)).map fun part => weight w part + 1).sum = weight w l + 1 := by
  obtain ⟨first, rest, hsplit⟩ := List.exists_cons_of_ne_nil (List.splitOnP_ne_nil (· = d) l)
  have hjoin : [d].intercalate (first :: rest) = l := by
    rw [← hsplit]
    exact List.intercalate_splitOn d
  rw [hsplit, ← weight_intercalate hd, hjoin]

/-- A key and its value weigh no more than their part, when decoding makes no text heavier. -/
theorem weight_parsePair_le {part : List Char}
    (h : ∀ l, l.Sublist part → weight w (decodeQueryPart l) ≤ weight g l) :
    weight w (parsePair part).1 + weight w (parsePair part).2 ≤ weight g part := by
  have hsublist := splitPair_sublist part
  have hkey := h _ ((List.sublist_append_left _ _).trans hsublist)
  have hvalue := h _ ((List.sublist_append_right _ _).trans hsublist)
  have hle := weight_le_of_sublist (w := g) hsublist
  rw [weight_append] at hle
  unfold parsePair
  dsimp only
  omega

/-- What the values of a key weigh with their keys and a separator for each of them. -/
def keyedWeight (w : Char → Nat) (key : List Char) (parts : List (List Char)) : Nat :=
  ((valuesOf key parts).map fun value => weight w key + weight w value + 1).sum

/-- The values of two keys weigh no more than the parts. -/
theorem keyedWeight_add_le {key key' : List Char} (hne : key ≠ key') {parts : List (List Char)}
    (h : ∀ part ∈ parts, ∀ l, l.Sublist part → weight w (decodeQueryPart l) ≤ weight g l) :
    keyedWeight w key parts + keyedWeight w key' parts ≤
      (parts.map fun part => weight g part + 1).sum := by
  induction parts with
  | nil => exact Nat.le_refl 0
  | cons part parts ih =>
    have hrest := ih fun part' hpart' => h part' (List.mem_cons_of_mem _ hpart')
    have hpair := weight_parsePair_le (h part List.mem_cons_self)
    unfold keyedWeight at hrest ⊢
    rw [valuesOf_cons, valuesOf_cons, List.map_cons, List.sum_cons]
    -- the part has one key
    split
    next hkey =>
      rw [if_neg fun hkey' => hne (hkey.2.symm.trans hkey'.2), List.map_cons, List.sum_cons,
        ← hkey.2]
      rw [← hkey.2] at hrest
      omega
    next =>
      split
      next hkey' =>
        rw [List.map_cons, List.sum_cons, ← hkey'.2]
        rw [← hkey'.2] at hrest
        omega
      next => omega

theorem keyedWeight_le (key : List Char) {parts : List (List Char)}
    (h : ∀ part ∈ parts, ∀ l, l.Sublist part → weight w (decodeQueryPart l) ≤ weight g l) :
    keyedWeight w key parts ≤ (parts.map fun part => weight g part + 1).sum := by
  have hne : key ≠ key ++ ['='] := by simp
  exact (Nat.le_add_right _ _).trans (keyedWeight_add_le hne h)

end Weights

/-! ### Values that are decoded to themselves -/

/-- What a character of an input adds to its encoded query, where a plus counts as an escape. -/
def sentInQuery (c : Char) : Nat :=
  if isTabOrNewline c || c = '#' then 0
  else if inQuerySet c then 3 * c.utf8Size
  else if c = '+' then 3 else 1

/-- What a decoded character takes from an encoded part of a query, when a percent sign takes
`percent`. -/
def takenFromQuery (percent : Nat) (c : Char) : Nat :=
  if inQuerySet c then 3 * c.utf8Size
  else if c = '+' || c = '&' then 3
  else if c = '%' then percent else 1

/-- What a character of an encoded query gives, a plus as much as an escape. -/
def givenByQuery (c : Char) : Nat := if c = '+' then 3 else 1

theorem givenByQuery_of_escape : ∀ d ∈ escapeChars, givenByQuery d = 1 :=
  forall_mem_of_all (by decide +kernel)

theorem one_le_takenFromQuery (c : Char) : 1 ≤ takenFromQuery 1 c := by
  have hsize := c.utf8Size_pos
  unfold takenFromQuery
  split_ifs <;> omega

/-- No decoded character takes less than what the input adds for it. -/
theorem sentInQuery_le (c : Char) : sentInQuery c ≤ takenFromQuery 1 c := by
  have hsize := c.utf8Size_pos
  unfold sentInQuery takenFromQuery
  split_ifs <;> first | omega | simp_all

/-- The encoded query of an input gives no more than what the input adds to it. -/
theorem weight_encode_beforeFragment_le (input : List Char) :
    weight givenByQuery (encode inQuerySet (beforeFragment input)) ≤
      weight sentInQuery (beforeFragment input) := by
  rw [weight_encode givenByQuery_of_escape]
  apply weight_le_weight
  intro c hc
  obtain ⟨htab, hfragment⟩ := kept_beforeFragment input c hc
  simp [sentInQuery, givenByQuery, htab, hfragment]

/-- Reading escapes as brackets makes a query no heavier. -/
theorem weight_unescapeBrackets_le (l : List Char) :
    weight givenByQuery (unescapeBrackets l) ≤ weight givenByQuery l := by
  have hplain : ∀ c ∈ ['[', ']', '%', '5', 'B', 'b', 'D', 'd'], givenByQuery c = 1 :=
    forall_mem_of_all (by decide)
  fun_induction unescapeBrackets l with
  | case1 c rest hc ih =>
    simp only [weight_cons, hplain '[' (by decide), hplain '%' (by decide)]
    omega
  | case2 c rest hc hd ih =>
    simp only [weight_cons, hplain ']' (by decide), hplain '%' (by decide)]
    omega
  | case3 c rest hc hd ih =>
    rw [weight_cons, weight_cons]
    omega
  | case4 c rest hc ih =>
    rw [weight_cons, weight_cons]
    omega
  | case5 => exact Nat.le_refl 0

/-- A query that they make no lighter has none. -/
theorem unescapeBrackets_eq_of_le {l : List Char}
    (h : weight givenByQuery l ≤ weight givenByQuery (unescapeBrackets l)) :
    unescapeBrackets l = l := by
  have hplain : ∀ c ∈ ['[', ']', '%', '5'], givenByQuery c = 1 :=
    forall_mem_of_all (by decide)
  fun_induction unescapeBrackets l with
  | case1 c rest hc ih =>
    have hle := weight_unescapeBrackets_le rest
    simp only [weight_cons, hplain '[' (by decide), hplain '%' (by decide),
      hplain '5' (by decide)] at h
    omega
  | case2 c rest hc hd ih =>
    have hle := weight_unescapeBrackets_le rest
    simp only [weight_cons, hplain ']' (by decide), hplain '%' (by decide),
      hplain '5' (by decide)] at h
    omega
  | case3 c rest hc hd ih =>
    simp only [weight_cons] at h ih
    rw [ih (by omega)]
  | case4 c rest hc ih =>
    simp only [weight_cons] at h
    rw [ih (by omega)]
  | case5 => rfl

theorem mem_unescapeBrackets {l : List Char} {c : Char} (h : c ∈ unescapeBrackets l) :
    c ∈ l ∨ c = '[' ∨ c = ']' := by
  fun_induction unescapeBrackets l with
  | case1 d rest hd ih =>
    rcases List.mem_cons.mp h with rfl | h
    · exact .inr (.inl rfl)
    · exact (ih h).imp_left fun hmem => by simp [hmem]
  | case2 d rest hd hd' ih =>
    rcases List.mem_cons.mp h with rfl | h
    · exact .inr (.inr rfl)
    · exact (ih h).imp_left fun hmem => by simp [hmem]
  | case3 d rest hd hd' ih =>
    rcases List.mem_cons.mp h with rfl | h
    · exact .inl List.mem_cons_self
    · exact (ih h).imp_left (List.mem_cons_of_mem _)
  | case4 d rest hd ih =>
    rcases List.mem_cons.mp h with rfl | h
    · exact .inl List.mem_cons_self
    · exact (ih h).imp_left (List.mem_cons_of_mem _)
  | case5 => cases h

/-- An encoded part of a query: none of its characters is of the set or separates parts. -/
def EncodedPart (part : List Char) : Prop := ∀ c ∈ part, inQuerySet c = false ∧ c ≠ '&'

theorem inQuerySet_of_mem_encode {l : List Char} {c : Char} (h : c ∈ encode inQuerySet l) :
    inQuerySet c = false := by
  have hescapes : ∀ d ∈ escapeChars, inQuerySet d = false :=
    forall_mem_of_all (by decide +kernel)
  rcases mem_encode h with hescape | ⟨-, hset⟩
  · exact hescapes c hescape
  · exact hset

/-- The decoded part takes no more than what the part gives; a percent sign counts as its escape when
the part can be decoded. -/
theorem weight_decodeQueryPart_le {percent : Nat} {part : List Char} (hpart : EncodedPart part)
    (hle : percent ≤ 3)
    (h : percent ≤ 1 ∨ decodeURIComponent (part.map plusToSpace) ≠ none) :
    weight (takenFromQuery percent) (decodeQueryPart part) ≤ weight givenByQuery part := by
  let gives (c : Char) : Nat := if c = ' ' then 3 else 1
  have hspace : ∀ c ∈ part, c ≠ ' ' := by
    rintro c hc rfl
    exact absurd (hpart ' ' hc).1 (by decide)
  -- a space that stands for a plus gives what the plus does
  have hgives : weight gives (part.map plusToSpace) = weight givenByQuery part := by
    rw [weight_map]
    apply weight_congr
    intro c hc
    have hc := hspace c hc
    simp only [gives, givenByQuery, plusToSpace]
    split_ifs with hplus <;> simp_all
  have htakes : ∀ c ∈ part.map plusToSpace, c ≠ '%' → takenFromQuery percent c ≤ gives c := by
    intro c hc hpercent
    obtain ⟨d, hd, rfl⟩ := List.mem_map.mp hc
    obtain ⟨hset, hseparator⟩ := hpart d hd
    by_cases hplus : d = '+'
    · subst hplus
      exact Nat.le_refl 3
    · have hsame : plusToSpace d = d := if_neg hplus
      rw [hsame] at hpercent ⊢
      simp [takenFromQuery, hset, hplus, hseparator, hpercent, gives, hspace d hd]
  rw [← hgives, decodeQueryPart_eq]
  cases hdecode : decodeURIComponent (part.map plusToSpace) with
  | some decoded =>
    have hpos (c : Char) : 1 ≤ gives c := by
      simp only [gives]
      split_ifs <;> omega
    have hescape (c : Char) : takenFromQuery percent c ≤ 3 * c.utf8Size := by
      have hsize := c.utf8Size_pos
      unfold takenFromQuery
      split_ifs <;> omega
    exact weight_decode_le hpos hescape htakes hdecode
  | none =>
    have hone : percent ≤ 1 := h.resolve_right fun hne => hne hdecode
    apply weight_le_weight
    intro c hc
    by_cases hpercent : c = '%'
    · subst hpercent
      exact hone
    · exact htakes c hc hpercent

theorem separator_not_mem_encode {l : List Char} (h : '&' ∉ l) : '&' ∉ encode inQuerySet l := by
  intro hmem
  rcases mem_encode hmem with hescape | ⟨hmem, -⟩
  · exact absurd hescape (by decide)
  · exact h hmem

theorem plus_not_mem_encode {l : List Char} (h : '+' ∉ l) : '+' ∉ encode inQuerySet l := by
  intro hmem
  rcases mem_encode hmem with hescape | ⟨hmem, -⟩
  · exact absurd hescape (by decide)
  · exact h hmem

theorem map_encode_plusToSpace (p : Char → Bool) (l : List Char) :
    (encode p l).map plusToSpace =
      l.flatMap fun c => if p c then encodeChar c else [plusToSpace c] := by
  have hescape (c : Char) : (encodeChar c).map plusToSpace = encodeChar c := by
    apply map_plusToSpace
    intro hmem
    exact absurd (mem_encodeChar hmem) (by decide)
  rw [encode, List.map_flatMap]
  congr 1
  funext c
  cases p c with
  | true => exact hescape c
  | false => rfl

theorem encodedPart_encode {l : List Char} (h : '&' ∉ l) : EncodedPart (encode inQuerySet l) := by
  intro c hc
  refine ⟨inQuerySet_of_mem_encode hc, ?_⟩
  rintro rfl
  exact separator_not_mem_encode h hc

/-- The encoded form of a text is as long as the text only when nothing was encoded. -/
theorem not_inQuerySet_of_length_le {l : List Char}
    (h : (encode inQuerySet l).length ≤ l.length) {c : Char} (hc : c ∈ l) :
    inQuerySet c = false := by
  rw [← weight_one, weight_encode fun _ _ => rfl, ← weight_one] at h
  have heq := eq_of_weight_le (fun c => by
    have hsize := c.utf8Size_pos
    split_ifs <;> omega) h c hc
  have hsize := c.utf8Size_pos
  rw [← Bool.not_eq_true]
  intro hset
  rw [if_pos hset] at heq
  omega

/-- A text that is given back though its encoded form cannot be decoded. -/
theorem kept_of_undecodable {l : List Char}
    (hplain : decodeURIComponent ((encode inQuerySet l).map plusToSpace) = none)
    (hdecode : decodeQueryPart (encode inQuerySet l) = l) :
    '+' ∉ l ∧ decodeURIComponent l = none ∧ ∀ c ∈ l, inQuerySet c = false := by
  rw [decodeQueryPart_eq, hplain, Option.getD_none] at hdecode
  refine ⟨?_, by rwa [hdecode] at hplain, ?_⟩
  · intro hplus
    rw [← hdecode] at hplus
    obtain ⟨c, -, hc⟩ := List.mem_map.mp hplus
    exact plusToSpace_ne c hc
  · intro c hc
    have hlength := congrArg List.length hdecode
    rw [List.length_map] at hlength
    exact not_inQuerySet_of_length_le hlength.le hc

/-- A percent sign stands for itself in the encoded form, and a decoded escape weighs less. -/
theorem percent_not_mem_of_decodable {l : List Char} (h : '&' ∉ l)
    (hplain : decodeURIComponent ((encode inQuerySet l).map plusToSpace) ≠ none)
    (hdecode : decodeQueryPart (encode inQuerySet l) = l) : '%' ∉ l := by
  intro hmem
  have hweight := weight_decodeQueryPart_le (encodedPart_encode h) (Nat.le_refl 3) (.inr hplain)
  rw [hdecode, weight_encode givenByQuery_of_escape] at hweight
  have heq := eq_of_weight_le (fun c => by
    unfold takenFromQuery givenByQuery
    split_ifs <;> simp_all) hweight '%' hmem
  exact absurd heq (by decide)

/-- Without a percent sign the decoded form is the text with its pluses turned into spaces. -/
theorem plus_not_mem_of_decoded {l : List Char} (hpercent : '%' ∉ l)
    (hdecode : decodeQueryPart (encode inQuerySet l) = l) : '+' ∉ l := by
  intro hplus
  rw [decodeQueryPart_eq, map_encode_plusToSpace, decode_flatMap, Option.getD_some] at hdecode
  · rw [← hdecode] at hplus
    obtain ⟨c, -, hc⟩ := List.mem_map.mp hplus
    split_ifs at hc with hset
    · subst hc
      cases hset
    · exact plusToSpace_ne c hc
  · intro c hc _ heq
    unfold plusToSpace at heq
    split_ifs at heq
    · cases heq
    · exact hpercent (heq ▸ hc)

/-- A text without `&` is decoded from its encoded form exactly when it has no plus and, if it has a
percent sign, cannot be decoded and has nothing to encode. -/
theorem decodeQueryPart_encode_iff {l : List Char} (h : '&' ∉ l) :
    decodeQueryPart (encode inQuerySet l) = l ↔
      '+' ∉ l ∧ ('%' ∈ l → decodeURIComponent l = none ∧ ∀ c ∈ l, inQuerySet c = false) := by
  constructor
  · intro hdecode
    by_cases hplain : decodeURIComponent ((encode inQuerySet l).map plusToSpace) = none
    · obtain ⟨hplus, hkept⟩ := kept_of_undecodable hplain hdecode
      exact ⟨hplus, fun _ => hkept⟩
    · have hpercent := percent_not_mem_of_decodable h hplain hdecode
      exact ⟨plus_not_mem_of_decoded hpercent hdecode, fun hmem => absurd hmem hpercent⟩
  · intro h
    obtain ⟨hplus, hpercent⟩ := h
    rw [decodeQueryPart_eq, map_plusToSpace (plus_not_mem_encode hplus)]
    by_cases hmem : '%' ∈ l
    · obtain ⟨hdecode, hset⟩ := hpercent hmem
      rw [encode_eq_self hset, hdecode, Option.getD_none]
    · rw [decode_encode hmem, Option.getD_some]

end Url
