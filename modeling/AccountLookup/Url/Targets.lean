import AccountLookup.Url.Decode
import AccountLookup.Url.Parse
import Mathlib.Data.List.Flatten
import Mathlib.Data.List.TakeWhile

/-! Targets of URLs: which part of an input becomes the path and which the query, how the segments of
the path are resolved, and how much of the input is left in them. -/

namespace Url

/-! ### Splitting -/

theorem mem_splitOnP {p : Char → Bool} {l part : List Char} (h : part ∈ l.splitOnP p) :
    ∀ c ∈ part, c ∈ l ∧ p c = false := by
  induction l generalizing part with
  | nil =>
    rw [List.splitOnP_nil, List.mem_singleton] at h
    subst h
    intro c hc
    cases hc
  | cons d l ih =>
    obtain ⟨first, rest, hsplit⟩ := List.exists_cons_of_ne_nil (List.splitOnP_ne_nil p l)
    rw [hsplit] at ih
    rw [List.splitOnP_cons_eq_if_modifyHead, hsplit, List.modifyHead_cons] at h
    have hold {part' : List Char} (hmem : part' ∈ first :: rest) (c : Char) (hc : c ∈ part') :
        c ∈ d :: l ∧ p c = false :=
      ⟨List.mem_cons_of_mem _ (ih hmem c hc).1, (ih hmem c hc).2⟩
    cases hd : p d with
    | true =>
      rw [hd, if_pos rfl] at h
      rcases List.mem_cons.mp h with rfl | h
      · intro c hc
        cases hc
      · exact hold h
    | false =>
      rw [hd, if_neg (by simp)] at h
      rcases List.mem_cons.mp h with rfl | h
      · intro c hc
        rcases List.mem_cons.mp hc with rfl | hc
        · exact ⟨List.mem_cons_self, hd⟩
        · exact hold List.mem_cons_self c hc
      · exact hold (List.mem_cons_of_mem _ h)

/-- The parts of a split weigh what the text weighs without its separators. -/
theorem weight_flatten_splitOnP (p : Char → Bool) (w : Char → Nat) (l : List Char) :
    weight w (l.splitOnP p).flatten = weight (fun c => if p c then 0 else w c) l := by
  induction l with
  | nil => rfl
  | cons d l ih =>
    obtain ⟨first, rest, hsplit⟩ := List.exists_cons_of_ne_nil (List.splitOnP_ne_nil p l)
    rw [hsplit, List.flatten_cons, weight_append] at ih
    rw [List.splitOnP_cons_eq_if_modifyHead, hsplit, List.modifyHead_cons, weight_cons]
    cases hd : p d with
    | true =>
      simp only [if_true, List.flatten_cons, List.nil_append, weight_append]
      omega
    | false =>
      simp only [Bool.false_eq_true, if_false, List.flatten_cons, weight_append, weight_cons]
      omega

/-! ### Cleaning -/

/-- The text does not end in a control or a space. -/
def EndsPlain (l : List Char) : Prop := l.rdropWhile isC0ControlOrSpace = l

instance (l : List Char) : Decidable (EndsPlain l) :=
  inferInstanceAs (Decidable (l.rdropWhile isC0ControlOrSpace = l))

/-- The character `c` ends what can be dropped from the end. -/
theorem rdropWhile_append_cons {p : Char → Bool} {c : Char} (hc : p c = false) (l r : List Char) :
    (l ++ c :: r).rdropWhile p = l ++ c :: r.rdropWhile p := by
  induction r using List.reverseRecOn with
  | nil =>
    have hkeep := List.rdropWhile_concat_neg (p := p) (l := l) c (by simp [hc])
    simpa using hkeep
  | append_singleton r d ih =>
    have hassoc : l ++ c :: (r ++ [d]) = (l ++ c :: r) ++ [d] := by simp
    rw [hassoc, List.rdropWhile_concat, List.rdropWhile_concat, ih]
    split <;> simp

theorem clean_append_cons {c : Char} (hc : isC0ControlOrSpace c = false) (l r : List Char) :
    clean (l ++ c :: r) = (l ++ [c]).filter (fun c => !isTabOrNewline c) ++ clean r := by
  unfold clean
  rw [rdropWhile_append_cons hc]
  simp [List.filter_append, List.filter_cons]
  split <;> simp

/-! ### The parts of an input -/

/-- The input before its fragment. -/
def beforeFragment (input : List Char) : List Char := (clean input).takeWhile (· ≠ '#')

/-- The part that becomes the path. -/
def pathText (input : List Char) : List Char := (beforeFragment input).takeWhile (· ≠ '?')

theorem parse_path (input : List Char) :
    (parse input).path = resolvePath [] (((pathText input).drop 1).splitOnP isSeparator) := rfl

theorem parse_query (input : List Char) :
    (parse input).query =
      ((beforeFragment input).dropWhile (· ≠ '?')).tail?.map (encode inQuerySet) := rfl

/-- A text that stays before the fragment of a URL: no character is dropped and none starts it. -/
def Kept (l : List Char) : Prop := ∀ c ∈ l, isTabOrNewline c = false ∧ c ≠ '#'

theorem kept_beforeFragment (input : List Char) : Kept (beforeFragment input) := by
  intro c hc
  have hfragment : c ≠ '#' := by simpa using List.mem_takeWhile_imp hc
  have hclean := List.of_mem_filter ((List.takeWhile_sublist _).mem hc)
  exact ⟨by simpa using hclean, hfragment⟩

theorem rdropWhile_sublist (p : Char → Bool) (l : List Char) : (l.rdropWhile p).Sublist l := by
  have h := List.rdropWhile_prefix p l
  exact h.sublist

theorem beforeFragment_sublist (input : List Char) : (beforeFragment input).Sublist input :=
  (List.takeWhile_sublist _).trans (List.filter_sublist.trans (rdropWhile_sublist _ _))

theorem Kept.sublist {l l' : List Char} (h : Kept l) (hsublist : l'.Sublist l) : Kept l' :=
  fun c hc => h c (hsublist.subset hc)

theorem Kept.filter_eq {l : List Char} (h : Kept l) :
    l.filter (fun c => !isTabOrNewline c) = l := by
  rw [List.filter_eq_self]
  intro c hc
  rw [(h c hc).1]
  rfl

/-- Only controls and spaces at its end are dropped of a kept text. -/
theorem Kept.beforeFragment_eq {l : List Char} (h : Kept l) :
    beforeFragment l = l.rdropWhile isC0ControlOrSpace := by
  have hrest : Kept (l.rdropWhile isC0ControlOrSpace) := h.sublist (rdropWhile_sublist _ _)
  rw [beforeFragment, clean, hrest.filter_eq, List.takeWhile_eq_self_iff]
  intro c hc
  simpa using (hrest c hc).2

/-- A kept text keeps its place before what follows it, when it ends in no control or space. -/
theorem beforeFragment_append_cons {l : List Char} {c : Char} (hc : isC0ControlOrSpace c = false)
    (h : Kept (l ++ [c])) (r : List Char) :
    beforeFragment (l ++ c :: r) = l ++ c :: beforeFragment r := by
  have happend : l ++ c :: beforeFragment r = (l ++ [c]) ++ beforeFragment r := by simp
  rw [beforeFragment, clean_append_cons hc, h.filter_eq, happend]
  exact List.takeWhile_append_of_pos fun d hd => by simpa using (h d hd).2

/-- A kept text without a question mark, which starts the query. -/
def Plain (l : List Char) : Prop := ∀ c ∈ l, isTabOrNewline c = false ∧ c ≠ '?' ∧ c ≠ '#'

theorem takeWhile_append_stop {p : Char → Bool} {c : Char} (hc : p c = false) (l r : List Char) :
    (l ++ c :: r).takeWhile p = l.takeWhile p := by
  induction l with
  | nil => simp [hc]
  | cons d l ih => simp only [List.cons_append, List.takeWhile_cons, ih]

theorem plain_pathText (input : List Char) : Plain (pathText input) := by
  intro c hc
  have hquestion : c ≠ '?' := by simpa using List.mem_takeWhile_imp hc
  obtain ⟨htab, hfragment⟩ := kept_beforeFragment input c ((List.takeWhile_sublist _).mem hc)
  exact ⟨htab, hquestion, hfragment⟩

theorem clean_append_question (l r : List Char) :
    clean (l ++ '?' :: r) = l.filter (fun c => !isTabOrNewline c) ++ '?' :: clean r := by
  rw [clean_append_cons (by decide), List.filter_append]
  simp [isTabOrNewline]

/-- What follows a question mark does not get into the path. -/
theorem pathText_append_question_sublist (l r : List Char) :
    (pathText (l ++ '?' :: r)).Sublist l := by
  unfold pathText beforeFragment
  rw [List.takeWhile_takeWhile, clean_append_question, takeWhile_append_stop (by simp)]
  exact (List.takeWhile_sublist _).trans List.filter_sublist

theorem pathText_sublist (l : List Char) : (pathText l).Sublist l :=
  (List.takeWhile_sublist _).trans (beforeFragment_sublist l)

section Plain

variable {l : List Char} (h : Plain l)
include h

theorem Plain.kept : Kept l := fun c hc => ⟨(h c hc).1, (h c hc).2.2⟩

theorem beforeFragment_append_question (r : List Char) :
    beforeFragment (l ++ '?' :: r) = l ++ '?' :: beforeFragment r := by
  have hkept : Kept (l ++ ['?']) := by
    intro c hc
    rcases List.mem_append.mp hc with hc | hc
    · exact h.kept c hc
    · obtain rfl := List.mem_singleton.mp hc
      decide
  exact beforeFragment_append_cons (by decide) hkept r

theorem pathText_append_question (r : List Char) : pathText (l ++ '?' :: r) = l := by
  unfold pathText
  rw [beforeFragment_append_question h, takeWhile_append_stop (by simp), List.takeWhile_eq_self_iff]
  intro c hc
  simpa using (h c hc).2.1

/-- A query starts at the first question mark. -/
theorem query_append_question (r : List Char) :
    (parse (l ++ '?' :: r)).query = some (encode inQuerySet (beforeFragment r)) := by
  have hdrop : (l ++ '?' :: beforeFragment r).dropWhile (· ≠ '?') = '?' :: beforeFragment r := by
    rw [List.dropWhile_append_of_pos fun c hc => by simpa using (h c hc).2.1]
    simp
  rw [parse_query, beforeFragment_append_question h, hdrop]
  rfl

/-- An input without a query is its path, but for controls and spaces at its end. -/
theorem pathText_eq : pathText l = l.rdropWhile isC0ControlOrSpace := by
  unfold pathText
  rw [h.kept.beforeFragment_eq, List.takeWhile_eq_self_iff]
  intro c hc
  simpa using (h c ((rdropWhile_sublist _ _).subset hc)).2.1

theorem query_eq : (parse l).query = none := by
  have hdrop : (l.rdropWhile isC0ControlOrSpace).dropWhile (· ≠ '?') = [] := by
    rw [List.dropWhile_eq_nil_iff]
    intro c hc
    simpa using (h c ((rdropWhile_sublist _ _).subset hc)).2.1
  rw [parse_query, h.kept.beforeFragment_eq, hdrop]
  rfl

end Plain

/-! ### Segments -/

/-- The segments of a resolved path are those that it had, encoded segments, and an empty one that a
dot segment leaves. -/
theorem mem_resolvePath {path segments : List (List Char)} {segment : List Char}
    (h : segment ∈ resolvePath path segments) :
    segment ∈ path ∨ segment = [] ∨ ∃ s ∈ segments, segment = encode inPathSet s := by
  induction segments generalizing path with
  | nil => exact .inl h
  | cons s rest ih =>
    have hstep (path' : List (List Char)) (h' : segment ∈ resolvePath path' rest)
        (hpath : segment ∈ path' → segment ∈ path ∨ segment = [] ∨ segment = encode inPathSet s) :
        segment ∈ path ∨ segment = [] ∨ ∃ s' ∈ s :: rest, segment = encode inPathSet s' := by
      rcases ih h' with hold | hempty | ⟨s', hs', hsegment⟩
      · rcases hpath hold with hold | hempty | hsegment
        · exact .inl hold
        · exact .inr (.inl hempty)
        · exact .inr (.inr ⟨s, List.mem_cons_self, hsegment⟩)
      · exact .inr (.inl hempty)
      · exact .inr (.inr ⟨s', List.mem_cons_of_mem _ hs', hsegment⟩)
    have hlast : segment ∈ (if rest.isEmpty then [[]] else [] : List (List Char)) → segment = [] := by
      split <;> simp
    rw [resolvePath] at h
    apply hstep _ h
    intro hmem
    split at hmem
    · rcases List.mem_append.mp hmem with hmem | hmem
      · exact .inl (List.dropLast_subset _ hmem)
      · exact .inr (.inl (hlast hmem))
    · split at hmem
      · rcases List.mem_append.mp hmem with hmem | hmem
        · exact .inl hmem
        · exact .inr (.inl (hlast hmem))
      · rcases List.mem_append.mp hmem with hmem | hmem
        · exact .inl hmem
        · exact .inr (.inr (List.mem_singleton.mp hmem))

/-- Dot segments take characters away and add none. -/
theorem length_flatten_resolvePath (path segments : List (List Char)) :
    (resolvePath path segments).flatten.length ≤
      path.flatten.length + (encode inPathSet segments.flatten).length := by
  induction segments generalizing path with
  | nil => exact Nat.le_add_right _ _
  | cons s rest ih =>
    have hdropLast : path.dropLast.flatten.length ≤ path.flatten.length :=
      (List.dropLast_sublist path).flatten.length_le
    have hlast : (if rest.isEmpty then [[]] else [] : List (List Char)).flatten = [] := by
      split <;> rfl
    rw [resolvePath, List.flatten_cons, encode_append, List.length_append]
    apply (ih _).trans
    split
    · rw [List.flatten_append, hlast, List.append_nil]
      omega
    · split
      · rw [List.flatten_append, hlast, List.append_nil]
        omega
      · rw [List.flatten_append, List.length_append, List.flatten_singleton]
        omega

theorem toLower_eq_percent {c : Char} (h : c.toLower = '%') : c = '%' := by
  unfold Char.toLower at h
  split at h
  next hupper =>
    -- a capital letter becomes a letter
    have hlow : 65 ≤ c.val.toNat := hupper.1
    have hhigh : c.val.toNat ≤ 90 := hupper.2
    have hval : c.val + ('a'.val - 'A'.val) = '%'.val := congrArg Char.val h
    have hnat := congrArg UInt32.toNat hval
    rw [UInt32.toNat_add] at hnat
    have hshift : ('a'.val - 'A'.val).toNat = 32 := by decide
    have hpercent : '%'.val.toNat = 37 := by decide
    rw [hshift, hpercent] at hnat
    omega
  next => exact h

/-- Without escapes the dot segments are the texts of dots. -/
theorem isSingleDot_iff {l : List Char} (h : '%' ∉ l) : isSingleDot l = true ↔ l = ['.'] := by
  simp only [isSingleDot, Bool.or_eq_true, decide_eq_true_eq, or_iff_left_iff_imp]
  intro hescape
  have hpercent : '%' ∈ l.map Char.toLower := by simp [hescape]
  obtain ⟨c, hc, hlower⟩ := List.mem_map.mp hpercent
  rw [toLower_eq_percent hlower] at hc
  exact absurd hc h

theorem isDoubleDot_iff {l : List Char} (h : '%' ∉ l) :
    isDoubleDot l = true ↔ l = ['.', '.'] := by
  have hlower (l' : List Char) (hsub : ∀ c ∈ l', c ∈ l) :
      l'.map Char.toLower ≠ ['%', '2', 'e'] := by
    intro hescape
    have hpercent : '%' ∈ l'.map Char.toLower := by simp [hescape]
    obtain ⟨c, hc, hlower⟩ := List.mem_map.mp hpercent
    rw [toLower_eq_percent hlower] at hc
    exact h (hsub _ hc)
  constructor
  · intro hdots
    unfold isDoubleDot at hdots
    split at hdots
    · rfl
    next rest _ =>
      have hrest := hlower rest fun c hc => List.mem_cons_of_mem _ hc
      rw [decide_eq_true_eq] at hdots
      exact absurd hdots hrest
    next _ a b c rest _ =>
      have hfirst := hlower [a, b, c] fun d hd => by
        have hmem : d ∈ [a, b, c] ++ rest := List.mem_append_left _ hd
        exact hmem
      rw [Bool.and_eq_true, decide_eq_true_eq] at hdots
      exact absurd hdots.1 hfirst
    · cases hdots
  · rintro rfl
    rfl

end Url
