import AccountLookup.Url.Targets
import Mathlib.Tactic.SplitIfs

/-! Parameters of a path: which texts a router that reads two parameters after a constant gets from
the path of a URL as they were put into it. -/

namespace Url

/-- The part of a URL before its query: a constant and two parameters. -/
def parameterPath (constant first second : List Char) : List Char :=
  '/' :: (constant ++ '/' :: (first ++ '/' :: second))

/-- The characters that do not get through a parameter of the path. -/
def pathBreakers : List Char := ['/', '\\', '?', '#', '%', '\t', '\n', '\r']

/-- A parameter of the path that gets through: it has none of these characters and is no dot
segment. -/
structure PathSafe (l : List Char) : Prop where
  unbroken : ∀ c ∈ l, c ∉ pathBreakers
  notSingleDot : l ≠ ['.']
  notDoubleDot : l ≠ ['.', '.']

instance (l : List Char) : Decidable (PathSafe l) :=
  decidable_of_iff (l.all (fun c => decide (c ∉ pathBreakers)) = true ∧ l ≠ ['.'] ∧ l ≠ ['.', '.'])
    ⟨fun h => ⟨forall_mem_of_all h.1, h.2.1, h.2.2⟩, fun h => ⟨List.all_eq_true.mpr fun c hc =>
      decide_eq_true (h.unbroken c hc), h.notSingleDot, h.notDoubleDot⟩⟩

/-- A segment of the path that stays as it is. -/
structure ConstantSegment (l : List Char) : Prop where
  safe : PathSafe l
  unencoded : ∀ c ∈ l, inPathSet c = false

/-- A router that reads two parameters of a path after a constant, which it may compare without
regard to case, and that may pass over empty segments. -/
structure ReadsParameters (constant : List Char)
    (router : List (List Char) → Option (List Char × List Char)) : Prop where
  segments {path : List (List Char)} {first second : List Char}
    (h : router path = some (first, second)) :
    ∃ head, head.length = constant.length ∧ path.filter (· ≠ []) = [head, first, second]
  reads {first second : List Char} (hfirst : first ≠ []) (hsecond : second ≠ []) :
    router [constant, first, second] = some (first, second)

/-! ### What gets through has no breakers -/

/-- The length of a character in an encoded path. -/
def pathLength (c : Char) : Nat := if inPathSet c then 3 * c.utf8Size else 1

/-- What a character of a parameter adds to the segments of the path. -/
def sentInPath (c : Char) : Nat :=
  if isTabOrNewline c || c = '?' || c = '#' || isSeparator c then 0 else pathLength c

/-- What a character of a decoded parameter takes from the segments of the path: only an escape gives
a breaker. -/
def takenFromPath (c : Char) : Nat :=
  if inPathSet c then 3 * c.utf8Size else if c ∈ pathBreakers then 3 else 1

theorem sentInPath_le (c : Char) : sentInPath c ≤ takenFromPath c := by
  unfold sentInPath takenFromPath pathLength
  split_ifs <;> omega

theorem takenFromPath_le (c : Char) : takenFromPath c ≤ 3 * c.utf8Size := by
  have hsize := c.utf8Size_pos
  unfold takenFromPath
  split_ifs <;> omega

theorem not_mem_pathBreakers_of_sent_eq {c : Char} (h : sentInPath c = takenFromPath c) :
    c ∉ pathBreakers := by
  have hbreakers : ∀ d ∈ pathBreakers, sentInPath d ≠ takenFromPath d :=
    forall_mem_of_all (by decide)
  exact fun hmem => hbreakers c hmem h

theorem length_encode (l : List Char) : (encode inPathSet l).length = weight pathLength l := by
  rw [← weight_one, weight_encode fun _ _ => rfl]
  rfl

/-- A segment of a parsed path takes what it is decoded to from its length. -/
theorem weight_takenFromPath_le {input segment decoded : List Char}
    (hmem : segment ∈ (parse input).path) (hdecode : decodeURIComponent segment = some decoded) :
    weight takenFromPath decoded ≤ segment.length := by
  have hescape : ∀ d ∈ escapeChars, d ≠ '%' → takenFromPath d ≤ 1 :=
    forall_mem_of_all (by decide +kernel)
  have hplain : ∀ c ∈ segment, c ≠ '%' → takenFromPath c ≤ 1 := by
    intro c hc hpercent
    rw [parse_path] at hmem
    rcases mem_resolvePath hmem with hmem | rfl | ⟨part, hpart, rfl⟩
    · cases hmem
    · cases hc
    · rcases mem_encode hc with hc | ⟨hc, hset⟩
      · exact hescape c hc hpercent
      · obtain ⟨hc, hseparator⟩ := mem_splitOnP hpart c hc
        obtain ⟨htab, hquestion, hfragment⟩ :=
          plain_pathText input c (List.mem_of_mem_drop hc)
        simp only [isSeparator, Bool.or_eq_false_iff, decide_eq_false_iff_not] at hseparator
        simp only [isTabOrNewline, Bool.or_eq_false_iff, decide_eq_false_iff_not] at htab
        simp [takenFromPath, hset, pathBreakers, hpercent, hquestion, hfragment, hseparator, htab]
  have hle := weight_decode_le (g := fun _ => 1) (fun _ => Nat.le_refl 1) takenFromPath_le hplain
    hdecode
  rwa [weight_one] at hle

theorem plain_of_unbroken {l : List Char} (h : ∀ c ∈ l, c ∉ pathBreakers) : Plain l := by
  intro c hc
  have hc := h c hc
  simp only [pathBreakers, List.mem_cons, List.not_mem_nil, or_false, not_or] at hc
  simp [isTabOrNewline, hc]

theorem separator_of_unbroken {l : List Char} (h : ∀ c ∈ l, c ∉ pathBreakers) :
    ∀ c ∈ l, isSeparator c = false := by
  intro c hc
  have hc := h c hc
  simp only [pathBreakers, List.mem_cons, List.not_mem_nil, or_false, not_or] at hc
  simp [isSeparator, hc]

theorem percent_of_unbroken {l : List Char} (h : ∀ c ∈ l, c ∉ pathBreakers) : '%' ∉ l :=
  fun hpercent => h '%' hpercent (by decide)

theorem dots_of_pathSafe {l : List Char} (h : PathSafe l) :
    isSingleDot l = false ∧ isDoubleDot l = false := by
  have hpercent := percent_of_unbroken h.unbroken
  rw [← Bool.not_eq_true, ← Bool.not_eq_true, isSingleDot_iff hpercent, isDoubleDot_iff hpercent]
  exact ⟨h.notSingleDot, h.notDoubleDot⟩

theorem pathSafe_of_dots {l : List Char} (h : ∀ c ∈ l, c ∉ pathBreakers)
    (hsingle : isSingleDot l = false) (hdouble : isDoubleDot l = false) : PathSafe l := by
  refine ⟨h, ?_, ?_⟩
  · rintro rfl
    cases hsingle
  · rintro rfl
    cases hdouble

section Parameters

variable {constant : List Char} (hconstant : ConstantSegment constant)
include hconstant

theorem weight_sentInPath_constant : weight sentInPath constant = constant.length := by
  rw [← weight_one]
  apply weight_congr
  intro c hc
  obtain ⟨htab, hquestion, hfragment⟩ := plain_of_unbroken hconstant.safe.unbroken c hc
  have hseparator := separator_of_unbroken hconstant.safe.unbroken c hc
  simp [sentInPath, pathLength, htab, hquestion, hfragment, hseparator, hconstant.unencoded c hc]

theorem weight_sentInPath_parameterPath (first second : List Char) :
    weight sentInPath (parameterPath constant first second) =
      constant.length + weight sentInPath first + weight sentInPath second := by
  have hslash : sentInPath '/' = 0 := by decide
  unfold parameterPath
  simp only [weight_cons, weight_append, hslash, weight_sentInPath_constant hconstant]
  omega

/-- The segments of the path are no longer than what is sent in the parameters, and the constant. -/
theorem length_path_le {first second input : List Char}
    (h : (pathText input).Sublist (parameterPath constant first second)) :
    (parse input).path.flatten.length ≤
      constant.length + weight sentInPath first + weight sentInPath second := by
  have hplain := plain_pathText input
  have hresolve := length_flatten_resolvePath [] (((pathText input).drop 1).splitOnP isSeparator)
  have hdrop : weight (fun c => if isSeparator c then 0 else pathLength c)
      ((pathText input).drop 1) ≤ weight sentInPath (pathText input) := by
    refine (weight_le_weight ?_).trans (weight_le_of_sublist (List.drop_sublist 1 _))
    intro c hc
    obtain ⟨htab, hquestion, hfragment⟩ := hplain c (List.mem_of_mem_drop hc)
    simp [sentInPath, htab, hquestion, hfragment]
  have hpath := weight_sentInPath_parameterPath hconstant first second
  have hsublist := weight_le_of_sublist (w := sentInPath) h
  rw [length_encode, weight_flatten_splitOnP, List.flatten_nil, List.length_nil] at hresolve
  rw [parse_path]
  omega

/-- Parameters that get through a path have no breakers: the segments have no room for their
escapes. -/
theorem unbroken_of_router {router : List (List Char) → Option (List Char × List Char)}
    (hreads : ReadsParameters constant router) {first second input : List Char}
    (hinput : (pathText input).Sublist (parameterPath constant first second))
    {firstSegment secondSegment : List Char}
    (hrouter : router (parse input).path = some (firstSegment, secondSegment))
    (hfirst : decodeURIComponent firstSegment = some first)
    (hsecond : decodeURIComponent secondSegment = some second) :
    (∀ c ∈ first, c ∉ pathBreakers) ∧ ∀ c ∈ second, c ∉ pathBreakers := by
  obtain ⟨head, hhead, hpath⟩ := hreads.segments hrouter
  have hlength : (parse input).path.flatten.length =
      constant.length + firstSegment.length + secondSegment.length := by
    rw [← List.flatten_filter_ne_nil, hpath, ← hhead]
    simp
    omega
  have hmem : ∀ segment ∈ [head, firstSegment, secondSegment], segment ∈ (parse input).path := by
    intro segment hsegment
    rw [← hpath] at hsegment
    exact List.mem_of_mem_filter hsegment
  have hroom := length_path_le hconstant hinput
  have htakesFirst := weight_takenFromPath_le (hmem _ (by simp)) hfirst
  have htakesSecond := weight_takenFromPath_le (hmem _ (by simp)) hsecond
  have hsentFirst : weight sentInPath first ≤ weight takenFromPath first :=
    weight_le_weight fun c _ => sentInPath_le c
  have hsentSecond : weight sentInPath second ≤ weight takenFromPath second :=
    weight_le_weight fun c _ => sentInPath_le c
  constructor
  · intro c hc
    exact not_mem_pathBreakers_of_sent_eq (eq_of_weight_le sentInPath_le (by omega) c hc)
  · intro c hc
    exact not_mem_pathBreakers_of_sent_eq (eq_of_weight_le sentInPath_le (by omega) c hc)

/-! ### What has no breakers gets through, but for dot segments -/

theorem plain_parameterPath {first second : List Char} (hfirst : ∀ c ∈ first, c ∉ pathBreakers)
    (hsecond : ∀ c ∈ second, c ∉ pathBreakers) : Plain (parameterPath constant first second) := by
  have hslash : ∀ c ∈ ['/'], isTabOrNewline c = false ∧ c ≠ '?' ∧ c ≠ '#' :=
    forall_mem_of_all (by decide)
  intro c hc
  rcases List.mem_cons.mp hc with rfl | hc
  · exact hslash '/' (by simp)
  rcases List.mem_append.mp hc with hc | hc
  · exact plain_of_unbroken hconstant.safe.unbroken c hc
  rcases List.mem_cons.mp hc with rfl | hc
  · exact hslash '/' (by simp)
  rcases List.mem_append.mp hc with hc | hc
  · exact plain_of_unbroken hfirst c hc
  rcases List.mem_cons.mp hc with rfl | hc
  · exact hslash '/' (by simp)
  · exact plain_of_unbroken hsecond c hc

theorem splitOnP_parameterPath {first second : List Char} (hfirst : ∀ c ∈ first, c ∉ pathBreakers)
    (hsecond : ∀ c ∈ second, c ∉ pathBreakers) :
    ((parameterPath constant first second).drop 1).splitOnP isSeparator =
      [constant, first, second] := by
  have hslash : isSeparator '/' = true := by decide
  have hdrop : (parameterPath constant first second).drop 1 =
      constant ++ '/' :: (first ++ '/' :: second) := rfl
  rw [hdrop, List.splitOnP_append_cons_of_forall_mem
      (separator_of_unbroken hconstant.safe.unbroken) '/' hslash,
    List.splitOnP_append_cons_of_forall_mem (separator_of_unbroken hfirst) '/' hslash,
    List.splitOnP_eq_singleton (separator_of_unbroken hsecond)]

/-- The segments of the constant and two parameters, which dot segments change. -/
theorem resolvePath_parameters (first second : List Char) :
    resolvePath [] [constant, first, second] =
      let path :=
        if isDoubleDot first then []
        else if isSingleDot first then [constant]
        else [constant, encode inPathSet first]
      if isDoubleDot second then path.dropLast ++ [[]]
      else if isSingleDot second then path ++ [[]]
      else path ++ [encode inPathSet second] := by
  obtain ⟨hsingle, hdouble⟩ := dots_of_pathSafe hconstant.safe
  have hencode : encode inPathSet constant = constant := encode_eq_self hconstant.unencoded
  simp only [resolvePath, hsingle, hdouble, hencode, Bool.false_eq_true, if_false,
    List.isEmpty_cons, List.isEmpty_nil, if_true, List.nil_append, List.append_nil]
  split_ifs <;> rfl

/-- A path of three segments that are not empty has the parameters in it: a dot segment leaves too few
segments. -/
theorem parameters_of_filter {first second head firstSegment secondSegment : List Char}
    (h : (resolvePath [] [constant, first, second]).filter (· ≠ []) =
      [head, firstSegment, secondSegment]) :
    (first ≠ [] ∧ isSingleDot first = false ∧ isDoubleDot first = false) ∧
      (second ≠ [] ∧ isSingleDot second = false ∧ isDoubleDot second = false) ∧
      firstSegment = encode inPathSet first ∧ secondSegment = encode inPathSet second := by
  have hthree (path : List (List Char)) (h : path.filter (· ≠ []) = [head, firstSegment,
      secondSegment]) : 3 ≤ path.length := by
    have hle := List.length_filter_le (· ≠ []) path
    rw [h] at hle
    exact hle
  have hlast (path : List (List Char)) (h : (path ++ [[]]).filter (· ≠ []) = [head, firstSegment,
      secondSegment]) : 3 ≤ path.length := by
    rw [List.filter_append] at h
    exact hthree path (by simpa using h)
  rw [resolvePath_parameters hconstant] at h
  dsimp only at h
  split_ifs at h with hdouble' _ _ hsingle' _ _ hdouble hsingle
  any_goals
    refine absurd (hlast _ h) (Nat.not_le.mpr ?_)
    simp
  any_goals
    refine absurd (hthree _ h) (Nat.not_le.mpr ?_)
    simp only [List.length_append, List.length_cons, List.length_nil]
    omega
  -- no segment is dropped
  have hlength := congrArg List.length h
  have hall : [constant, encode inPathSet first, encode inPathSet second].filter (· ≠ []) =
      [constant, encode inPathSet first, encode inPathSet second] :=
    List.filter_sublist.eq_of_length hlength
  have hkeep : ∀ segment ∈ [constant, encode inPathSet first, encode inPathSet second],
      segment ≠ [] := by
    intro segment hsegment
    rw [← hall] at hsegment
    simpa using List.of_mem_filter hsegment
  rw [List.cons_append, List.cons_append, List.nil_append, hall] at h
  obtain ⟨-, hfirst, hsecond⟩ : constant = head ∧ encode inPathSet first = firstSegment ∧
      encode inPathSet second = secondSegment := by simpa using h
  refine ⟨⟨?_, by simpa using hsingle, by simpa using hdouble⟩,
    ⟨?_, by simpa using hsingle', by simpa using hdouble'⟩, hfirst.symm, hsecond.symm⟩
  · rintro rfl
    exact hkeep (encode inPathSet []) (by simp) rfl
  · rintro rfl
    exact hkeep (encode inPathSet []) (by simp) rfl

/-- The router reads the encoded parameters exactly when they are no dot segments and not empty. -/
theorem router_parameters_iff {router : List (List Char) → Option (List Char × List Char)}
    (hreads : ReadsParameters constant router)
    {first second firstSegment secondSegment : List Char} :
    router (resolvePath [] [constant, first, second]) = some (firstSegment, secondSegment) ↔
      (first ≠ [] ∧ isSingleDot first = false ∧ isDoubleDot first = false) ∧
        (second ≠ [] ∧ isSingleDot second = false ∧ isDoubleDot second = false) ∧
        firstSegment = encode inPathSet first ∧ secondSegment = encode inPathSet second := by
  constructor
  · intro hrouter
    obtain ⟨head, -, hpath⟩ := hreads.segments hrouter
    exact parameters_of_filter hconstant hpath
  · intro h
    obtain ⟨⟨hfirst, hsingle, hdouble⟩, ⟨hsecond, hsingle', hdouble'⟩, rfl, rfl⟩ := h
    rw [resolvePath_parameters hconstant]
    simp only [hsingle, hdouble, hsingle', hdouble', Bool.false_eq_true, if_false]
    exact hreads.reads (encode_ne_nil hfirst) (encode_ne_nil hsecond)

end Parameters

/-- The router reads the parameters from the path of the input as they were sent. -/
def Arrive (router : List (List Char) → Option (List Char × List Char))
    (first second input : List Char) : Prop :=
  ∃ firstSegment secondSegment, router (parse input).path = some (firstSegment, secondSegment) ∧
    decodeURIComponent firstSegment = some first ∧
    decodeURIComponent secondSegment = some second

section Arrive

variable {constant : List Char} (hconstant : ConstantSegment constant)
  {router : List (List Char) → Option (List Char × List Char)}
  (hreads : ReadsParameters constant router) {first second : List Char} (hfirst : first ≠ [])
  (hsecond : second ≠ [])
include hconstant hreads hfirst hsecond

/-- Parameters that are followed by a query arrive exactly when they are safe. -/
theorem arrive_query_iff (query : List Char) :
    Arrive router first second (parameterPath constant first second ++ '?' :: query) ↔
      PathSafe first ∧ PathSafe second := by
  have hpath (hfirst : ∀ c ∈ first, c ∉ pathBreakers) (hsecond : ∀ c ∈ second, c ∉ pathBreakers) :
      (parse (parameterPath constant first second ++ '?' :: query)).path =
        resolvePath [] [constant, first, second] := by
    rw [parse_path, pathText_append_question (plain_parameterPath hconstant hfirst hsecond),
      splitOnP_parameterPath hconstant hfirst hsecond]
  constructor
  · intro h
    obtain ⟨firstSegment, secondSegment, hrouter, hfirst', hsecond'⟩ := h
    obtain ⟨hunbroken, hunbroken'⟩ := unbroken_of_router hconstant hreads
      (pathText_append_question_sublist _ _) hrouter hfirst' hsecond'
    rw [hpath hunbroken hunbroken', router_parameters_iff hconstant hreads] at hrouter
    obtain ⟨⟨-, hsingle, hdouble⟩, ⟨-, hsingle', hdouble'⟩, -⟩ := hrouter
    exact ⟨pathSafe_of_dots hunbroken hsingle hdouble,
      pathSafe_of_dots hunbroken' hsingle' hdouble'⟩
  · intro h
    obtain ⟨hsafe, hsafe'⟩ := h
    refine ⟨encode inPathSet first, encode inPathSet second, ?_,
      decode_encode (percent_of_unbroken hsafe.unbroken),
      decode_encode (percent_of_unbroken hsafe'.unbroken)⟩
    rw [hpath hsafe.unbroken hsafe'.unbroken, router_parameters_iff hconstant hreads]
    exact ⟨⟨hfirst, dots_of_pathSafe hsafe⟩, ⟨hsecond, dots_of_pathSafe hsafe'⟩, rfl, rfl⟩

/-- Parameters that nothing follows arrive exactly when they are safe and the second does not end in
a control or a space. -/
theorem arrive_iff :
    Arrive router first second (parameterPath constant first second) ↔
      PathSafe first ∧ PathSafe second ∧ EndsPlain second := by
  have htrim : (parameterPath constant first second).rdropWhile isC0ControlOrSpace =
      parameterPath constant first (second.rdropWhile isC0ControlOrSpace) := by
    have hslash : isC0ControlOrSpace '/' = false := by decide
    have happend (l : List Char) :
        parameterPath constant first l = ('/' :: (constant ++ '/' :: first)) ++ '/' :: l := by
      simp [parameterPath]
    rw [happend, happend, rdropWhile_append_cons hslash]
  have hpath (hfirst : ∀ c ∈ first, c ∉ pathBreakers) (hsecond : ∀ c ∈ second, c ∉ pathBreakers) :
      (parse (parameterPath constant first second)).path =
        resolvePath [] [constant, first, second.rdropWhile isC0ControlOrSpace] := by
    have hrest : ∀ c ∈ second.rdropWhile isC0ControlOrSpace, c ∉ pathBreakers :=
      fun c hc => hsecond c ((rdropWhile_sublist _ _).subset hc)
    rw [parse_path, pathText_eq (plain_parameterPath hconstant hfirst hsecond), htrim,
      splitOnP_parameterPath hconstant hfirst hrest]
  constructor
  · intro h
    obtain ⟨firstSegment, secondSegment, hrouter, hfirst', hsecond'⟩ := h
    obtain ⟨hunbroken, hunbroken'⟩ := unbroken_of_router hconstant hreads (pathText_sublist _)
      hrouter hfirst' hsecond'
    rw [hpath hunbroken hunbroken', router_parameters_iff hconstant hreads] at hrouter
    obtain ⟨⟨-, hsingle, hdouble⟩, ⟨-, hsingle', hdouble'⟩, -, rfl⟩ := hrouter
    -- what is decoded is the trimmed parameter
    have hpercent : '%' ∉ second.rdropWhile isC0ControlOrSpace := fun hmem =>
      percent_of_unbroken hunbroken' ((rdropWhile_sublist _ _).subset hmem)
    rw [decode_encode hpercent] at hsecond'
    have hends : EndsPlain second := Option.some.inj hsecond'
    rw [hends] at hsingle' hdouble'
    exact ⟨pathSafe_of_dots hunbroken hsingle hdouble,
      pathSafe_of_dots hunbroken' hsingle' hdouble', hends⟩
  · intro h
    obtain ⟨hsafe, hsafe', hends⟩ := h
    refine ⟨encode inPathSet first, encode inPathSet second, ?_,
      decode_encode (percent_of_unbroken hsafe.unbroken),
      decode_encode (percent_of_unbroken hsafe'.unbroken)⟩
    rw [hpath hsafe.unbroken hsafe'.unbroken, hends, router_parameters_iff hconstant hreads]
    exact ⟨⟨hfirst, dots_of_pathSafe hsafe⟩, ⟨hsecond, dots_of_pathSafe hsafe'⟩, rfl, rfl⟩

end Arrive

end Url
