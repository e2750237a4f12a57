import AccountLookup.Url.Percent
import Mathlib.Data.List.Basic

/-! Decoding of percent-encoded texts: it gives back what was encoded, and it never makes a text
heavier. -/

namespace Url

/-- What holds of every character of a text is found by running through it. -/
theorem forall_mem_of_all {p : Char → Prop} [DecidablePred p] {l : List Char}
    (h : l.all (fun c => decide (p c)) = true) : ∀ c ∈ l, p c :=
  fun c hc => of_decide_eq_true (List.all_eq_true.mp h c hc)

/-! ### Escapes -/

/-- The characters of an escape. -/
def escapeChars : List Char := "%0123456789ABCDEF".toList

theorem hexValue_hexDigit : ∀ n < 16, hexValue (hexDigit n) = some n := by decide

theorem hexDigit_mem : ∀ n < 16, hexDigit n ∈ escapeChars := by decide

theorem nibbles_lt (b : UInt8) : b.toNat / 16 < 16 ∧ b.toNat % 16 < 16 := by
  have hb := b.toNat_lt
  omega

theorem mem_encodeChar {c d : Char} (h : d ∈ encodeChar c) : d ∈ escapeChars := by
  obtain ⟨b, -, hd⟩ := List.mem_flatMap.mp h
  obtain ⟨hhigh, hlow⟩ := nibbles_lt b
  simp only [encodeByte, List.mem_cons, List.not_mem_nil, or_false] at hd
  rcases hd with rfl | rfl | rfl
  · decide
  · exact hexDigit_mem _ hhigh
  · exact hexDigit_mem _ hlow

/-- A byte below 128 is the whole encoding of its character. -/
theorem eq_of_mem_utf8EncodeChar {c : Char} {b : UInt8} (h : b ∈ String.utf8EncodeChar c)
    (hb : b.toNat < 128) : c.toNat = b.toNat := by
  have hhigh (x y : UInt8) (hy : 128 ≤ y.toNat) : 128 ≤ (x ||| y).toNat := by
    rw [UInt8.toNat_or]
    exact Nat.le_trans hy Nat.right_le_or
  rcases c.utf8Size_eq with hsize | hsize | hsize | hsize
  · rw [String.utf8EncodeChar_eq_singleton hsize, List.mem_singleton] at h
    have hsmall : c.val.toNat ≤ 127 := by
      simpa [Char.utf8Size_eq_one_iff, UInt32.le_iff_toNat_le] using hsize
    rw [h, UInt32.toNat_toUInt8]
    show c.val.toNat = _
    omega
  · rw [String.utf8EncodeChar_eq_cons_cons hsize] at h
    simp only [List.mem_cons, List.not_mem_nil, or_false] at h
    rcases h with rfl | rfl
    all_goals exact absurd hb (Nat.not_lt.mpr (hhigh _ _ (by decide)))
  · rw [String.utf8EncodeChar_eq_cons_cons_cons hsize] at h
    simp only [List.mem_cons, List.not_mem_nil, or_false] at h
    rcases h with rfl | rfl | rfl
    all_goals exact absurd hb (Nat.not_lt.mpr (hhigh _ _ (by decide)))
  · rw [String.utf8EncodeChar_eq_cons_cons_cons_cons hsize] at h
    simp only [List.mem_cons, List.not_mem_nil, or_false] at h
    rcases h with rfl | rfl | rfl | rfl
    all_goals exact absurd hb (Nat.not_lt.mpr (hhigh _ _ (by decide)))

/-- A character of an encoded text is a character of an escape, or it was in the text and is not in
the set. -/
theorem mem_encode {p : Char → Bool} {l : List Char} {d : Char} (h : d ∈ encode p l) :
    d ∈ escapeChars ∨ d ∈ l ∧ p d = false := by
  obtain ⟨c, hc, hd⟩ := List.mem_flatMap.mp h
  cases hp : p c with
  | true =>
    rw [hp] at hd
    exact .inl (mem_encodeChar hd)
  | false =>
    rw [hp] at hd
    obtain rfl := List.mem_singleton.mp hd
    exact .inr ⟨hc, hp⟩

theorem encode_append (p : Char → Bool) (l l' : List Char) :
    encode p (l ++ l') = encode p l ++ encode p l' := List.flatMap_append

theorem encode_eq_self {p : Char → Bool} {l : List Char} (h : ∀ c ∈ l, p c = false) :
    encode p l = l := by
  induction l with
  | nil => rfl
  | cons c l ih =>
    have hc := h c List.mem_cons_self
    have hrest := ih fun d hd => h d (List.mem_cons_of_mem _ hd)
    unfold encode at hrest ⊢
    rw [List.flatMap_cons, hrest, hc]
    rfl

theorem length_encodeChar (c : Char) : (encodeChar c).length = 3 * c.utf8Size := by
  have hbytes (bs : List UInt8) : (bs.flatMap encodeByte).length = 3 * bs.length := by
    induction bs with
    | nil => rfl
    | cons b bs ih =>
      rw [List.flatMap_cons, List.length_append, ih, List.length_cons]
      show 3 + 3 * bs.length = 3 * (bs.length + 1)
      omega
  rw [encodeChar, hbytes, String.length_utf8EncodeChar]

theorem encodeChar_eq_cons (c : Char) : ∃ tail, encodeChar c = '%' :: tail := by
  have hlength := length_encodeChar c
  have hsize := c.utf8Size_pos
  cases hbytes : String.utf8EncodeChar c with
  | nil =>
    rw [encodeChar, hbytes] at hlength
    simp only [List.flatMap_nil, List.length_nil] at hlength
    omega
  | cons b bs =>
    rw [encodeChar, hbytes]
    exact ⟨_, rfl⟩

theorem encode_ne_nil {p : Char → Bool} {l : List Char} (h : l ≠ []) : encode p l ≠ [] := by
  obtain ⟨c, rest, rfl⟩ := List.exists_cons_of_ne_nil h
  obtain ⟨tail, htail⟩ := encodeChar_eq_cons c
  intro hnil
  have hfirst := (List.append_eq_nil_iff.mp hnil).1
  cases hp : p c with
  | true => simp [hp, htail] at hfirst
  | false => simp [hp] at hfirst

theorem leadingOctets_encodeBytes (bs : List UInt8) (rest : List Char) :
    leadingOctets (bs.flatMap encodeByte ++ rest) = bs ++ leadingOctets rest := by
  induction bs with
  | nil => rfl
  | cons b bs ih =>
    obtain ⟨hhigh, hlow⟩ := nibbles_lt b
    have hbyte : UInt8.ofNat (16 * (b.toNat / 16) + b.toNat % 16) = b := by
      rw [Nat.div_add_mod, UInt8.ofNat_toNat]
    simp only [List.flatMap_cons, encodeByte, List.cons_append, List.nil_append, leadingOctets,
      hexValue_hexDigit _ hhigh, hexValue_hexDigit _ hlow, hbyte, ih]

theorem length_leadingOctets (l : List Char) : 3 * (leadingOctets l).length ≤ l.length := by
  fun_induction leadingOctets l with
  | case1 a b rest x hx y hy ih =>
    simp only [List.length_cons]
    omega
  | case2 => simp
  | case3 => simp

/-! ### Decoding gives back what was encoded -/

theorem decodeFrom_eq_drop (skip : Nat) (l : List Char) :
    decodeFrom skip l = decodeFrom 0 (l.drop skip) := by
  induction l generalizing skip with
  | nil => cases skip <;> rfl
  | cons c rest ih =>
    cases skip with
    | zero => rfl
    | succ skip =>
      rw [decodeFrom, ih, List.drop_succ_cons]

theorem decodeURIComponent_cons_of_ne {c : Char} (h : c ≠ '%') (rest : List Char) :
    decodeURIComponent (c :: rest) = (decodeURIComponent rest).map (c :: ·) := by
  simp [decodeURIComponent, decodeFrom, h]

/-- The escapes that a text begins with are decoded one character at a time. -/
theorem decodeURIComponent_percent (rest : List Char) :
    decodeURIComponent ('%' :: rest) =
      match (leadingOctets ('%' :: rest)).toByteArray.utf8DecodeChar? 0 with
      | some d => (decodeURIComponent (rest.drop (3 * d.utf8Size - 1))).map (d :: ·)
      | none => none := by
  rw [decodeURIComponent, decodeFrom, if_pos rfl]
  cases (leadingOctets ('%' :: rest)).toByteArray.utf8DecodeChar? 0 with
  | some d =>
    dsimp only
    rw [decodeFrom_eq_drop]
    rfl
  | none => rfl

theorem decode_encodeChar (c : Char) (rest : List Char) :
    decodeURIComponent (encodeChar c ++ rest) = (decodeURIComponent rest).map (c :: ·) := by
  have hoctets : leadingOctets (encodeChar c ++ rest) =
      String.utf8EncodeChar c ++ leadingOctets rest := leadingOctets_encodeBytes _ _
  have hdecode : (leadingOctets (encodeChar c ++ rest)).toByteArray.utf8DecodeChar? 0 = some c := by
    rw [hoctets, List.toByteArray_append]
    exact ByteArray.utf8DecodeChar?_utf8EncodeChar_append
  have hlength := length_encodeChar c
  obtain ⟨tail, htail⟩ := encodeChar_eq_cons c
  rw [htail, List.length_cons] at hlength
  rw [htail, List.cons_append] at hdecode ⊢
  rw [decodeURIComponent_percent, hdecode]
  dsimp only
  rw [List.drop_left' (by omega)]

/-- A text whose characters are escaped where `p` holds, and changed by `f` elsewhere, is decoded to
the text changed by `f` there. -/
theorem decode_flatMap {p : Char → Bool} {f : Char → Char} {l : List Char}
    (h : ∀ c ∈ l, p c = false → f c ≠ '%') :
    decodeURIComponent (l.flatMap fun c => if p c then encodeChar c else [f c]) =
      some (l.map fun c => if p c then c else f c) := by
  induction l with
  | nil => rfl
  | cons c rest ih =>
    have hrest := ih fun d hd => h d (List.mem_cons_of_mem _ hd)
    rw [List.flatMap_cons, List.map_cons]
    cases hp : p c with
    | true =>
      simp only [if_true, decode_encodeChar, hrest, Option.map_some]
    | false =>
      have hc := h c List.mem_cons_self hp
      simp only [Bool.false_eq_true, if_false, List.cons_append, List.nil_append,
        decodeURIComponent_cons_of_ne hc, hrest, Option.map_some]

/-- A text without percent signs is decoded from its encoded form. -/
theorem decode_encode {p : Char → Bool} {l : List Char} (h : '%' ∉ l) :
    decodeURIComponent (encode p l) = some l := by
  have hdecode := decode_flatMap (p := p) (f := fun c => c) fun c hc _ hpercent =>
    h (hpercent ▸ hc)
  simpa [encode] using hdecode

/-! ### Weights -/

/-- The weight of a text, given that of each character. -/
def weight (w : Char → Nat) : List Char → Nat
  | [] => 0
  | c :: l => w c + weight w l

section Weights

variable {w g : Char → Nat}

@[simp] theorem weight_nil : weight w [] = 0 := rfl

@[simp] theorem weight_cons (c : Char) (l : List Char) : weight w (c :: l) = w c + weight w l := rfl

@[simp] theorem weight_append (l l' : List Char) :
    weight w (l ++ l') = weight w l + weight w l' := by
  induction l with
  | nil => simp
  | cons c l ih =>
    rw [List.cons_append, weight_cons, weight_cons, ih]
    omega

theorem weight_one (l : List Char) : weight (fun _ => 1) l = l.length := by
  induction l with
  | nil => rfl
  | cons c l ih =>
    rw [weight_cons, ih, List.length_cons]
    omega

theorem weight_map (f : Char → Char) (l : List Char) :
    weight w (l.map f) = weight (fun c => w (f c)) l := by
  induction l with
  | nil => rfl
  | cons c l ih => rw [List.map_cons, weight_cons, weight_cons, ih]

theorem weight_congr {l : List Char} (h : ∀ c ∈ l, w c = g c) : weight w l = weight g l := by
  induction l with
  | nil => rfl
  | cons c l ih =>
    have hrest := ih fun d hd => h d (List.mem_cons_of_mem _ hd)
    rw [weight_cons, weight_cons, h c List.mem_cons_self, hrest]

theorem length_le_weight (h : ∀ c, 1 ≤ w c) (l : List Char) : l.length ≤ weight w l := by
  induction l with
  | nil => exact Nat.le_refl 0
  | cons c l ih =>
    have hc := h c
    rw [List.length_cons, weight_cons]
    omega

theorem weight_le_weight {l : List Char} (h : ∀ c ∈ l, w c ≤ g c) : weight w l ≤ weight g l := by
  induction l with
  | nil => exact Nat.le_refl 0
  | cons c l ih =>
    have hc := h c List.mem_cons_self
    have hl := ih fun d hd => h d (List.mem_cons_of_mem _ hd)
    rw [weight_cons, weight_cons]
    omega

/-- A text that is as heavy under the larger weight has no character whose weight is smaller under the
other. -/
theorem eq_of_weight_le {l : List Char} (h : ∀ c, w c ≤ g c) (hle : weight g l ≤ weight w l) :
    ∀ c ∈ l, w c = g c := by
  induction l with
  | nil => intro c hc; cases hc
  | cons c l ih =>
    have hc := h c
    have hl : weight w l ≤ weight g l := weight_le_weight fun d _ => h d
    rw [weight_cons, weight_cons] at hle
    intro d hd
    rcases List.mem_cons.mp hd with rfl | hd
    · omega
    · exact ih (by omega) d hd

theorem weight_le_of_sublist {l l' : List Char} (h : l.Sublist l') : weight w l ≤ weight w l' := by
  induction h with
  | slnil => exact Nat.le_refl 0
  | cons c _ ih =>
    rw [weight_cons]
    omega
  | cons_cons c _ ih =>
    rw [weight_cons, weight_cons]
    omega

/-- A text that is as heavy as one that it is a part of is all of it. -/
theorem eq_of_sublist_of_weight_le (hw : ∀ c, 1 ≤ w c) {l l' : List Char} (h : l.Sublist l')
    (hle : weight w l' ≤ weight w l) : l = l' := by
  induction h with
  | slnil => rfl
  | cons c hsublist _ =>
    have hpos := hw c
    have hrest := weight_le_of_sublist (w := w) hsublist
    rw [weight_cons] at hle
    omega
  | cons_cons c _ ih =>
    rw [weight_cons, weight_cons] at hle
    rw [ih (by omega)]

/-- An encoded character weighs as much as its escapes, which are three characters for each byte. -/
theorem weight_encode {p : Char → Bool} (hg : ∀ d ∈ escapeChars, g d = 1) (l : List Char) :
    weight g (encode p l) = weight (fun c => if p c then 3 * c.utf8Size else g c) l := by
  have hescapes (c : Char) : weight g (encodeChar c) = 3 * c.utf8Size := by
    rw [weight_congr fun d hd => hg d (mem_encodeChar hd), weight_one, length_encodeChar]
  induction l with
  | nil => rfl
  | cons c l ih =>
    rw [encode, List.flatMap_cons, weight_append, weight_cons, ← ih, encode]
    cases p c with
    | true => rw [if_pos rfl, if_pos rfl, hescapes]
    | false => simp

/-- Decoding makes no text heavier: a character that stands for itself keeps a weight that the text
gives it, and one that is decoded weighs no more than the length of its escapes. -/
theorem weight_decode_le (hg : ∀ c, 1 ≤ g c) (hescape : ∀ c, w c ≤ 3 * c.utf8Size)
    {l l' : List Char} (hplain : ∀ c ∈ l, c ≠ '%' → w c ≤ g c)
    (h : decodeURIComponent l = some l') : weight w l' ≤ weight g l := by
  induction hn : l.length using Nat.strongRecOn generalizing l l' with
  | ind n ih =>
    subst hn
    match l with
    | [] =>
      cases h
      exact Nat.le_refl 0
    | c :: rest =>
      by_cases hc : c = '%'
      · subst hc
        rw [decodeURIComponent_percent] at h
        cases hdecode : (leadingOctets ('%' :: rest)).toByteArray.utf8DecodeChar? 0 with
        | none =>
          rw [hdecode] at h
          cases h
        | some d =>
          rw [hdecode] at h
          obtain ⟨tail, htail, rfl⟩ := Option.map_eq_some_iff.mp h
          -- the escapes of `d` are a part of the text
          have hsize : d.utf8Size ≤ (leadingOctets ('%' :: rest)).length := by
            have hle := ByteArray.le_size_of_utf8DecodeChar?_eq_some hdecode
            rw [List.size_toByteArray] at hle
            omega
          have hoctets := length_leadingOctets ('%' :: rest)
          have hpos := d.utf8Size_pos
          rw [List.length_cons] at hoctets
          have hdrop := ih (rest.drop (3 * d.utf8Size - 1)).length
            (by rw [List.length_drop, List.length_cons]; omega)
            (fun c hc => hplain c (List.mem_cons_of_mem _ (List.mem_of_mem_drop hc))) htail rfl
          have htake := length_le_weight hg (rest.take (3 * d.utf8Size - 1))
          rw [List.length_take, Nat.min_eq_left (by omega)] at htake
          have hsplit : weight g rest = weight g (rest.take (3 * d.utf8Size - 1)) +
              weight g (rest.drop (3 * d.utf8Size - 1)) := by
            rw [← weight_append, List.take_append_drop]
          have hd := hescape d
          have hpercent := hg '%'
          rw [weight_cons, weight_cons, hsplit]
          omega
      · rw [decodeURIComponent_cons_of_ne hc] at h
        obtain ⟨tail, htail, rfl⟩ := Option.map_eq_some_iff.mp h
        have hrest := ih rest.length (by simp)
          (fun c hc => hplain c (List.mem_cons_of_mem _ hc)) htail rfl
        have hplain := hplain c List.mem_cons_self hc
        rw [weight_cons, weight_cons]
        omega

end Weights

end Url
