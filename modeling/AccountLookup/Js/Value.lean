/-! The JavaScript values that the services pass around.  `Field` is a property that may be absent,
`null` or set, as in the declared types `string` and `string | null` of values that come off a
message or out of a document; `Value` is any JSON value. -/

namespace Js

inductive Field (α : Type) where
  | undefined
  | null
  | val (value : α)
  deriving DecidableEq, Repr

/-- A string property. -/
abbrev Str := Field String

namespace Field

variable {α : Type}

/-- `field ?? null` -/
def orNull : Field α → Field α
  | undefined => null
  | null => null
  | val a => val a

/-- `field ?? default` -/
def getD (default : α) : Field α → α
  | val a => a
  | _ => default

def ofOption : Option α → Field α
  | some a => val a
  | none => null

@[simp] theorem orNull_undefined : (undefined : Field α).orNull = null := rfl
@[simp] theorem orNull_null : (null : Field α).orNull = null := rfl
@[simp] theorem orNull_val (a : α) : (val a).orNull = val a := rfl

@[simp] theorem orNull_orNull (f : Field α) : f.orNull.orNull = f.orNull := by
  cases f <;> rfl

@[simp] theorem orNull_eq_val {f : Field α} {a : α} : f.orNull = val a ↔ f = val a := by
  cases f <;> simp

@[simp] theorem ofOption_inj {a b : Option α} : ofOption a = ofOption b ↔ a = b := by
  cases a <;> cases b <;> simp [ofOption]

/-- Whether the property counts as true in a condition. -/
def truthy : Str → Bool
  | .val s => s ≠ ""
  | _ => false

/-- The text of the property in a template literal. -/
def text : Str → String
  | .undefined => "undefined"
  | .null => "null"
  | .val s => s

@[simp] theorem truthy_undefined : truthy .undefined = false := rfl
@[simp] theorem truthy_null : truthy .null = false := rfl
@[simp] theorem text_val (s : String) : text (.val s) = s := rfl

@[simp] theorem truthy_orNull (f : Str) : truthy f.orNull = truthy f := by
  cases f <;> rfl

theorem truthy_iff {f : Str} : truthy f = true ↔ ∃ s, f = .val s ∧ s ≠ "" := by
  cases f <;> simp [truthy]

theorem orNull_eq_of_truthy {f : Str} (h : truthy f = true) : f.orNull = f := by
  obtain ⟨s, rfl, -⟩ := truthy_iff.mp h
  rfl

end Field

/-- A JSON value, or `undefined` for an absent property.  No modelled function looks inside an array
or an object, so `compound` keeps only its JSON text. -/
inductive Value where
  | undefined
  | null
  | bool (value : Bool)
  | num (value : Rat)
  | str (value : String)
  | compound (json : String)
  deriving DecidableEq, Repr

namespace Value

def truthy : Value → Bool
  | undefined | null => false
  | bool b => b
  | num n => n ≠ 0
  | str s => s ≠ ""
  | compound _ => true

def isCompound : Value → Bool
  | compound _ => true
  | _ => false

/-- `a === b`, where `a` and `b` were parsed separately: two arrays or objects are then different
references. -/
def strictEq (a b : Value) : Bool := a = b && !a.isCompound

/-- The first decimals of the fraction `r / d`, up to the last one that is not zero. -/
def decimals (d : Nat) : (places : Nat) → (r : Nat) → List Char
  | 0, _ => []
  | places + 1, r =>
    if r = 0 then [] else Nat.digitChar (10 * r / d) :: decimals d places (10 * r % d)

/-- The decimal text of a number.  A double that is printed without an exponent has no more decimals. -/
def numText (n : Rat) : String :=
  if n.den = 1 then toString n.num
  else
    (if n < 0 then "-" else "") ++ toString (n.num.natAbs / n.den) ++ "." ++
      String.ofList (decimals n.den 23 (n.num.natAbs % n.den))

/-- The text of the value in a template literal: that of an array or object is not modelled beyond
its JSON, nor the exponent that a very large or very small number is printed with. -/
def text : Value → String
  | undefined => "undefined"
  | null => "null"
  | bool b => toString b
  | num n => numText n
  | str s => s
  | compound json => json

example : text (num (-5 / 4)) = "-1.25" := by decide +kernel

/-- The text of `value ?? default` in a template literal. -/
def textD (default : String) : Value → String
  | undefined | null => default
  | value => value.text

/-- A character in the JSON text of a string. -/
def jsonChar (c : Char) : List Char :=
  if c = '\x22' || c = '\\' then ['\\', c]
  else if c = '\n' then ['\\', 'n']
  else if c = '\r' then ['\\', 'r']
  else if c = '\t' then ['\\', 't']
  else if c = '\x08' then ['\\', 'b']
  else if c = '\x0c' then ['\\', 'f']
  else if c.toNat < 32 then
    ['\\', 'u', '0', '0', Nat.digitChar (c.toNat / 16), Nat.digitChar (c.toNat % 16)]
  else [c]

/-- An array of strings. -/
def ofStrings (values : List String) : Value :=
  let quoted := values.map fun s => "\"" ++ String.ofList (s.toList.flatMap jsonChar) ++ "\""
  compound ("[" ++ ",".intercalate quoted ++ "]")

@[simp] theorem strictEq_str {a : Value} {s : String} : a.strictEq (str s) = true ↔ a = str s := by
  simp only [strictEq, Bool.and_eq_true, decide_eq_true_eq, Bool.not_eq_true']
  constructor
  · exact And.left
  · rintro rfl
    exact ⟨rfl, rfl⟩

end Value

/-- A string property as a JSON value. -/
def Field.toValue : Str → Value
  | .undefined => .undefined
  | .null => .null
  | .val s => .str s

theorem Field.text_toValue (f : Str) : f.toValue.text = f.text := by
  cases f <;> rfl

theorem Field.textD_toValue (default : String) (f : Str) :
    f.toValue.textD default = f.getD default := by
  cases f <;> rfl

end Js
