import AccountLookup.Js.Value

/-! Equality filters of a document store: when a field of a filter accepts a field of a document. -/

namespace Mongo

/-- A filter without the field accepts every document, `null` accepts one that is `null` or absent,
and a string accepts that string. -/
def accepts : (filter field : Js.Str) → Bool
  | .undefined, _ => true
  | .null, field => field.orNull = .null
  | .val s, field => field = .val s

@[simp] theorem accepts_undefined (field : Js.Str) : accepts .undefined field = true := rfl

/-- A filter field that is sent, where `undefined` goes as `null`, accepts the documents with that
field. -/
@[simp] theorem accepts_orNull {filter field : Js.Str} :
    accepts filter.orNull field = true ↔ field.orNull = filter.orNull := by
  cases filter <;> simp [accepts]

theorem accepts_self (filter : Js.Str) : accepts filter filter = true := by
  cases filter <;> simp [accepts]

/-- The same for a field of any JSON type that a filter sends.  What a filter or a field that is an
array or an object accepts is left to `compound`. -/
def acceptsValue (compound : Js.Value → Js.Value → Bool) (filter field : Js.Value) : Bool :=
  if filter.isCompound || field.isCompound then compound filter field
  else
    match filter with
    | .undefined | .null => field = .undefined || field = .null
    | filter => field = filter

end Mongo
