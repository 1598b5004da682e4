/-!
# The front of a text

`after? front text` is what follows `front` in a text that starts with it.
-/

set_option autoImplicit false

namespace SqlLint.Text

/-- The text behind `front`, if the text starts with it. -/
def after? : List Char → List Char → Option (List Char)
  | [], text => some text
  | _ :: _, [] => none
  | expected :: front, c :: text => if c = expected then after? front text else none

theorem after?_eq_some_iff {front text rest : List Char} :
    after? front text = some rest ↔ front ++ rest = text := by
  induction front generalizing text with
  | nil => simp [after?, eq_comm]
  | cons expected front ih =>
      cases text with
      | nil => simp [after?]
      | cons c text =>
          by_cases same : c = expected
          · simp [after?, same, ih]
          · simp [after?, same, Ne.symm same]

end SqlLint.Text
