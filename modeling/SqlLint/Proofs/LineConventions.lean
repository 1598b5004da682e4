import SqlLint.Proofs.LineBreaks
import SqlLint.Proofs.Lossless

/-!
# Conventions for line breaks

The convention by which the lines of a text are ended is no part of what is read: two texts have
the same report exactly if they are the same but for their breaks (`ofText_eq_iff`).
-/

set_option autoImplicit false

namespace SqlLint

/-- Nothing but the convention for breaks is lost between a text and the report on it. -/
theorem DocumentReport.ofText_eq_iff {table : RuleTable} {first second : String} :
    ofText table first = ofText table second ↔
      Text.unifyBreaks first.toList = Text.unifyBreaks second.toList := by
  rw [← Text.splitLines_eq_iff]
  constructor
  · intro same
    have literals := congrArg (·.lines.map (·.literal)) same
    have ofFirst := (losslessOf_ofLines table (Text.splitLines first)).literals_eq
    have ofSecond := (losslessOf_ofLines table (Text.splitLines second)).literals_eq
    exact ofFirst.symm.trans (literals.trans ofSecond)
  · intro same
    rw [ofText, ofText, same]

/-- A text is cut into lines as by one pass from left to right that takes `\r\n` as one break, and
as by a cut at the line feeds once every break is written as one.  No line has a break in it.
Texts have the same report exactly if they are the same but for their breaks.  Lines without breaks
that are joined by a break of one kind are cut into themselves. -/
theorem line_breaks_are_alike :
    (∀ text : String,
      Text.splitLines text = (Text.scanLines text.toList).map String.ofList) ∧
    (∀ text : String, ∀ line ∈ Text.splitLines text, Text.Unbroken line.toList) ∧
    (∀ text : String, Text.splitLines text =
      ((Text.unifyBreaks text.toList).splitOn '\n').map String.ofList) ∧
    (∀ (table : RuleTable) (first second : String),
      DocumentReport.ofText table first = DocumentReport.ofText table second ↔
        Text.unifyBreaks first.toList = Text.unifyBreaks second.toList) ∧
    (∀ separator ∈ Text.lineBreaks, ∀ lines : List String, lines ≠ [] →
      (∀ line ∈ lines, Text.Unbroken line.toList) →
      Text.splitLines (separator.intercalate lines) = lines) := by
  refine ⟨?scan, ?unbroken, Text.splitLines_eq_splitOn, ?reports, ?joined⟩
  case scan =>
    intro text
    rw [Text.splitLines, Text.splitLineChars_eq_scanLines]
  case unbroken => exact fun _ _ listed => Text.unbroken_of_mem_splitLines listed
  case reports => exact fun _ _ _ => DocumentReport.ofText_eq_iff
  case joined => exact fun _ listed _ nonempty unbroken =>
    Text.splitLines_intercalate_break listed nonempty unbroken

theorem line_breaks_are_alike_between_empty_lines :
    "a" ∈ Text.splitLines "\ra\r\r\n" ∧ Text.Unbroken "a".toList ∧
    "\r" ∈ Text.lineBreaks ∧ ["", "a", "", ""] ≠ [] ∧
    (∀ line ∈ ["", "a", "", ""], Text.Unbroken line.toList) ∧
    Text.splitLines ("\r".intercalate ["", "a", "", ""]) = ["", "a", "", ""] := by
  obtain ⟨scanned, unbroken, _, _, joined⟩ := line_breaks_are_alike
  have listed : "a" ∈ Text.splitLines "\ra\r\r\n" := by
    rw [scanned]
    decide
  have lines : ∀ line ∈ ["", "a", "", ""], Text.Unbroken line.toList := by
    simp [Text.Unbroken]
  exact ⟨listed, unbroken _ _ listed, by decide, by decide, lines,
    joined "\r" (by decide) _ (by decide) lines⟩

end SqlLint
