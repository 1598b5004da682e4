import SqlLint.Document.Run

/-!
# The lines of a report

Every report reads the lines of its document one after the other (`Produced.exists_ofExtracted`).
A line is lexed in the state that the lines before it leave and is numbered by how many there are
(`getElem?_readFrom`), so a document can be read in two parts (`readFrom_append`).
-/

set_option autoImplicit false

namespace SqlLint.DocumentReport

/-- The reports that come of reading under some rules. -/
inductive Produced (table : RuleTable) : DocumentReport → Prop
  | markup (fragments : List String) : Produced table (ofMarkup table fragments)
  | lines (lines : List String) : Produced table (ofLines table lines)
  | text (text : String) : Produced table (ofText table text)
  | oneOf (documents : List (List String)) (report : DocumentReport)
      (listed : report ∈ ofDocuments table documents) : Produced table report

theorem Produced.exists_ofExtracted {table : RuleTable} {report : DocumentReport}
    (produced : Produced table report) : ∃ lines, report = ofExtracted table lines := by
  cases produced with
  | markup fragments => exact ⟨fragments.map Markup.extractLine, rfl⟩
  | lines lines => exact ⟨lines.map Markup.ExtractedLine.ofLiteral, rfl⟩
  | text text => exact ⟨(Text.splitLines text).map Markup.ExtractedLine.ofLiteral, rfl⟩
  | oneOf documents report listed =>
      obtain ⟨fragments, _, rfl⟩ := List.mem_map.1 listed
      exact ⟨fragments.map Markup.extractLine, rfl⟩

variable (table : RuleTable) (index : Nat) (state : LexState)

theorem length_readFrom (lines : List Markup.ExtractedLine) :
    (readFrom table index state lines).1.length = lines.length := by
  induction lines generalizing index state with
  | nil => rfl
  | cons line lines ih => simp only [readFrom, List.length_cons, ih]

theorem readFrom_append (front back : List Markup.ExtractedLine) :
    readFrom table index state (front ++ back) =
      ((readFrom table index state front).1 ++
          (readFrom table (index + front.length) (readFrom table index state front).2 back).1,
        (readFrom table (index + front.length) (readFrom table index state front).2 back).2) := by
  induction front generalizing index state with
  | nil => rfl
  | cons line front ih =>
      have count : index + (line :: front).length = index + 1 + front.length := by
        rw [List.length_cons]
        omega
      rw [count]
      simp only [List.cons_append, readFrom, ih]

/-- A line is numbered by the lines before it and lexed in the state that they leave. -/
theorem getElem?_readFrom (lines : List Markup.ExtractedLine) (position : Nat) :
    (readFrom table index state lines).1[position]? =
      lines[position]?.map (LineReport.ofExtracted table (index + position)
        (readFrom table index state (lines.take position)).2) := by
  induction lines generalizing index state position with
  | nil => rfl
  | cons line lines ih =>
      cases position with
      | zero => rfl
      | succ position =>
          have count : index + (position + 1) = index + 1 + position := by omega
          rw [count]
          simp only [readFrom, List.getElem?_cons_succ, List.take_succ_cons, ih]

theorem of_mem_readFrom {table : RuleTable} {index : Nat} {state : LexState}
    {lines : List Markup.ExtractedLine} {report : LineReport}
    (listed : report ∈ (readFrom table index state lines).1) :
    ∃ number entry, ∃ line ∈ lines, report = LineReport.ofExtracted table number entry line := by
  obtain ⟨position, found⟩ := List.mem_iff_getElem?.1 listed
  rw [getElem?_readFrom] at found
  obtain ⟨line, inLines, rfl⟩ := Option.map_eq_some_iff.1 found
  exact ⟨_, _, line, List.mem_of_getElem? inLines, rfl⟩

theorem of_mem_ofLines {table : RuleTable} {lines : List String} {report : LineReport}
    (listed : report ∈ (ofLines table lines).lines) :
    ∃ index state, ∃ line ∈ lines,
      report = LineReport.ofExtracted table index state (.ofLiteral line) := by
  obtain ⟨index, state, extracted, inLines, made⟩ := of_mem_readFrom listed
  obtain ⟨line, inTexts, rfl⟩ := List.mem_map.1 inLines
  exact ⟨index, state, line, inTexts, made⟩

/-- The state behind a document is the one behind its last line. -/
theorem finalState_readFrom_eq_getLast? (lines : List Markup.ExtractedLine) :
    (readFrom table index state lines).2 =
      ((readFrom table index state lines).1.getLast?.map (·.lexed.exitState)).getD state := by
  induction lines generalizing index state with
  | nil => rfl
  | cons line lines ih =>
      simp only [readFrom, List.getLast?_cons, Option.map_some, Option.getD_some]
      rw [ih]
      -- The state behind this line counts only if no line follows.
      cases (readFrom table (index + 1)
        (LineReport.ofExtracted table index state line).lexed.exitState lines).1.getLast? <;> rfl

end SqlLint.DocumentReport
