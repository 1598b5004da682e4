import SqlLint.Proofs.ExtractedText
import SqlLint.Proofs.Lossless
import SqlLint.Proofs.StateReplay

/-!
# The ways to read a document

A document can be read as lines of markup, as literal lines, line by line in a session, or as one
text.  All four lex the same texts from the same states, so that they find the same tokens and end
in the same state.  A report says of each line where it stands, what was read, in which state it is
entered, and what could not be read: where the extraction halted, and then where the lexer did.
-/

set_option autoImplicit false

namespace SqlLint

/-- The diagnostics for the halt of an extraction, if it halted. -/
inductive Diagnostic.OfHalt (index : Nat) (markup : String) :
    Option Markup.Halt → List Diagnostic → Prop
  | complete : OfHalt index markup none []
  | bareWrapper {offset : Nat} {remainder : String}
      (place : Text.RestAt markup offset remainder) :
      OfHalt index markup (some ⟨.bareWrapper, offset, remainder⟩)
        [⟨index, .bareWrapper, offset, remainder⟩]
  | unmatched {offset : Nat} {remainder : String}
      (place : Text.RestAt markup offset remainder) :
      OfHalt index markup (some ⟨.unmatched, offset, remainder⟩)
        [⟨index, .unmatchedMarkup, offset, remainder⟩]

/-- The diagnostics for the remainder of a line, if there is one. -/
inductive Diagnostic.OfUnlexed (index : Nat) (literal : String) :
    Option Unlexed → List Diagnostic → Prop
  | complete : OfUnlexed index literal none []
  | remainder {offset : Nat} {text : String} (place : Text.RestAt literal offset text) :
      OfUnlexed index literal (some ⟨offset, text⟩) [⟨index, .noRuleMatch, offset, text⟩]

/-- The report on the line of markup with a number. -/
structure LineReport.Describes (index : Nat) (fragment : String) (line : LineReport) : Prop where
  index_eq : line.index = index
  literal_eq : line.literal = (Markup.extractLine fragment).text
  diagnostics_eq : ∃ halts remainders, line.diagnostics = halts ++ remainders ∧
    Diagnostic.OfHalt index fragment (Markup.extractLine fragment).halt halts ∧
    Diagnostic.OfUnlexed index line.literal line.lexed.unlexed remainders

/-- What a report says of a line, except how it was written. -/
def LineReport.reading (line : LineReport) : Nat × String × LexedLine :=
  (line.index, line.literal, line.lexed)

namespace DocumentReport

/-- The report on lines of markup, each entered in the state behind the one before it. -/
structure Describes (fragments : List String) (report : DocumentReport) : Prop where
  length_eq : report.lines.length = fragments.length
  line_describes : ∀ (index : Nat) (fragment : String) (line : LineReport),
    fragments[index]? = some fragment → report.lines[index]? = some line →
      line.Describes index fragment
  first_entry : ∀ line : LineReport, report.lines[0]? = some line → line.lexed.entryState = {}
  next_entry : ∀ (index : Nat) (line next : LineReport), report.lines[index]? = some line →
    report.lines[index + 1]? = some next → next.lexed.entryState = line.lexed.exitState
  finalState_eq :
    report.finalState = (report.lines.getLast?.map (·.lexed.exitState)).getD {}

/-- Two reports that differ at most in how the lines were written. -/
structure SameReading (first second : DocumentReport) : Prop where
  readings_eq : first.lines.map (·.reading) = second.lines.map (·.reading)
  finalState_eq : first.finalState = second.finalState

end DocumentReport

/-! ## Lines -/

theorem Diagnostic.ofHalt_spec (index : Nat) (markup : String) :
    OfHalt index markup (Markup.extractLine markup).halt
      ((Markup.extractLine markup).halt.map (Diagnostic.ofHalt index)).toList := by
  cases halted : (Markup.extractLine markup).halt with
  | none => exact .complete
  | some halt =>
      have place := Markup.restAt_of_halt halted
      obtain ⟨kind, offset, remainder⟩ := halt
      cases kind with
      | bareWrapper => exact .bareWrapper place
      | unmatched => exact .unmatched place

theorem Diagnostic.ofUnlexed_spec (index : Nat) {table : RuleTable} {state : LexState}
    (literal : String) :
    OfUnlexed index literal (table.lexLine state literal).unlexed
      ((table.lexLine state literal).unlexed.map (Diagnostic.ofUnlexed index)).toList := by
  cases present : (table.lexLine state literal).unlexed with
  | none => exact .complete
  | some unlexed =>
      obtain ⟨nonempty, whole, offset, _⟩ :=
        (table.lossless_lexLine state literal).unlexed_behind_tokens unlexed present
      exact .remainder ⟨nonempty, _, whole, offset.symm⟩

theorem LineReport.describes_ofExtracted (table : RuleTable) (index : Nat) (state : LexState)
    (fragment : String) :
    (ofExtracted table index state (Markup.extractLine fragment)).Describes index fragment where
  index_eq := rfl
  literal_eq := rfl
  diagnostics_eq :=
    ⟨_, _, rfl, Diagnostic.ofHalt_spec index fragment, Diagnostic.ofUnlexed_spec index _⟩

namespace DocumentReport

theorem entryState_of_getElem?_zero {table : RuleTable} {index : Nat} {state : LexState}
    {lines : List Markup.ExtractedLine} {line : LineReport}
    (first : (readFrom table index state lines).1[0]? = some line) :
    line.lexed.entryState = state := by
  rw [getElem?_readFrom] at first
  obtain ⟨_, _, rfl⟩ := Option.map_eq_some_iff.1 first
  rfl

theorem entryState_of_getElem?_succ {table : RuleTable} {index : Nat} {state : LexState}
    {lines : List Markup.ExtractedLine} {position : Nat} {line next : LineReport}
    (here : (readFrom table index state lines).1[position]? = some line)
    (behind : (readFrom table index state lines).1[position + 1]? = some next) :
    next.lexed.entryState = line.lexed.exitState := by
  induction lines generalizing index state position with
  | nil => contradiction
  | cons head lines ih =>
      cases position with
      | zero =>
          cases here
          exact entryState_of_getElem?_zero behind
      | succ position => exact ih here behind

theorem describes_ofMarkup (table : RuleTable) (fragments : List String) :
    (ofMarkup table fragments).Describes fragments where
  length_eq := by
    rw [ofMarkup, ofExtracted, length_readFrom, List.length_map]
  line_describes := by
    intro index fragment line given found
    have reported := getElem?_readFrom table 0 {} (fragments.map Markup.extractLine) index
    rw [List.getElem?_map, given, Nat.zero_add] at reported
    cases found.symm.trans reported
    exact LineReport.describes_ofExtracted table index _ fragment
  first_entry _ first := entryState_of_getElem?_zero first
  next_entry _ _ _ here behind := entryState_of_getElem?_succ here behind
  finalState_eq := finalState_readFrom_eq_getLast? table 0 {} _

/-! ## Documents -/

/-- Only the texts of extracted lines decide what is read. -/
theorem readFrom_congr (table : RuleTable) (index : Nat) (state : LexState)
    {first second : List Markup.ExtractedLine} (texts : first.map (·.text) = second.map (·.text)) :
    (readFrom table index state first).1.map (·.reading) =
        (readFrom table index state second).1.map (·.reading) ∧
      (readFrom table index state first).2 = (readFrom table index state second).2 := by
  induction first generalizing index state second with
  | nil =>
      cases second with
      | nil => exact ⟨rfl, rfl⟩
      | cons line second => contradiction
  | cons line first ih =>
      cases second with
      | nil => contradiction
      | cons other second =>
          rw [List.map_cons, List.map_cons] at texts
          obtain ⟨head, tail⟩ := List.cons.inj texts
          -- The state behind a line depends on its text only, so both documents go on alike.
          have reading : (LineReport.ofExtracted table index state line).reading =
              (LineReport.ofExtracted table index state other).reading :=
            congrArg (fun text => (index, text, table.lexLine state text)) head
          have exit : (LineReport.ofExtracted table index state line).lexed.exitState =
              (LineReport.ofExtracted table index state other).lexed.exitState :=
            congrArg (·.2.2.exitState) reading
          obtain ⟨later, final⟩ := ih (index + 1)
            (LineReport.ofExtracted table index state line).lexed.exitState tail
          rw [exit] at later final
          simp only [readFrom, List.map_cons, reading, exit, later, final, and_self]

theorem sameReading_ofExtracted (table : RuleTable) {first second : List Markup.ExtractedLine}
    (texts : first.map (·.text) = second.map (·.text)) :
    SameReading (ofExtracted table first) (ofExtracted table second) := by
  obtain ⟨readings, final⟩ := readFrom_congr table 0 {} texts
  exact ⟨readings, final⟩

theorem SameReading.lexed_eq {first second : DocumentReport} (same : SameReading first second) :
    first.lines.map (·.lexed) = second.lines.map (·.lexed) := by
  have lexed := congrArg (List.map (·.2.2)) same.readings_eq
  rw [List.map_map, List.map_map] at lexed
  exact lexed

theorem sameReading_ofMarkup_ofLines (table : RuleTable) (fragments : List String) :
    SameReading (ofMarkup table fragments)
      (ofLines table (fragments.map fun fragment => (Markup.extractLine fragment).text)) := by
  apply sameReading_ofExtracted
  simp [Markup.ExtractedLine.ofLiteral]

end DocumentReport

/-- A session lexes some lines as the report on them does. -/
theorem LexSession.lexLines_eq_readFrom (session : LexSession) (index : Nat)
    (lines : List String) :
    session.lexLines lines =
      ((DocumentReport.readFrom session.table index session.state
          (lines.map Markup.ExtractedLine.ofLiteral)).1.map (·.lexed),
        { session with
          state := (DocumentReport.readFrom session.table index session.state
            (lines.map Markup.ExtractedLine.ofLiteral)).2 }) := by
  induction lines generalizing session index with
  | nil => rfl
  | cons line lines ih =>
      have later := ih (session.lexLine line).2 (index + 1)
      simp only [lexLines, later]
      rfl

/-- Lines of markup, their texts as literal lines and in a fresh session, and, unless they hold
line breaks or there are none, the texts as one text are read alike.  The report on the markup
describes its lines in order, and further lines do not change it. -/
theorem entry_points_agree (settings : LexerSettings) (fragments : List String) :
    let table := RuleTable.ofSettings settings
    let texts := fragments.map fun fragment => (Markup.extractLine fragment).text
    let report := DocumentReport.ofMarkup table fragments
    let session := (LexSession.start settings).lexLines texts
    report.SameReading (DocumentReport.ofLines table texts) ∧
    (session.1 = report.lines.map (·.lexed) ∧ session.2.state = report.finalState) ∧
    (fragments ≠ [] → (∀ fragment ∈ fragments, Text.Unbroken fragment.toList) →
      report.SameReading (DocumentReport.ofText table ("\n".intercalate texts))) ∧
    report.Describes fragments ∧
    ∀ more, report.lines <+: (DocumentReport.ofMarkup table (fragments ++ more)).lines := by
  intro table texts report session
  have same : report.SameReading (DocumentReport.ofLines table texts) :=
    DocumentReport.sameReading_ofMarkup_ofLines table fragments
  refine ⟨same, ?_, ?_, DocumentReport.describes_ofMarkup table fragments, ?_⟩
  · have lexed := (LexSession.start settings).lexLines_eq_readFrom 0 texts
    constructor
    · rw [same.lexed_eq]
      exact congrArg Prod.fst lexed
    · rw [same.finalState_eq]
      exact congrArg (·.2.state) lexed
  · intro nonempty unbroken
    have cut : Text.splitLines ("\n".intercalate texts) = texts := by
      apply Text.splitLines_intercalate
      · exact fun none => nonempty (List.map_eq_nil_iff.1 none)
      · intro text listed
        obtain ⟨fragment, inFragments, rfl⟩ := List.mem_map.1 listed
        exact Markup.unbroken_extractLine (unbroken fragment inFragments)
    rw [DocumentReport.ofText, cut]
    exact same
  · intro more
    have whole := DocumentReport.readFrom_append table 0 {} (fragments.map Markup.extractLine)
      (more.map Markup.extractLine)
    rw [← List.map_append] at whole
    exact ⟨_, (congrArg Prod.fst whole).symm⟩

theorem entry_points_agree_on_halted_markup :
    ["a &lt; <b>", "\x7d"] ≠ [] ∧
      (∀ fragment ∈ ["a &lt; <b>", "\x7d"], Text.Unbroken fragment.toList) ∧
      DocumentReport.SameReading
        (DocumentReport.ofMarkup (RuleTable.ofSettings {}) ["a &lt; <b>", "\x7d"])
        (DocumentReport.ofText (RuleTable.ofSettings {})
          ("\n".intercalate (["a &lt; <b>", "\x7d"].map fun fragment =>
            (Markup.extractLine fragment).text))) := by
  have unbroken : ∀ fragment ∈ ["a &lt; <b>", "\x7d"], Text.Unbroken fragment.toList := by
    simp [Text.Unbroken]
  obtain ⟨_, _, asText, _, _⟩ := entry_points_agree {} ["a &lt; <b>", "\x7d"]
  exact ⟨by decide, unbroken, asText (by decide) unbroken⟩

end SqlLint
