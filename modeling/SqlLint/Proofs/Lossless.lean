import SqlLint.Document.Run
import SqlLint.Proofs.Reading

/-!
# Lexing loses nothing

The tokens of a line and its unlexed remainder together are the line, character by character.  A
remainder starts at a boundary between characters, namely where the tokens end.  Reports on whole
documents inherit this for each line, lexed from the state behind the line before it.
-/

set_option autoImplicit false

namespace SqlLint

/-- What a lossless lexer makes of a line from a state. -/
structure LexedLine.Lossless (state : LexState) (line : String) (lexed : LexedLine) : Prop where
  entryState_eq : lexed.entryState = state
  text_ne_empty : ∀ token ∈ lexed.tokens, token.text ≠ ""
  append_unlexed : lexed.text ++ (lexed.unlexed.map (·.text)).getD "" = line
  unlexed_behind_tokens : ∀ unlexed, lexed.unlexed = some unlexed →
    unlexed.text ≠ "" ∧ lexed.text ++ unlexed.text = line ∧
      unlexed.offset = lexed.text.utf8ByteSize ∧ String.Pos.Raw.IsValid line ⟨unlexed.offset⟩

/-- Lossless lines, each from the state behind the one before it. -/
def LineReport.LosslessFrom (state : LexState) : List LineReport → Prop
  | [] => True
  | line :: lines =>
      line.lexed.Lossless state line.literal ∧ LosslessFrom line.lexed.exitState lines

/-- A report with one lossless line for each of some texts. -/
structure DocumentReport.LosslessOf (texts : List String) (report : DocumentReport) : Prop where
  literals_eq : report.lines.map (·.literal) = texts
  lines_lossless : LineReport.LosslessFrom {} report.lines

theorem Unlexed.ofRest?_eq_some {line : String} {rest : List Char} {unlexed : Unlexed}
    (made : Unlexed.ofRest? line rest = some unlexed) :
    rest ≠ [] ∧ unlexed.text = String.ofList rest ∧
      unlexed.offset = line.utf8ByteSize - (String.ofList rest).utf8ByteSize := by
  unfold ofRest? at made
  split at made
  · contradiction
  · next nonempty =>
      simp only [Option.some.injEq] at made
      subst made
      simp only [List.isEmpty_iff] at nonempty
      exact ⟨nonempty, rfl, rfl⟩

theorem Unlexed.ofRest?_eq_none_iff {line : String} {rest : List Char} :
    ofRest? line rest = none ↔ rest = [] := by
  simp [ofRest?]

theorem Unlexed.text_ofRest? (line : String) (rest : List Char) :
    ((Unlexed.ofRest? line rest).map (·.text)).getD "" = String.ofList rest := by
  unfold ofRest?
  split
  · next empty =>
      rw [List.isEmpty_iff.1 empty]
      rfl
  · rfl

namespace RuleTable

theorem text_lexLine (table : RuleTable) (state : LexState) (line : String) :
    (table.lexLine state line).text ++ String.ofList (table.scan none state line.toList).rest =
      line := by
  rw [← String.toList_inj, String.toList_append, String.toList_ofList, LexedLine.text,
    String.toList_join, List.flatMap_map]
  exact (table.reads_scan none state line.toList).append_rest

theorem lossless_lexLine (table : RuleTable) (state : LexState) (line : String) :
    (table.lexLine state line).Lossless state line where
  entryState_eq := rfl
  text_ne_empty := (table.reads_scan none state line.toList).text_ne_empty
  append_unlexed := by
    rw [lexLine, Unlexed.text_ofRest?]
    exact table.text_lexLine state line
  unlexed_behind_tokens := by
    intro unlexed present
    obtain ⟨nonempty, text, offset⟩ := Unlexed.ofRest?_eq_some present
    have whole := table.text_lexLine state line
    rw [← text] at whole offset
    have bytes := congrArg String.utf8ByteSize whole
    rw [String.utf8ByteSize_append] at bytes
    have start : unlexed.offset = (table.lexLine state line).text.utf8ByteSize := by omega
    refine ⟨?_, whole, start, ?_⟩
    · intro empty
      rw [text, String.ofList_eq_empty_iff] at empty
      exact nonempty empty
    · rw [String.Pos.Raw.isValid_iff_exists_append]
      refine ⟨(table.lexLine state line).text, unlexed.text, whole.symm, ?_⟩
      rw [start]
      rfl

end RuleTable

namespace DocumentReport

theorem literals_readFrom (table : RuleTable) (index : Nat) (state : LexState)
    (lines : List Markup.ExtractedLine) :
    (readFrom table index state lines).1.map (·.literal) = lines.map (·.text) := by
  induction lines generalizing index state with
  | nil => rfl
  | cons line lines ih =>
      simp only [readFrom, List.map_cons, ih]
      rfl

theorem losslessFrom_readFrom (table : RuleTable) (index : Nat) (state : LexState)
    (lines : List Markup.ExtractedLine) :
    LineReport.LosslessFrom state (readFrom table index state lines).1 := by
  induction lines generalizing index state with
  | nil => trivial
  | cons line lines ih => exact ⟨table.lossless_lexLine state line.text, ih _ _⟩

theorem losslessOf_ofExtracted (table : RuleTable) (lines : List Markup.ExtractedLine) :
    LosslessOf (lines.map (·.text)) (ofExtracted table lines) where
  literals_eq := literals_readFrom table 0 {} lines
  lines_lossless := losslessFrom_readFrom table 0 {} lines

theorem losslessOf_ofLines (table : RuleTable) (lines : List String) :
    LosslessOf lines (ofLines table lines) := by
  have lossless := losslessOf_ofExtracted table (lines.map Markup.ExtractedLine.ofLiteral)
  have texts : (lines.map Markup.ExtractedLine.ofLiteral).map (·.text) = lines := by
    rw [List.map_map]
    exact List.map_id lines
  rw [texts] at lossless
  exact lossless

end DocumentReport

/-- Under any settings, lexing a line from any state loses nothing, and neither does a report on
markup, on literal lines or on a text. -/
theorem lexing_loses_nothing (settings : LexerSettings) :
    (∀ state line,
      ((RuleTable.ofSettings settings).lexLine state line).Lossless state line) ∧
    (∀ fragments : List String,
      (DocumentReport.ofMarkup (RuleTable.ofSettings settings) fragments).LosslessOf
        (fragments.map fun fragment => (Markup.extractLine fragment).text)) ∧
    (∀ lines, (DocumentReport.ofLines (RuleTable.ofSettings settings) lines).LosslessOf lines) ∧
    (∀ text, (DocumentReport.ofText (RuleTable.ofSettings settings) text).LosslessOf
      (Text.splitLines text)) := by
  refine ⟨RuleTable.lossless_lexLine _, ?_, DocumentReport.losslessOf_ofLines _, ?_⟩
  · intro fragments
    have lossless := DocumentReport.losslessOf_ofExtracted (RuleTable.ofSettings settings)
      (fragments.map Markup.extractLine)
    rw [List.map_map] at lossless
    exact lossless
  · intro text
    exact DocumentReport.losslessOf_ofLines _ (Text.splitLines text)

end SqlLint
