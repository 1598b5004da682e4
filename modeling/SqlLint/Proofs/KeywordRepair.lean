import SqlLint.Proofs.DocumentLines
import SqlLint.Proofs.LineBreaks
import SqlLint.Proofs.ObjectionCase

/-!
# Repairing the letter case of keywords

A text that is written again with its keywords in a style is read as before, with nothing but the
letter case of its keywords changed.  The check then has no objection to letter case left, and its
other objections stay at their places (`rendering_repairs_keyword_case`).
-/

set_option autoImplicit false

namespace SqlLint

namespace Text

theorem Unbroken.of_upperAscii_eq {text other : String}
    (same : upperAscii text = upperAscii other) (unbroken : Unbroken other.toList) :
    Unbroken text.toList := by
  intro c listed
  have cased : c.toUpper ∈ text.toList.map Char.toUpper := List.mem_map_of_mem listed
  rw [← toList_upperAscii, same, toList_upperAscii] at cased
  obtain ⟨d, inOther, letter⟩ := List.mem_map.1 cased
  have noBreak : ∀ sign : Char, sign.isAlpha = false → d ≠ sign → c ≠ sign := by
    intro sign noLetter differs
    rwa [ne_eq, ← toUpper_eq_iff noLetter, ← letter, toUpper_eq_iff noLetter]
  obtain ⟨noFeed, noReturn⟩ := unbroken d inOther
  exact ⟨noBreak '\n' (by decide) noFeed, noBreak '\r' (by decide) noReturn⟩

end Text

/-- A token after its text was put in a style: keywords are formatted, other texts stay. -/
structure Token.Recased (style : KeywordStyle) (before after : Token) : Prop where
  category_eq : after.category = before.category
  byteLength_eq : after.byteLength = before.byteLength
  keyword_text : before.category = .keyword → after.text = style.format before.text
  other_text : before.category ≠ .keyword → after.text = before.text

/-- A line after its keywords were put in a style. -/
structure LineReport.Recased (style : KeywordStyle) (before after : LineReport) : Prop where
  index_eq : after.index = before.index
  literal_same : Text.sameWord after.literal before.literal = true
  tokens_recased : List.Forall₂ (Token.Recased style) before.tokens after.tokens
  entryState_eq : after.lexed.entryState = before.lexed.entryState
  exitState_eq : after.lexed.exitState = before.lexed.exitState
  unlexed_eq : after.lexed.unlexed = before.lexed.unlexed
  diagnostics_eq : after.diagnostics = before.diagnostics

/-- A document after its keywords were put in a style. -/
structure DocumentReport.Recased (style : KeywordStyle) (before after : DocumentReport) : Prop where
  lines_recased : List.Forall₂ (LineReport.Recased style) before.lines after.lines
  finalState_eq : after.finalState = before.finalState

/-- The text of a document with its keywords in a style. -/
def DocumentReport.renderText (style : KeywordStyle) (report : DocumentReport) : String :=
  "\n".intercalate (report.renderLines style)

namespace Token

theorem recased_recase {token : Token} (plain : token.PlainKeyword) (style : KeywordStyle) :
    token.Recased style (token.recase style) where
  category_eq := rfl
  byteLength_eq := by
    have same := congrArg Token.byteLength (upper_recase plain style)
    rwa [byteLength_upper, byteLength_upper] at same
  keyword_text keyword := render_of_keyword keyword style
  other_text other := render_of_other other style

theorem keywordCase_recase {token : Token} (plain : token.PlainKeyword) (style : KeywordStyle) :
    Check.keywordCase style (token.recase style) = none := by
  by_cases keyword : token.category = .keyword
  · have cased : Check.breaksCase style (token.recase style).text = false := by
      rw [recase, render_eq_formatChars plain keyword]
      exact KeywordStyle.breaksCase_formatChars (plain keyword) style
    rw [Check.keywordCase, cased, Bool.and_false]
    rfl
  · have other : (token.recase style).category ≠ .keyword := keyword
    rw [Check.keywordCase, beq_eq_false_iff_ne.2 other, Bool.false_and]
    rfl

end Token

theorem LexedLine.render_recase {line : LexedLine}
    (plain : ∀ token ∈ line.tokens, token.PlainKeyword) (style : KeywordStyle) :
    (line.recase style).render style = line.render style := by
  have tokens : (line.tokens.map (Token.recase style)).map (·.render style) =
      line.tokens.map (·.render style) := by
    rw [List.map_map]
    apply List.map_congr_left
    intro token inLine
    exact Token.render_recase (plain token inLine) style
  rw [render, render, recase, tokens]

/-! ## Documents -/

namespace DocumentReport

variable {table : RuleTable}

theorem plainKeyword_of_mem {lines : List String} {report : LineReport}
    (listed : report ∈ (ofLines table lines).lines) :
    ∀ token ∈ report.tokens, token.PlainKeyword := by
  obtain ⟨index, state, line, _, rfl⟩ := of_mem_ofLines listed
  exact (table.reads_scan none state line.toList).isPlain_of_keyword

theorem recased_of_mem {lines : List String} {report : LineReport}
    (listed : report ∈ (ofLines table lines).lines) (style : KeywordStyle) :
    report.Recased style (report.recase style) where
  index_eq := rfl
  literal_same := by
    obtain ⟨index, state, line, _, rfl⟩ := of_mem_ofLines listed
    rw [Text.sameWord_iff]
    exact table.upperAscii_render_lexLine state line style
  tokens_recased := by
    have tokens : (report.recase style).tokens = report.tokens.map (Token.recase style) := rfl
    rw [tokens, List.forall₂_map_right_iff, List.forall₂_same]
    intro token inLine
    exact Token.recased_recase (plainKeyword_of_mem listed token inLine) style
  entryState_eq := rfl
  exitState_eq := rfl
  unlexed_eq := rfl
  diagnostics_eq := rfl

theorem recased_recase (lines : List String) (style : KeywordStyle) :
    (ofLines table lines).Recased style ((ofLines table lines).recase style) where
  lines_recased := by
    rw [recase, List.forall₂_map_right_iff, List.forall₂_same]
    intro report listed
    exact recased_of_mem listed style
  finalState_eq := rfl

theorem renderText_recase (lines : List String) (style : KeywordStyle) :
    ((ofLines table lines).recase style).renderText style =
      (ofLines table lines).renderText style := by
  rw [renderText, renderText, renderLines, renderLines, recase, List.map_map]
  congr 1
  apply List.map_congr_left
  intro report listed
  exact LexedLine.render_recase (plainKeyword_of_mem listed) style

/-- A rendered text is cut into the rendered lines. -/
theorem splitLines_renderText (text : String) (style : KeywordStyle) :
    Text.splitLines ((ofText table text).renderText style) =
      (ofText table text).renderLines style := by
  apply Text.splitLines_intercalate
  · have count := congrArg List.length
      (losslessOf_ofLines table (Text.splitLines text)).literals_eq
    rw [List.length_map] at count
    intro none
    rw [renderLines, List.map_eq_nil_iff] at none
    rw [ofText] at none
    rw [none] at count
    exact Text.splitLines_ne_nil text (List.eq_nil_of_length_eq_zero count.symm)
  · intro rendered listed
    obtain ⟨report, inReport, rfl⟩ := List.mem_map.1 listed
    obtain ⟨index, state, line, inText, rfl⟩ := of_mem_ofLines inReport
    exact Text.Unbroken.of_upperAscii_eq (table.upperAscii_render_lexLine state line style)
      (Text.unbroken_of_mem_splitLines inText)

theorem ofText_renderText (text : String) (style : KeywordStyle) :
    ofText table ((ofText table text).renderText style) = (ofText table text).recase style := by
  rw [ofText, splitLines_renderText]
  exact ofLines_renderLines table style (Text.splitLines text)

theorem upperLine_recase (lines : List String) (style : KeywordStyle) :
    ((ofLines table lines).recase style).numbered.map Style.upperLine =
      (ofLines table lines).numbered.map Style.upperLine := by
  rw [numbered, numbered, recase, List.map_map, List.map_map, List.map_map]
  apply List.map_congr_left
  intro report listed
  have tokens := Token.map_upper_recase (plainKeyword_of_mem listed) style
  exact congrArg (Prod.mk report.index) tokens

theorem isOther_of_mem_violations_recase {settings : LintSettings} {lines : List String}
    {style : KeywordStyle} (asked : settings.keywordStyle = style) {violation : Violation}
    (listed : violation ∈ Style.violations settings ((ofLines table lines).recase style)) :
    violation.kind.isOther = true := by
  apply Style.isOther_of_mem_violationsFrom _ listed
  intro line inNumbered token inLine
  rw [numbered, recase, List.map_map] at inNumbered
  obtain ⟨report, inLines, rfl⟩ := List.mem_map.1 inNumbered
  obtain ⟨original, inReport, rfl⟩ := List.mem_map.1 inLine
  rw [asked]
  exact Token.keywordCase_recase (plainKeyword_of_mem inLines original inReport) style

theorem upper_violations_recase (settings : LintSettings) (lines : List String)
    (style : KeywordStyle) :
    (Style.violations { settings with keywordStyle := style }
        ((ofLines table lines).recase style)).map Violation.upper =
      ((Style.violations settings (ofLines table lines)).filter (·.kind.isOther)).map
        Violation.upper := by
  have after := Style.violationsFrom_upper { settings with keywordStyle := style } none
    ((ofLines table lines).recase style).numbered
  have before := Style.violationsFrom_upper settings none (ofLines table lines).numbered
  have kept : (Style.violations { settings with keywordStyle := style }
        ((ofLines table lines).recase style)).filter (·.kind.isOther) =
      Style.violations { settings with keywordStyle := style }
        ((ofLines table lines).recase style) := by
    rw [List.filter_eq_self]
    intro violation listed
    exact isOther_of_mem_violations_recase rfl listed
  rw [upperLine_recase] at after
  rw [← kept]
  exact after.symm.trans before

end DocumentReport

/-- Writing a text again with its keywords in a style changes the letter case of its keywords and
nothing else, and does so once and for all.  The check of the new text in that style makes the
objections that it makes to the old one, except those to letter case: the lines, the positions and
the kinds are the same, and quoted texts are equal up to letter case. -/
theorem rendering_repairs_keyword_case (settings : LexerSettings) (lint : LintSettings)
    (positive : 0 < lint.indentSteps) (style : KeywordStyle) (text : String) :
    let report := DocumentReport.ofText (RuleTable.ofSettings settings) text
    let repaired := DocumentReport.ofText (RuleTable.ofSettings settings) (report.renderText style)
    report.Recased style repaired ∧
      repaired.renderText style = report.renderText style ∧
      ∃ before after,
        Style.check lint report = .ok before ∧
        Style.check { lint with keywordStyle := style } repaired = .ok after ∧
        (∀ violation ∈ after, violation.kind.isKeywordCase = false) ∧
        after.map Violation.upper =
          (before.filter (!·.kind.isKeywordCase)).map Violation.upper := by
  intro report repaired
  have recased : repaired = report.recase style := DocumentReport.ofText_renderText text style
  -- Everything below is about one report and its keywords in the style: nothing is lexed again.
  rw [recased]
  refine ⟨?_, ?_, _, _, Style.check_eq_ok lint positive report,
    Style.check_eq_ok { lint with keywordStyle := style } positive (report.recase style), ?_, ?_⟩
  · exact DocumentReport.recased_recase (Text.splitLines text) style
  · exact DocumentReport.renderText_recase (Text.splitLines text) style
  · intro violation listed
    have other := DocumentReport.isOther_of_mem_violations_recase rfl listed
    rwa [ViolationKind.isOther, Bool.not_eq_true'] at other
  · exact DocumentReport.upper_violations_recase lint (Text.splitLines text) style

theorem rendering_repairs_keyword_case_of_select :
    0 < ({} : LintSettings).indentSteps ∧
      ∃ after,
        Style.check { keywordStyle := .upper }
          (DocumentReport.ofText (RuleTable.ofSettings {})
            ((DocumentReport.ofText (RuleTable.ofSettings {}) "select a\nfrom b").renderText
              .upper)) = .ok after ∧
        ∀ violation ∈ after, violation.kind.isKeywordCase = false := by
  obtain ⟨_, _, before, after, _, checked, clean, _⟩ :=
    rendering_repairs_keyword_case {} {} (by decide) .upper "select a\nfrom b"
  exact ⟨by decide, after, checked, clean⟩

end SqlLint
