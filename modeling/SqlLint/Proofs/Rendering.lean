import SqlLint.Proofs.KeywordFormat
import SqlLint.Proofs.Lossless

/-!
# Lexing a rendered line

A line that is written with its keywords in a style is lexed into the same tokens, with the
keywords in that style, and leaves the same state and the same remainder
(`RuleTable.lexLine_render`).  Both lines are equal up to letter case, so their readings are, and
the tokens are as long as before; so each has to be the piece of the written line at its place.
-/

set_option autoImplicit false

namespace SqlLint

namespace Text

theorem utf8Size_toUpper (c : Char) : c.toUpper.utf8Size = c.utf8Size := by
  have ascii : ∀ d : Char, d.isAlpha = true → d.utf8Size = 1 := by
    intro d letter
    have small := isAscii_of_isAlpha letter
    rw [isAscii, decide_eq_true_eq] at small
    rw [Char.utf8Size_eq_one_iff, UInt32.le_iff_toNat_le]
    exact Nat.le_of_lt_succ small
  cases letter : c.isAlpha with
  | false => rw [toUpper_eq_self letter]
  | true =>
      rw [ascii c letter, ascii c.toUpper]
      rw [Char.isAlpha_toUpper_eq_isAlpha, letter]

theorem utf8ByteSize_upperAscii (text : String) :
    (upperAscii text).utf8ByteSize = text.utf8ByteSize := by
  have chars : ∀ word : List Char,
      String.utf8Len (upperChars word) = String.utf8Len word := by
    intro word
    induction word with
    | nil => rfl
    | cons c word ih =>
        rw [upperChars] at ih
        rw [upperChars, List.map_cons, String.utf8Len_cons, String.utf8Len_cons, ih,
          utf8Size_toUpper]
  rw [← String.ofList_toList (s := text), upperAscii_ofList, String.utf8ByteSize_ofList,
    String.utf8ByteSize_ofList, chars]

theorem utf8ByteSize_eq_of_upperAscii_eq {text other : String}
    (same : upperAscii text = upperAscii other) : text.utf8ByteSize = other.utf8ByteSize := by
  rw [← utf8ByteSize_upperAscii text, same, utf8ByteSize_upperAscii]

end Text

/-- A token with its text in a style, if it is a keyword. -/
def Token.recase (style : KeywordStyle) (token : Token) : Token :=
  { token with text := token.render style }

def LexedLine.recase (style : KeywordStyle) (line : LexedLine) : LexedLine :=
  { line with tokens := line.tokens.map (Token.recase style) }

/-- The texts of the tokens, one after the other, as characters. -/
def Token.chars (tokens : List Token) : List Char :=
  tokens.flatMap fun token => token.text.toList

namespace Token

theorem render_of_keyword {token : Token} (keyword : token.category = .keyword)
    (style : KeywordStyle) : token.render style = style.format token.text := by
  rw [render, if_pos keyword]

theorem render_of_other {token : Token} (other : token.category ≠ .keyword)
    (style : KeywordStyle) : token.render style = token.text := by
  rw [render, if_neg other]

/-- Keyword tokens have a text over ASCII. -/
def PlainKeyword (token : Token) : Prop :=
  token.category = .keyword → Text.IsPlain token.text.toList

theorem render_eq_formatChars {token : Token} (plain : PlainKeyword token)
    (keyword : token.category = .keyword) (style : KeywordStyle) :
    token.render style = String.ofList (style.formatChars token.text.toList) := by
  rw [render_of_keyword keyword, ← KeywordStyle.format_of_isPlain (plain keyword),
    String.ofList_toList]

theorem upper_recase {token : Token} (plain : PlainKeyword token) (style : KeywordStyle) :
    (token.recase style).upper = token.upper := by
  by_cases keyword : token.category = .keyword
  · simp only [recase, upper, render_eq_formatChars plain keyword, Text.upperAscii_ofList,
      KeywordStyle.upperChars_formatChars]
    rw [← Text.upperAscii_ofList, String.ofList_toList]
  · simp only [recase, render_of_other keyword]

theorem render_recase {token : Token} (plain : PlainKeyword token) (style : KeywordStyle) :
    (token.recase style).render style = token.render style := by
  by_cases keyword : token.category = .keyword
  · have same : (token.recase style).category = .keyword := keyword
    rw [render_of_keyword same, recase, render_eq_formatChars plain keyword]
    have plainAgain := KeywordStyle.isPlain_formatChars (plain keyword) style
    rw [KeywordStyle.format_of_isPlain plainAgain, KeywordStyle.formatChars_formatChars]
  · have same : (token.recase style).category ≠ .keyword := keyword
    rw [render_of_other same]
    rfl

/-- Tokens that are equal up to letter case and spell the same text are equal. -/
theorem eq_of_upper_eq {tokens others : List Token} {rest remainder : List Char}
    (same : tokens.map upper = others.map upper)
    (spelled : chars tokens ++ rest = chars others ++ remainder) :
    tokens = others ∧ rest = remainder := by
  induction tokens generalizing others with
  | nil =>
      cases others with
      | nil => exact ⟨rfl, spelled⟩
      | cons other others => simp at same
  | cons token tokens ih =>
      cases others with
      | nil => simp at same
      | cons other others =>
          simp only [List.map_cons, List.cons.injEq] at same
          obtain ⟨head, later⟩ := same
          have category := congrArg Token.category head
          rw [category_upper, category_upper] at category
          have length : token.text.toList.length = other.text.toList.length := by
            have texts := congrArg (fun t => (Token.text t).toList.length) head
            simpa [Text.toList_upperAscii] using texts
          simp only [chars, List.flatMap_cons, List.append_assoc] at spelled
          obtain ⟨text, behind⟩ := List.append_inj spelled length
          obtain ⟨rfl, rfl⟩ := ih later behind
          have equal : token = other := by
            cases token
            cases other
            rw [Token.mk.injEq]
            exact ⟨category, String.toList_inj.1 text⟩
          exact ⟨by rw [equal], rfl⟩

end Token

theorem chars_map_recase (tokens : List Token) (style : KeywordStyle) :
    Token.chars (tokens.map (Token.recase style)) =
      tokens.flatMap fun token => (token.render style).toList := by
  rw [Token.chars, List.flatMap_map]
  rfl

theorem upperChars_chars (tokens : List Token) :
    Text.upperChars (Token.chars tokens) = Token.chars (tokens.map Token.upper) := by
  rw [Text.upperChars, Token.chars, Token.chars, List.map_flatMap, List.flatMap_map]
  simp only [Token.text_upper, Text.toList_upperAscii]

theorem Token.map_upper_recase {tokens : List Token}
    (plain : ∀ token ∈ tokens, token.PlainKeyword) (style : KeywordStyle) :
    (tokens.map (recase style)).map upper = tokens.map upper := by
  rw [List.map_map]
  apply List.map_congr_left
  intro token listed
  exact upper_recase (plain token listed) style

namespace Reads

variable {table : RuleTable} {previous : Option Token} {state final : LexState}
  {text rest : List Char} {tokens : List Token}

theorem upperChars_recase (reads : Reads table previous state text tokens final rest)
    (style : KeywordStyle) :
    Text.upperChars (Token.chars (tokens.map (Token.recase style)) ++ rest) =
      Text.upperChars text := by
  have whole : Token.chars tokens ++ rest = text := reads.append_rest
  have spelled := upperChars_chars (tokens.map (Token.recase style))
  rw [Token.map_upper_recase reads.isPlain_of_keyword, ← upperChars_chars] at spelled
  rw [← whole, Text.upperChars, List.map_append, Text.upperChars, List.map_append]
  congr 1

/-- The recased tokens are the reading of the text that they spell. -/
theorem recase (reads : Reads table previous state text tokens final rest)
    (style : KeywordStyle) :
    Reads table previous state (Token.chars (tokens.map (Token.recase style)) ++ rest)
      (tokens.map (Token.recase style)) final rest := by
  -- The scan of the new text and the old reading are the same reading in upper case, and tokens
  -- of equal length that spell one text are the same tokens.
  have rescan := table.reads_scan previous state
    (Token.chars (tokens.map (Token.recase style)) ++ rest)
  have rescanUpper := rescan.upper
  rw [reads.upperChars_recase style] at rescanUpper
  obtain ⟨tokensUpper, sameFinal, _⟩ := rescanUpper.unique reads.upper
  rw [← Token.map_upper_recase reads.isPlain_of_keyword style] at tokensUpper
  obtain ⟨sameTokens, sameRest⟩ := Token.eq_of_upper_eq tokensUpper rescan.append_rest
  rw [sameTokens, sameFinal, sameRest] at rescan
  exact rescan

end Reads

namespace RuleTable

theorem toList_render_lexLine (table : RuleTable) (state : LexState) (line : String)
    (style : KeywordStyle) :
    ((table.lexLine state line).render style).toList =
      Token.chars ((table.scan none state line.toList).tokens.map (Token.recase style)) ++
        (table.scan none state line.toList).rest := by
  rw [LexedLine.render, String.toList_append, String.toList_join, List.flatMap_map,
    chars_map_recase]
  congr 1
  rw [lexLine, Unlexed.text_ofRest?, String.toList_ofList]

theorem upperAscii_render_lexLine (table : RuleTable) (state : LexState) (line : String)
    (style : KeywordStyle) :
    Text.upperAscii ((table.lexLine state line).render style) = Text.upperAscii line := by
  have same := (table.reads_scan none state line.toList).upperChars_recase style
  rw [← table.toList_render_lexLine, Text.upperChars, Text.upperChars] at same
  rw [← String.toList_inj, Text.toList_upperAscii, Text.toList_upperAscii, same]

/-- Lexing a rendered line gives back the line with its keywords in the style. -/
theorem lexLine_render (table : RuleTable) (state : LexState) (line : String)
    (style : KeywordStyle) :
    table.lexLine state ((table.lexLine state line).render style) =
      (table.lexLine state line).recase style := by
  have reads := (table.reads_scan none state line.toList).recase style
  rw [← table.toList_render_lexLine] at reads
  obtain ⟨tokens, final, rest⟩ := scan_of_reads reads
  have bytes := Text.utf8ByteSize_eq_of_upperAscii_eq
    (table.upperAscii_render_lexLine state line style)
  rw [lexLine, tokens, final, rest, Unlexed.ofRest?, bytes]
  rfl

end RuleTable

/-! ## Documents -/

def LineReport.recase (style : KeywordStyle) (line : LineReport) : LineReport :=
  { line with literal := line.lexed.render style, lexed := line.lexed.recase style }

namespace DocumentReport

/-- The lines of a document with their keywords in a style. -/
def renderLines (style : KeywordStyle) (report : DocumentReport) : List String :=
  report.lines.map (·.lexed.render style)

def recase (style : KeywordStyle) (report : DocumentReport) : DocumentReport :=
  { report with lines := report.lines.map (LineReport.recase style) }

theorem ofExtracted_render (table : RuleTable) (index : Nat) (state : LexState) (line : String)
    (style : KeywordStyle) :
    LineReport.ofExtracted table index state
        (.ofLiteral ((table.lexLine state line).render style)) =
      (LineReport.ofExtracted table index state (.ofLiteral line)).recase style := by
  simp only [LineReport.ofExtracted, Markup.ExtractedLine.ofLiteral, table.lexLine_render]
  rfl

theorem readFrom_render (table : RuleTable) (style : KeywordStyle) (index : Nat)
    (state : LexState) (lines : List String) :
    readFrom table index state
        (((readFrom table index state (lines.map .ofLiteral)).1.map (·.lexed.render style)).map
          .ofLiteral) =
      ((readFrom table index state (lines.map .ofLiteral)).1.map (LineReport.recase style),
        (readFrom table index state (lines.map .ofLiteral)).2) := by
  induction lines generalizing index state with
  | nil => rfl
  | cons line lines ih =>
      have head := ofExtracted_render table index state line style
      have sameExit : ∀ report : LineReport,
          (report.recase style).lexed.exitState = report.lexed.exitState := fun _ => rfl
      have later := ih (index + 1)
        (LineReport.ofExtracted table index state (.ofLiteral line)).lexed.exitState
      have rendered : (LineReport.ofExtracted table index state (.ofLiteral line)).lexed.render
          style = (table.lexLine state line).render style := rfl
      simp only [List.map_cons, readFrom, rendered, head, sameExit, later]

/-- The report on the rendered lines is the report with its keywords in the style. -/
theorem ofLines_renderLines (table : RuleTable) (style : KeywordStyle) (lines : List String) :
    ofLines table ((ofLines table lines).renderLines style) =
      (ofLines table lines).recase style := by
  have reads := readFrom_render table style 0 {} lines
  simp only [ofLines, ofExtracted, renderLines, reads]
  rfl

end DocumentReport

end SqlLint
