import SqlLint.Proofs.BlankRuns
import SqlLint.Proofs.LineBlocks
import SqlLint.Proofs.OuterBlanks

/-!
# Which lines count as blank

A line counts as blank if it has no tokens but white space.  Outside comments the first character
that is not white space gives a token of another kind, unless the lexer halts there, and it halts at
braces (`RuleTable.nextBody?_eq_none_iff`).  Inside a comment every character is in a comment token.
So the tokens tell blank lines from others except that a line whose text starts with a brace counts
as blank, and a line of white space inside a comment does not.
-/

set_option autoImplicit false

namespace SqlLint

namespace LineReport

def OnlyBlanks (line : LineReport) : Prop :=
  ∀ c ∈ line.literal.toList, Text.isBlank c = true

-- Named, because the search may find an instance that goes through all characters there are.
instance (line : LineReport) : Decidable line.OnlyBlanks :=
  List.decidableBAll _ line.literal.toList

/-- The first character of the line that is not white space is a brace outside comments. -/
def OpensWithBrace (line : LineReport) : Prop :=
  line.lexed.entryState.inComment = false ∧
    ∃ brace ∈ Text.braces, (line.literal.toList.dropWhile Text.isBlank).head? = some brace

instance (line : LineReport) : Decidable line.OpensWithBrace :=
  @instDecidableAnd _ _ _ (List.decidableBEx _ Text.braces)

/-- White space, at least one character of it, inside a comment. -/
def IsBlankComment (line : LineReport) : Prop :=
  line.lexed.entryState.inComment = true ∧ line.literal ≠ "" ∧ line.OnlyBlanks

instance (line : LineReport) : Decidable line.IsBlankComment :=
  inferInstanceAs (Decidable
    (line.lexed.entryState.inComment = true ∧ line.literal ≠ "" ∧ line.OnlyBlanks))

/-- What the line must look like to have no tokens but white space. -/
def CountsAsBlank (line : LineReport) : Prop :=
  line.OnlyBlanks ∧ ¬ line.IsBlankComment ∨ line.OpensWithBrace

end LineReport

namespace RuleTable

variable {table : RuleTable} {state : LexState}

/-- The first token behind the indentation of a line is no white space. -/
theorem isWhitespace_of_dropWhile {previous : Option Token} {text after : List Char}
    {token : Token}
    (found : table.nextToken? previous state (text.dropWhile Text.isBlank) =
      some (token, after)) : token.isWhitespace = false := by
  rw [Bool.eq_false_iff]
  intro isBlank
  have whitespace : token.category = .whitespace := by simpa [Token.isWhitespace] using isBlank
  obtain ⟨whole, nonempty⟩ := append_of_nextToken? found
  obtain ⟨c, others, chars⟩ := List.exists_cons_of_ne_nil (mt String.toList_eq_nil_iff.1 nonempty)
  have blank := isBlank_of_whitespace found whitespace c (by simp [chars])
  have first := List.head?_dropWhile_not Text.isBlank text
  rw [← whole, chars] at first
  rw [first] at blank
  contradiction

theorem isBlankLine_lexLine_of_code (table : RuleTable) (code : state.inComment = false)
    (line : String) :
    isBlankLine (table.lexLine state line).tokens = true ↔
      (∀ c ∈ line.toList, Text.isBlank c = true) ∨
        ∃ brace ∈ Text.braces, (line.toList.dropWhile Text.isBlank).head? = some brace := by
  have first := (table.reads_scan none state (line.toList.dropWhile Text.isBlank)).head?_tokens
  have significant : isBlankLine (table.lexLine state line).tokens = true ↔
      (table.lexLine state line).significant = [] := by
    simp [isBlankLine, LexedLine.significant, List.filter_eq_nil_iff]
  rw [significant, table.significant_lexLine code, ← List.dropWhile_eq_nil_iff,
    ← table.nextBody?_eq_none_iff code, ← nextToken?_eq_none_iff]
  constructor
  · intro noOther
    cases found : table.nextToken? none state (line.toList.dropWhile Text.isBlank) with
    | none => rfl
    | some taken =>
        rw [found] at first
        have listed := List.mem_of_mem_head? first
        exact absurd (isWhitespace_of_dropWhile found)
          (by simpa using List.filter_eq_nil_iff.1 noOther _ listed)
  · intro refused
    rw [refused] at first
    rw [List.head?_eq_none_iff.1 first]
    rfl

/-- Inside a comment only empty lines have no tokens but white space. -/
theorem isBlankLine_lexLine_of_comment (table : RuleTable) (comment : state.inComment = true)
    (line : String) : isBlankLine (table.lexLine state line).tokens = true ↔ line = "" := by
  constructor
  · intro allBlank
    by_contra filled
    obtain ⟨c, others, chars⟩ :=
      List.exists_cons_of_ne_nil (mt String.toList_eq_nil_iff.1 filled)
    have taken : table.nextToken? none state (c :: others) ≠ none :=
      mt nextToken?_eq_none_iff.1 (table.nextBody?_ne_none_of_inComment comment c others)
    obtain ⟨⟨token, after⟩, found⟩ := Option.ne_none_iff_exists'.1 taken
    have first : (table.lexLine state line).tokens.head? = some token := by
      rw [head?_lexLine, chars, found]
      rfl
    have isBlank := List.all_eq_true.1 allBlank token (List.mem_of_mem_head? first)
    rw [Token.isWhitespace, category_of_inComment comment found] at isBlank
    contradiction
  · rintro rfl
    have first := table.head?_lexLine state ""
    rw [String.toList_empty, nextToken?_nil] at first
    rw [List.head?_eq_none_iff.1 first]
    rfl

end RuleTable

theorem LineReport.isBlank_ofExtracted_iff (table : RuleTable) (index : Nat) (state : LexState)
    (extracted : Markup.ExtractedLine) :
    (ofExtracted table index state extracted).IsBlank ↔
      (ofExtracted table index state extracted).CountsAsBlank := by
  rw [← isBlankLine_iff]
  cases entry : state.inComment with
  | false =>
      refine (table.isBlankLine_lexLine_of_code entry extracted.text).trans ⟨?_, ?_⟩
      · rintro (onlyBlanks | brace)
        · exact Or.inl ⟨onlyBlanks, fun inside => Bool.false_ne_true (entry.symm.trans inside.1)⟩
        · exact Or.inr ⟨entry, brace⟩
      · rintro (⟨onlyBlanks, _⟩ | ⟨_, brace⟩)
        · exact Or.inl onlyBlanks
        · exact Or.inr brace
  | true =>
      refine (table.isBlankLine_lexLine_of_comment entry extracted.text).trans ⟨?_, ?_⟩
      · intro empty
        refine Or.inl ⟨?_, fun inside => inside.2.1 empty⟩
        intro c listed
        rw [show (ofExtracted table index state extracted).literal = "" from empty] at listed
        contradiction
      · rintro (⟨onlyBlanks, noComment⟩ | ⟨code, _⟩)
        · by_contra filled
          exact noComment ⟨entry, filled, onlyBlanks⟩
        · exact absurd (code.symm.trans entry) Bool.false_ne_true

namespace DocumentReport

theorem isBlank_iff_of_mem_ofText {table : RuleTable} {text : String} {line : LineReport}
    (listed : line ∈ (ofText table text).lines) : line.IsBlank ↔ line.CountsAsBlank := by
  obtain ⟨index, state, literal, _, rfl⟩ := of_mem_ofLines listed
  exact LineReport.isBlank_ofExtracted_iff table index state _

/-- The report is checked by its division into lines that are blank in this sense and others. -/
def CheckedBy (blank : LineReport → Prop) (report : DocumentReport) : Prop :=
  ∃ blocks, Style.Divides blank report.lines blocks ∧
    ∀ settings, Style.check settings report = Style.checkBlocks settings blocks

theorem checkedBy_of_isBlank_iff {blank : LineReport → Prop} {report : DocumentReport}
    (told : ∀ line ∈ report.lines, (line.IsBlank ↔ blank line)) : report.CheckedBy blank := by
  obtain ⟨blocks, divides⟩ := Style.Divides.exists_blocks LineReport.IsBlank report.lines
  exact ⟨blocks, divides.congr told, fun _ => Style.checkFrom_of_divides divides⟩

end DocumentReport

/-- Under any settings and in any text, a line has no tokens but white space if its literal text is
white space and no part of a comment, if it is empty, or if a brace outside comments is its first
character that is not white space.  The check leaves out these lines and counts their runs.  In a
text in which no line is blank inside a comment or starts with a brace, they are the lines of white
space. -/
theorem blank_lines_are_told_by_tokens (settings : LexerSettings) (text : String) :
    let report := DocumentReport.ofText (RuleTable.ofSettings settings) text
    (∀ line ∈ report.lines, isBlankLine line.tokens = true ↔ line.CountsAsBlank) ∧
      report.CheckedBy LineReport.CountsAsBlank ∧
      ((∀ line ∈ report.lines, ¬ line.IsBlankComment ∧ ¬ line.OpensWithBrace) →
        (∀ line ∈ report.lines, isBlankLine line.tokens = true ↔ line.OnlyBlanks) ∧
          report.CheckedBy LineReport.OnlyBlanks) := by
  intro report
  have told : ∀ line ∈ report.lines, (line.IsBlank ↔ line.CountsAsBlank) :=
    fun _ => DocumentReport.isBlank_iff_of_mem_ofText
  refine ⟨fun line listed => LineReport.isBlankLine_iff.trans (told line listed),
    DocumentReport.checkedBy_of_isBlank_iff told, ?_⟩
  intro plain
  have onlyBlanks : ∀ line ∈ report.lines, (line.IsBlank ↔ line.OnlyBlanks) := by
    intro line listed
    obtain ⟨noComment, noBrace⟩ := plain line listed
    rw [told line listed, LineReport.CountsAsBlank, or_iff_left noBrace, and_iff_left noComment]
  exact ⟨fun line listed => LineReport.isBlankLine_iff.trans (onlyBlanks line listed),
    DocumentReport.checkedBy_of_isBlank_iff onlyBlanks⟩

theorem blank_lines_are_told_by_tokens_around_comment :
    let report := DocumentReport.ofText (RuleTable.ofSettings {}) "/* a\n\n*/\n \n\t\nb \x7b"
    (∀ line ∈ report.lines, ¬ line.IsBlankComment ∧ ¬ line.OpensWithBrace) ∧
      (∀ line ∈ report.lines, isBlankLine line.tokens = true ↔ line.OnlyBlanks) ∧
      report.lines.map (fun line => isBlankLine line.tokens) =
        [false, true, false, true, true, false] ∧
      report.CheckedBy LineReport.OnlyBlanks ∧
      Style.check {} report = .ok [⟨3, 0, .tooManyBlankLines 2⟩] := by
  intro report
  have plain : ∀ line ∈ report.lines, ¬ line.IsBlankComment ∧ ¬ line.OpensWithBrace := by
    decide +kernel +zetaReduce
  obtain ⟨told, checked⟩ := (blank_lines_are_told_by_tokens {} _).2.2 plain
  refine ⟨plain, told, by decide +kernel +zetaReduce, checked, ?_⟩
  exact (Style.check_eq_ok {} (by decide) report).trans
    (congrArg Except.ok (by decide +kernel +zetaReduce))

/-- Lines that halt at a brace count as blank, and white space inside a comment does not. -/
theorem brace_lines_count_as_blank_and_blank_comments_do_not :
    let braces := DocumentReport.ofText (RuleTable.ofSettings {}) "\x7ba\x7d\n\x7bb\x7d"
    let comment := DocumentReport.ofText (RuleTable.ofSettings {}) "/*\n  \n  \n*/"
    (∃ line ∈ braces.lines, isBlankLine line.tokens = true ∧ ¬ line.OnlyBlanks) ∧
      Style.check {} braces = .ok [⟨0, 0, .tooManyBlankLines 2⟩] ∧
      (∃ line ∈ comment.lines, isBlankLine line.tokens = false ∧ line.OnlyBlanks) ∧
      Style.check {} comment = .ok [] := by
  intro braces comment
  refine ⟨by decide +kernel +zetaReduce, ?_, by decide +kernel +zetaReduce, ?_⟩
  · exact (Style.check_eq_ok {} (by decide) braces).trans
      (congrArg Except.ok (by decide +kernel +zetaReduce))
  · exact (Style.check_eq_ok {} (by decide) comment).trans
      (congrArg Except.ok (by decide +kernel +zetaReduce))

end SqlLint
