import SqlLint.Document.Run
import SqlLint.Proofs.Halts
import SqlLint.Proofs.LongerTexts

/-!
# Blanks around a line

Outside comments a line is read from where its indentation ends, so that another indentation changes
nothing but white space (`RuleTable.scan_dropWhile`).  Blanks behind a line are read as white space
or as a comment.  If the last token is one of these it may become longer (`Reads.grown`); no other
token can reach into them, and a line that halts does so in front of them (`Reads.append_blanks`).
-/

set_option autoImplicit false

namespace SqlLint

namespace LexedLine

/-- Two lexed lines that differ at most in white space and in where they halt. -/
structure SameButBlanks (first second : LexedLine) : Prop where
  significant_eq : first.significant = second.significant
  exitState_eq : first.exitState = second.exitState
  unlexed_text_eq : first.unlexed.map (·.text) = second.unlexed.map (·.text)

/-- Two lexed lines that differ at most in white space, in comments and in the remainder behind the
place where both of them halt. -/
structure SameButLayout (first second : LexedLine) : Prop where
  tokens_eq : first.tokens.filter (!·.isLayout) = second.tokens.filter (!·.isLayout)
  exitState_eq : first.exitState = second.exitState
  unlexed_offset_eq : first.unlexed.map (·.offset) = second.unlexed.map (·.offset)

end LexedLine

/-! ## In front -/

namespace RuleTable

theorem scan_dropWhile (table : RuleTable) (previous : Option Token) {state : LexState}
    (code : state.inComment = false) (text : List Char) :
    let core := table.scan previous state (text.dropWhile Text.isBlank)
    (table.scan previous state text).tokens =
        (Token.span? .whitespace (text.takeWhile Text.isBlank)).toList ++ core.tokens ∧
      (table.scan previous state text).state = core.state ∧
      (table.scan previous state text).rest = core.rest :=
  scan_of_reads (Reads.blanks code (table.reads_scan previous state _))

theorem significant_lexLine (table : RuleTable) {state : LexState}
    (code : state.inComment = false) (line : String) :
    (table.lexLine state line).significant =
      (table.scan none state (line.toList.dropWhile Text.isBlank)).tokens.filter
        (!·.isWhitespace) := by
  obtain ⟨tokens, _⟩ := table.scan_dropWhile none code line.toList
  have noBlanks : ∀ run : List Char,
      (Token.span? .whitespace run).toList.filter (!·.isWhitespace) = [] := by
    intro run
    cases run <;> rfl
  rw [LexedLine.significant, lexLine, tokens, List.filter_append, noBlanks, List.nil_append]

theorem sameButBlanks_lexLine (table : RuleTable) {state : LexState}
    (code : state.inComment = false) {line other : String}
    (same : line.toList.dropWhile Text.isBlank = other.toList.dropWhile Text.isBlank) :
    (table.lexLine state line).SameButBlanks (table.lexLine state other) := by
  obtain ⟨_, final, rest⟩ := table.scan_dropWhile none code line.toList
  obtain ⟨_, otherFinal, otherRest⟩ := table.scan_dropWhile none code other.toList
  rw [same] at final rest
  refine ⟨?_, final.trans otherFinal.symm, ?_⟩
  · rw [table.significant_lexLine code, table.significant_lexLine code, same]
  · rw [lexLine, lexLine, rest, otherRest, Unlexed.ofRest?, Unlexed.ofRest?]
    split <;> rfl

end RuleTable

/-! ## Behind -/

theorem Token.filter_of_isLayout {tokens : List Token}
    (layout : ∀ token ∈ tokens, token.isLayout = true) : tokens.filter (!·.isLayout) = [] := by
  simpa [List.filter_eq_nil_iff] using layout

theorem Grammar.Separate.of_blanks {blanks : List Char}
    (onlyBlanks : ∀ c ∈ blanks, Text.isBlank c = true) (front : List Char) :
    Separate front blanks where
  delimited := Or.inr fun c first => Or.inr (onlyBlanks c (List.mem_of_mem_head? first))
  noLiteral := by
    intro quote isQuote _ listed
    have noBlank : ∀ quote ∈ quotes, Text.isBlank quote = false :=
      Text.forall_mem_outside (by decide)
    exact Bool.false_ne_true ((noBlank quote isQuote).symm.trans (onlyBlanks quote listed))

namespace Cut

theorem splitCommentEnd?_eq_none_of_not_mem {text : List Char} (noSlash : '/' ∉ text) :
    splitCommentEnd? text = none := by
  rw [Option.eq_none_iff_forall_ne_some]
  rintro ⟨before, after⟩ found
  rw [← append_of_splitCommentEnd? found] at noSlash
  simp at noSlash

theorem splitCommentEnd?_append_eq_none {text back : List Char}
    (stays : splitCommentEnd? text = none) (noSlash : '/' ∉ back) :
    splitCommentEnd? (text ++ back) = none := by
  induction text with
  | nil => exact splitCommentEnd?_eq_none_of_not_mem noSlash
  | cons c rest ih =>
      rw [splitCommentEnd?_cons] at stays
      rw [List.cons_append, splitCommentEnd?_cons]
      -- A mark across the seam would need a slash in the second text.
      have noMark : ¬ (c = '*' ∧ (rest ++ back).head? = some '/') := by
        rintro ⟨star, slash⟩
        cases rest with
        | nil => exact noSlash (List.mem_of_mem_head? slash)
        | cons d rest =>
            rw [if_pos ⟨star, slash⟩] at stays
            contradiction
      rw [if_neg noMark]
      split
      · rfl
      · next noFeed =>
          rw [if_neg noFeed] at stays
          split at stays
          · contradiction
          · rw [Option.map_eq_none_iff] at stays
            rw [ih stays]
            rfl

theorem splitCommentEnd?_of_takeCommentPiece {text : List Char}
    (refused : takeCommentPiece text = none) : splitCommentEnd? text = none := by
  cases found : splitCommentEnd? text with
  | none => rfl
  | some pieces =>
      obtain ⟨before, after⟩ := pieces
      cases before <;> simp [takeCommentPiece, found] at refused

/-- A line comment that reaches the end of the first text goes on up to a line break. -/
theorem takeLineComment_append_of_end {front back : List Char} (nonempty : front ≠ [])
    (separate : Grammar.Separate front back) (taken : takeLineComment front = some (front, [])) :
    takeLineComment (front ++ back) =
      some (front ++ back.takeWhile (· != '\n'), back.dropWhile (· != '\n')) := by
  have inside := bne_of_takeLineComment taken
  rw [takeLineComment, startsLineComment_append nonempty separate,
    startsLineComment_of_takeLineComment taken, if_pos rfl, List.takeWhile_append_of_pos inside,
    List.dropWhile_append_of_pos inside]

end Cut

namespace RuleTable

variable {table : RuleTable} {state : LexState} {front back text body after : List Char}

theorem openComment_of_commentRest
    (next : table.nextBody? state text = some (.commentRest, body, after)) :
    state.inComment = true ∧ Cut.splitCommentEnd? text = none := by
  cases comment : state.inComment with
  | false =>
      rw [nextBody?, rules_of_code comment] at next
      have listed := (Rule.body?_of_firstBody? next).1
      contradiction
  | true =>
      have order : rules state = [.commentEnd] ++ .commentRest :: [] := rules_of_comment comment
      rw [nextBody?, order] at next
      have noMark : Cut.takeCommentPiece text = none :=
        Rule.refused_of_firstBody? next (by decide) .commentEnd List.mem_cons_self
      exact ⟨rfl, Cut.splitCommentEnd?_of_takeCommentPiece noMark⟩

theorem afterToken_of_commentLine (previous : Option Token)
    (next : table.nextBody? state text = some (.commentLine, body, after)) :
    state.afterToken (table.bodyToken previous state .commentLine body) = state := by
  obtain ⟨_, taken⟩ := Rule.body?_of_firstBody? next
  exact (Rule.nextState_eq_afterToken _ ⟨[], body, [], after⟩ state (by decide) taken).symm

theorem nextBody?_append_of_commentLine (separate : Grammar.Separate front back)
    (next : table.nextBody? state front = some (.commentLine, front, [])) :
    table.nextBody? state (front ++ back) =
      some (.commentLine, front ++ back.takeWhile (· != '\n'), back.dropWhile (· != '\n')) := by
  obtain ⟨listed, taken⟩ := Rule.body?_of_firstBody? next
  obtain ⟨_, filled⟩ := Rule.faithful_body? _ _ _ _ _ taken
  have code : state.inComment = false := by
    rw [← Bool.not_eq_true]
    intro comment
    rw [rules_of_comment comment] at listed
    contradiction
  exact nextBody?_append_of_takes code separate next
    (Cut.takeLineComment_append_of_end filled separate taken)

end RuleTable

/-- The text is read up to its end as white space and comments that move no state. -/
def ReadsAsLayout (table : RuleTable) (previous : Option Token) (state : LexState)
    (text : List Char) : Prop :=
  ∃ tokens, Reads table previous state text tokens state [] ∧
    ∀ token ∈ tokens, token.isLayout = true

namespace ReadsAsLayout

variable {table : RuleTable} {previous : Option Token} {state : LexState} {text : List Char}

theorem of_openComment (comment : state.inComment = true)
    (stays : Cut.splitCommentEnd? text = none) : ReadsAsLayout table previous state text := by
  cases text with
  | nil => exact ⟨[], .nil _ _ _, by simp⟩
  | cons c others =>
      exact ⟨_, .openComment comment stays (.nil _ _ _), List.forall_mem_singleton.2 rfl⟩

/-- Blanks are layout, inside comments and outside. -/
theorem of_blanks (table : RuleTable) (previous : Option Token) (state : LexState)
    (onlyBlanks : ∀ c ∈ text, Text.isBlank c = true) :
    ReadsAsLayout table previous state text := by
  cases comment : state.inComment with
  | true =>
      refine of_openComment comment (Cut.splitCommentEnd?_eq_none_of_not_mem ?_)
      intro slash
      exact absurd (onlyBlanks '/' slash) (by decide)
  | false =>
      cases text with
      | nil => exact ⟨[], .nil _ _ _, by simp⟩
      | cons c others =>
          obtain ⟨blank, othersBlank⟩ := List.forall_mem_cons.1 onlyBlanks
          have next := table.nextBody?_of_isBlank comment others blank
          rw [List.dropWhile_eq_nil_iff.2 othersBlank] at next
          exact ⟨_, .of_nextBody? next (.nil _ _ _), List.forall_mem_singleton.2 rfl⟩

theorem of_lineComment {body after : List Char}
    (next : table.nextBody? state text = some (.commentLine, body, after))
    (later : ReadsAsLayout table previous state after) :
    ReadsAsLayout table previous state text := by
  obtain ⟨tokens, reads, layout⟩ := later
  refine ⟨_, .of_nextBody? next ?_, List.forall_mem_cons.2 ⟨rfl, layout⟩⟩
  rw [RuleTable.afterToken_of_commentLine previous next, lastSignificant_layout previous rfl]
  exact reads

end ReadsAsLayout

namespace Reads

variable {table : RuleTable} {previous : Option Token} {state final : LexState}
  {text blanks body rest : List Char} {tokens : List Token} {rule : Rule}

/-- A token that may take some of the blanks behind it is layout and moves no state. -/
theorem grown (previous : Option Token) (onlyBlanks : ∀ c ∈ blanks, Text.isBlank c = true)
    (next : table.nextBody? state text = some (rule, body, []))
    (unsettled : ¬ rule.Settled blanks []) :
    (table.bodyToken previous state rule body).isLayout = true ∧
      state.afterToken (table.bodyToken previous state rule body) = state ∧
      ReadsAsLayout table previous state (text ++ blanks) := by
  obtain ⟨_, taken⟩ := Rule.body?_of_firstBody? next
  obtain ⟨whole, _⟩ := Rule.faithful_body? _ _ _ _ _ taken
  rw [List.append_nil] at whole
  subst whole
  cases rule with
  | whitespace =>
      have inside := (Cut.takeRun_spec taken).2.1
      exact ⟨rfl, rfl, .of_blanks _ _ _ (List.forall_mem_append.2 ⟨inside, onlyBlanks⟩)⟩
  | commentRest =>
      obtain ⟨comment, stays⟩ := RuleTable.openComment_of_commentRest next
      have noClosing : body ≠ ['*', '/'] := by
        rintro rfl
        contradiction
      have noSlash : '/' ∉ blanks := fun slash => absurd (onlyBlanks '/' slash) (by decide)
      refine ⟨rfl, Rule.afterToken_comment (fun _ => comment) noClosing, ?_⟩
      exact .of_openComment comment (Cut.splitCommentEnd?_append_eq_none stays noSlash)
  | commentLine =>
      have longer := RuleTable.nextBody?_append_of_commentLine
        (Grammar.Separate.of_blanks onlyBlanks body) next
      refine ⟨rfl, RuleTable.afterToken_of_commentLine previous next, .of_lineComment longer ?_⟩
      apply ReadsAsLayout.of_blanks
      intro c listed
      exact onlyBlanks c ((List.dropWhile_suffix _).mem listed)
  | _ => exact absurd trivial unsettled

theorem append_blanks (onlyBlanks : ∀ c ∈ blanks, Text.isBlank c = true)
    (reads : Reads table previous state text tokens final rest) :
    ∃ others, Reads table previous state (text ++ blanks) others final
        (if rest = [] then [] else rest ++ blanks) ∧
      others.filter (!·.isLayout) = tokens.filter (!·.isLayout) := by
  induction reads with
  | @stop previous state text refused =>
      by_cases empty : text = []
      · subst empty
        obtain ⟨others, reads, layout⟩ := ReadsAsLayout.of_blanks table previous state onlyBlanks
        exact ⟨others, reads, Token.filter_of_isLayout layout⟩
      · rw [RuleTable.nextToken?_eq_none_iff] at refused
        -- The halt is at a brace, which no rule takes whatever follows.
        obtain ⟨code, _⟩ := (RuleTable.starts_of_nextBody?_eq_none refused).resolve_left empty
        have separate := Grammar.Separate.of_blanks onlyBlanks text
        have halted := RuleTable.nextBody?_append_eq_none code empty separate refused
        rw [if_neg empty]
        exact ⟨[], .stop (RuleTable.nextToken?_eq_none_iff.2 halted), rfl⟩
  | @token previous state final text after rest token tokens found later ih =>
      obtain ⟨rule, body, next, rfl⟩ := RuleTable.nextBody?_of_nextToken? found
      by_cases settled : rule.Settled blanks after
      · obtain ⟨others, reads, same⟩ := ih
        have separate := Grammar.Separate.of_blanks onlyBlanks text
        refine ⟨_, .of_nextBody? (RuleTable.nextBody?_append separate next settled) reads, ?_⟩
        rw [List.filter_cons, List.filter_cons, same]
      · -- The token reaches the end of the text and goes on into the blanks.
        have atEnd : after = [] := by
          by_contra behind
          exact settled (rule.settled_of_ne_nil behind)
        subst atEnd
        obtain ⟨rfl, rfl, rfl⟩ := (nil _ _ _).unique later
        obtain ⟨layout, stays, others, reads, onlyLayout⟩ :=
          grown previous onlyBlanks next settled
        rw [stays]
        refine ⟨others, reads, ?_⟩
        rw [Token.filter_of_isLayout onlyLayout,
          Token.filter_of_isLayout (List.forall_mem_singleton.2 layout)]

end Reads

theorem Unlexed.offset_ofRest?_append (line blanks : String) (rest : List Char) :
    (ofRest? (line ++ blanks) (if rest = [] then [] else rest ++ blanks.toList)).map (·.offset) =
      (ofRest? line rest).map (·.offset) := by
  by_cases atEnd : rest = []
  · subst atEnd
    rfl
  · have filled : rest.isEmpty = false := List.isEmpty_eq_false_iff.2 atEnd
    have longer : (rest ++ blanks.toList).isEmpty = false := by simp [atEnd]
    rw [if_neg atEnd, ofRest?, ofRest?, filled, longer]
    simp only [String.ofList_append, String.ofList_toList, String.utf8ByteSize_append,
      Bool.false_eq_true, if_false, Option.map_some, Option.some.injEq]
    omega

theorem RuleTable.sameButLayout_lexLine (table : RuleTable) (state : LexState) (line : String)
    {blanks : String} (onlyBlanks : ∀ c ∈ blanks.toList, Text.isBlank c = true) :
    (table.lexLine state (line ++ blanks)).SameButLayout (table.lexLine state line) := by
  obtain ⟨others, reads, same⟩ :=
    (table.reads_scan none state line.toList).append_blanks onlyBlanks
  rw [← String.toList_append] at reads
  obtain ⟨tokens, final, rest⟩ := scan_of_reads reads
  refine ⟨?_, final, ?_⟩
  · rw [lexLine, tokens]
    exact same
  · rw [lexLine, rest]
    exact Unlexed.offset_ofRest?_append line blanks _

/-- Under any settings, blanks in front of a line that is not entered inside a comment change
nothing but white space, and blanks behind a line nothing but white space, comments and the
remainder, which starts at the same place. -/
theorem outer_blanks_keep_classification (settings : LexerSettings) (state : LexState)
    (line blanks : String) (onlyBlanks : ∀ c ∈ blanks.toList, Text.isBlank c = true) :
    (state.inComment = false →
      ((RuleTable.ofSettings settings).lexLine state (blanks ++ line)).SameButBlanks
        ((RuleTable.ofSettings settings).lexLine state line)) ∧
    ((RuleTable.ofSettings settings).lexLine state (line ++ blanks)).SameButLayout
      ((RuleTable.ofSettings settings).lexLine state line) := by
  constructor
  · intro code
    apply RuleTable.sameButBlanks_lexLine _ code
    rw [String.toList_append, List.dropWhile_append_of_pos onlyBlanks]
  · exact RuleTable.sameButLayout_lexLine _ state line onlyBlanks

theorem outer_blanks_keep_classification_of_line_comment :
    (∀ c ∈ "\t\n".toList, Text.isBlank c = true) ∧ LexState.inComment {} = false ∧
      ((RuleTable.ofSettings {}).lexLine {} "\t\nSELECT -- a").SameButBlanks
        ((RuleTable.ofSettings {}).lexLine {} "SELECT -- a") ∧
      ((RuleTable.ofSettings {}).lexLine {} "SELECT -- a\t\n").SameButLayout
        ((RuleTable.ofSettings {}).lexLine {} "SELECT -- a") ∧
      ((RuleTable.ofSettings {}).lexLine {} "SELECT -- a\t\n").tokens =
        [⟨.keyword, "SELECT"⟩, ⟨.whitespace, " "⟩, ⟨.comment, "-- a\t"⟩, ⟨.whitespace, "\n"⟩] := by
  have onlyBlanks : ∀ c ∈ "\t\n".toList, Text.isBlank c = true := List.all_eq_true.1 (by decide)
  obtain ⟨inFront, behind⟩ :=
    outer_blanks_keep_classification {} {} "SELECT -- a" "\t\n" onlyBlanks
  exact ⟨onlyBlanks, rfl, inFront rfl, behind, by decide +kernel⟩

end SqlLint
