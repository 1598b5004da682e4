import SqlLint.Proofs.DocumentLines
import SqlLint.Proofs.Lossless
import SqlLint.Proofs.TokenGrammar

/-!
# Where lexing halts

Inside a comment there is a rule for every text, and outside comments for every text that does not
start with a brace (`RuleTable.starts_of_nextBody?_eq_none`).  Braces that stand before the halt are
in tokens, and only comments and literals can hold them (`Token.Grammatical.shelters`).  So a line
halts at the first brace that is exposed, and a line without braces never does.
-/

set_option autoImplicit false

namespace SqlLint

namespace Text

def braces : List Char :=
  ['\x7b', '\x7d']

def Braceless (text : String) : Prop :=
  '\x7b' ∉ text.toList ∧ '\x7d' ∉ text.toList

instance (text : String) : Decidable (Braceless text) :=
  inferInstanceAs (Decidable ('\x7b' ∉ text.toList ∧ '\x7d' ∉ text.toList))

end Text

/-- A token in which braces can stand. -/
def Token.Shelters (token : Token) : Prop :=
  token.category = .comment ∨
    token.category = .identifier ∧ Grammar.Literal token.text.toList

namespace LexedLine

/-- The character that stands in the line behind `front` is in a comment or a literal. -/
def ShelteredAt (front : String) (c : Char) (lexed : LexedLine) : Prop :=
  ∃ before token behind, lexed.tokens = before ++ token :: behind ∧ token.Shelters ∧
    ∃ head tail : String,
      String.join (before.map (·.text)) ++ head = front ∧ head.push c ++ tail = token.text

/-- The line was lexed up to the first brace that is neither in a comment nor in a literal, or to
its end if there is none. -/
structure HaltsAtExposedBrace (line : String) (lexed : LexedLine) : Prop where
  outside_comment : lexed.unlexed.isSome = true → lexed.exitState.inComment = false
  starts_with_brace : ∀ unlexed, lexed.unlexed = some unlexed →
    ∃ brace ∈ Text.braces, unlexed.text.toList.head? = some brace
  sheltered_before : ∀ (front behind : String), ∀ brace ∈ Text.braces,
    front.push brace ++ behind = line →
    (∀ unlexed, lexed.unlexed = some unlexed → front.utf8ByteSize < unlexed.offset) →
      lexed.ShelteredAt front brace

end LexedLine

/-! ## Where no rule applies -/

namespace RuleTable

theorem nextBody?_ne_none_of_inComment (table : RuleTable) {state : LexState}
    (inside : state.inComment = true) (c : Char) (rest : List Char) :
    table.nextBody? state (c :: rest) ≠ none := by
  rw [nextBody?, rules_of_comment inside]
  intro refused
  have everything := Rule.firstBody?_eq_none_iff.1 refused .commentRest (by simp)
  contradiction

/-- The rules refuse a text at its end and, outside comments, at a brace. -/
theorem starts_of_nextBody?_eq_none {table : RuleTable} {state : LexState} {text : List Char}
    (refused : table.nextBody? state text = none) :
    text = [] ∨
      state.inComment = false ∧ ∃ brace ∈ Text.braces, text.head? = some brace := by
  cases text with
  | nil => exact Or.inl rfl
  | cons c rest =>
      have code : state.inComment = false :=
        Bool.eq_false_iff.2 fun inside => table.nextBody?_ne_none_of_inComment inside c rest refused
      refine Or.inr ⟨code, c, ?_, rfl⟩
      rw [nextBody?, rules_of_code code] at refused
      have refuses := Rule.firstBody?_eq_none_iff.1 refused
      have noIdentifier : Cut.isIdentifierChar c = false := by
        rw [Bool.eq_false_iff]
        intro inside
        have taken := refuses .identifier (by decide)
        rw [Rule.body?, Cut.takeRun_cons inside] at taken
        contradiction
      rcases Cut.isIdentifierChar_eq_false_iff.1 noIdentifier with delimiter | blank
      · -- Each of the delimiters but the braces has a rule of its own.
        simp only [Grammar.delimiters, List.mem_cons, List.not_mem_nil, or_false] at delimiter
        rcases delimiter with rfl | rfl | rfl | rfl | rfl | rfl
        · exact absurd (refuses .comma (by decide)) (by simp [Rule.body?, Cut.takeChar])
        · exact absurd (refuses .bracketLeft (by decide)) (by simp [Rule.body?, Cut.takeChar])
        · exact absurd (refuses .bracketRight (by decide)) (by simp [Rule.body?, Cut.takeChar])
        · decide
        · decide
        · exact absurd (refuses .commentLine (by decide))
            (by simp [Rule.body?, Cut.takeLineComment, Cut.startsLineComment])
      · have taken := refuses .whitespace (by decide)
        rw [Rule.body?, Cut.takeRun_cons blank] at taken
        contradiction

theorem nextBody?_of_brace (table : RuleTable) {state : LexState}
    (code : state.inComment = false) {brace : Char} (isBrace : brace ∈ Text.braces)
    (rest : List Char) :
    table.nextBody? state (brace :: rest) = none := by
  have delimiter : brace ∈ Grammar.delimiters :=
    List.Sublist.mem isBrace (by decide : Text.braces.Sublist Grammar.delimiters)
  obtain ⟨noIdentifier, noWord, noOperator⟩ := Cut.classes_of_endsIdentifier (Or.inl delimiter)
  have noBlank : Text.isBlank brace = false := Text.forall_mem_outside (by decide) brace isBrace
  have noQuote : Cut.isQuote brace = false := Text.forall_mem_outside (by decide) brace isBrace
  rw [nextBody?_of_code table code, Cut.takeRun_eq_none noBlank]
  simp only [Text.braces, List.mem_cons, List.not_mem_nil, or_false] at isBrace
  rcases isBrace with rfl | rfl <;>
    simp [Rule.firstBody?, Rule.padded, Rule.body?, Cut.takeCommentMark, Cut.takeLineComment,
      Cut.startsLineComment, Cut.takeChar, Cut.takeKeyword, Cut.takeWord, Cut.takeQuoted, noQuote,
      Cut.takeRun_eq_none noWord, Cut.takeRun_eq_none noOperator,
      Cut.takeRun_eq_none noIdentifier]

/-- Outside comments the rules refuse a text at its end and at a brace, and nowhere else. -/
theorem nextBody?_eq_none_iff (table : RuleTable) {state : LexState}
    (code : state.inComment = false) {text : List Char} :
    table.nextBody? state text = none ↔
      text = [] ∨ ∃ brace ∈ Text.braces, text.head? = some brace := by
  constructor
  · intro refused
    exact (starts_of_nextBody?_eq_none refused).imp_right And.right
  · rintro (rfl | ⟨brace, isBrace, first⟩)
    · exact nextToken?_eq_none_iff.1 (table.nextToken?_nil none state)
    · obtain ⟨rest, rfl⟩ := List.head?_eq_some_iff.1 first
      exact table.nextBody?_of_brace code isBrace rest

end RuleTable

theorem Reads.nextBody?_rest {table : RuleTable} {previous : Option Token}
    {state final : LexState} {text rest : List Char} {tokens : List Token}
    (reads : Reads table previous state text tokens final rest) :
    table.nextBody? final rest = none := by
  induction reads with
  | stop refused => exact RuleTable.nextToken?_eq_none_iff.1 refused
  | token _ _ ih => exact ih

/-! ## Braces in tokens -/

/-- Characters that end identifiers and are no commas or brackets are in white space, in comments
and in literals only. -/
theorem Token.Grammatical.whitespace_or_shelters {keywords : KeywordSet} {inComment : Bool}
    {follow : List Char} {token : Token} (grammatical : token.Grammatical keywords inComment follow)
    {c : Char} (ends : Grammar.EndsIdentifier c) (other : c ∉ [',', '(', ')'])
    (listed : c ∈ token.text.toList) :
    token.category = .whitespace ∧ Text.isBlank c = true ∨ token.Shelters := by
  obtain ⟨_, noWord, noOperator⟩ := Cut.classes_of_endsIdentifier ends
  rw [← Bool.not_eq_true] at noWord noOperator
  have otherSign : ∀ sign ∈ [',', '(', ')'], c ∉ [sign] := by
    rintro sign isSign same
    exact other (List.mem_singleton.1 same ▸ isSign)
  unfold Token.Grammatical at grammatical
  -- One case for each category: only white space, comments and identifiers have a place for it.
  split at grammatical
  · rw [grammatical] at listed
    exact absurd listed (otherSign ',' (by decide))
  · rcases grammatical with left | right
    · rw [left] at listed
      exact absurd listed (otherSign '(' (by decide))
    · rw [right] at listed
      exact absurd listed (otherSign ')' (by decide))
  · rcases grammatical with star | ⟨word, _⟩
    · rw [star] at listed
      have asterisk : c = '*' := List.mem_singleton.1 listed
      subst asterisk
      exact (noOperator (by decide)).elim
    · exact absurd (word.isWordChar c listed) noWord
  · exact absurd (Cut.isOperatorChar_iff.2 (grammatical.chars c listed)) noOperator
  · next comment => exact Or.inr (Or.inl comment)
  · next identifier =>
      rcases grammatical with literal | run
      · exact Or.inr (Or.inr ⟨identifier, literal⟩)
      · exact absurd ends (run.chars c listed)
  · next whitespace => exact Or.inl ⟨whitespace, grammatical.chars c listed⟩
  · exact grammatical.elim

theorem Token.Grammatical.shelters {keywords : KeywordSet} {inComment : Bool} {follow : List Char}
    {token : Token} (grammatical : token.Grammatical keywords inComment follow) {brace : Char}
    (isBrace : brace ∈ Text.braces) (listed : brace ∈ token.text.toList) : token.Shelters := by
  have delimiter : brace ∈ Grammar.delimiters :=
    List.Sublist.mem isBrace (by decide : Text.braces.Sublist Grammar.delimiters)
  have other : ∀ d ∈ Text.braces, d ∉ [',', '(', ')'] := by simp [Text.braces]
  have noBlank : ∀ d ∈ Text.braces, Text.isBlank d = false := Text.forall_mem_outside (by decide)
  rcases grammatical.whitespace_or_shelters (Or.inl delimiter) (other brace isBrace) listed with
    ⟨_, blank⟩ | shelters
  · exact absurd blank (Bool.eq_false_iff.1 (noBlank brace isBrace))
  · exact shelters

/-- A character in the texts of some tokens is in one of them. -/
theorem Token.exists_split_at {tokens : List Token} {front behind : List Char} {c : Char}
    (whole : tokens.flatMap (·.text.toList) = front ++ c :: behind) :
    ∃ before token later head tail, tokens = before ++ token :: later ∧
      before.flatMap (·.text.toList) ++ head = front ∧ token.text.toList = head ++ c :: tail := by
  induction tokens generalizing front with
  | nil => simp at whole
  | cons token tokens ih =>
      rw [List.flatMap_cons, List.append_eq_append_iff] at whole
      rcases whole with ⟨others, rfl, whole⟩ | ⟨others, text, whole⟩
      · obtain ⟨before, found, later, head, tail, rfl, rfl, text⟩ := ih whole
        exact ⟨token :: before, found, later, head, tail, rfl, by simp, text⟩
      · cases others with
        | nil =>
            have atStart : tokens.flatMap (·.text.toList) = [] ++ c :: behind := whole.symm
            obtain ⟨before, found, later, head, tail, rfl, place, inside⟩ := ih atStart
            refine ⟨token :: before, found, later, head, tail, rfl, ?_, inside⟩
            rw [List.flatMap_cons, List.append_assoc, place, text]
            simp
        | cons d others =>
            obtain ⟨rfl, _⟩ := List.cons.inj whole
            exact ⟨[], token, tokens, front, others, rfl, rfl, text⟩

/-! ## Lines -/

namespace LexedLine

theorem toList_text (lexed : LexedLine) :
    lexed.text.toList = lexed.tokens.flatMap (·.text.toList) := by
  rw [text, String.toList_join, List.flatMap_map]

/-- A character of the line that is not in the remainder is in the tokens. -/
theorem Lossless.utf8ByteSize_lt {state : LexState} {line front behind : String}
    {lexed : LexedLine} {c : Char} (lossless : lexed.Lossless state line)
    (whole : front.push c ++ behind = line)
    (before : ∀ unlexed, lexed.unlexed = some unlexed → front.utf8ByteSize < unlexed.offset) :
    front.utf8ByteSize < lexed.text.utf8ByteSize := by
  cases present : lexed.unlexed with
  | none =>
      have all := lossless.append_unlexed
      rw [present, Option.map_none, Option.getD_none, String.append_empty] at all
      rw [all, ← whole, String.utf8ByteSize_append, String.utf8ByteSize_push]
      have positive := c.utf8Size_pos
      omega
  | some unlexed =>
      obtain ⟨_, _, offset, _⟩ := lossless.unlexed_behind_tokens unlexed present
      rw [← offset]
      exact before unlexed present

end LexedLine

/-- Of two ways to cut a line, the one that is cut further behind has the next character, too. -/
theorem Text.exists_push_append_eq {text rest front behind : String} {c : Char}
    (whole : front.push c ++ behind = text ++ rest)
    (further : front.utf8ByteSize < text.utf8ByteSize) : ∃ tail, front.push c ++ tail = text := by
  have chars := congrArg String.toList whole
  rw [String.toList_append, String.toList_append, String.toList_push, List.append_assoc,
    List.singleton_append, List.append_eq_append_iff] at chars
  rcases chars with ⟨others, inText, cut⟩ | ⟨others, inFront, _⟩
  · cases others with
    | nil =>
        rw [List.append_nil, String.toList_inj] at inText
        rw [inText] at further
        exact absurd further (Nat.lt_irrefl _)
    | cons d others =>
        obtain ⟨rfl, _⟩ := List.cons.inj cut
        refine ⟨String.ofList others, ?_⟩
        rw [← String.toList_inj, inText]
        simp
  · have longer : front = text ++ String.ofList others := by
      rw [← String.toList_inj, inFront]
      simp
    rw [longer, String.utf8ByteSize_append] at further
    omega

namespace RuleTable

/-- A character of the text of a line's tokens is in one of them. -/
theorem exists_token_lexLine (table : RuleTable) (state : LexState) {line front tail : String}
    {c : Char} (whole : front.push c ++ tail = (table.lexLine state line).text) :
    ∃ before token behind, (table.lexLine state line).tokens = before ++ token :: behind ∧
      (∃ inComment follow, token.Grammatical table.keywords inComment follow) ∧
      c ∈ token.text.toList ∧
      ∃ head rest : String,
        String.join (before.map (·.text)) ++ head = front ∧ head.push c ++ rest = token.text := by
  have chars := congrArg String.toList whole
  rw [LexedLine.toList_text, String.toList_append, String.toList_push, List.append_assoc,
    List.singleton_append] at chars
  obtain ⟨before, token, behind, head, rest, split, place, text⟩ := Token.exists_split_at chars.symm
  obtain ⟨_, _, found⟩ := nextToken?_of_split_lexLine split
  refine ⟨before, token, behind, split, ⟨_, _, grammatical_of_nextToken? found⟩, by simp [text],
    String.ofList head, String.ofList rest, ?_, ?_⟩
  · rw [← String.toList_inj]
    simp [String.toList_join, List.flatMap_map, place]
  · rw [← String.toList_inj]
    simp [text]

theorem shelteredAt_lexLine (table : RuleTable) (state : LexState) {line front tail : String}
    {brace : Char} (isBrace : brace ∈ Text.braces)
    (whole : front.push brace ++ tail = (table.lexLine state line).text) :
    (table.lexLine state line).ShelteredAt front brace := by
  obtain ⟨before, token, behind, split, ⟨_, _, grammatical⟩, listed, place⟩ :=
    table.exists_token_lexLine state whole
  exact ⟨before, token, behind, split, grammatical.shelters isBrace listed, place⟩

theorem haltsAtExposedBrace_lexLine (table : RuleTable) (state : LexState) (line : String) :
    (table.lexLine state line).HaltsAtExposedBrace line := by
  have lossless := table.lossless_lexLine state line
  have stuck := starts_of_nextBody?_eq_none (table.reads_scan none state line.toList).nextBody?_rest
  have exposed : ∀ unlexed, (table.lexLine state line).unlexed = some unlexed →
      (table.lexLine state line).exitState.inComment = false ∧
        ∃ brace ∈ Text.braces, unlexed.text.toList.head? = some brace := by
    intro unlexed present
    obtain ⟨nonempty, text, _⟩ := Unlexed.ofRest?_eq_some present
    rw [text, String.toList_ofList]
    exact stuck.resolve_left nonempty
  refine ⟨?_, fun unlexed present => (exposed unlexed present).2, ?_⟩
  · intro present
    obtain ⟨unlexed, present⟩ := Option.isSome_iff_exists.1 present
    exact (exposed unlexed present).1
  · intro front behind brace isBrace whole before
    have further := lossless.utf8ByteSize_lt whole before
    obtain ⟨tail, inText⟩ :=
      Text.exists_push_append_eq (whole.trans lossless.append_unlexed.symm) further
    exact table.shelteredAt_lexLine state isBrace inText

theorem unlexed_lexLine_of_braceless (table : RuleTable) (state : LexState) {line : String}
    (braceless : Text.Braceless line) : (table.lexLine state line).unlexed = none := by
  cases present : (table.lexLine state line).unlexed with
  | none => rfl
  | some unlexed =>
      obtain ⟨brace, isBrace, first⟩ :=
        (table.haltsAtExposedBrace_lexLine state line).starts_with_brace unlexed present
      obtain ⟨_, whole, _, _⟩ :=
        (table.lossless_lexLine state line).unlexed_behind_tokens unlexed present
      have inLine : brace ∈ line.toList := by
        rw [← whole, String.toList_append]
        exact List.mem_append_right _ (List.mem_of_mem_head? first)
      simp only [Text.braces, List.mem_cons, List.not_mem_nil, or_false] at isBrace
      rcases isBrace with rfl | rfl
      · exact absurd inLine braceless.1
      · exact absurd inLine braceless.2

end RuleTable

theorem DocumentReport.diagnostics_ofLines_of_braceless (table : RuleTable) {lines : List String}
    (braceless : ∀ line ∈ lines, Text.Braceless line) : (ofLines table lines).diagnostics = [] := by
  rw [diagnostics, List.flatMap_eq_nil_iff]
  intro report listed
  obtain ⟨index, state, line, inDocument, rfl⟩ := of_mem_ofLines listed
  have complete := table.unlexed_lexLine_of_braceless state (braceless line inDocument)
  simp [LineReport.ofExtracted, Markup.ExtractedLine.ofLiteral, complete]

/-- Under any settings, a line lexed from any state halts at the first brace that is neither in a
comment nor in a literal, or not at all.  So lines without braces are lexed completely, and a report
on such lines has no diagnostics. -/
theorem lexing_halts_at_exposed_braces_only (settings : LexerSettings) :
    (∀ state line,
      ((RuleTable.ofSettings settings).lexLine state line).HaltsAtExposedBrace line) ∧
    (∀ state line, Text.Braceless line →
      ((RuleTable.ofSettings settings).lexLine state line).unlexed = none) ∧
    (∀ lines : List String, (∀ line ∈ lines, Text.Braceless line) →
      (DocumentReport.ofLines (RuleTable.ofSettings settings) lines).diagnostics = []) :=
  ⟨RuleTable.haltsAtExposedBrace_lexLine _,
    fun state _ => RuleTable.unlexed_lexLine_of_braceless _ state,
    fun _ => DocumentReport.diagnostics_ofLines_of_braceless _⟩

theorem lexing_halts_at_exposed_braces_only_in_open_literal :
    (∀ line ∈ ["a /* b", "c */ \"d", "`e --"], Text.Braceless line) ∧
      (DocumentReport.ofLines (RuleTable.ofSettings {})
        ["a /* b", "c */ \"d", "`e --"]).diagnostics = [] := by
  have braceless : ∀ line ∈ ["a /* b", "c */ \"d", "`e --"], Text.Braceless line := by decide
  exact ⟨braceless, (lexing_halts_at_exposed_braces_only {}).2.2 _ braceless⟩

end SqlLint
