import Mathlib.Data.List.Forall2
import SqlLint.Document.Run
import SqlLint.Proofs.Reading

/-!
# What the settings of the lexer decide

Two settings cut a document into the same tokens and carry the same states from line to line.  They
can disagree on the category of a token in two ways only: on a lone asterisk, if their policies
differ, and on a word that is an extra keyword of one of them and no built-in one.  A word that is
refused as a keyword is taken by the rule for identifiers, up to the same place.
-/

set_option autoImplicit false

namespace SqlLint

/-- The word is an extra keyword of the settings, in any letter case. -/
def LexerSettings.listsExtra (settings : LexerSettings) (word : String) : Bool :=
  (settings.extraKeywords.map Text.upperAscii).contains (Text.upperAscii word)

/-- Tokens that two settings can make of the same piece of text. -/
inductive Token.Agree (left right : LexerSettings) : Token → Token → Prop
  | same (token : Token) : Agree left right token token
  | keywordStar (policies : left.starExpansion ≠ right.starExpansion) :
      Agree left right ⟨.keyword, "*"⟩ ⟨.operator, "*"⟩
  | operatorStar (policies : left.starExpansion ≠ right.starExpansion) :
      Agree left right ⟨.operator, "*"⟩ ⟨.keyword, "*"⟩
  | keywordWord (text : String) (noBuiltin : Keyword.isBuiltin text = false)
      (extra : left.listsExtra text = true) (noExtra : right.listsExtra text = false) :
      Agree left right ⟨.keyword, text⟩ ⟨.identifier, text⟩
  | identifierWord (text : String) (noBuiltin : Keyword.isBuiltin text = false)
      (noExtra : left.listsExtra text = false) (extra : right.listsExtra text = true) :
      Agree left right ⟨.identifier, text⟩ ⟨.keyword, text⟩

/-- Reports on the same line under two settings. -/
structure LineReport.Agree (left right : LexerSettings) (first second : LineReport) : Prop where
  index_eq : first.index = second.index
  literal_eq : first.literal = second.literal
  texts_eq : first.tokens.map (·.text) = second.tokens.map (·.text)
  tokens_agree : List.Forall₂ (Token.Agree left right) first.tokens second.tokens
  entryState_eq : first.lexed.entryState = second.lexed.entryState
  exitState_eq : first.lexed.exitState = second.lexed.exitState
  unlexed_eq : first.lexed.unlexed = second.lexed.unlexed
  diagnostics_eq : first.diagnostics = second.diagnostics

/-- Reports on the same document under two settings. -/
structure DocumentReport.Agree (left right : LexerSettings) (first second : DocumentReport) :
    Prop where
  length_eq : first.lines.length = second.lines.length
  lines_agree : List.Forall₂ (LineReport.Agree left right) first.lines second.lines
  finalState_eq : first.finalState = second.finalState

/-! ## Words and the other bodies -/

namespace RuleTable

/-- A word is taken as a keyword or, if it is none, as an identifier, up to the same place. -/
theorem nextBody?_of_takeWord (table : RuleTable) {state : LexState}
    (code : state.inComment = false) {text word after : List Char}
    (taken : Cut.takeWord text = some (word, after)) :
    table.nextBody? state text =
      some (if table.keywords.contains (String.ofList word) then .keyword else .identifier,
        word, after) := by
  obtain ⟨⟨c, rest, rfl, inWord⟩, _, identifier⟩ := Cut.takeWord_spec taken
  rw [table.nextBody?_of_isWordChar code inWord, Cut.takeKeyword, taken, identifier]
  by_cases listed : table.keywords.contains (String.ofList word) = true
  · simp [listed, Option.filter_some]
  · simp [listed, Option.filter_some]

theorem nextBody?_congr (first second : RuleTable) {state : LexState} {text : List Char}
    (noWord : state.inComment = true ∨ Cut.takeWord text = none) :
    first.nextBody? state text = second.nextBody? state text := by
  rw [nextBody?, nextBody?, Rule.firstBody?, Rule.firstBody?]
  apply Rule.findSome?_eq_of_forall_mem
  intro rule listed
  have same : rule.body? first.keywords text = rule.body? second.keywords text := by
    cases rule with
    | keyword =>
        rcases noWord with comment | noWord
        · rw [rules_of_comment comment] at listed
          simp at listed
        · simp [Rule.body?, Cut.takeKeyword, noWord]
    | _ => rfl
  rw [same]

end RuleTable

/-! ## One token under two settings -/

theorem sameWord_eq_false_of_isBuiltin {word builtin : String}
    (noBuiltin : Keyword.isBuiltin word = false) (listed : Keyword.isBuiltin builtin = true) :
    Text.sameWord word builtin = false := by
  cases same : Text.sameWord word builtin with
  | false => rfl
  | true =>
      rw [Keyword.isBuiltin, Text.sameWord_iff.1 same] at noBuiltin
      rw [Keyword.isBuiltin, noBuiltin] at listed
      contradiction

namespace Token.Agree

variable {left right : LexerSettings} {first second : Token}

theorem text_eq (agree : Agree left right first second) : first.text = second.text := by
  cases agree <;> rfl

theorem afterToken_eq (agree : Agree left right first second) (state : LexState) :
    state.afterToken first = state.afterToken second := by
  have noSwitch : ∀ text, Keyword.isBuiltin text = false → state.afterKeyword text = state := by
    intro text noBuiltin
    have noSelect : Text.sameWord text "SELECT" = false :=
      sameWord_eq_false_of_isBuiltin noBuiltin (isBuiltin_of_upper (by decide) (by decide))
    have noFrom : Text.sameWord text "FROM" = false :=
      sameWord_eq_false_of_isBuiltin noBuiltin (isBuiltin_of_upper (by decide) (by decide))
    simp [LexState.afterKeyword, noSelect, noFrom]
  cases agree with
  | same token => rfl
  | keywordStar _ => exact Rule.afterKeyword_star state
  | operatorStar _ => exact (Rule.afterKeyword_star state).symm
  | keywordWord text noBuiltin _ _ => exact noSwitch text noBuiltin
  | identifierWord text noBuiltin _ _ => exact (noSwitch text noBuiltin).symm

theorem expectsColumn_eq (agree : Agree left right first second) {previous other : Option Token}
    (same : RuleTable.expectsColumn previous = RuleTable.expectsColumn other) :
    RuleTable.expectsColumn (lastSignificant previous [first]) =
      RuleTable.expectsColumn (lastSignificant other [second]) := by
  have operator : ∀ text, RuleTable.expectsColumn (some ⟨.operator, text⟩) = false := fun _ => rfl
  have identifier : ∀ text, RuleTable.expectsColumn (some ⟨.identifier, text⟩) = false :=
    fun _ => rfl
  have keyword : ∀ text, Text.sameWord text "SELECT" = false →
      Text.sameWord text "DISTINCT" = false → Text.sameWord text "ALL" = false →
      RuleTable.expectsColumn (some ⟨.keyword, text⟩) = false := by
    intro text noSelect noDistinct noAll
    simp [RuleTable.expectsColumn, isKeyword, isWord, noSelect, noDistinct, noAll]
  have star : RuleTable.expectsColumn (some ⟨.keyword, "*"⟩) = false :=
    keyword "*" (Text.sameWord_eq_false_iff.2 (by decide))
      (Text.sameWord_eq_false_iff.2 (by decide)) (Text.sameWord_eq_false_iff.2 (by decide))
  have extraWord : ∀ text, Keyword.isBuiltin text = false →
      RuleTable.expectsColumn (some ⟨.keyword, text⟩) = false := by
    intro text noBuiltin
    apply keyword text
    · exact sameWord_eq_false_of_isBuiltin noBuiltin (isBuiltin_of_upper (by decide) (by decide))
    · exact sameWord_eq_false_of_isBuiltin noBuiltin (isBuiltin_of_upper (by decide) (by decide))
    · exact sameWord_eq_false_of_isBuiltin noBuiltin (isBuiltin_of_upper (by decide) (by decide))
  rw [lastSignificant_singleton, lastSignificant_singleton]
  cases agree with
  | same token =>
      split
      · rfl
      · exact same
  | keywordStar _ => exact star.trans (operator "*").symm
  | operatorStar _ => exact (operator "*").trans star.symm
  | keywordWord text noBuiltin _ _ => exact (extraWord text noBuiltin).trans (identifier text).symm
  | identifierWord text noBuiltin _ _ =>
      exact (identifier text).trans (extraWord text noBuiltin).symm

/-- Two settings make agreeing tokens of the same body under the same rule. -/
theorem of_bodyToken {left right : LexerSettings} {previous other : Option Token}
    (state : LexState)
    (same : RuleTable.expectsColumn previous = RuleTable.expectsColumn other) (rule : Rule)
    (body : List Char) :
    Agree left right ((RuleTable.ofSettings left).bodyToken previous state rule body)
      ((RuleTable.ofSettings right).bodyToken other state rule body) := by
  by_cases star : rule = .operator ∧ body = ['*']
  · obtain ⟨rfl, rfl⟩ := star
    have policies :
        left.starExpansion ≠ right.starExpansion ∨
          (RuleTable.ofSettings left).starIsKeyword state previous =
            (RuleTable.ofSettings right).starIsKeyword state other := by
      by_cases equal : left.starExpansion = right.starExpansion
      · simp [RuleTable.starIsKeyword, RuleTable.ofSettings, equal, same]
      · exact Or.inl equal
    rw [RuleTable.bodyToken, RuleTable.bodyToken]
    cases onLeft : (RuleTable.ofSettings left).starIsKeyword state previous with
    | true =>
        cases onRight : (RuleTable.ofSettings right).starIsKeyword state other with
        | true => exact .same _
        | false =>
            rw [onLeft, onRight] at policies
            exact .keywordStar (policies.resolve_right (by decide))
    | false =>
        cases onRight : (RuleTable.ofSettings right).starIsKeyword state other with
        | false => exact .same _
        | true =>
            rw [onLeft, onRight] at policies
            exact .operatorStar (policies.resolve_right (by decide))
  · have equal : ∀ first second,
        rule.bodyCategory first body = rule.bodyCategory second body := by
      intro first second
      cases rule with
      | operator =>
          have noStar : body ≠ ['*'] := fun lone => star ⟨rfl, lone⟩
          simp [Rule.bodyCategory, noStar]
      | _ => rfl
    rw [RuleTable.bodyToken, RuleTable.bodyToken, equal]
    exact .same _

end Token.Agree

theorem contains_ofSettings (settings : LexerSettings) (word : String) :
    (RuleTable.ofSettings settings).keywords.contains word =
      (Keyword.isBuiltin word || settings.listsExtra word) := rfl

theorem agree_of_word {left right : LexerSettings} (word : String) :
    Token.Agree left right
      ⟨if (RuleTable.ofSettings left).keywords.contains word then .keyword else .identifier, word⟩
      ⟨if (RuleTable.ofSettings right).keywords.contains word then .keyword else .identifier,
        word⟩ := by
  rw [contains_ofSettings, contains_ofSettings]
  cases builtin : Keyword.isBuiltin word with
  | true => exact .same _
  | false =>
      cases onLeft : left.listsExtra word with
      | true =>
          cases onRight : right.listsExtra word with
          | true => exact .same _
          | false => exact .keywordWord word builtin onLeft onRight
      | false =>
          cases onRight : right.listsExtra word with
          | true => exact .identifierWord word builtin onLeft onRight
          | false => exact .same _

/-- A token that one setting reads has a twin under the other, with the same text behind it. -/
theorem nextToken?_agree (left right : LexerSettings) {previous other : Option Token}
    {state : LexState} {text after : List Char} {token : Token}
    (same : RuleTable.expectsColumn previous = RuleTable.expectsColumn other)
    (found : (RuleTable.ofSettings left).nextToken? previous state text = some (token, after)) :
    ∃ twin, (RuleTable.ofSettings right).nextToken? other state text = some (twin, after) ∧
      Token.Agree left right token twin := by
  obtain ⟨rule, body, next, rfl⟩ := RuleTable.nextBody?_of_nextToken? found
  by_cases noWord : state.inComment = true ∨ Cut.takeWord text = none
  · rw [RuleTable.nextBody?_congr _ (RuleTable.ofSettings right) noWord] at next
    exact ⟨_, RuleTable.nextToken?_of_nextBody? other next, .of_bodyToken state same rule body⟩
  · obtain ⟨inCode, isWord⟩ := not_or.1 noWord
    have code : state.inComment = false := Bool.eq_false_iff.2 inCode
    obtain ⟨⟨word, behind⟩, taken⟩ := Option.ne_none_iff_exists'.1 isWord
    rw [RuleTable.nextBody?_of_takeWord _ code taken] at next
    simp only [Option.some.injEq, Prod.mk.injEq] at next
    obtain ⟨rfl, rfl, rfl⟩ := next
    have nextRight := (RuleTable.ofSettings right).nextBody?_of_takeWord code taken
    refine ⟨_, RuleTable.nextToken?_of_nextBody? other nextRight, ?_⟩
    have category : ∀ (starIsKeyword listed : Bool),
        (if listed then Rule.keyword else Rule.identifier).bodyCategory starIsKeyword word =
          if listed then TokenCategory.keyword else TokenCategory.identifier := by
      intro starIsKeyword listed
      cases listed <;> rfl
    rw [RuleTable.bodyToken, RuleTable.bodyToken, category, category]
    exact agree_of_word (String.ofList word)

/-- A reading under one setting has a twin under the other, token by token, which leaves the same
state and the same rest. -/
theorem Reads.agree {left : LexerSettings} {previous other : Option Token}
    {state final : LexState} {text rest : List Char} {tokens : List Token}
    (reads : Reads (RuleTable.ofSettings left) previous state text tokens final rest)
    (right : LexerSettings)
    (same : RuleTable.expectsColumn previous = RuleTable.expectsColumn other) :
    ∃ twins, Reads (RuleTable.ofSettings right) other state text twins final rest ∧
      List.Forall₂ (Token.Agree left right) tokens twins := by
  -- On the reading, for any two last tokens that a star follows alike: the steps stay together,
  -- since the text and the state behind a token do not depend on its category here.
  induction reads generalizing other with
  | @stop previous state text refused =>
      refine ⟨[], .stop ?_, .nil⟩
      cases found : (RuleTable.ofSettings right).nextToken? other state text with
      | none => rfl
      | some taken =>
          obtain ⟨twin, unexpected, _⟩ := nextToken?_agree right left same.symm found
          rw [refused] at unexpected
          contradiction
  | token found _ ih =>
      obtain ⟨twin, twinFound, agree⟩ := nextToken?_agree left right same found
      obtain ⟨twins, later, agreeLater⟩ := ih (agree.expectsColumn_eq same)
      rw [agree.afterToken_eq] at later
      exact ⟨twin :: twins, .token twinFound later, .cons agree agreeLater⟩

/-! ## Lines and documents -/

theorem scan_agree (left right : LexerSettings) (state : LexState) (text : List Char) :
    List.Forall₂ (Token.Agree left right)
        ((RuleTable.ofSettings left).scan none state text).tokens
        ((RuleTable.ofSettings right).scan none state text).tokens ∧
      ((RuleTable.ofSettings left).scan none state text).state =
        ((RuleTable.ofSettings right).scan none state text).state ∧
      ((RuleTable.ofSettings left).scan none state text).rest =
        ((RuleTable.ofSettings right).scan none state text).rest := by
  have reads := (RuleTable.ofSettings left).reads_scan none state text
  have same : RuleTable.expectsColumn none = RuleTable.expectsColumn none := rfl
  obtain ⟨twins, twinReads, agree⟩ := reads.agree right same
  obtain ⟨tokens, final, rest⟩ := RuleTable.scan_of_reads twinReads
  rw [tokens, final, rest]
  exact ⟨agree, rfl, rfl⟩

theorem texts_eq_of_agree {left right : LexerSettings} {tokens twins : List Token}
    (agree : List.Forall₂ (Token.Agree left right) tokens twins) :
    tokens.map (·.text) = twins.map (·.text) := by
  induction agree with
  | nil => rfl
  | cons head _ ih => rw [List.map_cons, List.map_cons, head.text_eq, ih]

theorem LineReport.ofExtracted_agree (left right : LexerSettings) (index : Nat)
    (state : LexState) (line : Markup.ExtractedLine) :
    LineReport.Agree left right
      (LineReport.ofExtracted (RuleTable.ofSettings left) index state line)
      (LineReport.ofExtracted (RuleTable.ofSettings right) index state line) := by
  obtain ⟨tokens, final, rest⟩ := scan_agree left right state line.text.toList
  have unlexed : ((RuleTable.ofSettings left).lexLine state line.text).unlexed =
      ((RuleTable.ofSettings right).lexLine state line.text).unlexed := by
    rw [RuleTable.lexLine, RuleTable.lexLine, rest]
  exact {
    index_eq := rfl
    literal_eq := rfl
    texts_eq := texts_eq_of_agree tokens
    tokens_agree := tokens
    entryState_eq := rfl
    exitState_eq := final
    unlexed_eq := unlexed
    diagnostics_eq := by
      rw [LineReport.ofExtracted, LineReport.ofExtracted, unlexed] }

theorem DocumentReport.readFrom_agree (left right : LexerSettings) (index : Nat)
    (state : LexState) (lines : List Markup.ExtractedLine) :
    List.Forall₂ (LineReport.Agree left right)
        (readFrom (RuleTable.ofSettings left) index state lines).1
        (readFrom (RuleTable.ofSettings right) index state lines).1 ∧
      (readFrom (RuleTable.ofSettings left) index state lines).2 =
        (readFrom (RuleTable.ofSettings right) index state lines).2 := by
  induction lines generalizing index state with
  | nil => exact ⟨.nil, rfl⟩
  | cons line lines ih =>
      have head := LineReport.ofExtracted_agree left right index state line
      simp only [readFrom]
      rw [← head.exitState_eq]
      obtain ⟨later, final⟩ := ih (index + 1)
        (LineReport.ofExtracted (RuleTable.ofSettings left) index state line).lexed.exitState
      exact ⟨.cons head later, final⟩

/-- The boundaries of tokens, the states, the remainders and the diagnostics of a document do not
depend on the settings of the lexer; categories do only where `Token.Agree` says. -/
theorem boundaries_independent_of_settings (left right : LexerSettings) (lines : List String) :
    DocumentReport.Agree left right (DocumentReport.ofLines (RuleTable.ofSettings left) lines)
      (DocumentReport.ofLines (RuleTable.ofSettings right) lines) := by
  obtain ⟨agree, final⟩ := DocumentReport.readFrom_agree left right 0 {}
    (lines.map Markup.ExtractedLine.ofLiteral)
  exact {
    length_eq := agree.length_eq
    lines_agree := agree
    finalState_eq := final }

end SqlLint
