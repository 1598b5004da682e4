import SqlLint.Proofs.BlankRuns
import SqlLint.Proofs.KeywordTokens
import SqlLint.Proofs.LetterCase
import SqlLint.Proofs.SettingsIndependence
import SqlLint.Proofs.SettingsRoundTrip

/-!
# Extra keywords

The extra keywords that a validation accepts are the words of the grammar
(`extraKeywordFault?_eq_none_iff_word`), in any letter case (`Grammar.Word.of_sameWord`).  In front
of an opening bracket, of white space or of the end of the line such a word is the next keyword.
Keyword sets are asked for words only, so that sets with the same words lex alike
(`RuleTable.lexLine_congr`), and an extra keyword that is no word makes no difference.
-/

set_option autoImplicit false

namespace SqlLint

/-! ## Words in any letter case -/

/-- The validation accepts the words of the grammar. -/
theorem extraKeywordFault?_eq_none_iff_word {word : String} :
    extraKeywordFault? word = none ↔ Grammar.Word word.toList := by
  rw [extraKeywordFault?_eq_none_iff, String.isEmpty_eq_false_iff]
  constructor
  · rintro ⟨nonempty, chars⟩
    exact .of_isWordChar (mt String.toList_eq_nil_iff.1 nonempty) (List.all_eq_true.1 chars)
  · intro word
    exact ⟨mt String.toList_eq_nil_iff.2 word.nonempty, List.all_eq_true.2 word.isWordChar⟩

theorem Grammar.Word.of_sameWord {word variant : String} (isWord : Grammar.Word word.toList)
    (same : Text.sameWord word variant = true) : Grammar.Word variant.toList := by
  have chars := Text.sameWord_iff_toList.1 same
  refine .of_isWordChar ?_ fun c listed => ?_
  · intro empty
    rw [empty, List.map_nil, List.map_eq_nil_iff] at chars
    exact isWord.nonempty chars
  · have inUpper : c.toUpper ∈ word.toList.map Char.toUpper := by
      rw [chars]
      exact List.mem_map_of_mem listed
    obtain ⟨original, inWord, upper⟩ := List.mem_map.1 inUpper
    have inClass := isWord.isWordChar original inWord
    rwa [← Text.isWordChar_toUpper, upper, Text.isWordChar_toUpper] at inClass

theorem Text.sameWord_symm {left right : String} (same : Text.sameWord left right = true) :
    Text.sameWord right left = true :=
  Text.sameWord_iff.2 (Text.sameWord_iff.1 same).symm

theorem LexerSettings.listsExtra_iff {settings : LexerSettings} {text : String} :
    settings.listsExtra text = true ↔
      ∃ word ∈ settings.extraKeywords, Text.sameWord word text = true := by
  simp [listsExtra, Text.sameWord_iff]

/-! ## An extra keyword at the front of a line -/

/-- A word of the set that ends where a keyword can end is the first token of a line. -/
theorem RuleTable.head?_lexLine_of_word (table : RuleTable) {state : LexState}
    (code : state.inComment = false) {word tail : String} (isWord : Grammar.Word word.toList)
    (listed : table.keywords.contains word = true)
    (ends : Grammar.GoesOnWith Grammar.EndsKeyword tail.toList) :
    (table.lexLine state (word ++ tail)).tokens.head? = some ⟨.keyword, word⟩ := by
  obtain ⟨c, others, chars⟩ := List.exists_cons_of_ne_nil isWord.nonempty
  have inWord : Text.isWordChar c = true := isWord.isWordChar c (by rw [chars]; simp)
  rw [← String.ofList_toList (s := word)] at listed
  have taken := Cut.takeKeyword_of_word isWord listed ends
  have next : table.nextBody? state (word.toList ++ tail.toList) =
      some (.keyword, word.toList, tail.toList) := by
    rw [chars, List.cons_append] at taken ⊢
    rw [table.nextBody?_of_isWordChar code inWord, taken]
    rfl
  rw [head?_lexLine, String.toList_append, nextToken?_of_nextBody? none next]
  simp [bodyToken, Rule.bodyCategory]

/-! ## Sets with the same words -/

/-- The sets have the same words. -/
def KeywordSet.SameWords (first second : KeywordSet) : Prop :=
  ∀ word : String, Grammar.Word word.toList → first.contains word = second.contains word

theorem Cut.keyword?_congr {first second : KeywordSet} (same : first.SameWords second)
    (text : List Char) : Cut.keyword? first text = Cut.keyword? second text := by
  rw [Cut.keyword?, Cut.keyword?]
  cases run : takeRun Text.isWordChar (text.dropWhile Text.isBlank) with
  | none => rfl
  | some taken =>
      obtain ⟨nonempty, chars, _⟩ := takeRun_spec run
      have isWord : Grammar.Word (String.ofList taken.1).toList := by
        rw [String.toList_ofList]
        exact .of_isWordChar nonempty chars
      simp only [same _ isWord]

namespace RuleTable

variable {first second : RuleTable}

theorem firstCut?_congr (same : first.keywords.SameWords second.keywords) (state : LexState)
    (text : List Char) : first.firstCut? state text = second.firstCut? state text := by
  have cuts : ∀ rule : Rule, rule.cut? first.keywords text = rule.cut? second.keywords text := by
    intro rule
    cases rule with
    | keyword => exact Cut.keyword?_congr same text
    | _ => rfl
  rw [firstCut?, firstCut?]
  simp only [cuts]

theorem scan_congr (same : first.keywords.SameWords second.keywords)
    (policy : first.starExpansion = second.starExpansion) (previous : Option Token)
    (state : LexState) (text : List Char) :
    first.scan previous state text = second.scan previous state text := by
  have stars : ∀ state previous,
      first.starIsKeyword state previous = second.starIsKeyword state previous := by
    intro state previous
    rw [starIsKeyword, starIsKeyword, policy]
  fun_induction first.scan previous state text with
  | case1 previous state text refused =>
      rw [firstCut?_congr same] at refused
      rw [scan]
      split
      · rfl
      · next applied =>
          rw [refused] at applied
          contradiction
  | case2 previous state text rule cut made tokens later ih =>
      have sameTokens : tokens = rule.tokens (second.starIsKeyword state previous) cut := by
        rw [← stars]
      have sameLater : later = second.scan (lastSignificant previous tokens)
          (rule.nextState cut state) cut.rest := ih
      rw [firstCut?_congr same] at made
      rw [scan]
      split
      · next refused =>
          rw [made] at refused
          contradiction
      · next applied =>
          rw [made] at applied
          cases applied
          rw [← sameTokens, sameLater]

/-- Lexing asks a set for words only. -/
theorem lexLine_congr (same : first.keywords.SameWords second.keywords)
    (policy : first.starExpansion = second.starExpansion) (state : LexState) (line : String) :
    first.lexLine state line = second.lexLine state line := by
  rw [lexLine, lexLine, scan_congr same policy]

end RuleTable

/-! ## Extra keywords that are refused -/

namespace LexerSettings

/-- The settings without the extra keywords that the validation refuses. -/
def withoutRefused (settings : LexerSettings) : LexerSettings :=
  { settings with
    extraKeywords := settings.extraKeywords.filter fun word => (extraKeywordFault? word).isNone }

theorem listsExtra_withoutRefused {settings : LexerSettings} {text : String}
    (isWord : Grammar.Word text.toList) :
    settings.withoutRefused.listsExtra text = settings.listsExtra text := by
  rw [Bool.eq_iff_iff, listsExtra_iff, listsExtra_iff]
  constructor
  · rintro ⟨word, listed, same⟩
    exact ⟨word, List.mem_of_mem_filter listed, same⟩
  · rintro ⟨word, listed, same⟩
    have faultless := extraKeywordFault?_eq_none_iff_word.2
      (isWord.of_sameWord (Text.sameWord_symm same))
    exact ⟨word, List.mem_filter.2 ⟨listed, Option.isNone_iff_eq_none.2 faultless⟩, same⟩

theorem sameWords_withoutRefused (settings : LexerSettings) :
    (RuleTable.ofSettings settings).keywords.SameWords
      (RuleTable.ofSettings settings.withoutRefused).keywords := by
  intro word isWord
  rw [contains_ofSettings, contains_ofSettings, listsExtra_withoutRefused isWord]

end LexerSettings

/-- A keyword of a line that is no asterisk and no built-in word. -/
theorem RuleTable.word_of_extraKeyword {settings : LexerSettings} {state : LexState} {line : String}
    {token : Token} (listed : token ∈ ((ofSettings settings).lexLine state line).tokens)
    (keyword : token.category = .keyword) (noStar : token.text ≠ "*") :
    Grammar.Word token.text.toList ∧
      (Keyword.isBuiltin token.text = false → settings.listsExtra token.text = true) := by
  obtain ⟨before, behind, split⟩ := List.append_of_mem listed
  obtain ⟨follow, _, found⟩ := nextToken?_of_split_lexLine split
  have grammatical := grammatical_of_nextToken? found
  simp only [Token.Grammatical, keyword] at grammatical
  obtain ⟨isWord, inSet⟩ := grammatical.resolve_left noStar
  refine ⟨isWord, fun noBuiltin => ?_⟩
  rwa [contains_ofSettings, noBuiltin, Bool.false_or] at inSet

/-- An extra keyword of valid settings is recognised, in any letter case and outside comments,
wherever an opening bracket, white space or the end of the line follows.  Under any settings a
keyword of a line that is no asterisk and no built-in word is a word of the grammar and one of the
extra keywords, in some letter case.  Extra keywords that the validation refuses are never among
them: without them every line is lexed alike. -/
theorem extra_keywords_are_recognised_iff_accepted :
    (∀ (settings : Settings) (word variant tail : String) (state : LexState),
      settings.validate = .ok settings → word ∈ settings.lexer.extraKeywords →
      Text.sameWord word variant = true → state.inComment = false →
      Grammar.GoesOnWith Grammar.EndsKeyword tail.toList →
      ((RuleTable.ofSettings settings.lexer).lexLine state (variant ++ tail)).tokens.head? =
        some ⟨.keyword, variant⟩) ∧
    (∀ (settings : LexerSettings) (state : LexState) (line : String),
      ∀ token ∈ ((RuleTable.ofSettings settings).lexLine state line).tokens,
        token.category = .keyword → token.text ≠ "*" → Keyword.isBuiltin token.text = false →
        Grammar.Word token.text.toList ∧
          ∃ word ∈ settings.extraKeywords, Text.sameWord word token.text = true) ∧
    (∀ (settings : LexerSettings) (state : LexState) (line word : String),
      extraKeywordFault? word ≠ none →
      ∀ token ∈ ((RuleTable.ofSettings settings).lexLine state line).tokens,
        token.category = .keyword → token.text ≠ "*" → Text.sameWord word token.text = false) ∧
    (∀ (settings : LexerSettings) (state : LexState) (line : String),
      (RuleTable.ofSettings settings).lexLine state line =
        (RuleTable.ofSettings settings.withoutRefused).lexLine state line) := by
  refine ⟨?recognised, ?extra, ?refused, ?without⟩
  case recognised =>
    intro settings word variant tail state valid listed same code ends
    have faultless := (Settings.fault?_eq_none_iff.1 (Settings.validate_eq_ok_iff.1 valid)).1
    have isWord := extraKeywordFault?_eq_none_iff_word.1 (faultless word listed)
    have inSet : (RuleTable.ofSettings settings.lexer).keywords.contains variant = true := by
      rw [contains_ofSettings, LexerSettings.listsExtra_iff.2 ⟨word, listed, same⟩, Bool.or_true]
    exact RuleTable.head?_lexLine_of_word _ code (isWord.of_sameWord same) inSet ends
  case extra =>
    intro settings state line token listed keyword noStar noBuiltin
    obtain ⟨isWord, extra⟩ := RuleTable.word_of_extraKeyword listed keyword noStar
    exact ⟨isWord, LexerSettings.listsExtra_iff.1 (extra noBuiltin)⟩
  case refused =>
    intro settings state line word fault token listed keyword noStar
    have isWord := (RuleTable.word_of_extraKeyword listed keyword noStar).1
    refine Bool.eq_false_iff.2 fun same => fault ?_
    exact extraKeywordFault?_eq_none_iff_word.2 (isWord.of_sameWord (Text.sameWord_symm same))
  case without =>
    intro settings state line
    exact RuleTable.lexLine_congr settings.sameWords_withoutRefused rfl state line

theorem extra_keywords_are_recognised_iff_accepted_of_underscored_word :
    let settings : Settings := { lexer := { extraKeywords := ["7_Go", "go-1"] } }
    let accepted : Settings := { lexer := { extraKeywords := ["7_Go"] } }
    let tokens := ((RuleTable.ofSettings settings.lexer).lexLine {} ("7_gO" ++ "(x)")).tokens
    (accepted.validate = .ok accepted ∧ settings.validate ≠ .ok settings ∧
      tokens.head? = some ⟨.keyword, "7_gO"⟩) ∧
    (Keyword.isBuiltin "7_gO" = false ∧ Grammar.Word "7_gO".toList ∧
      ∃ word ∈ settings.lexer.extraKeywords, Text.sameWord word "7_gO" = true) ∧
    (extraKeywordFault? "go-1" ≠ none ∧ Text.sameWord "go-1" "7_gO" = false) := by
  intro settings accepted tokens
  obtain ⟨recognised, extra, refused, without⟩ := extra_keywords_are_recognised_iff_accepted
  have valid : accepted.validate = .ok accepted := by decide +kernel
  have fault : extraKeywordFault? "go-1" ≠ none := by decide +kernel
  have invalid : settings.validate ≠ .ok settings := by decide +kernel
  have upper : Text.upperAscii "7_gO" = "7_GO" := by
    rw [← String.toList_inj, Text.toList_upperAscii]
    decide
  have noBuiltin : Keyword.isBuiltin "7_gO" = false := by
    rw [Keyword.isBuiltin, upper]
    decide
  have ends : Grammar.GoesOnWith Grammar.EndsKeyword "(x)".toList := by
    intro c first
    cases first
    exact Or.inl rfl
  have first : tokens.head? = some ⟨.keyword, "7_gO"⟩ := by
    have alone := recognised accepted "7_Go" "7_gO" "(x)" {} valid List.mem_cons_self
      (Text.sameWord_iff_toList.2 (by decide)) rfl ends
    have dropped : settings.lexer.withoutRefused = accepted.lexer := by decide +kernel
    change ((RuleTable.ofSettings settings.lexer).lexLine _ _).tokens.head? = _
    rw [without, dropped]
    exact alone
  have listed := List.mem_of_head? first
  exact ⟨⟨valid, invalid, first⟩,
    ⟨noBuiltin, extra settings.lexer {} _ _ listed rfl (by decide) noBuiltin⟩, fault,
    refused settings.lexer {} _ "go-1" fault _ listed rfl (by decide)⟩

end SqlLint
