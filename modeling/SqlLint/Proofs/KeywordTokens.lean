import SqlLint.Document.Run
import SqlLint.Proofs.TokenGrammar

/-!
# Words of the keyword set

A keyword takes in what stands behind it, an opening bracket or white space, or it ends the line
(`Cut.keywordTail?_isSome_iff`).  In front of anything else the rule for keywords refuses a word of
the set.  The rule for identifiers then takes the same word if it is a token at all, and what stands
behind it is one of the other delimiters (`RuleTable.recognisedBefore_of_nextToken?`).
-/

set_option autoImplicit false

namespace SqlLint

namespace Grammar

/-- The characters in front of which a keyword can end. -/
def EndsKeyword (c : Char) : Prop :=
  c = '(' ∨ Text.isBlank c = true

/-- The delimiters in front of which a word is no keyword. -/
def otherDelimiters : List Char :=
  [',', ')', '\x7b', '\x7d', '#']

end Grammar

/-- The category of a token that is a word of the set; `follow` is the text behind it. -/
structure Token.RecognisedBefore (follow : List Char) (token : Token) : Prop where
  keyword : Grammar.GoesOnWith Grammar.EndsKeyword follow → token.category = .keyword
  identifier : ¬ Grammar.GoesOnWith Grammar.EndsKeyword follow →
    token.category = .identifier ∧ ∃ c rest, follow = c :: rest ∧ c ∈ Grammar.otherDelimiters

namespace Grammar

theorem EndsKeyword.isWordChar_eq_false {c : Char} (ends : EndsKeyword c) :
    Text.isWordChar c = false := by
  rcases ends with rfl | blank
  · decide
  · exact Text.isWordChar_of_isBlank blank

theorem EndsIdentifier.mem_otherDelimiters {c : Char} (ends : EndsIdentifier c)
    (noKeyword : ¬ EndsKeyword c) : c ∈ otherDelimiters := by
  have noBracket : c ≠ '(' := fun bracket => noKeyword (Or.inl bracket)
  have delimiter : c ∈ delimiters := ends.resolve_right fun blank => noKeyword (Or.inr blank)
  simpa [delimiters, otherDelimiters, noBracket] using delimiter

end Grammar

namespace Cut

theorem keywordTail?_isSome_iff {text : List Char} :
    (keywordTail? text).isSome = true ↔ Grammar.GoesOnWith Grammar.EndsKeyword text := by
  cases text with
  | nil => simp [keywordTail?, Grammar.GoesOnWith]
  | cons c rest =>
      by_cases bracket : c = '('
      · simp [keywordTail?, Grammar.GoesOnWith, Grammar.EndsKeyword, bracket]
      · by_cases blank : Text.isBlank c = true
        · simp [keywordTail?, Grammar.GoesOnWith, Grammar.EndsKeyword, bracket, blank]
        · simp [keywordTail?, Grammar.GoesOnWith, Grammar.EndsKeyword, bracket, blank]

theorem goesOnWith_of_takeKeyword {keywords : KeywordSet} {text word after : List Char}
    (taken : takeKeyword keywords text = some (word, after)) :
    Grammar.GoesOnWith Grammar.EndsKeyword after := by
  obtain ⟨wordTaken, _⟩ := Option.filter_eq_some_iff.1 taken
  obtain ⟨_, ends⟩ := Option.filter_eq_some_iff.1 wordTaken
  exact keywordTail?_isSome_iff.1 ends

theorem takeKeyword_of_word {keywords : KeywordSet} {text after : List Char}
    (word : Grammar.Word text) (listed : keywords.contains (String.ofList text) = true)
    (ends : Grammar.GoesOnWith Grammar.EndsKeyword after) :
    takeKeyword keywords (text ++ after) = some (text, after) := by
  have run : takeRun Text.isWordChar (text ++ after) = some (text, after) :=
    takeRun_of_goesOnWith word.nonempty word.isWordChar
      fun c first => (ends c first).isWordChar_eq_false
  rw [takeKeyword, takeWord, run, Option.filter_some, if_pos (keywordTail?_isSome_iff.2 ends),
    Option.filter_some, if_pos listed]

/-- An identifier that ends where no keyword can end. -/
theorem otherDelimiter_of_takeRun {text word after : List Char}
    (run : takeRun isIdentifierChar text = some (word, after))
    (noKeyword : ¬ Grammar.GoesOnWith Grammar.EndsKeyword after) :
    ∃ c rest, after = c :: rest ∧ c ∈ Grammar.otherDelimiters := by
  obtain ⟨_, _, stop⟩ := takeRun_spec run
  simp only [Grammar.GoesOnWith, not_forall] at noKeyword
  obtain ⟨c, first, noEnd⟩ := noKeyword
  obtain ⟨rest, rfl⟩ := List.head?_eq_some_iff.1 first
  have ends := isIdentifierChar_eq_false_iff.1 (stop c rfl)
  exact ⟨c, rest, rfl, ends.mem_otherDelimiters noEnd⟩

end Cut

/-- A word of the set that is read outside comments. -/
theorem RuleTable.recognisedBefore_of_nextToken? {table : RuleTable} {previous : Option Token}
    {state : LexState} {token : Token} {after : List Char} (code : state.inComment = false)
    (word : Grammar.Word token.text.toList) (listed : table.keywords.contains token.text = true)
    (found : table.nextToken? previous state (token.text.toList ++ after) = some (token, after)) :
    token.RecognisedBefore after := by
  obtain ⟨rule, body, next, sameToken⟩ := nextBody?_of_nextToken? found
  have category : token.category = rule.bodyCategory (table.starIsKeyword state previous) body :=
    congrArg Token.category sameToken
  have starts : ∃ c rest, token.text.toList ++ after = c :: rest ∧ Text.isWordChar c = true := by
    obtain ⟨c, rest, same⟩ := List.exists_cons_of_ne_nil word.nonempty
    exact ⟨c, rest ++ after, by rw [same, List.cons_append], word.isWordChar c (by simp [same])⟩
  obtain ⟨c, rest, same, inWord⟩ := starts
  rw [same, table.nextBody?_of_isWordChar code inWord, ← same] at next
  constructor
  · intro ends
    rw [← String.ofList_toList (s := token.text)] at listed
    rw [Cut.takeKeyword_of_word word listed ends] at next
    cases next
    exact category
  · intro noKeyword
    cases taken : Cut.takeKeyword table.keywords (token.text.toList ++ after) with
    | some keyword =>
        -- A keyword would be taken up to the same place, but it cannot end there.
        rw [taken] at next
        cases next
        exact absurd (Cut.goesOnWith_of_takeKeyword taken) noKeyword
    | none =>
        rw [taken] at next
        obtain ⟨_, run, built⟩ := Option.map_eq_some_iff.1 next
        cases built
        exact ⟨category, Cut.otherDelimiter_of_takeRun run noKeyword⟩

/-- Under any settings and from any state, a token of a line that is a word of the keyword set and
no comment is a keyword if an opening bracket, white space or the end of the line follows, and an
identifier otherwise, in front of another delimiter.  Besides asterisks no other token is a
keyword. -/
theorem keywords_are_recognised_exactly (settings : LexerSettings) (state : LexState)
    (line : String) {before behind : List Token} {token : Token}
    (split : ((RuleTable.ofSettings settings).lexLine state line).tokens =
      before ++ token :: behind) :
    ∃ follow : String, String.join (before.map (·.text)) ++ token.text ++ follow = line ∧
      (token.category ≠ .comment → Grammar.Word token.text.toList →
        (KeywordSet.withExtra settings.extraKeywords).contains token.text = true →
        token.RecognisedBefore follow.toList) ∧
      (token.category = .keyword → token.text = "*" ∨
        Grammar.Word token.text.toList ∧
          (KeywordSet.withExtra settings.extraKeywords).contains token.text = true) := by
  obtain ⟨follow, whole, found⟩ := RuleTable.nextToken?_of_split_lexLine split
  refine ⟨follow, whole, ?_, ?_⟩
  · intro noComment word listed
    have code : (state.replay before).inComment = false :=
      Bool.eq_false_iff.2 fun inside => noComment (RuleTable.category_of_inComment inside found)
    exact RuleTable.recognisedBefore_of_nextToken? code word listed found
  · intro keyword
    have grammatical := RuleTable.grammatical_of_nextToken? found
    simp only [Token.Grammatical, keyword] at grammatical
    exact grammatical

theorem keywords_are_recognised_exactly_before_brace :
    ((RuleTable.ofSettings {}).lexLine {} "(ALL\x7b").tokens =
        [⟨.bracket, "("⟩] ++ ⟨.identifier, "ALL"⟩ :: [] ∧
      Grammar.Word "ALL".toList ∧ (KeywordSet.withExtra []).contains "ALL" = true ∧
      ∃ follow : String, String.join ["("] ++ "ALL" ++ follow = "(ALL\x7b" ∧
        Token.RecognisedBefore follow.toList ⟨.identifier, "ALL"⟩ := by
  have split : ((RuleTable.ofSettings {}).lexLine {} "(ALL\x7b").tokens =
      [⟨.bracket, "("⟩] ++ ⟨.identifier, "ALL"⟩ :: [] := by
    decide +kernel
  have word : Grammar.Word "ALL".toList := ⟨by decide, by simp⟩
  have listed : (KeywordSet.withExtra []).contains "ALL" = true := by
    rw [KeywordSet.contains, isBuiltin_of_upper (by decide) (by decide), Bool.true_or]
  obtain ⟨follow, whole, recognised, _⟩ := keywords_are_recognised_exactly {} {} "(ALL\x7b" split
  exact ⟨split, word, listed, follow, whole, recognised (by decide) word listed⟩

end SqlLint
