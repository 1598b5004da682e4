import Mathlib.Data.List.TakeWhile
import SqlLint.Document.Run
import SqlLint.Proofs.Reading

/-!
# The grammar of tokens

What a token of each category looks like, and where it ends: a run ends where the line does or goes
on with a character that is not of its class.  The rules are tried in order, so a body also has
what the earlier rules refused: an operator starts no comment, and an identifier without quotes
starts with no operator (`Rule.refused_of_firstBody?`).  The tokens of a line are in the grammar
one by one, because each is read from the text that starts with it (`Reads.nextToken?_of_split`).
-/

set_option autoImplicit false

namespace SqlLint

namespace Grammar

/-- The characters of operators. -/
def operatorChars : List Char :=
  ['=', '<', '>', '!', '+', '-', '*', '/', '&', '|']

/-- The signs that end an identifier, besides blanks. -/
def delimiters : List Char :=
  [',', '(', ')', '\x7b', '\x7d', '#']

def EndsIdentifier (c : Char) : Prop :=
  c ∈ delimiters ∨ Text.isBlank c = true

/-- The text is at its end or goes on with a character of a kind. -/
def GoesOnWith (kind : Char → Prop) (text : List Char) : Prop :=
  ∀ c, text.head? = some c → kind c

structure Word (text : List Char) : Prop where
  nonempty : text ≠ []
  chars : ∀ c ∈ text, c.isAlphanum = true ∨ c = '_'

structure OperatorRun (text follow : List Char) : Prop where
  nonempty : text ≠ []
  chars : ∀ c ∈ text, c ∈ operatorChars
  noBlockComment : ¬ ['/', '*'] <+: text
  noLineComment : ¬ ['-', '-'] <+: text
  maximal : GoesOnWith (· ∉ operatorChars) follow

structure BlankRun (text : List Char) : Prop where
  nonempty : text ≠ []
  chars : ∀ c ∈ text, Text.isBlank c = true

inductive Literal : List Char → Prop
  | quoted (quote : Char) (inside : List Char) (isQuote : quote ∈ ['"', '\x27', '\x60'])
      (nonempty : inside ≠ []) (oneLine : '\n' ∉ inside) : Literal (quote :: inside ++ [quote])

structure IdentifierRun (text follow : List Char) : Prop where
  nonempty : text ≠ []
  chars : ∀ c ∈ text, ¬ EndsIdentifier c
  noOperator : GoesOnWith (· ∉ operatorChars) text
  maximal : GoesOnWith EndsIdentifier follow

structure LineComment (text follow : List Char) : Prop where
  opening : ['#'] <+: text ∨ ['-', '-'] <+: text
  oneLine : '\n' ∉ text
  maximal : GoesOnWith (· = '\n') follow

end Grammar

/-- The token is in the grammar of its category; `follow` is the text behind it.  Inside a block
comment a comment can be any text. -/
def Token.Grammatical (keywords : KeywordSet) (inComment : Bool) (follow : List Char)
    (token : Token) : Prop :=
  match token.category with
  | .comma => token.text = ","
  | .bracket => token.text = "(" ∨ token.text = ")"
  | .keyword =>
      token.text = "*" ∨ Grammar.Word token.text.toList ∧ keywords.contains token.text = true
  | .operator => Grammar.OperatorRun token.text.toList follow
  | .comment =>
      inComment = false → token.text = "/*" ∨ Grammar.LineComment token.text.toList follow
  | .identifier =>
      Grammar.Literal token.text.toList ∨ Grammar.IdentifierRun token.text.toList follow
  | .whitespace => Grammar.BlankRun token.text.toList
  | .unknown => False

theorem Grammar.Word.isWordChar {text : List Char} (word : Grammar.Word text) :
    ∀ c ∈ text, Text.isWordChar c = true := by
  intro c listed
  simpa [Text.isWordChar] using word.chars c listed

theorem Grammar.Word.of_isWordChar {text : List Char} (nonempty : text ≠ [])
    (chars : ∀ c ∈ text, Text.isWordChar c = true) : Grammar.Word text := by
  refine ⟨nonempty, fun c listed => ?_⟩
  simpa [Text.isWordChar] using chars c listed

/-! ## Bodies -/

namespace Cut

theorem isOperatorChar_iff {c : Char} : isOperatorChar c = true ↔ c ∈ Grammar.operatorChars :=
  List.contains_iff_mem

theorem isIdentifierChar_eq_false_iff {c : Char} :
    isIdentifierChar c = false ↔ Grammar.EndsIdentifier c := by
  rw [isIdentifierChar, Bool.not_eq_false']
  simp [Grammar.EndsIdentifier, Grammar.delimiters, or_assoc]

theorem isIdentifierChar_of_isOperatorChar {c : Char} (operator : isOperatorChar c = true) :
    isIdentifierChar c = true := by
  have inIdentifier : ∀ d ∈ Grammar.operatorChars, isIdentifierChar d = true :=
    List.all_eq_true.1 (by decide)
  exact inIdentifier c (isOperatorChar_iff.1 operator)

/-- What ends an identifier is no character of words or operators either. -/
theorem classes_of_endsIdentifier {c : Char} (ends : Grammar.EndsIdentifier c) :
    isIdentifierChar c = false ∧ Text.isWordChar c = false ∧ isOperatorChar c = false := by
  have outside := isIdentifierChar_eq_false_iff.2 ends
  refine ⟨outside, Bool.eq_false_iff.2 ?_, Bool.eq_false_iff.2 ?_⟩
  · intro word
    rw [isIdentifierChar_of_isWordChar word] at outside
    contradiction
  · intro operator
    rw [isIdentifierChar_of_isOperatorChar operator] at outside
    contradiction

theorem takeRun_spec {member : Char → Bool} {text body after : List Char}
    (taken : takeRun member text = some (body, after)) :
    body ≠ [] ∧ (∀ c ∈ body, member c = true) ∧
      Grammar.GoesOnWith (fun c => member c = false) after := by
  obtain ⟨nonempty, rfl, rfl⟩ := takeRun_eq_some_iff.1 taken
  refine ⟨nonempty, fun c listed => List.mem_takeWhile_imp listed, ?_⟩
  intro c first
  have stop := List.head?_dropWhile_not member text
  rw [first] at stop
  exact stop

theorem takeRun_of_goesOnWith {member : Char → Bool} {body after : List Char}
    (nonempty : body ≠ []) (inside : ∀ c ∈ body, member c = true)
    (stop : Grammar.GoesOnWith (fun c => member c = false) after) :
    takeRun member (body ++ after) = some (body, after) := by
  have noMore : after.takeWhile member = [] ∧ after.dropWhile member = after := by
    cases after with
    | nil => exact ⟨rfl, rfl⟩
    | cons c rest => simp [stop c rfl]
  rw [takeRun_eq_some_iff, List.takeWhile_append_of_pos inside,
    List.dropWhile_append_of_pos inside, noMore.1, noMore.2, List.append_nil]
  exact ⟨nonempty, rfl, rfl⟩

theorem takeChar_spec {c : Char} {text body after : List Char}
    (taken : takeChar c text = some (body, after)) : body = [c] := by
  cases text with
  | nil => contradiction
  | cons first rest =>
      rw [takeChar] at taken
      split at taken
      · cases taken
        rfl
      · contradiction

theorem takeCommentMark_spec {text body after : List Char}
    (taken : takeCommentMark text = some (body, after)) : body = ['/', '*'] := by
  unfold takeCommentMark at taken
  split at taken
  · cases taken
    rfl
  · contradiction

theorem prefix_of_startsLineComment {text : List Char} (starts : startsLineComment text = true) :
    ['#'] <+: text.takeWhile (· != '\n') ∨ ['-', '-'] <+: text.takeWhile (· != '\n') := by
  unfold startsLineComment at starts
  split at starts
  · exact Or.inl ⟨_, rfl⟩
  · exact Or.inr ⟨_, rfl⟩
  · contradiction

theorem takeLineComment_spec {text body after : List Char}
    (taken : takeLineComment text = some (body, after)) : Grammar.LineComment body after := by
  rw [takeLineComment] at taken
  split at taken
  · next starts =>
      cases taken
      refine ⟨prefix_of_startsLineComment starts, ?_, ?_⟩
      · intro listed
        have other := List.mem_takeWhile_imp listed
        contradiction
      · intro c first
        have stop := List.head?_dropWhile_not (· != '\n') text
        rw [first] at stop
        simpa using stop
  · contradiction

theorem not_mem_of_splitLast? {quote : Char} {text before after : List Char}
    (found : splitLast? quote text = some (before, after)) : '\n' ∉ before := by
  induction text generalizing before after with
  | nil => contradiction
  | cons c rest ih =>
      rw [splitLast?] at found
      split at found
      · contradiction
      · next noFeed =>
          split at found
          · next inner behind further =>
              cases found
              intro listed
              rcases List.mem_cons.1 listed with same | listed
              · exact noFeed same.symm
              · exact ih further listed
          · split at found
            · cases found
              exact List.not_mem_nil
            · contradiction

theorem takeQuoted_spec {text body after : List Char}
    (taken : takeQuoted text = some (body, after)) : Grammar.Literal body := by
  cases text with
  | nil => contradiction
  | cons quote rest =>
      rw [takeQuoted] at taken
      split at taken
      · next isQuote =>
          split at taken
          · next c before behind found =>
              cases taken
              refine .quoted quote (c :: before) ?_ (List.cons_ne_nil c before)
                (not_mem_of_splitLast? found)
              simpa [Cut.isQuote, or_assoc] using isQuote
          · contradiction
      · contradiction

theorem takeKeyword_spec {keywords : KeywordSet} {text body after : List Char}
    (taken : takeKeyword keywords text = some (body, after)) :
    Grammar.Word body ∧ keywords.contains (String.ofList body) = true := by
  obtain ⟨word, listed⟩ := Option.filter_eq_some_iff.1 taken
  obtain ⟨run, _⟩ := Option.filter_eq_some_iff.1 word
  obtain ⟨nonempty, chars, _⟩ := takeRun_spec run
  exact ⟨.of_isWordChar nonempty chars, listed⟩

end Cut

/-! ## The order of the rules -/

namespace Rule

/-- The rules before the one that applies refuse the text. -/
theorem refused_of_firstBody? {keywords : KeywordSet} {text body after : List Char} {rule : Rule}
    {before behind : List Rule}
    (found : firstBody? keywords text (before ++ rule :: behind) = some (rule, body, after))
    (fresh : rule ∉ before) : ∀ earlier ∈ before, earlier.body? keywords text = none := by
  rw [firstBody?_append] at found
  cases applied : firstBody? keywords text before with
  | none => exact firstBody?_eq_none_iff.1 applied
  | some taken =>
      rw [applied, Option.some_or] at found
      cases found
      exact absurd (body?_of_firstBody? applied).1 fresh

variable {keywords : KeywordSet} {text body after : List Char}

theorem operatorRun_of_firstBody?
    (found : firstBody? keywords text inCode = some (operator, body, after)) :
    Grammar.OperatorRun body after := by
  have order : inCode =
      [commentBegin, commentLine, comma, bracketLeft, bracketRight, keyword, quoted] ++
        operator :: [identifier, whitespace] := rfl
  obtain ⟨_, takes⟩ := body?_of_firstBody? found
  obtain ⟨nonempty, chars, stop⟩ := Cut.takeRun_spec takes
  obtain ⟨whole, _⟩ := faithful_body? _ _ _ _ _ takes
  rw [order] at found
  have refused := refused_of_firstBody? found (by decide)
  -- A comment at the front would have been read by one of the first two rules.
  have noMark : Cut.takeCommentMark text = none := refused commentBegin (by decide)
  have noLine : Cut.takeLineComment text = none := refused commentLine (by decide)
  refine ⟨nonempty, fun c listed => Cut.isOperatorChar_iff.1 (chars c listed), ?_, ?_, ?_⟩
  · rintro ⟨others, rfl⟩
    rw [← whole] at noMark
    contradiction
  · rintro ⟨others, rfl⟩
    rw [← whole] at noLine
    contradiction
  · intro c first listed
    have outside : Cut.isOperatorChar c = false := stop c first
    rw [Cut.isOperatorChar_iff.2 listed] at outside
    contradiction

theorem identifierRun_of_firstBody?
    (found : firstBody? keywords text inCode = some (identifier, body, after)) :
    Grammar.IdentifierRun body after := by
  have order : inCode =
      [commentBegin, commentLine, comma, bracketLeft, bracketRight, keyword, quoted, operator] ++
        identifier :: [whitespace] := rfl
  obtain ⟨_, takes⟩ := body?_of_firstBody? found
  obtain ⟨nonempty, chars, stop⟩ := Cut.takeRun_spec takes
  obtain ⟨whole, _⟩ := faithful_body? _ _ _ _ _ takes
  rw [order] at found
  have refused := refused_of_firstBody? found (by decide)
  have noOperator : Cut.takeRun Cut.isOperatorChar text = none := refused operator (by decide)
  refine ⟨nonempty, ?_, ?_, fun c first => Cut.isIdentifierChar_eq_false_iff.1 (stop c first)⟩
  · intro c listed ends
    have inside := chars c listed
    rw [Cut.isIdentifierChar_eq_false_iff.2 ends] at inside
    contradiction
  · -- The operator rule comes earlier and takes any text that starts with one of its characters.
    intro c first listed
    cases body with
    | nil => contradiction
    | cons d others =>
        cases first
        rw [← whole, List.cons_append, Cut.takeRun_cons (Cut.isOperatorChar_iff.2 listed)]
          at noOperator
        contradiction

end Rule

/-! ## Tokens -/

theorem RuleTable.grammatical_of_nextToken? {table : RuleTable} {previous : Option Token}
    {state : LexState} {text after : List Char} {token : Token}
    (found : table.nextToken? previous state text = some (token, after)) :
    token.Grammatical table.keywords state.inComment after := by
  obtain ⟨rule, body, next, rfl⟩ := nextBody?_of_nextToken? found
  obtain ⟨listed, takes⟩ := Rule.body?_of_firstBody? next
  cases comment : state.inComment with
  | true =>
      rw [rules_of_comment comment] at listed
      have isComment : rule = .commentEnd ∨ rule = .commentRest := by simpa using listed
      rcases isComment with rfl | rfl <;> exact fun code => absurd code (by decide)
  | false =>
      have order : rules state = Rule.inCode := if_neg (by simp [comment])
      rw [nextBody?, order] at next
      rw [order] at listed
      -- One case for each rule outside comments, whose body has the shape of its category.
      cases rule with
      | commentEnd => exact absurd listed (by decide)
      | commentRest => exact absurd listed (by decide)
      | commentBegin =>
          intro _
          rw [Cut.takeCommentMark_spec takes]
          exact Or.inl rfl
      | commentLine =>
          intro _
          refine Or.inr ?_
          rw [toList_text_bodyToken]
          exact Cut.takeLineComment_spec takes
      | comma =>
          rw [Cut.takeChar_spec takes]
          rfl
      | bracketLeft =>
          rw [Cut.takeChar_spec takes]
          exact Or.inl rfl
      | bracketRight =>
          rw [Cut.takeChar_spec takes]
          exact Or.inr rfl
      | keyword =>
          refine Or.inr ?_
          rw [toList_text_bodyToken]
          exact Cut.takeKeyword_spec takes
      | quoted =>
          refine Or.inl ?_
          rw [toList_text_bodyToken]
          exact Cut.takeQuoted_spec takes
      | operator =>
          have run := Rule.operatorRun_of_firstBody? next
          by_cases star : (body = ['*'] && table.starIsKeyword state previous) = true
          · have lone := (Bool.and_eq_true_iff.1 star).1
            rw [decide_eq_true_eq] at lone
            rw [bodyToken, Rule.bodyCategory, if_pos star, lone]
            exact Or.inl rfl
          · rw [bodyToken, Rule.bodyCategory, if_neg star]
            rw [← String.toList_ofList (l := body)] at run
            exact run
      | identifier =>
          refine Or.inr ?_
          rw [toList_text_bodyToken]
          exact Rule.identifierRun_of_firstBody? next
      | whitespace =>
          obtain ⟨nonempty, chars, _⟩ := Cut.takeRun_spec takes
          constructor
          · rw [toList_text_bodyToken]
            exact nonempty
          · rw [toList_text_bodyToken]
            exact chars

/-- Under any settings, each token of a line is in the grammar of its category, in the state that
the tokens before it leave and with what follows it in the line. -/
theorem tokens_in_grammar (settings : LexerSettings) (state : LexState) (line : String)
    {before behind : List Token} {token : Token}
    (split : ((RuleTable.ofSettings settings).lexLine state line).tokens =
      before ++ token :: behind) :
    ∃ follow : String,
      String.join (before.map (·.text)) ++ token.text ++ follow = line ∧
        token.Grammatical (KeywordSet.withExtra settings.extraKeywords)
          (state.replay before).inComment follow.toList := by
  have reads := (RuleTable.ofSettings settings).reads_scan none state line.toList
  have tokens : ((RuleTable.ofSettings settings).scan none state line.toList).tokens =
      before ++ token :: behind := split
  rw [tokens] at reads
  refine ⟨String.ofList (behind.flatMap (·.text.toList) ++
    ((RuleTable.ofSettings settings).scan none state line.toList).rest), ?_, ?_⟩
  · rw [← String.toList_inj]
    refine Eq.trans ?_ reads.append_rest
    simp [String.toList_join, List.flatMap_map]
  · rw [String.toList_ofList]
    exact RuleTable.grammatical_of_nextToken? reads.nextToken?_of_split

theorem tokens_in_grammar_of_operator_in_brackets :
    ((RuleTable.ofSettings {}).lexLine {} "(/) --=").tokens =
        [⟨.bracket, "("⟩] ++
          ⟨.operator, "/"⟩ :: [⟨.bracket, ")"⟩, ⟨.whitespace, " "⟩, ⟨.comment, "--="⟩] ∧
      ∃ follow : String, String.join ["("] ++ "/" ++ follow = "(/) --=" ∧
        Token.Grammatical (KeywordSet.withExtra []) false follow.toList ⟨.operator, "/"⟩ := by
  have split : ((RuleTable.ofSettings {}).lexLine {} "(/) --=").tokens =
      [⟨.bracket, "("⟩] ++
        ⟨.operator, "/"⟩ :: [⟨.bracket, ")"⟩, ⟨.whitespace, " "⟩, ⟨.comment, "--="⟩] := by
    decide +kernel
  exact ⟨split, tokens_in_grammar {} {} "(/) --=" split⟩

end SqlLint
