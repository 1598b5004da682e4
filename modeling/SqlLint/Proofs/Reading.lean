import SqlLint.Proofs.Body

/-!
# Reading token by token

`Reads table previous state text tokens final rest` says that the rules take `tokens` off the text
one after the other, each with the first body in the order of the rules, and leave `rest`, on which
no body stands.  The state is moved by the tokens alone.  A text has one reading (`Reads.unique`),
and it is what the scan by rules gives (`RuleTable.reads_scan`): blanks that a rule takes in front
of a body or behind it are the tokens that would be read there anyway.
-/

set_option autoImplicit false

namespace SqlLint

namespace RuleTable

/-- The token that a rule makes of a body. -/
def bodyToken (table : RuleTable) (previous : Option Token) (state : LexState) (rule : Rule)
    (body : List Char) : Token :=
  ⟨rule.bodyCategory (table.starIsKeyword state previous) body, String.ofList body⟩

theorem toList_text_bodyToken (table : RuleTable) (previous : Option Token) (state : LexState)
    (rule : Rule) (body : List Char) :
    (table.bodyToken previous state rule body).text.toList = body :=
  String.toList_ofList

def nextToken? (table : RuleTable) (previous : Option Token) (state : LexState)
    (text : List Char) : Option (Token × List Char) :=
  (table.nextBody? state text).map fun (rule, body, after) =>
    (table.bodyToken previous state rule body, after)

theorem nextToken?_eq_none_iff {table : RuleTable} {previous : Option Token} {state : LexState}
    {text : List Char} :
    table.nextToken? previous state text = none ↔ table.nextBody? state text = none := by
  simp [nextToken?]

theorem nextToken?_of_nextBody? {table : RuleTable} {state : LexState} {text : List Char}
    {rule : Rule} {body after : List Char} (previous : Option Token)
    (found : table.nextBody? state text = some (rule, body, after)) :
    table.nextToken? previous state text =
      some (table.bodyToken previous state rule body, after) := by
  rw [nextToken?, found]
  rfl

theorem nextBody?_of_nextToken? {table : RuleTable} {previous : Option Token} {state : LexState}
    {text : List Char} {token : Token} {after : List Char}
    (found : table.nextToken? previous state text = some (token, after)) :
    ∃ rule body, table.nextBody? state text = some (rule, body, after) ∧
      token = table.bodyToken previous state rule body := by
  obtain ⟨⟨rule, body, behind⟩, next, same⟩ := Option.map_eq_some_iff.1 found
  simp only [Prod.mk.injEq] at same
  obtain ⟨rfl, rfl⟩ := same
  exact ⟨rule, body, next, rfl⟩

theorem append_of_nextToken? {table : RuleTable} {previous : Option Token} {state : LexState}
    {text : List Char} {token : Token} {after : List Char}
    (found : table.nextToken? previous state text = some (token, after)) :
    token.text.toList ++ after = text ∧ token.text ≠ "" := by
  obtain ⟨rule, body, next, rfl⟩ := nextBody?_of_nextToken? found
  obtain ⟨_, takes⟩ := Rule.body?_of_firstBody? next
  obtain ⟨whole, nonempty⟩ := Rule.faithful_body? _ _ _ _ _ takes
  refine ⟨?_, ?_⟩
  · rw [toList_text_bodyToken]
    exact whole
  · intro empty
    exact nonempty (String.ofList_eq_empty_iff.1 empty)

theorem nextToken?_nil (table : RuleTable) (previous : Option Token) (state : LexState) :
    table.nextToken? previous state [] = none := by
  cases found : table.nextToken? previous state [] with
  | none => rfl
  | some taken =>
      obtain ⟨whole, nonempty⟩ := append_of_nextToken? found
      rw [List.append_eq_nil_iff, String.toList_eq_nil_iff] at whole
      exact absurd whole.1 nonempty

/-- Inside a block comment every token is a comment. -/
theorem category_of_inComment {table : RuleTable} {previous : Option Token} {state : LexState}
    {text : List Char} {token : Token} {after : List Char} (inside : state.inComment = true)
    (found : table.nextToken? previous state text = some (token, after)) :
    token.category = .comment := by
  obtain ⟨rule, body, next, rfl⟩ := nextBody?_of_nextToken? found
  rw [nextBody?, rules_of_comment inside] at next
  obtain ⟨listed, _⟩ := Rule.body?_of_firstBody? next
  simp only [List.mem_cons, List.not_mem_nil, or_false] at listed
  rcases listed with rfl | rfl <;> rfl

theorem category_of_isBlank {table : RuleTable} {previous : Option Token} {state : LexState}
    {text after : List Char} {token : Token} (code : state.inComment = false) {c : Char}
    (starts : text.head? = some c) (blank : Text.isBlank c = true)
    (found : table.nextToken? previous state text = some (token, after)) :
    token.category = .whitespace := by
  obtain ⟨rest, rfl⟩ := List.head?_eq_some_iff.1 starts
  have next := nextToken?_of_nextBody? previous (table.nextBody?_of_isBlank code rest blank)
  rw [next] at found
  cases found
  rfl

end RuleTable

inductive Reads (table : RuleTable) :
    Option Token → LexState → List Char → List Token → LexState → List Char → Prop
  | stop {previous : Option Token} {state : LexState} {text : List Char}
      (refused : table.nextToken? previous state text = none) :
      Reads table previous state text [] state text
  | token {previous : Option Token} {state final : LexState} {text after rest : List Char}
      {token : Token} {tokens : List Token}
      (found : table.nextToken? previous state text = some (token, after))
      (later : Reads table (lastSignificant previous [token]) (state.afterToken token) after tokens
        final rest) :
      Reads table previous state text (token :: tokens) final rest

theorem lastSignificant_append (previous : Option Token) (front back : List Token) :
    lastSignificant previous (front ++ back) =
      lastSignificant (lastSignificant previous front) back := by
  simp [lastSignificant, Option.or_assoc]

theorem lastSignificant_singleton (previous : Option Token) (token : Token) :
    lastSignificant previous [token] =
      if token.category.isSignificant then some token else previous := by
  by_cases significant : token.category.isSignificant = true
  · simp [lastSignificant, significant]
  · simp [lastSignificant, significant]

theorem lastSignificant_layout (previous : Option Token) {token : Token}
    (layout : token.category.isSignificant = false) :
    lastSignificant previous [token] = previous := by
  simp [lastSignificant, layout]

theorem lastSignificant_span? (previous : Option Token) {category : TokenCategory}
    (layout : category.isSignificant = false) (piece : List Char) :
    lastSignificant previous (Token.span? category piece).toList = previous := by
  cases piece with
  | nil => rfl
  | cons c others => exact lastSignificant_layout previous layout

theorem lastSignificant_blanks (previous : Option Token) (run : List Char) :
    lastSignificant previous (Token.span? .whitespace run).toList = previous :=
  lastSignificant_span? previous rfl run

namespace Reads

variable {table : RuleTable} {previous : Option Token} {state final : LexState}
  {text rest : List Char} {tokens : List Token}

theorem unique (first : Reads table previous state text tokens final rest) {others : List Token}
    {last : LexState} {remainder : List Char}
    (second : Reads table previous state text others last remainder) :
    tokens = others ∧ final = last ∧ rest = remainder := by
  induction first generalizing others with
  | stop refused =>
      cases second with
      | stop _ => exact ⟨rfl, rfl, rfl⟩
      | token found _ =>
          rw [refused] at found
          contradiction
  | token found _ ih =>
      cases second with
      | stop refused =>
          rw [refused] at found
          contradiction
      | token foundAgain later =>
          rw [found] at foundAgain
          simp only [Option.some.injEq, Prod.mk.injEq] at foundAgain
          obtain ⟨rfl, rfl⟩ := foundAgain
          obtain ⟨rfl, rfl, rfl⟩ := ih later
          exact ⟨rfl, rfl, rfl⟩

theorem nil (table : RuleTable) (previous : Option Token) (state : LexState) :
    Reads table previous state [] [] state [] :=
  .stop (table.nextToken?_nil previous state)

/-- A reading loses nothing: the texts of the tokens and the rest are the text. -/
theorem append_rest (reads : Reads table previous state text tokens final rest) :
    tokens.flatMap (·.text.toList) ++ rest = text := by
  induction reads with
  | stop _ => rfl
  | token found _ ih =>
      obtain ⟨whole, _⟩ := RuleTable.append_of_nextToken? found
      rw [List.flatMap_cons, List.append_assoc, ih, whole]

/-- What holds of every token that can be read next holds of all tokens of a reading. -/
theorem forall_mem {holds : Token → Prop}
    (each : ∀ previous state text token after,
      table.nextToken? previous state text = some (token, after) → holds token)
    (reads : Reads table previous state text tokens final rest) :
    ∀ token ∈ tokens, holds token := by
  induction reads with
  | stop _ => simp
  | token found _ ih =>
      intro token listed
      rcases List.mem_cons.1 listed with rfl | listed
      · exact each _ _ _ _ _ found
      · exact ih token listed

theorem text_ne_empty (reads : Reads table previous state text tokens final rest) :
    ∀ token ∈ tokens, token.text ≠ "" :=
  reads.forall_mem fun _ _ _ _ _ found => (RuleTable.append_of_nextToken? found).2

/-- Each token is the next one of the text that starts with it, in the state and behind the
significant token that the tokens before it leave. -/
theorem nextToken?_of_split {before behind : List Token} {token : Token}
    (reads : Reads table previous state text (before ++ token :: behind) final rest) :
    table.nextToken? (lastSignificant previous before) (state.replay before)
        (token.text.toList ++ (behind.flatMap (·.text.toList) ++ rest)) =
      some (token, behind.flatMap (·.text.toList) ++ rest) := by
  induction before generalizing previous state text with
  | nil =>
      cases reads with
      | token found later =>
          obtain ⟨whole, _⟩ := RuleTable.append_of_nextToken? found
          rw [later.append_rest, whole]
          exact found
  | cons head before ih =>
      cases reads with
      | token found later =>
          have next := ih later
          rw [← lastSignificant_append] at next
          exact next

theorem of_nextBody? {rule : Rule} {body after : List Char}
    (found : table.nextBody? state text = some (rule, body, after))
    (later : Reads table (lastSignificant previous [table.bodyToken previous state rule body])
      (state.afterToken (table.bodyToken previous state rule body)) after tokens final rest) :
    Reads table previous state text (table.bodyToken previous state rule body :: tokens) final
      rest :=
  .token (RuleTable.nextToken?_of_nextBody? previous found) later

/-! ## Blanks and tails -/

theorem blanks (code : state.inComment = false)
    (later : Reads table previous state (text.dropWhile Text.isBlank) tokens final rest) :
    Reads table previous state text
      ((Token.span? .whitespace (text.takeWhile Text.isBlank)).toList ++ tokens) final rest := by
  cases text with
  | nil => exact later
  | cons c others =>
      by_cases blank : Text.isBlank c = true
      · rw [List.dropWhile_cons_of_pos blank] at later
        rw [List.takeWhile_cons_of_pos blank]
        exact .of_nextBody? (table.nextBody?_of_isBlank code others blank) later
      · rw [List.dropWhile_cons_of_neg blank] at later
        rw [List.takeWhile_cons_of_neg blank]
        exact later

theorem bracket (code : state.inComment = false)
    (later : Reads table (some ⟨.bracket, "("⟩) state text tokens final rest) :
    Reads table previous state ('(' :: text) (⟨.bracket, "("⟩ :: tokens) final rest := by
  have found : table.nextBody? state ('(' :: text) = some (.bracketLeft, ['('], text) := by
    rw [RuleTable.nextBody?_of_code table code]
    simp [Rule.firstBody?, Rule.padded, Rule.body?, Cut.takeCommentMark, Cut.takeLineComment,
      Cut.startsLineComment, Cut.takeChar]
  exact .of_nextBody? found later

/-- What a rule takes behind a body would be read there as a token anyway. -/
theorem tail (rule : Rule) (code : state.inComment = false ∨ (rule.tail text).1 = [])
    (later : Reads table
      (lastSignificant previous
        (Token.span? (Rule.trailCategory (rule.tail text).1) (rule.tail text).1).toList)
      state (rule.tail text).2 tokens final rest) :
    Reads table previous state text
      ((Token.span? (Rule.trailCategory (rule.tail text).1) (rule.tail text).1).toList ++ tokens)
      final rest := by
  rcases rule.tail_cases text with nothing | ⟨others, rfl, bracketed⟩ | blank
  · rw [nothing] at later ⊢
    exact later
  · have inCode : state.inComment = false := by
      rcases code with inCode | empty
      · exact inCode
      · rw [bracketed] at empty
        contradiction
    rw [bracketed] at later ⊢
    exact bracket inCode later
  · rw [blank] at later code ⊢
    have whitespace : Rule.trailCategory (text.takeWhile Text.isBlank) = .whitespace := by
      have noBracket : text.takeWhile Text.isBlank ≠ ['('] := by
        intro same
        have blanks := List.all_takeWhile (p := Text.isBlank) (l := text)
        rw [same] at blanks
        revert blanks
        decide
      simp [Rule.trailCategory, noBracket]
    rw [whitespace] at later ⊢
    rw [lastSignificant_blanks] at later
    rcases code with inCode | empty
    · exact blanks inCode later
    · have whole := List.takeWhile_append_dropWhile (p := Text.isBlank) (l := text)
      have noBlank : text.takeWhile Text.isBlank = [] := empty
      rw [noBlank, List.nil_append] at whole
      rw [noBlank]
      rw [whole] at later
      exact later

end Reads

namespace Rule

theorem tokens_eq (starIsKeyword : Bool) (cut : Cut) (rule : Rule) :
    rule.tokens starIsKeyword cut =
      (Token.span? rule.leadCategory cut.lead).toList ++
        ((Token.span? (rule.bodyCategory starIsKeyword cut.body) cut.body).toList ++
          (Token.span? (trailCategory cut.trail) cut.trail).toList) := by
  unfold tokens
  cases Token.span? rule.leadCategory cut.lead <;>
    cases Token.span? (rule.bodyCategory starIsKeyword cut.body) cut.body <;>
      cases Token.span? (trailCategory cut.trail) cut.trail <;> rfl

theorem ofList_ne_of_ne {body : List Char} {mark : String} (other : body ≠ mark.toList) :
    String.ofList body ≠ mark := by
  intro same
  rw [← same, String.toList_ofList] at other
  contradiction

theorem afterToken_comment {state : LexState} {body : List Char}
    (opening : body = ['/', '*'] → state.inComment = true) (noClosing : body ≠ ['*', '/']) :
    state.afterToken ⟨.comment, String.ofList body⟩ = state := by
  have notClosed : String.ofList body ≠ "*/" := ofList_ne_of_ne noClosing
  by_cases opens : body = ['/', '*']
  · obtain ⟨inComment, inSelectList⟩ := state
    have comment : inComment = true := opening opens
    subst comment opens
    rfl
  · have notOpened : String.ofList body ≠ "/*" := ofList_ne_of_ne opens
    simp [LexState.afterToken, notOpened, notClosed]

theorem afterKeyword_star (state : LexState) : state.afterKeyword "*" = state := by
  have noSelect : Text.sameWord "*" "SELECT" = false := Text.sameWord_eq_false_iff.2 (by decide)
  have noFrom : Text.sameWord "*" "FROM" = false := Text.sameWord_eq_false_iff.2 (by decide)
  simp [LexState.afterKeyword, noSelect, noFrom]

/-- Outside comments a rule moves the state as the token of its body does. -/
theorem nextState_eq_afterToken {keywords : KeywordSet} {rule : Rule} {text after : List Char}
    (starIsKeyword : Bool) (cut : Cut) (state : LexState) (listed : rule ∈ padded)
    (takes : rule.body? keywords text = some (cut.body, after)) :
    rule.nextState cut state =
      state.afterToken ⟨rule.bodyCategory starIsKeyword cut.body, String.ofList cut.body⟩ := by
  cases rule with
  | commentEnd => simp [padded] at listed
  | commentRest => simp [padded] at listed
  | commentBegin =>
      have mark : cut.body = ['/', '*'] := by
        simp only [body?, Cut.takeCommentMark] at takes
        split at takes
        · simp only [Option.some.injEq, Prod.mk.injEq] at takes
          exact takes.1.symm
        · contradiction
      rw [mark]
      rfl
  | commentLine =>
      have front : cut.body.head? = some '#' ∨ cut.body.head? = some '-' := by
        simp only [body?, Cut.takeLineComment] at takes
        split at takes
        · next starts =>
            simp only [Option.some.injEq, Prod.mk.injEq] at takes
            rw [← takes.1]
            unfold Cut.startsLineComment at starts
            split at starts
            · exact Or.inl rfl
            · exact Or.inr rfl
            · contradiction
        · contradiction
      refine (afterToken_comment ?_ ?_).symm
      · intro same
        simp [same] at front
      · intro same
        simp [same] at front
  | operator =>
      by_cases star : (cut.body = ['*'] && starIsKeyword) = true
      · simp only [nextState, bodyCategory, star, if_true]
        simp only [Bool.and_eq_true, decide_eq_true_eq] at star
        rw [star.1]
        exact (afterKeyword_star state).symm
      · simp [nextState, bodyCategory, star, LexState.afterToken]
  | _ => rfl

theorem inComment_nextState {rule : Rule} (listed : rule ∈ padded) (cut : Cut) (state : LexState)
    (text : List Char) :
    (rule.nextState cut state).inComment = state.inComment ∨ (rule.tail text).1 = [] := by
  cases rule with
  | commentEnd => simp [padded] at listed
  | commentBegin => exact Or.inr rfl
  | keyword =>
      refine Or.inl ?_
      simp only [nextState, LexState.afterKeyword]
      split
      · rfl
      · split <;> rfl
  | _ => exact Or.inl rfl

theorem leadCategory_of_padded {rule : Rule} (listed : rule ∈ padded) :
    rule.leadCategory = .whitespace := by
  cases rule with
  | commentEnd => simp [padded] at listed
  | _ => rfl

end Rule

/-! ## The scan is the reading -/

namespace Reads

variable {table : RuleTable} {previous : Option Token} {state final : LexState}
  {text rest : List Char} {tokens : List Token} {rule : Rule} {cut : Cut}

theorem of_codeCut (code : state.inComment = false)
    (made : table.firstCut? state text = some (rule, cut))
    (later : Reads table
      (lastSignificant previous (rule.tokens (table.starIsKeyword state previous) cut))
      (rule.nextState cut state) cut.rest tokens final rest) :
    Reads table previous state text
      (rule.tokens (table.starIsKeyword state previous) cut ++ tokens) final rest := by
  rw [table.firstCut?_of_code code] at made
  rw [Rule.tokens_eq, lastSignificant_append, lastSignificant_append] at later
  rw [Rule.tokens_eq, List.append_assoc, List.append_assoc]
  cases found : Rule.firstBody? table.keywords (text.dropWhile Text.isBlank) Rule.padded with
  | none =>
      rw [found] at made
      simp only [Option.map_none, Option.none_or, Option.map_eq_some_iff, Cut.blanks?,
        Prod.mk.injEq] at made
      obtain ⟨_, ⟨⟨run, behind⟩, taken, rfl⟩, rfl, rfl⟩ := made
      obtain ⟨_, rfl, rfl⟩ := Cut.takeRun_eq_some_iff.1 taken
      change Reads table
        (lastSignificant previous (Token.span? .whitespace (text.takeWhile Text.isBlank)).toList)
        state (text.dropWhile Text.isBlank) tokens final rest at later
      rw [lastSignificant_blanks] at later
      exact blanks code later
  | some taken =>
      obtain ⟨first, body, after⟩ := taken
      obtain ⟨listed, takes⟩ := Rule.body?_of_firstBody? found
      obtain ⟨_, nonempty⟩ := Rule.faithful_body? _ _ _ _ _ takes
      rw [found] at made
      simp only [Option.map_some, Option.some_or, Option.some.injEq, Prod.mk.injEq] at made
      obtain ⟨rfl, rfl⟩ := made
      have next : table.nextBody? state (text.dropWhile Text.isBlank) =
          some (first, body, after) := by
        rw [table.nextBody?_of_code code, found]
        rfl
      have spanned :
          Token.span? (first.bodyCategory (table.starIsKeyword state previous) body) body =
            some (table.bodyToken previous state first body) := by
        simp [Token.span?, nonempty, RuleTable.bodyToken]
      rw [Rule.leadCategory_of_padded listed, lastSignificant_blanks, spanned] at later
      rw [Rule.leadCategory_of_padded listed, spanned]
      have moved := Rule.nextState_eq_afterToken (table.starIsKeyword state previous)
        ⟨text.takeWhile Text.isBlank, body, (first.tail after).1, (first.tail after).2⟩ state
        listed takes
      -- Only the opening of a comment ends the code, and nothing is taken behind it.
      have stays := Rule.inComment_nextState listed
        ⟨text.takeWhile Text.isBlank, body, (first.tail after).1, (first.tail after).2⟩ state after
      rw [code] at stays
      refine blanks code (of_nextBody? next ?_)
      rw [moved] at later stays
      exact tail first stays later

/-! ### Inside comments -/

theorem closing {state : LexState} (comment : state.inComment = true)
    (later : Reads table previous { state with inComment := false } text tokens final rest) :
    Reads table previous state ('*' :: '/' :: text) (⟨.comment, "*/"⟩ :: tokens) final rest := by
  have found : table.nextBody? state ('*' :: '/' :: text) =
      some (.commentEnd, ['*', '/'], text) := by
    rw [RuleTable.nextBody?, RuleTable.rules_of_comment comment]
    rfl
  exact of_nextBody? found later

/-- The comment is closed: the text before the mark is a comment, and so is the mark. -/
theorem closedComment {before after : List Char} (comment : state.inComment = true)
    (found : Cut.splitCommentEnd? text = some (before, after))
    (later : Reads table previous { state with inComment := false } after tokens final rest) :
    Reads table previous state text
      ((Token.span? .comment before).toList ++ ⟨.comment, "*/"⟩ :: tokens) final rest := by
  have whole : before ++ '*' :: '/' :: after = text := Cut.append_of_splitCommentEnd? found
  cases before with
  | nil =>
      rw [← whole]
      exact closing comment later
  | cons c others =>
      have next : table.nextBody? state text =
          some (.commentEnd, c :: others, '*' :: '/' :: after) := by
        rw [RuleTable.nextBody?, RuleTable.rules_of_comment comment]
        simp [Rule.firstBody?, Rule.body?, Cut.takeCommentPiece, found]
      have noClosing : c :: others ≠ ['*', '/'] := by
        intro same
        rw [← whole, same] at found
        simp [Cut.splitCommentEnd?] at found
      have moved := Rule.afterToken_comment (fun _ => comment) noClosing
      refine of_nextBody? next ?_
      rw [RuleTable.bodyToken, Rule.bodyCategory, moved]
      exact closing comment later

/-- The comment stays open: the whole text is a comment. -/
theorem openComment {c : Char} {others : List Char} (comment : state.inComment = true)
    (stays : Cut.splitCommentEnd? (c :: others) = none)
    (later : Reads table previous state [] tokens final rest) :
    Reads table previous state (c :: others) (⟨.comment, String.ofList (c :: others)⟩ :: tokens)
      final rest := by
  have next : table.nextBody? state (c :: others) = some (.commentRest, c :: others, []) := by
    rw [RuleTable.nextBody?, RuleTable.rules_of_comment comment]
    simp [Rule.firstBody?, Rule.body?, Cut.takeCommentPiece, Cut.takeAll, stays]
  have noClosing : c :: others ≠ ['*', '/'] := by
    intro same
    rw [same] at stays
    contradiction
  have moved := Rule.afterToken_comment (fun _ => comment) noClosing
  refine of_nextBody? next ?_
  rw [RuleTable.bodyToken, Rule.bodyCategory, moved]
  exact later

theorem of_commentCut (comment : state.inComment = true)
    (made : table.firstCut? state text = some (rule, cut))
    (later : Reads table
      (lastSignificant previous (rule.tokens (table.starIsKeyword state previous) cut))
      (rule.nextState cut state) cut.rest tokens final rest) :
    Reads table previous state text
      (rule.tokens (table.starIsKeyword state previous) cut ++ tokens) final rest := by
  rw [RuleTable.firstCut?, RuleTable.rules_of_comment comment] at made
  cases found : Cut.splitCommentEnd? text with
  | none =>
      cases text with
      | nil => simp [Rule.cut?, Cut.commentEnd?, Cut.everything?, found] at made
      | cons c others =>
          simp only [Rule.cut?, Cut.commentEnd?, Cut.everything?, found, List.findSome?_cons,
            Option.map_none, Option.map_some, Option.some.injEq, Prod.mk.injEq] at made
          obtain ⟨rfl, rfl⟩ := made
          exact openComment comment found later
  | some pieces =>
      obtain ⟨before, after⟩ := pieces
      simp only [Rule.cut?, Cut.commentEnd?, found, List.findSome?_cons, Option.map_some,
        Option.some.injEq, Prod.mk.injEq] at made
      obtain ⟨rfl, rfl⟩ := made
      rw [Rule.tokens_eq, lastSignificant_append, Rule.leadCategory,
        lastSignificant_span? _ rfl] at later
      rw [Rule.tokens_eq, List.append_assoc]
      exact closedComment comment found later

end Reads

namespace RuleTable

theorem nextBody?_of_firstCut?_eq_none {table : RuleTable} {state : LexState} {text : List Char}
    (refused : table.firstCut? state text = none) : table.nextBody? state text = none := by
  cases comment : state.inComment with
  | false =>
      rw [table.firstCut?_of_code comment, Option.or_eq_none_iff, Option.map_eq_none_iff,
        Option.map_eq_none_iff, Cut.blanks?, Option.map_eq_none_iff] at refused
      obtain ⟨noBody, noBlanks⟩ := refused
      have front : text.dropWhile Text.isBlank = text := by
        cases text with
        | nil => rfl
        | cons c others =>
            apply List.dropWhile_cons_of_neg
            intro blank
            rw [Cut.takeRun_cons blank] at noBlanks
            contradiction
      rw [front] at noBody
      rw [table.nextBody?_of_code comment, noBody, noBlanks]
      rfl
  | true =>
      cases text with
      | nil =>
          rw [nextBody?, rules_of_comment comment]
          rfl
      | cons c others =>
          rw [firstCut?, rules_of_comment comment, List.findSome?_eq_none_iff] at refused
          have everything := refused .commentRest (by simp)
          contradiction

/-- The tokens, the state and the rest of a scan are those of a reading token by token. -/
theorem reads_scan (table : RuleTable) (previous : Option Token) (state : LexState)
    (text : List Char) :
    Reads table previous state text (table.scan previous state text).tokens
      (table.scan previous state text).state (table.scan previous state text).rest := by
  -- Along the scan: a cut outside comments is blanks, a body and a tail, each of them a token of
  -- the reading; inside comments it is a piece and perhaps the closing mark.
  fun_induction RuleTable.scan table previous state text with
  | case1 previous state text refused =>
      exact .stop (nextToken?_eq_none_iff.2 (nextBody?_of_firstCut?_eq_none refused))
  | case2 previous state text rule cut made tokens later ih =>
      cases comment : state.inComment with
      | false => exact Reads.of_codeCut comment made ih
      | true => exact Reads.of_commentCut comment made ih

theorem scan_of_reads {table : RuleTable} {previous : Option Token} {state final : LexState}
    {text rest : List Char} {tokens : List Token}
    (reads : Reads table previous state text tokens final rest) :
    (table.scan previous state text).tokens = tokens ∧
      (table.scan previous state text).state = final ∧
      (table.scan previous state text).rest = rest :=
  (table.reads_scan previous state text).unique reads

/-- A token of a lexed line is the next one of what is left of the line behind the tokens before
it. -/
theorem nextToken?_of_split_lexLine {table : RuleTable} {state : LexState} {line : String}
    {before behind : List Token} {token : Token}
    (split : (table.lexLine state line).tokens = before ++ token :: behind) :
    ∃ follow : String, String.join (before.map (·.text)) ++ token.text ++ follow = line ∧
      table.nextToken? (lastSignificant none before) (state.replay before)
          (token.text.toList ++ follow.toList) =
        some (token, follow.toList) := by
  have reads := table.reads_scan none state line.toList
  have tokens : (table.scan none state line.toList).tokens = before ++ token :: behind := split
  rw [tokens] at reads
  refine ⟨String.ofList (behind.flatMap (·.text.toList) ++
    (table.scan none state line.toList).rest), ?_, ?_⟩
  · rw [← String.toList_inj]
    refine Eq.trans ?_ reads.append_rest
    simp [String.toList_join, List.flatMap_map]
  · rw [String.toList_ofList]
    exact reads.nextToken?_of_split

end RuleTable

end SqlLint
