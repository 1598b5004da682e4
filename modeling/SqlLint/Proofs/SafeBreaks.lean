import Mathlib.Data.List.Basic
import SqlLint.Proofs.Asterisks
import SqlLint.Proofs.LongerTexts
import SqlLint.Proofs.OpenComments
import SqlLint.Proofs.StateReplay

/-!
# Where a line can be broken

A line can be broken behind white space, a comma or a bracket that is not in a comment
(`LexedLine.SafeToBreak`).  What stands in front is read without a look behind the break
(`Reads.append`).  What stands behind is read as from the start of a line, because asterisks are
the only tokens that depend on what stands before, and a column is expected behind a comma as it is
at the start (`Reads.of_starIsKeyword_eq`).
-/

set_option autoImplicit false

namespace SqlLint

/-- The token can be the last one in front of a text that is read on its own. -/
def Token.EndsSafely (back : List Char) (token : Token) : Prop :=
  token.category = .comma ∨ token.category = .bracket ∨
    token.category = .whitespace ∧ Grammar.GoesOnWith (fun c => Text.isBlank c = false) back

/-- A lexed text behind which a line can be broken if it goes on with `next`. -/
structure LexedLine.SafeToBreak (policy : StarExpansion) (next : String) (lexed : LexedLine) :
    Prop where
  complete : lexed.unlexed = none
  outsideComment : lexed.exitState.inComment = false
  ends : ∃ last, lexed.tokens.getLast? = some last ∧ last.EndsSafely next.toList
  column : policy = .anywhere ∨ ∃ before comma layout, lexed.tokens = before ++ comma :: layout ∧
    comma.category = .comma ∧ ∀ other ∈ layout, other.isLayout = true

/-! ## In front of the break -/

theorem Token.Grammatical.endsIdentifier {keywords : KeywordSet} {inComment : Bool}
    {follow back : List Char} {token : Token}
    (grammatical : token.Grammatical keywords inComment follow) (ends : token.EndsSafely back)
    {c : Char} (listed : c ∈ token.text.toList) : Grammar.EndsIdentifier c := by
  rcases ends with comma | bracket | ⟨whitespace, _⟩
  · simp only [Token.Grammatical, comma] at grammatical
    rw [grammatical] at listed
    cases List.mem_singleton.1 listed
    exact Or.inl (by decide)
  · simp only [Token.Grammatical, bracket] at grammatical
    rcases grammatical with sign | sign <;>
    · rw [sign] at listed
      cases List.mem_singleton.1 listed
      exact Or.inl (by decide)
  · simp only [Token.Grammatical, whitespace] at grammatical
    exact Or.inr (grammatical.chars c listed)

theorem RuleTable.settled_of_endsSafely {table : RuleTable} {previous : Option Token}
    {state : LexState} {rule : Rule} {body back after : List Char}
    (ends : (table.bodyToken previous state rule body).EndsSafely back) :
    rule.Settled back after := by
  have noComment : rule.bodyCategory (table.starIsKeyword state previous) body ≠ .comment := by
    intro comment
    simp [Token.EndsSafely, bodyToken, comment] at ends
  cases rule with
  | commentLine => contradiction
  | commentRest => contradiction
  | whitespace =>
      intro _
      simpa [Token.EndsSafely, bodyToken, Rule.bodyCategory] using ends
  | _ => trivial

namespace Reads

variable {table : RuleTable} {previous : Option Token} {state middle final : LexState}
  {front back rest : List Char} {tokens others : List Token}

theorem separate (reads : Reads table previous state front tokens middle [])
    (noQuote : ∀ quote ∈ Grammar.quotes, quote ∉ front) {last : Token}
    (isLast : tokens.getLast? = some last) (ends : last.EndsSafely back) :
    Grammar.Separate front back where
  delimited := by
    refine Or.inl ?_
    intro c atEnd
    obtain ⟨before, rfl⟩ := List.getLast?_eq_some_iff.1 isLast
    have listed : last ∈ before ++ [last] := List.mem_append_right before List.mem_cons_self
    have nonempty := mt String.toList_eq_nil_iff.1 (reads.text_ne_empty last listed)
    have inGrammar : ∀ token ∈ before ++ [last],
        ∃ inComment follow, token.Grammatical table.keywords inComment follow :=
      reads.forall_mem fun _ _ _ _ _ found => ⟨_, _, RuleTable.grammatical_of_nextToken? found⟩
    obtain ⟨_, _, grammatical⟩ := inGrammar last listed
    -- The text ends with its last token.
    have whole := reads.append_rest
    rw [List.append_nil, List.flatMap_append, List.flatMap_singleton] at whole
    rw [← whole, List.getLast?_append_of_ne_nil _ nonempty] at atEnd
    exact grammatical.endsIdentifier ends (List.mem_of_getLast? atEnd)
  noLiteral := fun quote isQuote inFront => absurd inFront (noQuote quote isQuote)

theorem append (reads : Reads table previous state front tokens middle [])
    (separate : Grammar.Separate front back)
    (ends : ∀ last, tokens.getLast? = some last → last.EndsSafely back)
    (later : Reads table (lastSignificant previous tokens) middle back others final rest) :
    Reads table previous state (front ++ back) (tokens ++ others) final rest := by
  generalize atEnd : ([] : List Char) = remainder at reads
  induction reads with
  | stop _ =>
      subst atEnd
      exact later
  | @token _ _ _ _ after _ token tokens found further ih =>
      obtain ⟨whole, _⟩ := RuleTable.append_of_nextToken? found
      obtain ⟨rule, body, next, rfl⟩ := RuleTable.nextBody?_of_nextToken? found
      have settled : rule.Settled back after := by
        by_cases behind : after = []
        · -- This token is the last one.
          subst behind
          obtain ⟨rfl, _⟩ := (nil _ _ _).unique further
          exact RuleTable.settled_of_endsSafely (ends _ rfl)
        · exact rule.settled_of_ne_nil behind
      refine of_nextBody? (RuleTable.nextBody?_append separate next settled) (ih ?_ ?_ ?_ atEnd)
      · rw [← whole] at separate
        exact separate.of_append
      · intro last isLast
        exact ends last (by rw [List.getLast?_cons, isLast]; rfl)
      · rw [← List.singleton_append, lastSignificant_append] at later
        exact later

/-- Of what stands before a text, only that counts which decides about asterisks. -/
theorem of_starIsKeyword_eq {text : List Char} {first second : Option Token}
    (same : ∀ state, table.starIsKeyword state first = table.starIsKeyword state second)
    (reads : Reads table first state text tokens final rest) :
    Reads table second state text tokens final rest := by
  induction reads generalizing second with
  | stop refused =>
      rw [RuleTable.nextToken?_eq_none_iff] at refused
      exact .stop (RuleTable.nextToken?_eq_none_iff.2 refused)
  | @token _ state _ _ _ _ _ _ found later ih =>
      obtain ⟨rule, body, next, rfl⟩ := RuleTable.nextBody?_of_nextToken? found
      have token := RuleTable.nextToken?_of_nextBody? second next
      rw [RuleTable.bodyToken, ← same state] at token
      refine .token token (ih ?_)
      intro later
      rw [lastSignificant_singleton, lastSignificant_singleton]
      split
      · rfl
      · exact same later

end Reads

/-! ## Lines -/

namespace RuleTable

variable (table : RuleTable) {state : LexState} {front back : String}

/-- Behind a safe place asterisks are what they are at the start of a line. -/
theorem starIsKeyword_of_safeToBreak {lexed : LexedLine}
    (safe : lexed.SafeToBreak table.starExpansion back) (later : LexState) :
    table.starIsKeyword later none =
      table.starIsKeyword later (lastSignificant none lexed.tokens) := by
  rcases safe.column with anywhere | ⟨before, comma, layout, split, isComma, onlyLayout⟩
  · simp [starIsKeyword, anywhere]
  · have last := lastSignificant_split none before (by rw [isComma]; rfl) onlyLayout
    have expected : expectsColumn (some comma) = true := by simp [expectsColumn, isComma]
    simp only [starIsKeyword, split, last, expected]
    rfl

theorem lexLine_append (noQuote : ∀ quote ∈ Grammar.quotes, quote ∉ front.toList)
    (safe : (table.lexLine state front).SafeToBreak table.starExpansion back) :
    table.lexLine state (front ++ back) =
      { tokens := (table.lexLine state front).tokens ++
          (table.lexLine (table.lexLine state front).exitState back).tokens
        entryState := state
        exitState := (table.lexLine (table.lexLine state front).exitState back).exitState
        unlexed := (table.lexLine (table.lexLine state front).exitState back).unlexed.map
          (·.shift front.utf8ByteSize) } := by
  have before := table.reads_scan none state front.toList
  rw [Unlexed.ofRest?_eq_none_iff.1 safe.complete] at before
  have behind := table.reads_scan none (table.lexLine state front).exitState back.toList
  obtain ⟨last, isLast, ends⟩ := safe.ends
  have ended : ∀ other, (table.lexLine state front).tokens.getLast? = some other →
      other.EndsSafely back.toList := by
    intro other same
    rw [isLast] at same
    cases same
    exact ends
  have whole := before.append (before.separate noQuote isLast ends) ended
    (behind.of_starIsKeyword_eq (table.starIsKeyword_of_safeToBreak safe))
  rw [← String.toList_append] at whole
  obtain ⟨tokens, final, rest⟩ := scan_of_reads whole
  have remainder := Unlexed.ofRest?_append front ⟨_, behind.append_rest⟩
  rw [lexLine, tokens, final, rest, remainder]
  rfl

end RuleTable

/-- Under any settings and from any state, a line that goes on behind a safe place is lexed as the
two lines that a break makes of it there, if no quote stands in front of the break. -/
theorem lines_break_at_safe_places (settings : LexerSettings) (state : LexState)
    (front back : String) (noQuote : ∀ quote ∈ Grammar.quotes, quote ∉ front.toList)
    (safe : ((RuleTable.ofSettings settings).lexLine state front).SafeToBreak
      settings.starExpansion back) :
    let table := RuleTable.ofSettings settings
    let before := table.lexLine state front
    let behind := table.lexLine before.exitState back
    table.lexLine state (front ++ back) =
      { tokens := before.tokens ++ behind.tokens
        entryState := state
        exitState := behind.exitState
        unlexed := behind.unlexed.map (·.shift front.utf8ByteSize) } ∧
    LexedLine.allTokens (LexSession.lexLines ⟨table, state⟩ [front, back]).1 =
      (table.lexLine state (front ++ back)).tokens := by
  have whole := (RuleTable.ofSettings settings).lexLine_append noQuote safe
  refine ⟨whole, ?_⟩
  rw [whole]
  exact congrArg _ (List.append_nil _)

theorem lines_break_at_safe_places_behind_comma :
    (∀ quote ∈ Grammar.quotes, quote ∉ "a, /* b */ ".toList) ∧
      ((RuleTable.ofSettings { starExpansion := .selectTarget }).lexLine
        { inSelectList := true } "a, /* b */ ").SafeToBreak .selectTarget "* 'c'\x7b" ∧
      ((RuleTable.ofSettings { starExpansion := .selectTarget }).lexLine
          { inSelectList := true } "a, /* b */ * 'c'\x7b").tokens =
        [⟨.identifier, "a"⟩, ⟨.comma, ","⟩, ⟨.whitespace, " "⟩, ⟨.comment, "/*"⟩,
          ⟨.comment, " b "⟩, ⟨.comment, "*/"⟩, ⟨.whitespace, " "⟩, ⟨.keyword, "*"⟩,
          ⟨.whitespace, " "⟩, ⟨.identifier, "'c'"⟩] ∧
      ((RuleTable.ofSettings { starExpansion := .selectTarget }).lexLine
          { inSelectList := true } "a, /* b */ * 'c'\x7b").unlexed = some ⟨16, "\x7b"⟩ := by
  have noQuote : ∀ quote ∈ Grammar.quotes, quote ∉ "a, /* b */ ".toList := by
    simp [Grammar.quotes]
  have front : (RuleTable.ofSettings { starExpansion := .selectTarget }).lexLine
      { inSelectList := true } "a, /* b */ " =
      { tokens := [⟨.identifier, "a"⟩, ⟨.comma, ","⟩, ⟨.whitespace, " "⟩, ⟨.comment, "/*"⟩,
          ⟨.comment, " b "⟩, ⟨.comment, "*/"⟩, ⟨.whitespace, " "⟩]
        entryState := { inSelectList := true }
        exitState := { inSelectList := true }
        unlexed := none } := by
    decide +kernel
  have safe : ((RuleTable.ofSettings { starExpansion := .selectTarget }).lexLine
      { inSelectList := true } "a, /* b */ ").SafeToBreak .selectTarget "* 'c'\x7b" := by
    rw [front]
    refine ⟨rfl, rfl, ⟨_, rfl, Or.inr (Or.inr ⟨rfl, ?_⟩)⟩, Or.inr ?_⟩
    · intro c first
      cases first
      decide
    · exact ⟨[⟨.identifier, "a"⟩], ⟨.comma, ","⟩, _, rfl, rfl, by decide⟩
  have whole := (lines_break_at_safe_places { starExpansion := .selectTarget }
    { inSelectList := true } _ _ noQuote safe).1
  rw [front] at whole
  refine ⟨noQuote, safe, ?_, ?_⟩
  · refine (congrArg LexedLine.tokens whole).trans ?_
    decide +kernel
  · refine (congrArg LexedLine.unlexed whole).trans ?_
    decide +kernel

end SqlLint
