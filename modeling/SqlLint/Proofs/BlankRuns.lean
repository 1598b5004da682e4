import Mathlib.Data.List.Chain
import SqlLint.Proofs.Halts
import SqlLint.Proofs.Sites
import SqlLint.Proofs.Violations

/-!
# White space in a line

A token of white space reaches as far as the white space does, so that no two of them stand side by
side (`Reads.isChain_apart`).  Other tokens hold white space only in comments and inside literals
(`Token.Grammatical.whitespace_of_isBlank`).  The indentation of a line is therefore its first token
or nothing, and it is what the check of indentations measures.
-/

set_option autoImplicit false

namespace SqlLint

/-- Of two tokens side by side one is no white space. -/
def Token.Apart (token next : Token) : Prop :=
  token.category = .whitespace → next.category ≠ .whitespace

namespace LexedLine

/-- The token that holds the character `c` of the line behind `front`. -/
def TokenAt (front : String) (c : Char) (token : Token) (lexed : LexedLine) : Prop :=
  ∃ before behind, lexed.tokens = before ++ token :: behind ∧
    ∃ head tail : String,
      String.join (before.map (·.text)) ++ head = front ∧ head.push c ++ tail = token.text

/-- White space is in tokens of its own, each as long as possible, but for comments and literals. -/
structure WhiteSpaceApart (line : String) (lexed : LexedLine) : Prop where
  apart : lexed.tokens.IsChain Token.Apart
  edges : ∀ token ∈ lexed.tokens, token.category ≠ .whitespace → token.category ≠ .comment →
    ∀ c, token.text.toList.head? = some c ∨ token.text.toList.getLast? = some c →
      Text.isBlank c = false
  covered : ∀ (front behind : String) (c : Char), Text.isBlank c = true →
    front.push c ++ behind = line →
    (∀ unlexed, lexed.unlexed = some unlexed → front.utf8ByteSize < unlexed.offset) →
      ∃ token, lexed.TokenAt front c token ∧ (token.category = .whitespace ∨ token.Shelters)

/-- The first token is the white space at the start of the line, if there is any, and the check of
indentations measures it. -/
structure IndentationFirst (line : String) (lexed : LexedLine) : Prop where
  first_iff : (∃ first, lexed.tokens.head? = some first ∧ first.category = .whitespace) ↔
    ∃ c, line.toList.head? = some c ∧ Text.isBlank c = true
  whole_run : ∀ first, lexed.tokens.head? = some first → first.category = .whitespace →
    first.text.toList = line.toList.takeWhile Text.isBlank
  measured : ∀ steps, 0 < steps → ∀ site ∈ Site.all lexed.tokens,
    Check.indentSteps steps site =
      .ok (if site.before = [] ∧ (line.toList.takeWhile Text.isBlank).length % steps ≠ 0 then
        some (.indentSteps steps (line.toList.takeWhile Text.isBlank).length) else none)

end LexedLine

/-! ## Tokens side by side -/

namespace RuleTable

variable {table : RuleTable} {previous : Option Token} {state : LexState} {text after : List Char}
  {token : Token}

theorem isBlank_of_whitespace (found : table.nextToken? previous state text = some (token, after))
    (whitespace : token.category = .whitespace) :
    ∀ c ∈ token.text.toList, Text.isBlank c = true := by
  have grammatical := grammatical_of_nextToken? found
  simp only [Token.Grammatical, whitespace] at grammatical
  exact grammatical.chars

/-- White space is taken as far as it reaches. -/
theorem goesOnWith_of_whitespace
    (found : table.nextToken? previous state text = some (token, after))
    (whitespace : token.category = .whitespace) :
    Grammar.GoesOnWith (fun c => Text.isBlank c = false) after := by
  obtain ⟨rule, body, next, rfl⟩ := nextBody?_of_nextToken? found
  have isRule : rule = .whitespace := by
    cases rule with
    | whitespace => rfl
    | operator =>
        simp only [bodyToken, Rule.bodyCategory] at whitespace
        split at whitespace <;> contradiction
    | _ => contradiction
  subst isRule
  obtain ⟨_, takes⟩ := Rule.body?_of_firstBody? next
  exact (Cut.takeRun_spec takes).2.2

theorem apart_of_nextToken? {next : Token} {last : Option Token} {later : LexState}
    {behind : List Char} (found : table.nextToken? previous state text = some (token, after))
    (foundNext : table.nextToken? last later after = some (next, behind)) : token.Apart next := by
  intro whitespace nextWhitespace
  -- The second token would start with a blank, and the first leaves none.
  obtain ⟨whole, nonempty⟩ := append_of_nextToken? foundNext
  obtain ⟨c, others, chars⟩ := List.exists_cons_of_ne_nil (mt String.toList_eq_nil_iff.1 nonempty)
  have blank := isBlank_of_whitespace foundNext nextWhitespace c (by simp [chars])
  have noBlank : Text.isBlank c = false :=
    goesOnWith_of_whitespace found whitespace c (by simp [← whole, chars])
  rw [blank] at noBlank
  contradiction

end RuleTable

theorem Reads.isChain_apart {table : RuleTable} {previous : Option Token} {state final : LexState}
    {text rest : List Char} {tokens : List Token}
    (reads : Reads table previous state text tokens final rest) :
    tokens.IsChain Token.Apart := by
  induction reads with
  | stop _ => exact .nil
  | token found later ih =>
      cases later with
      | stop _ => exact .singleton _
      | token foundNext _ => exact .cons_cons (RuleTable.apart_of_nextToken? found foundNext) ih

/-! ## Where white space stands -/

theorem Grammar.Literal.isBlank_edges {text : List Char} (literal : Literal text) {c : Char}
    (edge : text.head? = some c ∨ text.getLast? = some c) : Text.isBlank c = false := by
  obtain ⟨quote, inside, isQuote, _, _⟩ := literal
  have noBlank : Text.isBlank quote = false := Text.forall_mem_outside (by decide) quote isQuote
  rcases edge with first | last
  · cases first
    exact noBlank
  · rw [List.getLast?_append_cons] at last
    cases last
    exact noBlank

theorem Token.Grammatical.whitespace_of_isBlank {keywords : KeywordSet} {inComment : Bool}
    {follow : List Char} {token : Token} (grammatical : token.Grammatical keywords inComment follow)
    {c : Char} (blank : Text.isBlank c = true) (listed : c ∈ token.text.toList) :
    token.category = .whitespace ∨ token.Shelters := by
  have other : c ∉ [',', '(', ')'] := by
    have noBlank : ∀ d ∈ [',', '(', ')'], Text.isBlank d = false :=
      Text.forall_mem_outside (by decide)
    intro isSign
    rw [noBlank c isSign] at blank
    contradiction
  exact (grammatical.whitespace_or_shelters (Or.inr blank) other listed).imp_left And.left

theorem Token.Grammatical.isBlank_edges {keywords : KeywordSet} {inComment : Bool}
    {follow : List Char} {token : Token} (grammatical : token.Grammatical keywords inComment follow)
    (noBlanks : token.category ≠ .whitespace) (noComment : token.category ≠ .comment) {c : Char}
    (edge : token.text.toList.head? = some c ∨ token.text.toList.getLast? = some c) :
    Text.isBlank c = false := by
  rw [Bool.eq_false_iff]
  intro blank
  have listed : c ∈ token.text.toList := by
    rcases edge with first | last
    · exact List.mem_of_mem_head? first
    · exact List.mem_of_mem_getLast? last
  rcases grammatical.whitespace_of_isBlank blank listed with whitespace | comment | ⟨_, literal⟩
  · exact noBlanks whitespace
  · exact noComment comment
  · rw [literal.isBlank_edges edge] at blank
    contradiction

namespace RuleTable

theorem whiteSpaceApart_lexLine (table : RuleTable) (state : LexState) (line : String) :
    (table.lexLine state line).WhiteSpaceApart line where
  apart := (table.reads_scan none state line.toList).isChain_apart
  edges := by
    intro token listed noBlanks noComment c edge
    obtain ⟨before, behind, split⟩ := List.append_of_mem listed
    obtain ⟨_, _, found⟩ := nextToken?_of_split_lexLine split
    exact (grammatical_of_nextToken? found).isBlank_edges noBlanks noComment edge
  covered := by
    intro front behind c blank whole before
    have lossless := table.lossless_lexLine state line
    have further := lossless.utf8ByteSize_lt whole before
    obtain ⟨tail, inText⟩ :=
      Text.exists_push_append_eq (whole.trans lossless.append_unlexed.symm) further
    obtain ⟨front, token, later, split, ⟨_, _, grammatical⟩, listed, place⟩ :=
      table.exists_token_lexLine state inText
    exact ⟨token, ⟨front, later, split, place⟩, grammatical.whitespace_of_isBlank blank listed⟩

end RuleTable

/-! ## Indentation -/

theorem Reads.head?_tokens {table : RuleTable} {previous : Option Token} {state final : LexState}
    {text rest : List Char} {tokens : List Token}
    (reads : Reads table previous state text tokens final rest) :
    tokens.head? = (table.nextToken? previous state text).map (·.1) := by
  cases reads with
  | stop refused =>
      rw [refused]
      rfl
  | token found _ =>
      rw [found]
      rfl

namespace RuleTable

variable {table : RuleTable} {state : LexState} {line : String} {first : Token}

theorem head?_lexLine (table : RuleTable) (state : LexState) (line : String) :
    (table.lexLine state line).tokens.head? =
      (table.nextToken? none state line.toList).map (·.1) :=
  (table.reads_scan none state line.toList).head?_tokens

/-- White space that is the first token of a line is all that the line starts with. -/
theorem text_eq_of_first (starts : (table.lexLine state line).tokens.head? = some first)
    (whitespace : first.category = .whitespace) :
    first.text.toList = line.toList.takeWhile Text.isBlank ∧ first.text.toList ≠ [] := by
  rw [head?_lexLine, Option.map_eq_some_iff] at starts
  obtain ⟨⟨token, after⟩, found, rfl⟩ := starts
  obtain ⟨whole, nonempty⟩ := append_of_nextToken? found
  have filled := mt String.toList_eq_nil_iff.1 nonempty
  have run := Cut.takeRun_of_goesOnWith filled (isBlank_of_whitespace found whitespace)
    (goesOnWith_of_whitespace found whitespace)
  rw [whole, Cut.takeRun_eq_some_iff] at run
  exact ⟨run.2.1.symm, filled⟩

theorem exists_first_of_isBlank (code : state.inComment = false) {c : Char}
    (starts : line.toList.head? = some c) (blank : Text.isBlank c = true) :
    ∃ first, (table.lexLine state line).tokens.head? = some first ∧
      first.category = .whitespace := by
  obtain ⟨rest, chars⟩ := List.head?_eq_some_iff.1 starts
  have next := nextToken?_of_nextBody? none (table.nextBody?_of_isBlank code rest blank)
  rw [head?_lexLine, chars, next]
  exact ⟨_, rfl, rfl⟩

theorem exists_first_iff (code : state.inComment = false) :
    (∃ first, (table.lexLine state line).tokens.head? = some first ∧
        first.category = .whitespace) ↔
      ∃ c, line.toList.head? = some c ∧ Text.isBlank c = true := by
  constructor
  · rintro ⟨first, starts, whitespace⟩
    obtain ⟨run, nonempty⟩ := text_eq_of_first starts whitespace
    rw [run] at nonempty
    cases chars : line.toList with
    | nil => simp [chars] at nonempty
    | cons c rest =>
        refine ⟨c, rfl, ?_⟩
        rw [← Bool.not_eq_false]
        intro noBlank
        simp [chars, noBlank] at nonempty
  · rintro ⟨c, starts, blank⟩
    exact exists_first_of_isBlank code starts blank

/-- The check of indentations measures the white space at the start of the line. -/
theorem unevenIndent_lexLine (code : state.inComment = false) (steps : Nat) {site : Site}
    (listed : site ∈ Site.all (table.lexLine state line).tokens) :
    Check.unevenIndent steps site =
      if site.before = [] ∧ (line.toList.takeWhile Text.isBlank).length % steps ≠ 0 then
        some (.indentSteps steps (line.toList.takeWhile Text.isBlank).length) else none := by
  have split := Site.split_of_mem listed
  by_cases isFirst : site.before = []
  · rw [isFirst, List.reverse_nil, List.nil_append] at split
    have starts : (table.lexLine state line).tokens.head? = some site.token := by
      rw [split]
      rfl
    by_cases whitespace : site.token.category = .whitespace
    · obtain ⟨run, _⟩ := text_eq_of_first starts whitespace
      have width : site.token.width = (line.toList.takeWhile Text.isBlank).length := by
        rw [Token.width, ← String.length_toList, run]
      simp [Check.unevenIndent, isFirst, Token.isWhitespace, whitespace, width]
    · have noRun : line.toList.takeWhile Text.isBlank = [] := by
        cases chars : line.toList with
        | nil => rfl
        | cons c rest =>
            apply List.takeWhile_cons_of_neg
            intro blank
            have indented : ∃ first, (table.lexLine state line).tokens.head? = some first ∧
                first.category = .whitespace :=
              exists_first_of_isBlank code (by rw [chars]; rfl) blank
            obtain ⟨first, same, isBlank⟩ := indented
            rw [starts] at same
            cases same
            exact whitespace isBlank
      simp [Check.unevenIndent, Token.isWhitespace, whitespace, noRun]
  · simp [Check.unevenIndent, isFirst]

theorem indentationFirst_lexLine (table : RuleTable) {state : LexState} (line : String)
    (code : state.inComment = false) : (table.lexLine state line).IndentationFirst line where
  first_iff := exists_first_iff code
  whole_run := fun _ starts whitespace => (text_eq_of_first starts whitespace).1
  measured := by
    intro steps positive site listed
    rw [Check.indentSteps_eq_ok positive, unevenIndent_lexLine code steps listed]

end RuleTable

/-- Under any settings and from any state, the white space of a line is in tokens of its own, none
of which could be longer, but for comments, literals and the remainder.  So a line that is not
entered inside a comment has its indentation as first token, and that is what the check of
indentations measures. -/
theorem white_space_runs_are_maximal (settings : LexerSettings) (state : LexState)
    (line : String) :
    ((RuleTable.ofSettings settings).lexLine state line).WhiteSpaceApart line ∧
      (state.inComment = false →
        ((RuleTable.ofSettings settings).lexLine state line).IndentationFirst line) :=
  ⟨RuleTable.whiteSpaceApart_lexLine _ state line, RuleTable.indentationFirst_lexLine _ line⟩

theorem white_space_runs_are_maximal_of_halted_line :
    ((RuleTable.ofSettings {}).lexLine {} " \t(`b ` \x7b").tokens =
        [⟨.whitespace, " \t"⟩, ⟨.bracket, "("⟩, ⟨.identifier, "`b `"⟩, ⟨.whitespace, " "⟩] ∧
      LexState.inComment {} = false ∧
      ((RuleTable.ofSettings {}).lexLine {} " \t(`b ` \x7b").IndentationFirst " \t(`b ` \x7b" ∧
      Check.indentSteps 4 ⟨[], ⟨.whitespace, " \t"⟩,
          [⟨.bracket, "("⟩, ⟨.identifier, "`b `"⟩, ⟨.whitespace, " "⟩]⟩ =
        .ok (some (.indentSteps 4 2)) := by
  have tokens : ((RuleTable.ofSettings {}).lexLine {} " \t(`b ` \x7b").tokens =
      [⟨.whitespace, " \t"⟩, ⟨.bracket, "("⟩, ⟨.identifier, "`b `"⟩, ⟨.whitespace, " "⟩] := by
    decide +kernel
  have first := (white_space_runs_are_maximal {} {} " \t(`b ` \x7b").2 rfl
  refine ⟨tokens, rfl, first, ?_⟩
  exact first.measured 4 (by decide) _ (by rw [tokens]; exact List.mem_cons_self)

end SqlLint
