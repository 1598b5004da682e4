import SqlLint.Proofs.Lossless
import SqlLint.Proofs.TokenGrammar

/-!
# Literals

A literal runs from its quote to the last such quote of the line, whatever stands between them
(`Text.lastOnLine_iff`).  If no quote is left there, or one that would close an empty literal, the
quote starts an identifier like any other character (`RuleTable.nextBody?_of_isQuote`).  So on a
line without line breaks nothing behind a literal holds its quote.
-/

set_option autoImplicit false

namespace SqlLint

/-- The signs between which a literal stands. -/
def Grammar.quotes : List Char :=
  ['"', '\x27', '\x60']

/-- The last `quote` before the first line break of a text stands between `inside` and `after`. -/
structure Text.LastOnLine (quote : Char) (text inside after : String) : Prop where
  split : inside.push quote ++ after = text
  oneLine : '\n' ∉ inside.toList
  last : ∀ earlier later : String, earlier.push quote ++ later = text →
    '\n' ∉ earlier.toList → earlier.length ≤ inside.length

/-- What a token that starts with a quote is: a literal up to the last such quote, or an identifier
if none closes a literal.  In the line `tail` stands behind the quote and `follow` behind the
token. -/
structure Token.DelimitedBy (quote : Char) (tail follow : String) (token : Token) : Prop where
  literal : ∀ inside after, Text.LastOnLine quote tail inside after → inside ≠ "" →
    token.text = String.singleton quote ++ inside.push quote
  identifier : (∀ inside after, Text.LastOnLine quote tail inside after → inside = "") →
    Grammar.IdentifierRun token.text.toList follow.toList

/-! ## The last quote -/

/-- A quote in the line is the last one, or the last one stands further behind. -/
theorem Cut.splitLast?_append {quote : Char} (noFeed : quote ≠ '\n') {earlier : List Char}
    (oneLine : '\n' ∉ earlier) (later : List Char) :
    ∃ before after, splitLast? quote (earlier ++ quote :: later) = some (before, after) ∧
      earlier.length ≤ before.length := by
  induction earlier with
  | nil =>
      rw [List.nil_append, splitLast?, if_neg noFeed]
      cases further : splitLast? quote later with
      | none => exact ⟨[], later, by simp, Nat.le_refl 0⟩
      | some pieces => exact ⟨quote :: pieces.1, pieces.2, rfl, Nat.zero_le _⟩
  | cons c earlier ih =>
      rw [List.mem_cons, not_or] at oneLine
      obtain ⟨before, after, further, longer⟩ := ih oneLine.2
      rw [List.cons_append, splitLast?, if_neg (Ne.symm oneLine.1), further]
      exact ⟨c :: before, after, rfl, Nat.succ_le_succ longer⟩

theorem Text.lastOnLine_iff {quote : Char} (noFeed : quote ≠ '\n') {text inside after : String} :
    LastOnLine quote text inside after ↔
      Cut.splitLast? quote text.toList = some (inside.toList, after.toList) := by
  have chars : ∀ earlier later : String, earlier.push quote ++ later = text ↔
      earlier.toList ++ quote :: later.toList = text.toList := by
    intro earlier later
    rw [← String.toList_inj, String.toList_append, String.toList_push, List.append_assoc,
      List.singleton_append]
  constructor
  · intro last
    have split := (chars inside after).1 last.split
    obtain ⟨before, behind, found, longer⟩ :=
      Cut.splitLast?_append noFeed last.oneLine after.toList
    rw [split] at found
    have whole := Cut.append_of_splitLast? found
    have notLonger := last.last (String.ofList before) (String.ofList behind)
      ((chars _ _).2 (by simpa using whole)) (by simpa using Cut.not_mem_of_splitLast? found)
    rw [← String.length_toList, ← String.length_toList, String.toList_ofList] at notLonger
    obtain ⟨same, rest⟩ :=
      List.append_inj (whole.trans split.symm) (Nat.le_antisymm notLonger longer)
    rw [found, same, (List.cons.inj rest).2]
  · intro found
    refine ⟨(chars inside after).2 (Cut.append_of_splitLast? found),
      Cut.not_mem_of_splitLast? found, ?_⟩
    intro earlier later whole oneLine
    obtain ⟨before, behind, same, longer⟩ :=
      Cut.splitLast?_append noFeed oneLine later.toList
    rw [(chars earlier later).1 whole, found] at same
    cases same
    rwa [← String.length_toList, ← String.length_toList]

theorem Text.LastOnLine.not_mem {quote : Char} {text inside after : String}
    (last : LastOnLine quote text inside after) (oneLine : '\n' ∉ text.toList) :
    quote ∉ after.toList := by
  intro listed
  obtain ⟨front, back, split⟩ := List.append_of_mem listed
  have chars : (inside.push quote).toList ++ front ++ quote :: back = text.toList := by
    rw [← last.split, String.toList_append, split, List.append_assoc]
  have further : (inside.push quote ++ String.ofList front).push quote ++ String.ofList back =
      text := by
    rw [← String.toList_inj, ← chars]
    simp
  have noFeed : '\n' ∉ (inside.push quote ++ String.ofList front).toList := by
    intro inFront
    rw [String.toList_append, String.toList_ofList] at inFront
    exact oneLine (chars ▸ List.mem_append_left _ inFront)
  have notLonger := last.last _ _ further noFeed
  rw [String.length_append, String.length_push] at notLonger
  omega

/-! ## Tokens that start with a quote -/

theorem Cut.isQuote_iff {c : Char} : isQuote c = true ↔ c ∈ Grammar.quotes := by
  simp [isQuote, Grammar.quotes, or_assoc]

theorem Cut.takeQuoted_eq_some_iff {quote : Char} (isQuote : quote ∈ Grammar.quotes)
    {tail : List Char} {body after : List Char} :
    takeQuoted (quote :: tail) = some (body, after) ↔
      ∃ inside, inside ≠ [] ∧ splitLast? quote tail = some (inside, after) ∧
        body = quote :: inside ++ [quote] := by
  rw [takeQuoted, if_pos (isQuote_iff.2 isQuote)]
  cases found : splitLast? quote tail with
  | none => simp
  | some pieces =>
      obtain ⟨inside, behind⟩ := pieces
      cases inside with
      | nil =>
          simp only [reduceCtorEq, Option.some.injEq, Prod.mk.injEq, false_iff, not_exists, not_and]
          rintro inside nonempty ⟨rfl, _⟩
          contradiction
      | cons c inside =>
          simp only [Option.some.injEq, Prod.mk.injEq]
          constructor
          · rintro ⟨rfl, rfl⟩
            exact ⟨c :: inside, List.cons_ne_nil c inside, ⟨rfl, rfl⟩, rfl⟩
          · rintro ⟨_, _, ⟨rfl, rfl⟩, rfl⟩
            exact ⟨rfl, rfl⟩

namespace RuleTable

theorem nextBody?_of_isQuote (table : RuleTable) {state : LexState}
    (code : state.inComment = false) {quote : Char} (isQuote : quote ∈ Grammar.quotes)
    (tail : List Char) :
    table.nextBody? state (quote :: tail) =
      ((Cut.takeQuoted (quote :: tail)).map (Rule.quoted, ·)).or
        ((Cut.takeRun Cut.isIdentifierChar (quote :: tail)).map (Rule.identifier, ·)) := by
  have noWord : Cut.takeRun Text.isWordChar (quote :: tail) = none :=
    Cut.takeRun_eq_none (Text.forall_mem_outside (by decide) quote isQuote)
  have noOperator : Cut.takeRun Cut.isOperatorChar (quote :: tail) = none :=
    Cut.takeRun_eq_none (Text.forall_mem_outside (by decide) quote isQuote)
  have noBlank : Cut.takeRun Text.isBlank (quote :: tail) = none :=
    Cut.takeRun_eq_none (Text.forall_mem_outside (by decide) quote isQuote)
  rw [table.nextBody?_of_code code]
  cases quoted : Cut.takeQuoted (quote :: tail) <;>
    cases identifier : Cut.takeRun Cut.isIdentifierChar (quote :: tail) <;>
      simp only [Grammar.quotes, List.mem_cons, List.not_mem_nil, or_false] at isQuote <;>
        rcases isQuote with rfl | rfl | rfl <;>
          simp [Rule.firstBody?, Rule.padded, Rule.body?, Cut.takeCommentMark, Cut.takeLineComment,
            Cut.startsLineComment, Cut.takeChar, Cut.takeKeyword, Cut.takeWord, noWord, quoted,
            noOperator, identifier, noBlank]

theorem delimitedBy_of_nextToken? {table : RuleTable} {previous : Option Token} {state : LexState}
    (code : state.inComment = false) {quote : Char} (isQuote : quote ∈ Grammar.quotes)
    {tail follow : String} {token : Token}
    (found : table.nextToken? previous state (quote :: tail.toList) = some (token, follow.toList)) :
    token.DelimitedBy quote tail follow := by
  have noFeed : quote ≠ '\n' := by
    rintro rfl
    exact absurd isQuote (by decide)
  obtain ⟨rule, body, next, rfl⟩ := nextBody?_of_nextToken? found
  have choice := next
  rw [table.nextBody?_of_isQuote code isQuote] at choice
  constructor
  · intro inside after last nonempty
    have taken := (Cut.takeQuoted_eq_some_iff isQuote).2
      ⟨inside.toList, by simpa using nonempty, (Text.lastOnLine_iff noFeed).1 last, rfl⟩
    simp only [taken, Option.map_some, Option.some_or, Option.some.injEq, Prod.mk.injEq] at choice
    obtain ⟨rfl, rfl, _⟩ := choice
    rw [← String.toList_inj, toList_text_bodyToken]
    simp
  · intro noLiteral
    have refused : Cut.takeQuoted (quote :: tail.toList) = none := by
      rw [Option.eq_none_iff_forall_ne_some]
      rintro ⟨taken, after⟩ quoted
      obtain ⟨inside, nonempty, split, _⟩ := (Cut.takeQuoted_eq_some_iff isQuote).1 quoted
      have last : Text.LastOnLine quote tail (String.ofList inside) (String.ofList after) := by
        rw [Text.lastOnLine_iff noFeed, split, String.toList_ofList, String.toList_ofList]
      exact nonempty (String.ofList_eq_empty_iff.1 (noLiteral _ _ last))
    rw [refused, Option.map_none, Option.none_or] at choice
    obtain ⟨_, _, built⟩ := Option.map_eq_some_iff.1 choice
    cases built
    rw [nextBody?, rules, code] at next
    rw [toList_text_bodyToken]
    exact Rule.identifierRun_of_firstBody? next

/-- What stands behind a token in its line starts with the tokens behind it. -/
theorem exists_append_eq_follow {table : RuleTable} {state : LexState} {line follow : String}
    {before behind : List Token} {token : Token}
    (split : (table.lexLine state line).tokens = before ++ token :: behind)
    (whole : String.join (before.map (·.text)) ++ token.text ++ follow = line) :
    ∃ rest, String.join (behind.map (·.text)) ++ rest = follow := by
  have text := table.text_lexLine state line
  rw [LexedLine.text, split] at text
  refine ⟨String.ofList (table.scan none state line.toList).rest, ?_⟩
  have same := congrArg String.toList (text.trans whole.symm)
  rw [← String.toList_inj]
  simpa [String.toList_join, List.append_assoc] using same

end RuleTable

theorem Token.DelimitedBy.not_mem {quote : Char} (isQuote : quote ∈ Grammar.quotes)
    {tail follow : String} {token : Token} (delimited : token.DelimitedBy quote tail follow)
    (literal : Grammar.Literal token.text.toList)
    (whole : token.text ++ follow = String.singleton quote ++ tail)
    (oneLine : '\n' ∉ tail.toList) : quote ∉ follow.toList := by
  have noFeed : quote ≠ '\n' := by
    rintro rfl
    exact absurd isQuote (by decide)
  generalize chars : token.text.toList = text at literal
  obtain ⟨sign, inner, _, nonempty, noBreak⟩ := literal
  have line := congrArg String.toList whole
  rw [String.toList_append, String.toList_append, chars, String.toList_singleton,
    List.cons_append, List.cons_append, List.singleton_append] at line
  obtain ⟨rfl, inTail⟩ := List.cons.inj line
  rw [List.append_assoc, List.singleton_append] at inTail
  -- The quote that ends the literal is in the line, so the last one ends a literal as well.
  obtain ⟨inside, after, found, longer⟩ := Cut.splitLast?_append noFeed noBreak follow.toList
  have last : Text.LastOnLine sign tail (String.ofList inside) (String.ofList after) := by
    rw [Text.lastOnLine_iff noFeed, String.toList_ofList, String.toList_ofList, ← inTail, found]
  have further : String.ofList inside ≠ "" := by
    rw [ne_eq, String.ofList_eq_empty_iff]
    rintro rfl
    exact nonempty (List.length_eq_zero_iff.1 (Nat.le_zero.1 longer))
  have reaches := delimited.literal _ _ last further
  rw [reaches, String.append_assoc, ← last.split] at whole
  have behind : follow = String.ofList after := by simpa using whole
  rw [behind]
  exact last.not_mem oneLine

namespace RuleTable

variable {table : RuleTable} {state : LexState} {line : String} {before behind : List Token}
  {token : Token} {quote : Char}

theorem delimitedBy_lexLine (split : (table.lexLine state line).tokens = before ++ token :: behind)
    (identifier : token.category = .identifier) (isQuote : quote ∈ Grammar.quotes)
    (starts : token.text.toList.head? = some quote) :
    ∃ tail follow : String,
      String.join (before.map (·.text)) ++ token.text ++ follow = line ∧
        token.text ++ follow = String.singleton quote ++ tail ∧
        token.DelimitedBy quote tail follow := by
  obtain ⟨follow, whole, found⟩ := nextToken?_of_split_lexLine split
  have code : (state.replay before).inComment = false := by
    rw [Bool.eq_false_iff]
    intro inside
    rw [category_of_inComment inside found] at identifier
    contradiction
  obtain ⟨others, text⟩ := List.head?_eq_some_iff.1 starts
  refine ⟨String.ofList (others ++ follow.toList), follow, whole, ?_, ?_⟩
  · rw [← String.toList_inj]
    simp [text]
  · apply delimitedBy_of_nextToken? code isQuote
    rw [String.toList_ofList, ← List.cons_append, ← text]
    exact found

/-- On a single line neither what follows a literal nor a token behind it holds its quote. -/
theorem not_mem_behind_literal
    (split : (table.lexLine state line).tokens = before ++ token :: behind)
    (identifier : token.category = .identifier) (isQuote : quote ∈ Grammar.quotes)
    (starts : token.text.toList.head? = some quote) (literal : Grammar.Literal token.text.toList)
    (oneLine : '\n' ∉ line.toList) {follow : String}
    (whole : String.join (before.map (·.text)) ++ token.text ++ follow = line) :
    quote ∉ follow.toList ∧ ∀ later ∈ behind, quote ∉ later.text.toList := by
  obtain ⟨tail, rest, place, same, delimited⟩ :=
    delimitedBy_lexLine split identifier isQuote starts
  have unique : rest = follow := by simpa using place.trans whole.symm
  subst unique
  have noFeed : '\n' ∉ tail.toList := by
    intro listed
    apply oneLine
    rw [← whole, String.append_assoc, same]
    simp [listed]
  have noQuote := delimited.not_mem isQuote literal same noFeed
  refine ⟨noQuote, ?_⟩
  intro later listed inLater
  obtain ⟨others, follows⟩ := exists_append_eq_follow split whole
  apply noQuote
  rw [← follows, String.toList_append, String.toList_join, List.flatMap_map]
  exact List.mem_append_left _ (List.mem_flatMap.2 ⟨later, listed, inLater⟩)

end RuleTable

/-- Under any settings and from any state, an identifier of a line that starts with a quote is a
literal up to the last such quote before a line break or, if no quote is left that closes a literal,
the longest run of characters other than delimiters and blanks.  So on a line without line breaks
the quote of a literal does not stand behind it, and no other literal has the same. -/
theorem literals_reach_last_quote (settings : LexerSettings) (state : LexState) (line : String)
    {before behind : List Token} {token : Token}
    (split : ((RuleTable.ofSettings settings).lexLine state line).tokens =
      before ++ token :: behind)
    (identifier : token.category = .identifier) {quote : Char} (isQuote : quote ∈ Grammar.quotes)
    (starts : token.text.toList.head? = some quote) :
    ∃ tail follow : String,
      String.join (before.map (·.text)) ++ token.text ++ follow = line ∧
        token.text ++ follow = String.singleton quote ++ tail ∧
        token.DelimitedBy quote tail follow ∧
        ('\n' ∉ line.toList → Grammar.Literal token.text.toList →
          quote ∉ follow.toList ∧
            ∀ other ∈ before ++ behind, other.category = .identifier →
              Grammar.Literal other.text.toList → other.text.toList.head? ≠ some quote) := by
  obtain ⟨tail, follow, whole, same, delimited⟩ :=
    RuleTable.delimitedBy_lexLine split identifier isQuote starts
  refine ⟨tail, follow, whole, same, delimited, ?_⟩
  intro oneLine literal
  obtain ⟨notBehind, notLater⟩ :=
    RuleTable.not_mem_behind_literal split identifier isQuote starts literal oneLine whole
  refine ⟨notBehind, ?_⟩
  intro other listed isIdentifier isLiteral sameQuote
  rcases List.mem_append.1 listed with inFront | inBack
  · -- The quote of the earlier literal would stand in this one.
    obtain ⟨first, between, rfl⟩ := List.append_of_mem inFront
    rw [List.append_assoc, List.cons_append] at split
    obtain ⟨rest, place, _⟩ := RuleTable.nextToken?_of_split_lexLine split
    obtain ⟨_, notLater⟩ :=
      RuleTable.not_mem_behind_literal split isIdentifier isQuote sameQuote isLiteral oneLine place
    exact notLater token (by simp) (List.mem_of_mem_head? starts)
  · exact notLater other inBack (List.mem_of_mem_head? sameQuote)

theorem literals_reach_last_quote_over_empty_literal :
    ((RuleTable.ofSettings {}).lexLine {} "b ``, `a").tokens =
        [⟨.identifier, "b"⟩, ⟨.whitespace, " "⟩] ++ ⟨.identifier, "``, `"⟩ :: [⟨.identifier, "a"⟩] ∧
      ∃ tail follow : String,
        String.join ["b", " "] ++ "``, `" ++ follow = "b ``, `a" ∧
          "``, `" ++ follow = "`" ++ tail ∧
          Token.DelimitedBy '\x60' tail follow ⟨.identifier, "``, `"⟩ ∧ '\x60' ∉ follow.toList := by
  have split : ((RuleTable.ofSettings {}).lexLine {} "b ``, `a").tokens =
      [⟨.identifier, "b"⟩, ⟨.whitespace, " "⟩] ++
        ⟨.identifier, "``, `"⟩ :: [⟨.identifier, "a"⟩] := by
    decide +kernel
  have literal : Grammar.Literal "``, `".toList :=
    .quoted '\x60' ['\x60', ',', ' '] (by decide) (by decide) (by decide)
  obtain ⟨tail, follow, whole, same, delimited, alone⟩ :=
    literals_reach_last_quote {} {} "b ``, `a" split rfl (by decide) rfl
  exact ⟨split, tail, follow, whole, same, delimited, (alone (by decide) literal).1⟩

end SqlLint
