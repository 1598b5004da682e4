import SqlLint.Lexer.Line
import SqlLint.Proofs.Alphabet

/-!
# Bodies of rules

A rule outside comments takes blanks, a body and a tail in one cut.  `Rule.body?` is what it takes
of a text on which the body stands at the very front, and `Rule.cut?_eq_body?` says that a cut is
this body behind the blanks, with `Rule.tail` behind it.  `RuleTable.nextBody?` is the first body
in the order of the rules: the unit in which a text can be read token by token.
-/

set_option autoImplicit false

namespace SqlLint

namespace Cut

def takeWord : Take := fun text =>
  (takeRun Text.isWordChar text).filter fun taken => (keywordTail? taken.2).isSome

def takeKeyword (keywords : KeywordSet) : Take := fun text =>
  (takeWord text).filter fun taken => keywords.contains (String.ofList taken.1)

/-- One token of a line that starts inside a block comment: the text before the closing mark, or
the mark itself. -/
def takeCommentPiece : Take := fun text =>
  match splitCommentEnd? text with
  | none => none
  | some ([], after) => some (['*', '/'], after)
  | some (c :: before, after) => some (c :: before, '*' :: '/' :: after)

def takeAll : Take
  | [] => none
  | text => some (text, [])

theorem takeRun_eq_some_iff {member : Char → Bool} {text body rest : List Char} :
    takeRun member text = some (body, rest) ↔
      body ≠ [] ∧ text.takeWhile member = body ∧ text.dropWhile member = rest := by
  unfold takeRun
  split
  · next empty =>
      constructor
      · intro taken
        contradiction
      · rintro ⟨nonempty, rfl, _⟩
        exact absurd empty nonempty
  · next nonempty =>
      simp only [Option.some.injEq, Prod.mk.injEq]
      constructor
      · rintro ⟨rfl, rfl⟩
        exact ⟨nonempty, rfl, rfl⟩
      · rintro ⟨_, rfl, rfl⟩
        exact ⟨rfl, rfl⟩

theorem takeRun_eq_none {member : Char → Bool} {c : Char} {rest : List Char}
    (other : member c = false) : takeRun member (c :: rest) = none := by
  simp [takeRun, other]

theorem takeRun_cons {member : Char → Bool} {c : Char} {rest : List Char}
    (inside : member c = true) :
    takeRun member (c :: rest) = some (c :: rest.takeWhile member, rest.dropWhile member) := by
  simp [takeRun, inside]

theorem takeCommentMark_cons (c : Char) (rest : List Char) :
    takeCommentMark (c :: rest) =
      if c = '/' ∧ rest.head? = some '*' then some (['/', '*'], rest.tail) else none := by
  by_cases mark : c = '/' ∧ rest.head? = some '*'
  · obtain ⟨rfl, star⟩ := mark
    obtain ⟨others, rfl⟩ := List.head?_eq_some_iff.1 star
    rfl
  · rw [if_neg mark]
    unfold takeCommentMark
    split
    · next same =>
        obtain ⟨rfl, rfl⟩ := List.cons_eq_cons.1 same
        exact absurd ⟨rfl, rfl⟩ mark
    · rfl

theorem startsLineComment_cons (c : Char) (rest : List Char) :
    startsLineComment (c :: rest) = (c == '#' || (c == '-' && rest.head? == some '-')) := by
  by_cases hash : c = '#'
  · subst hash
    rfl
  · by_cases dashes : c = '-' ∧ rest.head? = some '-'
    · obtain ⟨rfl, dash⟩ := dashes
      obtain ⟨others, rfl⟩ := List.head?_eq_some_iff.1 dash
      rfl
    · unfold startsLineComment
      split
      · next same =>
          obtain ⟨rfl, rfl⟩ := List.cons_eq_cons.1 same
          contradiction
      · next same =>
          obtain ⟨rfl, rfl⟩ := List.cons_eq_cons.1 same
          exact absurd ⟨rfl, rfl⟩ dashes
      · simp only [beq_eq_false_iff_ne.2 hash, Bool.false_or]
        rw [eq_comm, Bool.and_eq_false_iff, beq_eq_false_iff_ne, beq_eq_false_iff_ne]
        exact Decidable.not_and_iff_not_or_not.1 dashes

theorem splitCommentEnd?_cons (c : Char) (rest : List Char) :
    splitCommentEnd? (c :: rest) =
      if c = '*' ∧ rest.head? = some '/' then some ([], rest.tail)
      else if c = '\n' then none
      else (splitCommentEnd? rest).map fun (before, after) => (c :: before, after) := by
  by_cases mark : c = '*' ∧ rest.head? = some '/'
  · obtain ⟨rfl, slash⟩ := mark
    obtain ⟨others, rfl⟩ := List.head?_eq_some_iff.1 slash
    rfl
  · rw [if_neg mark, splitCommentEnd?]
    intro others star slash
    subst star slash
    exact mark ⟨rfl, rfl⟩

theorem faithful_takeWord : Faithful takeWord := by
  intro text body rest taken
  obtain ⟨run, _⟩ := Option.filter_eq_some_iff.1 taken
  exact faithful_takeRun _ _ _ _ run

theorem faithful_takeKeyword (keywords : KeywordSet) : Faithful (takeKeyword keywords) := by
  intro text body rest taken
  obtain ⟨word, _⟩ := Option.filter_eq_some_iff.1 taken
  exact faithful_takeWord _ _ _ word

theorem faithful_takeCommentPiece : Faithful takeCommentPiece := by
  intro text body rest taken
  unfold takeCommentPiece at taken
  split at taken
  · contradiction
  · next after found =>
      simp only [Option.some.injEq, Prod.mk.injEq] at taken
      obtain ⟨rfl, rfl⟩ := taken
      exact ⟨append_of_splitCommentEnd? found, by simp⟩
  · next c before after found =>
      simp only [Option.some.injEq, Prod.mk.injEq] at taken
      obtain ⟨rfl, rfl⟩ := taken
      exact ⟨append_of_splitCommentEnd? found, by simp⟩

theorem faithful_takeAll : Faithful takeAll := by
  intro text body rest taken
  cases text with
  | nil => contradiction
  | cons c others =>
      simp only [takeAll, Option.some.injEq, Prod.mk.injEq] at taken
      obtain ⟨rfl, rfl⟩ := taken
      simp

/-! ## Words -/

/-- A text that starts with a word character starts with no comment, delimiter, literal or
operator. -/
theorem bodies_of_isWordChar {c : Char} (inWord : Text.isWordChar c = true) (rest : List Char) :
    takeCommentMark (c :: rest) = none ∧ takeLineComment (c :: rest) = none ∧
      takeChar ',' (c :: rest) = none ∧ takeChar '(' (c :: rest) = none ∧
      takeChar ')' (c :: rest) = none ∧ takeQuoted (c :: rest) = none ∧
      takeRun isOperatorChar (c :: rest) = none := by
  have slash : c ≠ '/' := Text.ne_of_isWordChar inWord (by decide)
  have hash : c ≠ '#' := Text.ne_of_isWordChar inWord (by decide)
  have dash : c ≠ '-' := Text.ne_of_isWordChar inWord (by decide)
  have comma : c ≠ ',' := Text.ne_of_isWordChar inWord (by decide)
  have left : c ≠ '(' := Text.ne_of_isWordChar inWord (by decide)
  have right : c ≠ ')' := Text.ne_of_isWordChar inWord (by decide)
  refine ⟨?_, ?_, ?_, ?_, ?_, ?_, ?_⟩
  · simp [takeCommentMark, slash]
  · simp [takeLineComment, startsLineComment, hash, dash]
  · simp [takeChar, comma]
  · simp [takeChar, left]
  · simp [takeChar, right]
  · simp [takeQuoted, isQuote_of_isWordChar inWord]
  · exact takeRun_eq_none (isOperatorChar_of_isWordChar inWord)

/-- A word that ends where a keyword can end starts with a word character, and it reaches as far as
an identifier does. -/
theorem takeWord_spec {text word after : List Char} (taken : takeWord text = some (word, after)) :
    (∃ c rest, text = c :: rest ∧ Text.isWordChar c = true) ∧
      (∀ c ∈ word, Text.isWordChar c = true) ∧
      takeRun isIdentifierChar text = some (word, after) := by
  obtain ⟨run, ends⟩ := Option.filter_eq_some_iff.1 taken
  obtain ⟨nonempty, whileWord, dropWord⟩ := takeRun_eq_some_iff.1 run
  have inWord : ∀ c ∈ word, Text.isWordChar c = true := by
    intro c listed
    rw [← whileWord] at listed
    exact List.all_eq_true.1 List.all_takeWhile c listed
  have whole : word ++ after = text := (faithful_takeRun _ _ _ _ run).1
  refine ⟨?_, inWord, ?_⟩
  · cases word with
    | nil => contradiction
    | cons c others => exact ⟨c, others ++ after, whole.symm, inWord c (by simp)⟩
  · have inIdentifier : ∀ c ∈ word, isIdentifierChar c = true := by
      intro c listed
      exact isIdentifierChar_of_isWordChar (inWord c listed)
    have stop : after.takeWhile isIdentifierChar = [] ∧
        after.dropWhile isIdentifierChar = after := by
      cases after with
      | nil => exact ⟨rfl, rfl⟩
      | cons c others =>
          have outside : isIdentifierChar c = false := by
            by_cases bracket : c = '('
            · subst bracket
              decide
            · by_cases blank : Text.isBlank c = true
              · exact isIdentifierChar_of_isBlank blank
              · simp [keywordTail?, bracket, blank] at ends
          simp [outside]
    rw [takeRun_eq_some_iff, ← whole, List.takeWhile_append_of_pos inIdentifier,
      List.dropWhile_append_of_pos inIdentifier, stop.1, stop.2]
    simp [nonempty]

end Cut

namespace Rule

/-- What a rule takes of a text that starts with the body itself. -/
def body? (keywords : KeywordSet) : Rule → Cut.Take
  | commentEnd => Cut.takeCommentPiece
  | commentRest => Cut.takeAll
  | commentBegin => Cut.takeCommentMark
  | commentLine => Cut.takeLineComment
  | comma => Cut.takeChar ','
  | bracketLeft => Cut.takeChar '('
  | bracketRight => Cut.takeChar ')'
  | keyword => Cut.takeKeyword keywords
  | quoted => Cut.takeQuoted
  | operator => Cut.takeRun Cut.isOperatorChar
  | identifier => Cut.takeRun Cut.isIdentifierChar
  | whitespace => Cut.takeRun Text.isBlank

/-- What a rule takes behind a body, and what it leaves. -/
def tail (after : List Char) : Rule → List Char × List Char
  | commentEnd | commentRest | commentBegin | commentLine | whitespace => ([], after)
  | keyword => (Cut.keywordTail? after).getD ([], after)
  | comma | bracketLeft | bracketRight | quoted | operator | identifier =>
      (after.takeWhile Text.isBlank, after.dropWhile Text.isBlank)

/-- The rules that take blanks before a body. -/
def padded : List Rule :=
  [commentBegin, commentLine, comma, bracketLeft, bracketRight, keyword, quoted, operator,
    identifier]

theorem faithful_body? (keywords : KeywordSet) (rule : Rule) :
    Cut.Faithful (rule.body? keywords) := by
  cases rule with
  | commentEnd => exact Cut.faithful_takeCommentPiece
  | commentRest => exact Cut.faithful_takeAll
  | commentBegin => exact Cut.faithful_takeCommentMark
  | commentLine => exact Cut.faithful_takeLineComment
  | comma => exact Cut.faithful_takeChar _
  | bracketLeft => exact Cut.faithful_takeChar _
  | bracketRight => exact Cut.faithful_takeChar _
  | keyword => exact Cut.faithful_takeKeyword _
  | quoted => exact Cut.faithful_takeQuoted
  | operator => exact Cut.faithful_takeRun _
  | identifier => exact Cut.faithful_takeRun _
  | whitespace => exact Cut.faithful_takeRun _

theorem keyword?_eq_takeKeyword (keywords : KeywordSet) (text : List Char) :
    Cut.keyword? keywords text =
      (Cut.takeKeyword keywords (text.dropWhile Text.isBlank)).map fun (word, after) =>
        ⟨text.takeWhile Text.isBlank, word, (keyword.tail after).1, (keyword.tail after).2⟩ := by
  unfold Cut.keyword? Cut.takeKeyword Cut.takeWord
  cases run : Cut.takeRun Text.isWordChar (text.dropWhile Text.isBlank) with
  | none => rfl
  | some taken =>
      obtain ⟨word, after⟩ := taken
      cases found : Cut.keywordTail? after with
      | none => simp [found, Option.filter_some]
      | some ends =>
          by_cases listed : keywords.contains (String.ofList word) = true
          · simp [found, listed, tail, Option.filter_some]
          · simp [found, listed, Option.filter_some]

theorem cut?_eq_body? {keywords : KeywordSet} {text : List Char} {rule : Rule}
    (listed : rule ∈ padded) :
    rule.cut? keywords text =
      (rule.body? keywords (text.dropWhile Text.isBlank)).map fun (body, after) =>
        ⟨text.takeWhile Text.isBlank, body, (rule.tail after).1, (rule.tail after).2⟩ := by
  cases rule with
  | keyword => exact keyword?_eq_takeKeyword keywords text
  | commentEnd => simp [padded] at listed
  | commentRest => simp [padded] at listed
  | whitespace => simp [padded] at listed
  | _ => rfl

theorem tail_cases (rule : Rule) (text : List Char) :
    rule.tail text = ([], text) ∨
      (∃ others, text = '(' :: others ∧ rule.tail text = (['('], others)) ∨
      rule.tail text = (text.takeWhile Text.isBlank, text.dropWhile Text.isBlank) := by
  cases rule with
  | keyword =>
      cases text with
      | nil => exact Or.inl rfl
      | cons c others =>
          by_cases bracket : c = '('
          · subst bracket
            exact Or.inr (Or.inl ⟨others, rfl, rfl⟩)
          · by_cases blank : Text.isBlank c = true
            · simp [tail, Cut.keywordTail?, bracket, blank]
            · simp [tail, Cut.keywordTail?, bracket, blank]
  | commentEnd => exact Or.inl rfl
  | commentRest => exact Or.inl rfl
  | commentBegin => exact Or.inl rfl
  | commentLine => exact Or.inl rfl
  | whitespace => exact Or.inl rfl
  | _ => exact Or.inr (Or.inr rfl)

/-- No body of a rule starts with a blank. -/
theorem body?_of_isBlank {keywords : KeywordSet} {rule : Rule} (listed : rule ∈ padded)
    {c : Char} {rest : List Char} (blank : Text.isBlank c = true) :
    rule.body? keywords (c :: rest) = none := by
  have otherChar : ∀ d, Text.isBlank d = false → Cut.takeChar d (c :: rest) = none := by
    intro d noBlank
    simp [Cut.takeChar, Text.ne_of_isBlank blank noBlank]
  cases rule with
  | commentBegin =>
      have noSlash : c ≠ '/' := Text.ne_of_isBlank blank (by decide)
      simp [body?, Cut.takeCommentMark, noSlash]
  | commentLine =>
      have noHash : c ≠ '#' := Text.ne_of_isBlank blank (by decide)
      have noDash : c ≠ '-' := Text.ne_of_isBlank blank (by decide)
      simp [body?, Cut.takeLineComment, Cut.startsLineComment, noHash, noDash]
  | comma => exact otherChar _ (by decide)
  | bracketLeft => exact otherChar _ (by decide)
  | bracketRight => exact otherChar _ (by decide)
  | keyword =>
      have refused : Cut.takeRun Text.isWordChar (c :: rest) = none :=
        Cut.takeRun_eq_none (Text.isWordChar_of_isBlank blank)
      simp [body?, Cut.takeKeyword, Cut.takeWord, refused]
  | quoted => simp [body?, Cut.takeQuoted, Cut.isQuote_of_isBlank blank]
  | operator => exact Cut.takeRun_eq_none (Cut.isOperatorChar_of_isBlank blank)
  | identifier => exact Cut.takeRun_eq_none (Cut.isIdentifierChar_of_isBlank blank)
  | commentEnd => simp [padded] at listed
  | commentRest => simp [padded] at listed
  | whitespace => simp [padded] at listed

/-- The first of some rules whose body stands at the front of the text, with the body and what
follows it. -/
def firstBody? (keywords : KeywordSet) (text : List Char) (rules : List Rule) :
    Option (Rule × List Char × List Char) :=
  rules.findSome? fun rule => (rule.body? keywords text).map (rule, ·)

theorem firstBody?_append (keywords : KeywordSet) (text : List Char) (rules others : List Rule) :
    firstBody? keywords text (rules ++ others) =
      (firstBody? keywords text rules).or (firstBody? keywords text others) :=
  List.findSome?_append

theorem body?_of_firstBody? {keywords : KeywordSet} {text : List Char} {rules : List Rule}
    {rule : Rule} {body after : List Char}
    (found : firstBody? keywords text rules = some (rule, body, after)) :
    rule ∈ rules ∧ rule.body? keywords text = some (body, after) := by
  unfold firstBody? at found
  obtain ⟨candidate, listed, applied⟩ := List.exists_of_findSome?_eq_some found
  obtain ⟨taken, takes, same⟩ := Option.map_eq_some_iff.1 applied
  simp only [Prod.mk.injEq] at same
  obtain ⟨rfl, rfl⟩ := same
  exact ⟨listed, takes⟩

theorem firstBody?_eq_none_iff {keywords : KeywordSet} {text : List Char} {rules : List Rule} :
    firstBody? keywords text rules = none ↔ ∀ rule ∈ rules, rule.body? keywords text = none := by
  simp [firstBody?]

theorem findSome?_eq_of_forall_mem {α β : Type} {first second : α → Option β} {list : List α}
    (same : ∀ a ∈ list, first a = second a) : list.findSome? first = list.findSome? second := by
  induction list with
  | nil => rfl
  | cons a rest ih =>
      rw [List.findSome?_cons, List.findSome?_cons, same a (by simp)]
      rw [ih fun b listed => same b (List.mem_cons_of_mem a listed)]

end Rule

namespace RuleTable

/-- The first rule that applies in a state whose body stands at the front of the text. -/
def nextBody? (table : RuleTable) (state : LexState) (text : List Char) :
    Option (Rule × List Char × List Char) :=
  Rule.firstBody? table.keywords text (rules state)

theorem rules_of_code {state : LexState} (code : state.inComment = false) :
    rules state = Rule.padded ++ [.whitespace] := by
  simp [rules, code, Rule.inCode, Rule.padded]

theorem rules_of_comment {state : LexState} (comment : state.inComment = true) :
    rules state = [.commentEnd, .commentRest] := by
  simp [rules, comment, Rule.inComment]

theorem nextBody?_of_code (table : RuleTable) {state : LexState}
    (code : state.inComment = false) (text : List Char) :
    table.nextBody? state text =
      (Rule.firstBody? table.keywords text Rule.padded).or
        ((Cut.takeRun Text.isBlank text).map (Rule.whitespace, ·)) := by
  rw [nextBody?, rules_of_code code, Rule.firstBody?_append]
  simp [Rule.firstBody?, Rule.body?]

theorem nextBody?_of_isBlank (table : RuleTable) {state : LexState}
    (code : state.inComment = false) {c : Char} (rest : List Char)
    (blank : Text.isBlank c = true) :
    table.nextBody? state (c :: rest) =
      some (.whitespace, c :: rest.takeWhile Text.isBlank, rest.dropWhile Text.isBlank) := by
  have refused : Rule.firstBody? table.keywords (c :: rest) Rule.padded = none :=
    Rule.firstBody?_eq_none_iff.2 fun rule listed => Rule.body?_of_isBlank listed blank
  rw [nextBody?_of_code table code, refused, Cut.takeRun_cons blank]
  rfl

/-- Outside comments a text that starts with a word character is read as a keyword or, if none ends
there, as an identifier. -/
theorem nextBody?_of_isWordChar (table : RuleTable) {state : LexState}
    (code : state.inComment = false) {c : Char} (inWord : Text.isWordChar c = true)
    (rest : List Char) :
    table.nextBody? state (c :: rest) =
      ((Cut.takeKeyword table.keywords (c :: rest)).map (Rule.keyword, ·)).or
        ((Cut.takeRun Cut.isIdentifierChar (c :: rest)).map (Rule.identifier, ·)) := by
  obtain ⟨mark, line, comma, left, right, quoted, operator⟩ :=
    Cut.bodies_of_isWordChar inWord rest
  have noBlank : Cut.takeRun Text.isBlank (c :: rest) = none :=
    Cut.takeRun_eq_none (Text.isBlank_of_isWordChar inWord)
  rw [table.nextBody?_of_code code]
  cases keyword : Cut.takeKeyword table.keywords (c :: rest) <;>
    cases identifier : Cut.takeRun Cut.isIdentifierChar (c :: rest) <;>
      simp [Rule.firstBody?, Rule.padded, Rule.body?, mark, line, comma, left, right, quoted,
        operator, noBlank, keyword, identifier]

/-- Outside comments a cut is the first body behind the blanks, or the blanks alone. -/
theorem firstCut?_of_code (table : RuleTable) {state : LexState}
    (code : state.inComment = false) (text : List Char) :
    table.firstCut? state text =
      ((Rule.firstBody? table.keywords (text.dropWhile Text.isBlank) Rule.padded).map
        fun (rule, body, after) =>
          (rule, ⟨text.takeWhile Text.isBlank, body, (rule.tail after).1, (rule.tail after).2⟩)).or
        ((Cut.blanks? text).map (Rule.whitespace, ·)) := by
  rw [firstCut?, rules_of_code code, List.findSome?_append]
  congr 1
  · rw [Rule.firstBody?, List.map_findSome?]
    apply Rule.findSome?_eq_of_forall_mem
    intro rule listed
    rw [Function.comp_apply, Rule.cut?_eq_body? listed, Option.map_map, Option.map_map]
    rfl
  · simp [Rule.cut?]

end RuleTable

end SqlLint
