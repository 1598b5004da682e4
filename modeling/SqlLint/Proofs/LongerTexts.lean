import SqlLint.Proofs.KeywordTokens
import SqlLint.Proofs.QuotedLiterals

/-!
# Texts that go on

What is read of a text stays the same when another text follows, as long as nothing goes on from the
one into the other: `Grammar.Separate` rules this out for words, operators, identifiers and
literals, and `Rule.Settled` for the rules that take whatever comes.  Then every rule makes the same
body (`Rule.body?_append`) and refuses the same texts (`Rule.body?_append_eq_none`), so that the
same token is next (`RuleTable.nextBody?_append`).
-/

set_option autoImplicit false

namespace SqlLint

namespace Grammar

/-- No word, operator, identifier or literal goes on from one text into the next. -/
structure Separate (front back : List Char) : Prop where
  delimited : (∀ c, front.getLast? = some c → EndsIdentifier c) ∨ GoesOnWith EndsKeyword back
  noLiteral : ∀ quote ∈ quotes, quote ∈ front → quote ∉ back

theorem Separate.of_append {taken front back : List Char}
    (separate : Separate (taken ++ front) back) : Separate front back where
  delimited := by
    refine separate.delimited.imp_left ?_
    intro ends c last
    exact ends c (by rw [List.getLast?_append, last, Option.some_or])
  noLiteral := fun quote isQuote inFront =>
    separate.noLiteral quote isQuote (List.mem_append_right taken inFront)

theorem GoesOnWith.append {kind : Char → Prop} {front back : List Char}
    (goesOn : GoesOnWith kind front) (atEnd : front = [] → GoesOnWith kind back) :
    GoesOnWith kind (front ++ back) := by
  cases front with
  | nil => exact atEnd rfl
  | cons c rest => exact goesOn

theorem EndsKeyword.endsIdentifier {c : Char} (ends : EndsKeyword c) : EndsIdentifier c := by
  rcases ends with rfl | blank
  · exact Or.inl (by decide)
  · exact Or.inr blank

theorem Separate.goesOnWith {front back : List Char} (separate : Separate front back)
    {c : Char} (last : front.getLast? = some c) (inside : Cut.isIdentifierChar c = true) :
    GoesOnWith EndsKeyword back := by
  refine separate.delimited.resolve_left ?_
  intro ends
  rw [Cut.isIdentifierChar_eq_false_iff.2 (ends c last)] at inside
  contradiction

end Grammar

/-! ## Recognisers -/

namespace Cut

/-- A way to take a body that takes the same from a text if another one follows. -/
def Local (take : Take) (front back : List Char) : Prop :=
  take (front ++ back) = (take front).map fun (body, after) => (body, after ++ back)

theorem local_takeChar {front : List Char} (nonempty : front ≠ []) (c : Char) (back : List Char) :
    Local (takeChar c) front back := by
  obtain ⟨first, rest, rfl⟩ := List.exists_cons_of_ne_nil nonempty
  rw [Local, List.cons_append, takeChar, takeChar]
  split <;> rfl

variable {front back body after : List Char}

theorem takeRun_append {member : Char → Bool} (taken : takeRun member front = some (body, after))
    (atEnd : after = [] → Grammar.GoesOnWith (fun c => member c = false) back) :
    takeRun member (front ++ back) = some (body, after ++ back) := by
  obtain ⟨filled, inside, stop⟩ := takeRun_spec taken
  obtain ⟨whole, _⟩ := faithful_takeRun _ _ _ _ taken
  rw [← whole, List.append_assoc]
  exact takeRun_of_goesOnWith filled inside (stop.append atEnd)

/-- A run that reaches the end of the first text ends in front of the next. -/
theorem goesOnWith_of_takeRun {member : Char → Bool} (separate : Grammar.Separate front back)
    (inIdentifier : ∀ c, member c = true → isIdentifierChar c = true)
    (taken : takeRun member front = some (body, [])) :
    Grammar.GoesOnWith Grammar.EndsKeyword back := by
  obtain ⟨filled, inside, _⟩ := takeRun_spec taken
  obtain ⟨whole, _⟩ := faithful_takeRun _ _ _ _ taken
  rw [List.append_nil] at whole
  subst whole
  exact separate.goesOnWith (List.getLast?_eq_some_getLast filled)
    (inIdentifier _ (inside _ (List.getLast_mem filled)))

theorem takeRun_append_eq_none {member : Char → Bool} (nonempty : front ≠ [])
    (refused : takeRun member front = none) : takeRun member (front ++ back) = none := by
  obtain ⟨c, rest, rfl⟩ := List.exists_cons_of_ne_nil nonempty
  refine takeRun_eq_none (Bool.eq_false_iff.2 ?_)
  intro inside
  rw [takeRun_cons inside] at refused
  contradiction

theorem local_takeRun {member : Char → Bool} (nonempty : front ≠ [])
    (separate : Grammar.Separate front back)
    (inIdentifier : ∀ c, member c = true → isIdentifierChar c = true) :
    Local (takeRun member) front back := by
  cases run : takeRun member front with
  | none =>
      rw [Local, run, takeRun_append_eq_none nonempty run]
      rfl
  | some taken =>
      obtain ⟨body, after⟩ := taken
      rw [Local, run]
      refine takeRun_append run ?_
      -- A run up to the end of the first text could only go on with a character of identifiers.
      rintro rfl c first
      rw [Bool.eq_false_iff]
      intro inside
      have ends := goesOnWith_of_takeRun separate inIdentifier run c first
      have outside := isIdentifierChar_eq_false_iff.2 ends.endsIdentifier
      rw [inIdentifier c inside] at outside
      contradiction

theorem isSome_keywordTail?_append
    (atEnd : after = [] → Grammar.GoesOnWith Grammar.EndsKeyword back) :
    (keywordTail? (after ++ back)).isSome = (keywordTail? after).isSome := by
  rw [Bool.eq_iff_iff, keywordTail?_isSome_iff, keywordTail?_isSome_iff]
  cases after with
  | nil =>
      refine iff_of_true (atEnd rfl) ?_
      intro c first
      contradiction
  | cons c rest => rfl

theorem local_takeKeyword (keywords : KeywordSet) (nonempty : front ≠ [])
    (separate : Grammar.Separate front back) : Local (takeKeyword keywords) front back := by
  have word : Local (takeRun Text.isWordChar) front back :=
    local_takeRun nonempty separate fun _ => isIdentifierChar_of_isWordChar
  rw [Local] at word
  rw [Local, takeKeyword, takeKeyword, takeWord, takeWord, word]
  cases run : takeRun Text.isWordChar front with
  | none => rfl
  | some taken =>
      obtain ⟨body, after⟩ := taken
      have atEnd : after = [] → Grammar.GoesOnWith Grammar.EndsKeyword back := by
        rintro rfl
        exact goesOnWith_of_takeRun separate (fun _ => isIdentifierChar_of_isWordChar) run
      simp only [Option.map_some, Option.filter_some, isSome_keywordTail?_append atEnd]
      split
      · simp only [Option.filter_some]
        split <;> rfl
      · rfl

/-- A sign that can stand in identifiers is not followed by another one in the next text. -/
theorem head?_append_of_separate {c sign : Char} {rest : List Char}
    (separate : Grammar.Separate (c :: rest) back) (inside : isIdentifierChar c = true)
    (inIdentifier : isIdentifierChar sign = true) :
    (rest ++ back).head? = some sign ↔ rest.head? = some sign := by
  cases rest with
  | nil =>
      refine iff_of_false ?_ (by simp)
      intro first
      have ends := separate.goesOnWith rfl inside sign first
      rw [isIdentifierChar_eq_false_iff.2 ends.endsIdentifier] at inIdentifier
      contradiction
  | cons d rest => rfl

theorem local_takeCommentMark (nonempty : front ≠ []) (separate : Grammar.Separate front back) :
    Local takeCommentMark front back := by
  obtain ⟨c, rest, rfl⟩ := List.exists_cons_of_ne_nil nonempty
  rw [Local, List.cons_append, takeCommentMark_cons, takeCommentMark_cons]
  by_cases slash : c = '/'
  · subst slash
    -- Both signs of the mark can stand in identifiers, so that it does not lie across the seam.
    have second := head?_append_of_separate separate (by decide) (by decide : isIdentifierChar '*')
    simp only [second, true_and]
    cases rest with
    | nil => rfl
    | cons d rest =>
        by_cases star : d = '*'
        · subst star
          rfl
        · simp [star]
  · simp [slash]

theorem startsLineComment_append (nonempty : front ≠ []) (separate : Grammar.Separate front back) :
    startsLineComment (front ++ back) = startsLineComment front := by
  obtain ⟨c, rest, rfl⟩ := List.exists_cons_of_ne_nil nonempty
  rw [List.cons_append, startsLineComment_cons, startsLineComment_cons]
  by_cases dash : c = '-'
  · subst dash
    have second := head?_append_of_separate separate (by decide) (by decide : isIdentifierChar '-')
    have same : ((rest ++ back).head? == some '-') = (rest.head? == some '-') := by
      rw [Bool.eq_iff_iff, beq_iff_eq, beq_iff_eq, second]
    rw [same]
  · rw [beq_eq_false_iff_ne.2 dash, Bool.false_and, Bool.false_and]

theorem splitLast?_append_of_not_mem {quote : Char} (front : List Char) (outside : quote ∉ back) :
    splitLast? quote (front ++ back) =
      (splitLast? quote front).map fun (before, after) => (before, after ++ back) := by
  have noQuote : splitLast? quote back = none := by
    rw [Option.eq_none_iff_forall_ne_some]
    rintro ⟨before, after⟩ found
    rw [← append_of_splitLast? found] at outside
    simp at outside
  induction front with
  | nil => exact noQuote
  | cons c rest ih =>
      rw [List.cons_append, splitLast?, splitLast?, ih]
      split
      · rfl
      · cases splitLast? quote rest with
        | some pieces => rfl
        | none =>
            simp only [Option.map_none]
            split <;> rfl

theorem local_takeQuoted (nonempty : front ≠ []) (separate : Grammar.Separate front back) :
    Local takeQuoted front back := by
  obtain ⟨quote, rest, rfl⟩ := List.exists_cons_of_ne_nil nonempty
  rw [Local, List.cons_append, takeQuoted, takeQuoted]
  split
  · next opens =>
      -- The last quote stands in the first text, because the second has none.
      have outside : quote ∉ back :=
        separate.noLiteral quote (isQuote_iff.1 opens) List.mem_cons_self
      rw [splitLast?_append_of_not_mem rest outside]
      cases splitLast? quote rest with
      | none => rfl
      | some pieces =>
          obtain ⟨before, after⟩ := pieces
          cases before with
          | nil => rfl
          | cons c before => rfl
  · rfl

theorem takeLineComment_eq_none_iff {text : List Char} :
    takeLineComment text = none ↔ startsLineComment text = false := by
  rw [takeLineComment]
  cases startsLineComment text <;> simp

theorem startsLineComment_of_takeLineComment (taken : takeLineComment front = some (body, after)) :
    startsLineComment front = true := by
  rw [← Bool.not_eq_false]
  intro otherwise
  rw [takeLineComment_eq_none_iff.2 otherwise] at taken
  contradiction

theorem bne_of_takeLineComment (taken : takeLineComment front = some (body, after)) :
    ∀ c ∈ body, (c != '\n') = true := by
  intro c listed
  rw [bne_iff_ne]
  rintro rfl
  exact (takeLineComment_spec taken).oneLine listed

/-- A line comment that ends within the first text. -/
theorem takeLineComment_append (nonempty : front ≠ []) (separate : Grammar.Separate front back)
    (taken : takeLineComment front = some (body, after)) (ends : after ≠ []) :
    takeLineComment (front ++ back) = some (body, after ++ back) := by
  obtain ⟨whole, filled⟩ := faithful_takeLineComment _ _ _ taken
  have comment := takeLineComment_spec taken
  have stop : Grammar.GoesOnWith (fun c => (c != '\n') = false) (after ++ back) := by
    refine Grammar.GoesOnWith.append ?_ fun none => absurd none ends
    intro c first
    simpa using comment.maximal c first
  have run := takeRun_of_goesOnWith filled (bne_of_takeLineComment taken) stop
  rw [← List.append_assoc, whole, takeRun_eq_some_iff] at run
  rw [takeLineComment, startsLineComment_append nonempty separate,
    startsLineComment_of_takeLineComment taken, run.2.1, run.2.2]
  rfl

theorem splitCommentEnd?_append {before : List Char}
    (found : splitCommentEnd? front = some (before, after)) (back : List Char) :
    splitCommentEnd? (front ++ back) = some (before, after ++ back) := by
  induction front generalizing before with
  | nil => contradiction
  | cons c rest ih =>
      rw [splitCommentEnd?_cons] at found
      rw [List.cons_append, splitCommentEnd?_cons]
      split at found
      · next mark =>
          cases found
          obtain ⟨rfl, slash⟩ := mark
          obtain ⟨others, rfl⟩ := List.head?_eq_some_iff.1 slash
          rfl
      · next noMark =>
          split at found
          · contradiction
          · next noFeed =>
              obtain ⟨⟨inner, behind⟩, further, built⟩ := Option.map_eq_some_iff.1 found
              cases built
              have stillNoMark : ¬ (c = '*' ∧ (rest ++ back).head? = some '/') := by
                cases rest with
                | nil => contradiction
                | cons d rest => exact noMark
              rw [if_neg stillNoMark, if_neg noFeed, ih further]
              rfl

theorem takeCommentPiece_append (taken : takeCommentPiece front = some (body, after))
    (back : List Char) : takeCommentPiece (front ++ back) = some (body, after ++ back) := by
  rw [takeCommentPiece] at taken
  rw [takeCommentPiece]
  split at taken
  · contradiction
  · next behind found =>
      cases taken
      rw [splitCommentEnd?_append found]
  · next c before behind found =>
      cases taken
      rw [splitCommentEnd?_append found]
      rfl

end Cut

/-! ## Rules -/

namespace Rule

/-- The body that a rule takes of a text, and that leaves `after`, does not go on into `back`. -/
def Settled (back after : List Char) : Rule → Prop
  | commentLine | commentRest => after ≠ []
  | whitespace => after = [] → Grammar.GoesOnWith (fun c => Text.isBlank c = false) back
  | _ => True

theorem settled_of_ne_nil {back after : List Char} (behind : after ≠ []) (rule : Rule) :
    rule.Settled back after := by
  cases rule with
  | commentLine => exact behind
  | commentRest => exact behind
  | whitespace => exact fun empty => absurd empty behind
  | _ => trivial

variable {keywords : KeywordSet} {front back body after : List Char} {rule : Rule}

/-- The rules that take what they take within the text. -/
theorem local_body? (listed : rule ∈ padded) (noLine : rule ≠ commentLine)
    (nonempty : front ≠ []) (separate : Grammar.Separate front back) :
    Cut.Local (rule.body? keywords) front back := by
  cases rule with
  | commentBegin => exact Cut.local_takeCommentMark nonempty separate
  | commentLine => contradiction
  | comma => exact Cut.local_takeChar nonempty _ back
  | bracketLeft => exact Cut.local_takeChar nonempty _ back
  | bracketRight => exact Cut.local_takeChar nonempty _ back
  | keyword => exact Cut.local_takeKeyword keywords nonempty separate
  | quoted => exact Cut.local_takeQuoted nonempty separate
  | operator =>
      exact Cut.local_takeRun nonempty separate fun _ => Cut.isIdentifierChar_of_isOperatorChar
  | identifier => exact Cut.local_takeRun nonempty separate fun _ inside => inside
  | commentEnd => simp [padded] at listed
  | commentRest => simp [padded] at listed
  | whitespace => simp [padded] at listed

theorem body?_append (separate : Grammar.Separate front back)
    (taken : rule.body? keywords front = some (body, after)) (settled : rule.Settled back after) :
    rule.body? keywords (front ++ back) = some (body, after ++ back) := by
  have nonempty : front ≠ [] := by
    obtain ⟨whole, filled⟩ := faithful_body? _ _ _ _ _ taken
    rintro rfl
    exact filled (List.append_eq_nil_iff.1 whole).1
  cases rule with
  | commentEnd => exact Cut.takeCommentPiece_append taken back
  | commentRest =>
      cases front with
      | nil => contradiction
      | cons c rest =>
          cases taken
          exact absurd rfl settled
  | commentLine => exact Cut.takeLineComment_append nonempty separate taken settled
  | whitespace => exact Cut.takeRun_append taken settled
  | _ =>
      refine (local_body? (by decide) (by decide) nonempty separate).trans ?_
      rw [taken]
      rfl

theorem body?_append_eq_none (listed : rule ∈ inCode) (nonempty : front ≠ [])
    (separate : Grammar.Separate front back) (refused : rule.body? keywords front = none) :
    rule.body? keywords (front ++ back) = none := by
  cases rule with
  | commentEnd => simp [inCode] at listed
  | commentRest => simp [inCode] at listed
  | commentLine =>
      have noComment := Cut.takeLineComment_eq_none_iff.1 refused
      refine Cut.takeLineComment_eq_none_iff.2 ?_
      rw [Cut.startsLineComment_append nonempty separate, noComment]
  | whitespace => exact Cut.takeRun_append_eq_none nonempty refused
  | _ =>
      refine (local_body? (by decide) (by decide) nonempty separate).trans ?_
      rw [refused]
      rfl

/-- Of two texts, the second of which is refused wherever the first is. -/
theorem firstBody?_of_refused {text other taken behind : List Char} {rules : List Rule}
    (found : firstBody? keywords text rules = some (rule, body, after))
    (refused : ∀ earlier ∈ rules, earlier.body? keywords text = none →
      earlier.body? keywords other = none)
    (takes : rule.body? keywords other = some (taken, behind)) :
    firstBody? keywords other rules = some (rule, taken, behind) := by
  induction rules with
  | nil => contradiction
  | cons first rules ih =>
      rw [firstBody?, List.findSome?_cons] at found
      rw [firstBody?, List.findSome?_cons]
      cases applied : first.body? keywords text with
      | none =>
          rw [applied] at found
          rw [refused first List.mem_cons_self applied]
          exact ih found fun earlier listed => refused earlier (List.mem_cons_of_mem _ listed)
      | some pieces =>
          rw [applied] at found
          cases found
          rw [takes]
          rfl

end Rule

namespace RuleTable

variable {table : RuleTable} {state : LexState} {front back body after : List Char} {rule : Rule}

theorem nextBody?_append_eq_none (code : state.inComment = false) (nonempty : front ≠ [])
    (separate : Grammar.Separate front back) (refused : table.nextBody? state front = none) :
    table.nextBody? state (front ++ back) = none := by
  rw [nextBody?, rules_of_code code] at refused ⊢
  refine Rule.firstBody?_eq_none_iff.2 ?_
  intro rule listed
  exact Rule.body?_append_eq_none listed nonempty separate
    (Rule.firstBody?_eq_none_iff.1 refused rule listed)

/-- The rule that applies to a text is also the next one if another text follows, as long as it
takes something of the two. -/
theorem nextBody?_append_of_takes (code : state.inComment = false)
    (separate : Grammar.Separate front back)
    (found : table.nextBody? state front = some (rule, body, after)) {longer behind : List Char}
    (takes : rule.body? table.keywords (front ++ back) = some (longer, behind)) :
    table.nextBody? state (front ++ back) = some (rule, longer, behind) := by
  have nonempty : front ≠ [] := by
    rintro rfl
    have ended := table.nextToken?_nil none state
    rw [nextToken?_eq_none_iff, found] at ended
    contradiction
  rw [nextBody?, rules_of_code code] at found ⊢
  refine Rule.firstBody?_of_refused found ?_ takes
  intro earlier listed
  exact Rule.body?_append_eq_none listed nonempty separate

theorem nextBody?_append (separate : Grammar.Separate front back)
    (found : table.nextBody? state front = some (rule, body, after))
    (settled : rule.Settled back after) :
    table.nextBody? state (front ++ back) = some (rule, body, after ++ back) := by
  obtain ⟨listed, taken⟩ := Rule.body?_of_firstBody? found
  have takes := Rule.body?_append separate taken settled
  cases comment : state.inComment with
  | false => exact nextBody?_append_of_takes comment separate found takes
  | true =>
      rw [rules_of_comment comment] at listed
      simp only [List.mem_cons, List.not_mem_nil, or_false] at listed
      rw [nextBody?, rules_of_comment comment, Rule.firstBody?, List.findSome?_cons]
      rcases listed with rfl | rfl
      · rw [takes]
        rfl
      · -- The rule for the rest of a comment leaves nothing, so that it is not settled.
        cases front with
        | nil => contradiction
        | cons c rest =>
            cases taken
            exact absurd rfl settled

end RuleTable

end SqlLint
