import Mathlib
import SqlLint.Proofs.Reading

/-!
# Reading and letter case

Putting the ASCII letters of a text into upper case commutes with reading it: the same rules find
the same bodies, in upper case (`RuleTable.nextToken?_upper`).  So two texts that are equal up to
letter case have readings that are (`Reads.upper`).
-/

set_option autoImplicit false

namespace SqlLint

namespace Text

def upperChars (text : List Char) : List Char :=
  text.map Char.toUpper

theorem toUpper_eq_self {c : Char} (noLetter : c.isAlpha = false) : c.toUpper = c := by
  apply Char.toUpper_eq_of_not_isLower
  rw [Char.isAlpha, Bool.or_eq_false_iff] at noLetter
  rw [noLetter.2]
  exact Bool.false_ne_true

/-- A predicate that treats all letters alike does not see letter case. -/
theorem apply_toUpper {member : Char → Bool} {onLetters : Bool}
    (letters : ∀ c, c.isAlpha = true → member c = onLetters) (c : Char) :
    member c.toUpper = member c := by
  cases letter : c.isAlpha with
  | false => rw [toUpper_eq_self letter]
  | true =>
      rw [letters c letter, letters c.toUpper]
      rw [Char.isAlpha_toUpper_eq_isAlpha, letter]

theorem beq_toUpper {sign : Char} (noLetter : sign.isAlpha = false) (c : Char) :
    (c.toUpper == sign) = (c == sign) := by
  have letters : ∀ d : Char, d.isAlpha = true → (d == sign) = false := by
    intro d letter
    rw [beq_eq_false_iff_ne]
    rintro rfl
    rw [noLetter] at letter
    contradiction
  exact apply_toUpper letters c

theorem toUpper_eq_iff {c sign : Char} (noLetter : sign.isAlpha = false) :
    c.toUpper = sign ↔ c = sign := by
  have same := beq_toUpper noLetter c
  rw [Bool.eq_iff_iff, beq_iff_eq, beq_iff_eq] at same
  exact same

theorem isWordChar_of_isAlpha {c : Char} (letter : c.isAlpha = true) : isWordChar c = true := by
  simp [isWordChar, Char.isAlphanum, letter]

theorem isWordChar_toUpper (c : Char) : isWordChar c.toUpper = isWordChar c :=
  apply_toUpper (fun _ letter => isWordChar_of_isAlpha letter) c

theorem isBlank_toUpper (c : Char) : isBlank c.toUpper = isBlank c :=
  apply_toUpper (fun _ letter => isBlank_of_isWordChar (isWordChar_of_isAlpha letter)) c

end Text

namespace Cut

theorem isOperatorChar_toUpper (c : Char) : isOperatorChar c.toUpper = isOperatorChar c :=
  Text.apply_toUpper
    (fun _ letter => isOperatorChar_of_isWordChar (Text.isWordChar_of_isAlpha letter)) c

theorem isIdentifierChar_toUpper (c : Char) : isIdentifierChar c.toUpper = isIdentifierChar c :=
  Text.apply_toUpper
    (fun _ letter => isIdentifierChar_of_isWordChar (Text.isWordChar_of_isAlpha letter)) c

theorem isQuote_toUpper (c : Char) : isQuote c.toUpper = isQuote c :=
  Text.apply_toUpper (fun _ letter => isQuote_of_isWordChar (Text.isWordChar_of_isAlpha letter)) c

def upperPair (taken : List Char × List Char) : List Char × List Char :=
  (Text.upperChars taken.1, Text.upperChars taken.2)

/-- A way to take a body that does not see letter case. -/
def CaseBlind (take : Take) : Prop :=
  ∀ text, take (Text.upperChars text) = (take text).map upperPair

theorem caseBlind_takeChar {sign : Char} (noLetter : sign.isAlpha = false) :
    CaseBlind (takeChar sign) := by
  intro text
  cases text with
  | nil => rfl
  | cons c rest =>
      simp only [Text.upperChars, List.map_cons, takeChar, Text.toUpper_eq_iff noLetter]
      split
      · simp [upperPair, Text.upperChars, Text.toUpper_eq_self noLetter]
      · rfl

theorem caseBlind_takeRun {member : Char → Bool} (blind : ∀ c, member c.toUpper = member c) :
    CaseBlind (takeRun member) := by
  have same : member ∘ Char.toUpper = member := funext blind
  intro text
  simp only [takeRun, Text.upperChars, List.takeWhile_map, List.dropWhile_map, same]
  cases text.takeWhile member with
  | nil => rfl
  | cons c run => rfl

theorem splitLast?_upper {quote : Char} (noLetter : quote.isAlpha = false) (text : List Char) :
    splitLast? quote (Text.upperChars text) = (splitLast? quote text).map upperPair := by
  have lineFeed : ∀ c : Char, c.toUpper = '\n' ↔ c = '\n' :=
    fun c => Text.toUpper_eq_iff (by decide)
  induction text with
  | nil => rfl
  | cons c rest ih =>
      rw [Text.upperChars] at ih
      simp only [Text.upperChars, List.map_cons, splitLast?, lineFeed, ih,
        Text.toUpper_eq_iff noLetter]
      split
      · rfl
      · cases splitLast? quote rest with
        | some pieces => rfl
        | none =>
            simp only [Option.map_none]
            split <;> rfl

theorem caseBlind_takeQuoted : CaseBlind takeQuoted := by
  intro text
  cases text with
  | nil => rfl
  | cons quote rest =>
      simp only [Text.upperChars, List.map_cons, takeQuoted, isQuote_toUpper]
      cases opens : isQuote quote with
      | false => rfl
      | true =>
          have noLetter : quote.isAlpha = false := by
            rw [Bool.eq_false_iff]
            intro letter
            rw [isQuote_of_isWordChar (Text.isWordChar_of_isAlpha letter)] at opens
            contradiction
          have split := splitLast?_upper noLetter rest
          rw [Text.upperChars] at split
          simp only [Text.toUpper_eq_self noLetter, split, if_true]
          cases splitLast? quote rest with
          | none => rfl
          | some pieces =>
              obtain ⟨before, after⟩ := pieces
              cases before with
              | nil => rfl
              | cons c before =>
                  simp [upperPair, Text.upperChars, Text.toUpper_eq_self noLetter]

theorem head?_upperChars {sign : Char} (noLetter : sign.isAlpha = false) (text : List Char) :
    (Text.upperChars text).head? = some sign ↔ text.head? = some sign := by
  cases text with
  | nil => rfl
  | cons c rest => simp [Text.upperChars, Text.toUpper_eq_iff noLetter]

theorem caseBlind_takeCommentMark : CaseBlind takeCommentMark := by
  intro text
  cases text with
  | nil => rfl
  | cons c rest =>
      have cons : Text.upperChars (c :: rest) = c.toUpper :: Text.upperChars rest := rfl
      have slash : c.toUpper = '/' ↔ c = '/' := Text.toUpper_eq_iff (by decide)
      have star : (Text.upperChars rest).head? = some '*' ↔ rest.head? = some '*' :=
        head?_upperChars (by decide) rest
      simp only [cons, takeCommentMark_cons, slash, star]
      split
      · simp [upperPair, Text.upperChars]
      · rfl

theorem startsLineComment_upper (text : List Char) :
    startsLineComment (Text.upperChars text) = startsLineComment text := by
  cases text with
  | nil => rfl
  | cons c rest =>
      have cons : Text.upperChars (c :: rest) = c.toUpper :: Text.upperChars rest := rfl
      have dash : ((Text.upperChars rest).head? == some '-') = (rest.head? == some '-') := by
        rw [Bool.eq_iff_iff, beq_iff_eq, beq_iff_eq]
        exact head?_upperChars (by decide) rest
      rw [cons, startsLineComment_cons, startsLineComment_cons, dash,
        Text.beq_toUpper (by decide), Text.beq_toUpper (by decide)]

theorem caseBlind_takeLineComment : CaseBlind takeLineComment := by
  intro text
  have lineFeed : (fun c => c != '\n') ∘ Char.toUpper = fun c => c != '\n' := by
    funext c
    exact congrArg not (Text.beq_toUpper (by decide) c)
  rw [takeLineComment, takeLineComment, startsLineComment_upper]
  simp only [Text.upperChars, List.takeWhile_map, List.dropWhile_map, lineFeed]
  split <;> rfl

theorem splitCommentEnd?_upper (text : List Char) :
    splitCommentEnd? (Text.upperChars text) = (splitCommentEnd? text).map upperPair := by
  induction text with
  | nil => rfl
  | cons c rest ih =>
      have cons : Text.upperChars (c :: rest) = c.toUpper :: Text.upperChars rest := rfl
      have star : c.toUpper = '*' ↔ c = '*' := Text.toUpper_eq_iff (by decide)
      have lineFeed : c.toUpper = '\n' ↔ c = '\n' := Text.toUpper_eq_iff (by decide)
      have slash : (Text.upperChars rest).head? = some '/' ↔ rest.head? = some '/' :=
        head?_upperChars (by decide) rest
      simp only [cons, splitCommentEnd?_cons, star, slash, lineFeed, ih]
      split
      · simp [upperPair, Text.upperChars]
      · split
        · rfl
        · rw [Option.map_map, Option.map_map]
          rfl

theorem caseBlind_takeCommentPiece : CaseBlind takeCommentPiece := by
  intro text
  rw [takeCommentPiece, takeCommentPiece, splitCommentEnd?_upper]
  cases splitCommentEnd? text with
  | none => rfl
  | some pieces =>
      obtain ⟨before, after⟩ := pieces
      cases before with
      | nil => rfl
      | cons c before => rfl

theorem caseBlind_takeAll : CaseBlind takeAll := by
  intro text
  cases text <;> rfl

theorem keywordTail?_upper (text : List Char) :
    keywordTail? (Text.upperChars text) = (keywordTail? text).map upperPair := by
  have bracket : ∀ c : Char, c.toUpper = '(' ↔ c = '(' := fun c => Text.toUpper_eq_iff (by decide)
  have same : Text.isBlank ∘ Char.toUpper = Text.isBlank := funext Text.isBlank_toUpper
  cases text with
  | nil => rfl
  | cons c rest =>
      simp only [Text.upperChars, List.map_cons, keywordTail?, bracket, Text.isBlank_toUpper,
        List.takeWhile_map, List.dropWhile_map, same]
      by_cases opens : c = '('
      · subst opens
        rfl
      · simp only [opens, if_false]
        split <;> rfl

theorem caseBlind_takeWord : CaseBlind takeWord := by
  intro text
  rw [takeWord, takeWord, caseBlind_takeRun Text.isWordChar_toUpper]
  cases takeRun Text.isWordChar text with
  | none => rfl
  | some taken =>
      simp only [Option.map_some, Option.filter_some, upperPair, keywordTail?_upper,
        Option.isSome_map]
      split <;> rfl

end Cut

theorem Text.upperAscii_ofList (word : List Char) :
    Text.upperAscii (String.ofList word) = String.ofList (Text.upperChars word) := by
  rw [← String.toList_inj, Text.toList_upperAscii, String.toList_ofList, String.toList_ofList,
    Text.upperChars]

theorem Text.upperAscii_upperAscii (text : String) :
    Text.upperAscii (Text.upperAscii text) = Text.upperAscii text := by
  rw [← String.toList_inj]
  simp only [Text.toList_upperAscii, List.map_map]
  congr 1
  funext c
  exact Char.toUpper_toUpper_eq_toUpper c

theorem KeywordSet.contains_upper (keywords : KeywordSet) (word : String) :
    keywords.contains (Text.upperAscii word) = keywords.contains word := by
  rw [contains, contains, Keyword.isBuiltin, Keyword.isBuiltin, Text.upperAscii_upperAscii]

theorem Cut.caseBlind_takeKeyword (keywords : KeywordSet) : CaseBlind (takeKeyword keywords) := by
  intro text
  rw [takeKeyword, takeKeyword, caseBlind_takeWord]
  cases takeWord text with
  | none => rfl
  | some taken =>
      simp only [Option.map_some, Option.filter_some, upperPair, ← Text.upperAscii_ofList,
        KeywordSet.contains_upper]
      split <;> rfl

namespace Rule

theorem caseBlind_body? (keywords : KeywordSet) (rule : Rule) :
    Cut.CaseBlind (rule.body? keywords) := by
  cases rule with
  | commentEnd => exact Cut.caseBlind_takeCommentPiece
  | commentRest => exact Cut.caseBlind_takeAll
  | commentBegin => exact Cut.caseBlind_takeCommentMark
  | commentLine => exact Cut.caseBlind_takeLineComment
  | comma => exact Cut.caseBlind_takeChar (by decide)
  | bracketLeft => exact Cut.caseBlind_takeChar (by decide)
  | bracketRight => exact Cut.caseBlind_takeChar (by decide)
  | keyword => exact Cut.caseBlind_takeKeyword keywords
  | quoted => exact Cut.caseBlind_takeQuoted
  | operator => exact Cut.caseBlind_takeRun Cut.isOperatorChar_toUpper
  | identifier => exact Cut.caseBlind_takeRun Cut.isIdentifierChar_toUpper
  | whitespace => exact Cut.caseBlind_takeRun Text.isBlank_toUpper

theorem firstBody?_upper (keywords : KeywordSet) (text : List Char) (rules : List Rule) :
    firstBody? keywords (Text.upperChars text) rules =
      (firstBody? keywords text rules).map fun (rule, taken) => (rule, Cut.upperPair taken) := by
  rw [firstBody?, firstBody?, List.map_findSome?]
  apply findSome?_eq_of_forall_mem
  intro rule _
  rw [caseBlind_body?, Function.comp_apply, Option.map_map, Option.map_map]
  rfl

end Rule

/-! ## Tokens in upper case -/

namespace Token

/-- A token with its ASCII letters in upper case. -/
def upper (token : Token) : Token :=
  { token with text := Text.upperAscii token.text }

@[simp] theorem category_upper (token : Token) : token.upper.category = token.category := rfl

@[simp] theorem text_upper (token : Token) : token.upper.text = Text.upperAscii token.text := rfl

@[simp] theorem isWord_upper (token : Token) (word : String) :
    token.upper.isWord word = token.isWord word := by
  rw [isWord, isWord, text_upper, Text.sameWord, Text.sameWord, Text.upperAscii_upperAscii]

@[simp] theorem isKeyword_upper (token : Token) (word : String) :
    token.upper.isKeyword word = token.isKeyword word := by
  rw [isKeyword, isKeyword, category_upper, isWord_upper]

end Token

theorem upperChars_eq_iff {text mark : List Char} (noLetters : mark.any Char.isAlpha = false) :
    Text.upperChars text = mark ↔ text = mark := by
  induction mark generalizing text with
  | nil => simp [Text.upperChars]
  | cons sign mark ih =>
      rw [List.any_cons, Bool.or_eq_false_iff] at noLetters
      cases text with
      | nil => simp [Text.upperChars]
      | cons c text =>
          have later := @ih text noLetters.2
          rw [Text.upperChars] at later
          simp only [Text.upperChars, List.map_cons, List.cons.injEq, later,
            Text.toUpper_eq_iff noLetters.1]

theorem upperAscii_eq_iff {text mark : String} (noLetters : mark.toList.any Char.isAlpha = false) :
    Text.upperAscii text = mark ↔ text = mark := by
  rw [← String.toList_inj, Text.toList_upperAscii, ← String.toList_inj]
  exact upperChars_eq_iff noLetters

theorem LexState.afterToken_upper (state : LexState) (token : Token) :
    state.afterToken token.upper = state.afterToken token := by
  have keyword : state.afterKeyword (Text.upperAscii token.text) =
      state.afterKeyword token.text := by
    have same := token.isWord_upper
    simp only [Token.isWord, Token.text_upper] at same
    rw [LexState.afterKeyword, LexState.afterKeyword, same, same]
  have opening : Text.upperAscii token.text = "/*" ↔ token.text = "/*" :=
    upperAscii_eq_iff (by decide)
  have closing : Text.upperAscii token.text = "*/" ↔ token.text = "*/" :=
    upperAscii_eq_iff (by decide)
  simp only [LexState.afterToken, Token.category_upper, keyword, Token.text_upper, opening, closing]

theorem lastSignificant_upper (previous : Option Token) (token : Token) :
    lastSignificant (previous.map Token.upper) [token.upper] =
      (lastSignificant previous [token]).map Token.upper := by
  cases significant : token.category.isSignificant <;> simp [lastSignificant, significant]

namespace RuleTable

theorem starIsKeyword_upper (table : RuleTable) (state : LexState) (previous : Option Token) :
    table.starIsKeyword state (previous.map Token.upper) = table.starIsKeyword state previous := by
  have same : expectsColumn (previous.map Token.upper) = expectsColumn previous := by
    cases previous with
    | none => rfl
    | some token => simp [expectsColumn]
  rw [starIsKeyword, starIsKeyword, same]

theorem bodyToken_upper (table : RuleTable) (previous : Option Token) (state : LexState)
    (rule : Rule) (body : List Char) :
    table.bodyToken (previous.map Token.upper) state rule (Text.upperChars body) =
      (table.bodyToken previous state rule body).upper := by
  have star : Text.upperChars body = ['*'] ↔ body = ['*'] := upperChars_eq_iff (by decide)
  have category : rule.bodyCategory (table.starIsKeyword state previous) (Text.upperChars body) =
      rule.bodyCategory (table.starIsKeyword state previous) body := by
    cases rule with
    | operator => simp only [Rule.bodyCategory, star]
    | _ => rfl
  rw [bodyToken, bodyToken, starIsKeyword_upper, category, ← Text.upperAscii_ofList]
  rfl

/-- The token that is read next of a text in upper case is the token in upper case. -/
theorem nextToken?_upper (table : RuleTable) (previous : Option Token) (state : LexState)
    (text : List Char) :
    table.nextToken? (previous.map Token.upper) state (Text.upperChars text) =
      (table.nextToken? previous state text).map fun (token, after) =>
        (token.upper, Text.upperChars after) := by
  rw [nextToken?, nextToken?, nextBody?, nextBody?, Rule.firstBody?_upper, Option.map_map,
    Option.map_map]
  congr 1
  funext found
  obtain ⟨rule, body, after⟩ := found
  simp only [Function.comp_apply, Cut.upperPair, bodyToken_upper]

end RuleTable

/-- A reading of a text gives one of the text in upper case, with the tokens in upper case. -/
theorem Reads.upper {table : RuleTable} {previous : Option Token} {state final : LexState}
    {text rest : List Char} {tokens : List Token}
    (reads : Reads table previous state text tokens final rest) :
    Reads table (previous.map Token.upper) state (Text.upperChars text)
      (tokens.map Token.upper) final (Text.upperChars rest) := by
  induction reads with
  | stop refused =>
      apply Reads.stop
      rw [RuleTable.nextToken?_upper, refused]
      rfl
  | @token previous state final text after rest token tokens found later ih =>
      rw [← lastSignificant_upper, ← LexState.afterToken_upper] at ih
      refine .token ?_ ih
      rw [RuleTable.nextToken?_upper, found]
      rfl

end SqlLint
