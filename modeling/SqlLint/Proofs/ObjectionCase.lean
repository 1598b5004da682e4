import SqlLint.Proofs.Rendering
import SqlLint.Proofs.Sites
import SqlLint.Proofs.Violations

/-!
# The style check and letter case

Apart from the check of letter case, no check sees it: a line in upper case has the violations of
the line, at the same places, with what they quote in upper case (`Style.lineViolations_upper`).
So the same holds of a document (`Style.violationsFrom_upper`).
-/

set_option autoImplicit false

namespace SqlLint

namespace Text

theorem upperAscii_append (left right : String) :
    upperAscii (left ++ right) = upperAscii left ++ upperAscii right := by
  rw [← String.toList_inj]
  simp only [toList_upperAscii, String.toList_append, List.map_append]

theorem upperAscii_unwords (words : List String) :
    upperAscii (" ".intercalate words) = " ".intercalate (words.map upperAscii) := by
  have blank : upperAscii " " = " " := (upperAscii_eq_iff (by decide)).2 rfl
  induction words with
  | nil =>
      rw [List.map_nil, String.intercalate_nil]
      exact (upperAscii_eq_iff (by decide)).2 rfl
  | cons word words ih =>
      cases words with
      | nil => rw [List.map_singleton, String.intercalate_singleton, String.intercalate_singleton]
      | cons next others =>
          rw [List.map_cons] at ih
          rw [List.map_cons, List.map_cons, String.intercalate_cons_cons,
            String.intercalate_cons_cons, upperAscii_append, upperAscii_append, ih, blank]

end Text

namespace Token

@[simp] theorem isWhitespace_upper (token : Token) :
    token.upper.isWhitespace = token.isWhitespace := rfl

@[simp] theorem isLayout_upper (token : Token) : token.upper.isLayout = token.isLayout := rfl

theorem isWord_upper_eq (token : Token) : token.upper.isWord = token.isWord :=
  funext token.isWord_upper

@[simp] theorem width_upper (token : Token) : token.upper.width = token.width := by
  rw [width, width, text_upper, ← String.length_toList, Text.toList_upperAscii, List.length_map,
    String.length_toList]

@[simp] theorem byteLength_upper (token : Token) : token.upper.byteLength = token.byteLength :=
  Text.utf8ByteSize_upperAscii token.text

theorem beq_text_upper (token : Token) (mark : String)
    (noLetters : mark.toList.any Char.isAlpha = false) :
    (token.upper.text == mark) = (token.text == mark) := by
  rw [Bool.eq_iff_iff, beq_iff_eq, beq_iff_eq, text_upper]
  exact upperAscii_eq_iff noLetters

theorem getLast?_text_upper (token : Token) (sign : Char) (noLetter : sign.isAlpha = false) :
    (token.upper.text.toList.getLast? == some sign) =
      (token.text.toList.getLast? == some sign) := by
  rw [text_upper, Text.toList_upperAscii, List.getLast?_map]
  cases token.text.toList.getLast? with
  | none => rfl
  | some last => exact Text.beq_toUpper noLetter last

theorem totalBytes_upper (tokens : List Token) :
    totalBytes (tokens.map upper) = totalBytes tokens := by
  induction tokens with
  | nil => rfl
  | cons token tokens ih => rw [List.map_cons, totalBytes, totalBytes, ih, byteLength_upper]

end Token

namespace Site

/-- A site with all its tokens in upper case. -/
def upper (site : Site) : Site :=
  ⟨site.before.map Token.upper, site.token.upper, site.behind.map Token.upper⟩

@[simp] theorem before_upper (site : Site) : site.upper.before = site.before.map Token.upper := rfl

@[simp] theorem token_upper (site : Site) : site.upper.token = site.token.upper := rfl

@[simp] theorem behind_upper (site : Site) : site.upper.behind = site.behind.map Token.upper := rfl

theorem allFrom_upper (before tokens : List Token) :
    allFrom (before.map Token.upper) (tokens.map Token.upper) =
      (allFrom before tokens).map upper := by
  induction tokens generalizing before with
  | nil => rfl
  | cons token tokens ih =>
      have later := ih (token :: before)
      rw [List.map_cons] at later
      rw [List.map_cons, allFrom, allFrom, later, List.map_cons]
      rfl

theorem all_upper (tokens : List Token) :
    all (tokens.map Token.upper) = (all tokens).map upper :=
  allFrom_upper [] tokens

@[simp] theorem position_upper (site : Site) : site.upper.position = site.position :=
  Token.totalBytes_upper site.before

@[simp] theorem isFirst_upper (site : Site) : site.upper.isFirst = site.isFirst := by
  rw [isFirst, isFirst, before_upper, List.all_map]
  rfl

@[simp] theorem isLast_upper (site : Site) : site.upper.isLast = site.isLast := by
  rw [isLast, isLast, behind_upper, List.all_map]
  rfl

end Site

/-! ## Objections in upper case -/

namespace ViolationKind

/-- An objection with the text that it quotes in upper case. -/
def upper : ViolationKind → ViolationKind
  | keywordCase style found expected =>
      keywordCase style (Text.upperAscii found) (Text.upperAscii expected)
  | whitespaceAfterOperator text => whitespaceAfterOperator (Text.upperAscii text)
  | whitespaceBeforeOperator text => whitespaceBeforeOperator (Text.upperAscii text)
  | joinContext context => joinContext (Text.upperAscii context)
  | breakLine word => breakLine (Text.upperAscii word)
  | kind => kind

/-- An objection to the letter case of a keyword. -/
def isKeywordCase : ViolationKind → Bool
  | keywordCase _ _ _ => true
  | _ => false

/-- An objection to something else than the letter case of a keyword. -/
def isOther (kind : ViolationKind) : Bool :=
  !kind.isKeywordCase

end ViolationKind

open ViolationKind (isOther)

/-- A violation with the text that it quotes in upper case. -/
def Violation.upper (violation : Violation) : Violation :=
  { violation with kind := violation.kind.upper }

namespace Check

theorem unevenIndent_upper (steps : Nat) (site : Site) :
    unevenIndent steps site.upper = (unevenIndent steps site).map ViolationKind.upper := by
  simp only [unevenIndent, Site.before_upper, List.isEmpty_map, Site.token_upper,
    Token.isWhitespace_upper, Token.width_upper]
  split <;> rfl

theorem head?_any_upper (check : Token → Bool)
    (blind : ∀ token, check token.upper = check token) (tokens : List Token) :
    (tokens.map Token.upper).head?.any check = tokens.head?.any check := by
  cases tokens with
  | nil => rfl
  | cons token tokens => exact blind token

theorem duplicatedSpaces_upper (site : Site) :
    duplicatedSpaces site.upper = (duplicatedSpaces site).map ViolationKind.upper := by
  have aligns := head?_any_upper (·.category == .comment) (fun _ => rfl) site.behind
  simp only [duplicatedSpaces, Site.behind_upper, aligns, Site.before_upper, List.isEmpty_map,
    Site.token_upper, Token.isWhitespace_upper, Token.width_upper]
  split <;> rfl

theorem commaPosition_upper (expected : CommaPosition) (site : Site) :
    commaPosition expected site.upper =
      (commaPosition expected site).map ViolationKind.upper := by
  simp only [commaPosition, Site.isFirst_upper, Site.isLast_upper, Site.token_upper,
    Token.category_upper]
  rw [apply_ite (Option.map ViolationKind.upper)]
  rfl

theorem blankBehind_upper (site : Site) : blankBehind site.upper = blankBehind site :=
  head?_any_upper (·.isWhitespace) (fun _ => rfl) site.behind

theorem blankBefore_upper (site : Site) : blankBefore site.upper = blankBefore site := by
  have nearest := head?_any_upper (·.isWhitespace) (fun _ => rfl) site.before
  rw [blankBefore, blankBefore, Site.before_upper, nearest, List.length_map]

theorem whitespaceAroundComma_upper (site : Site) :
    whitespaceAroundComma site.upper = (whitespaceAroundComma site).map ViolationKind.upper := by
  simp only [whitespaceAroundComma, blankBehind_upper, blankBefore_upper, Site.behind_upper,
    List.isEmpty_map, Site.token_upper, Token.category_upper]
  split
  · rw [List.map_append]
    congr 1 <;> split <;> rfl
  · rfl

theorem whitespaceInsideBrackets_upper (site : Site) :
    whitespaceInsideBrackets site.upper =
      (whitespaceInsideBrackets site).map ViolationKind.upper := by
  have opening := site.token.beq_text_upper "(" (by decide)
  have closing := site.token.beq_text_upper ")" (by decide)
  simp only [whitespaceInsideBrackets, blankBehind_upper, blankBefore_upper, Site.behind_upper,
    List.length_map, Site.token_upper, Token.category_upper, opening, closing]
  split
  · split
    · rfl
    · split <;> rfl
  · rfl

theorem operatorBehind?_upper (site : Site) :
    operatorBehind? site.upper = (operatorBehind? site).map ViolationKind.upper := by
  rw [operatorBehind?, operatorBehind?, Site.behind_upper]
  cases site.behind with
  | nil => rfl
  | cons next others =>
      have closing := next.beq_text_upper ")" (by decide)
      simp only [List.map_cons, Token.isLayout_upper, closing]
      split
      · rfl
      · rw [Option.map_some, ViolationKind.upper, Text.upperAscii_append]
        rfl

theorem operatorBefore?_upper (site : Site) :
    operatorBefore? site.upper = (operatorBefore? site).map ViolationKind.upper := by
  rw [operatorBefore?, operatorBefore?, Site.before_upper]
  cases site.before with
  | nil => rfl
  | cons previous others =>
      have opening := previous.beq_text_upper "(" (by decide)
      have fullStop := previous.getLast?_text_upper '.' (by decide)
      simp only [List.map_cons, Token.isWhitespace_upper, opening, fullStop]
      split
      · rfl
      · rw [Option.map_some, ViolationKind.upper, Text.upperAscii_append]
        rfl

theorem whitespaceAroundOperator_upper (site : Site) :
    whitespaceAroundOperator site.upper =
      (whitespaceAroundOperator site).map ViolationKind.upper := by
  simp only [whitespaceAroundOperator, operatorBehind?_upper, operatorBefore?_upper,
    Site.token_upper, Token.category_upper]
  split
  · rw [List.map_append, Option.toList_map, Option.toList_map]
  · rfl

theorem joinTable_upper (site : Site) :
    joinTable site.upper = (joinTable site).map ViolationKind.upper := by
  have table : (site.behind.map Token.upper).any (·.category == .identifier) =
      site.behind.any (·.category == .identifier) := by
    rw [List.any_map]
    rfl
  simp only [joinTable, Site.behind_upper, Site.token_upper, Token.isWord_upper, table]
  split <;> rfl

theorem joinWords_upper (site : Site) :
    joinWords site.upper = (joinWords site).map Text.upperAscii := by
  have noBlank : (fun token : Token => !token.isWhitespace) ∘ Token.upper =
      fun token => !token.isWhitespace := rfl
  have modifier : (fun token : Token => joinModifiers.any token.isWord) ∘ Token.upper =
      fun token => joinModifiers.any token.isWord := by
    funext token
    rw [Function.comp_apply, token.isWord_upper_eq]
  simp only [joinWords, Site.before_upper, List.filter_map, noBlank, List.takeWhile_map, modifier,
    List.map_map, List.map_append, List.map_reverse, Site.token_upper, Token.text_upper,
    List.map_singleton]
  rfl

theorem joinContext_upper (site : Site) :
    joinContext site.upper = (joinContext site).map ViolationKind.upper := by
  have twice : Text.upperAscii ∘ Text.upperAscii = Text.upperAscii :=
    funext Text.upperAscii_upperAscii
  simp only [joinContext, joinWords_upper, Site.token_upper, Token.isWord_upper, List.map_map,
    twice]
  split
  · rw [Option.map_some, ViolationKind.upper, Text.upperAscii_unwords]
  · rfl

theorem belongsToBetween_upper (site : Site) :
    belongsToBetween site.upper = belongsToBetween site := by
  simp only [belongsToBetween, Site.before_upper, Site.token_upper, Token.isWord_upper,
    List.find?_map, Function.comp_def, Option.any_map]

theorem breakLine_upper (site : Site) :
    breakLine site.upper = (breakLine site).map ViolationKind.upper := by
  simp only [breakLine, Site.token_upper, Token.isWord_upper_eq, Site.isFirst_upper,
    belongsToBetween_upper]
  split <;> rfl

theorem keywordCase_preserve (token : Token) : keywordCase .preserve token = none := by
  simp [keywordCase, breaksCase]

/-! ### Objections to something else -/

theorem filter_toList_ite {condition : Prop} [Decidable condition] {kind : ViolationKind}
    (other : kind.isOther = true) :
    (if condition then some kind else none : Option ViolationKind).toList.filter isOther =
      (if condition then some kind else none : Option ViolationKind).toList := by
  split
  · exact List.filter_cons_of_pos other
  · rfl

theorem filter_whitespaceAroundComma (site : Site) :
    (whitespaceAroundComma site).filter isOther = whitespaceAroundComma site := by
  rw [whitespaceAroundComma]
  split
  · rw [List.filter_append]
    congr 1 <;> split <;> rfl
  · rfl

theorem filter_whitespaceInsideBrackets (site : Site) :
    (whitespaceInsideBrackets site).toList.filter isOther =
      (whitespaceInsideBrackets site).toList := by
  rw [whitespaceInsideBrackets]
  split
  · split
    · rfl
    · exact filter_toList_ite rfl
  · rfl

theorem filter_whitespaceAroundOperator (site : Site) :
    (whitespaceAroundOperator site).filter isOther = whitespaceAroundOperator site := by
  have behind : (operatorBehind? site).toList.filter isOther = (operatorBehind? site).toList := by
    rw [operatorBehind?]
    cases site.behind with
    | nil => rfl
    | cons next others =>
        dsimp only
        split <;> rfl
  have before : (operatorBefore? site).toList.filter isOther = (operatorBefore? site).toList := by
    rw [operatorBefore?]
    cases site.before with
    | nil => rfl
    | cons previous others =>
        dsimp only
        split <;> rfl
  rw [whitespaceAroundOperator]
  split
  · rw [List.filter_append, behind, before]
  · rfl

theorem filter_keywordCase (style : KeywordStyle) (token : Token) :
    (keywordCase style token).toList.filter isOther = [] := by
  rw [keywordCase]
  split <;> rfl

end Check

namespace Style

theorem depthAt_upper (site : Site) : depthAt site.upper = depthAt site := by
  have after : ∀ (depth : Int) (token : Token),
      depthAfter depth token.upper = depthAfter depth token := by
    intro depth token
    have opening := token.beq_text_upper "(" (by decide)
    have closing := token.beq_text_upper ")" (by decide)
    simp only [depthAfter, Token.category_upper, opening, closing]
  have tokens : site.upper.token :: site.upper.before =
      (site.token :: site.before).map Token.upper := rfl
  simp only [depthAt, tokens, List.foldr_map, after]

/-- Without a keyword style the check makes the objections other than to letter case. -/
theorem filter_kinds (settings : LintSettings) (site : Site) :
    (kinds settings site).filter isOther =
      kinds { settings with keywordStyle := .preserve } site := by
  rw [kinds, kinds]
  split
  · rfl
  · have indent : (Check.unevenIndent settings.indentSteps site).toList.filter isOther =
        (Check.unevenIndent settings.indentSteps site).toList := Check.filter_toList_ite rfl
    have spaces : (Check.duplicatedSpaces site).toList.filter isOther =
        (Check.duplicatedSpaces site).toList := Check.filter_toList_ite rfl
    have comma : (Check.commaPosition settings.commaPosition site).toList.filter isOther =
        (Check.commaPosition settings.commaPosition site).toList := Check.filter_toList_ite rfl
    have table : (Check.joinTable site).toList.filter isOther =
        (Check.joinTable site).toList := Check.filter_toList_ite rfl
    have context : (Check.joinContext site).toList.filter isOther =
        (Check.joinContext site).toList := Check.filter_toList_ite rfl
    have line : (Check.breakLine site).toList.filter isOther =
        (Check.breakLine site).toList := Check.filter_toList_ite rfl
    simp only [List.filter_append, apply_ite (List.filter isOther), List.filter_nil, indent,
      spaces, comma, table, context, line, Check.filter_keywordCase, Check.keywordCase_preserve,
      Option.toList_none, Check.filter_whitespaceAroundComma,
      Check.filter_whitespaceInsideBrackets, Check.filter_whitespaceAroundOperator]

theorem kinds_upper (settings : LintSettings) (site : Site) :
    kinds { settings with keywordStyle := .preserve } site.upper =
      (kinds { settings with keywordStyle := .preserve } site).map ViolationKind.upper := by
  simp only [kinds, Site.token_upper, Token.category_upper, depthAt_upper,
    Check.keywordCase_preserve, Check.unevenIndent_upper, Check.duplicatedSpaces_upper,
    Check.commaPosition_upper, Check.whitespaceAroundComma_upper,
    Check.whitespaceInsideBrackets_upper, Check.whitespaceAroundOperator_upper,
    Check.joinTable_upper, Check.joinContext_upper, Check.breakLine_upper, Option.toList_map]
  split
  · rfl
  · simp only [List.map_append, apply_ite (List.map ViolationKind.upper), List.map_nil,
      Option.toList_none]

theorem isOther_of_mem_kinds {settings : LintSettings} {site : Site} {kind : ViolationKind}
    (cased : Check.keywordCase settings.keywordStyle site.token = none)
    (listed : kind ∈ kinds settings site) : kind.isOther = true := by
  -- A token in the style makes the check ask for nothing more than without a style.
  have same : kinds settings site = kinds { settings with keywordStyle := .preserve } site := by
    simp only [kinds, cased, Check.keywordCase_preserve]
  rw [same, ← filter_kinds] at listed
  exact (List.mem_filter.1 listed).2

/-! ## Lines and documents -/

theorem lineViolations_upper (settings : LintSettings) (line : Nat) (tokens : List Token) :
    lineViolations { settings with keywordStyle := .preserve } line (tokens.map Token.upper) =
      ((lineViolations settings line tokens).filter (·.kind.isOther)).map Violation.upper := by
  rw [lineViolations, lineViolations, Site.all_upper, List.flatMap_map, List.filter_flatMap,
    List.map_flatMap]
  congr 1
  funext site
  rw [kinds_upper, Site.position_upper, ← filter_kinds, List.filter_map, List.map_map,
    List.map_map]
  rfl

/-- A numbered line with its tokens in upper case. -/
def upperLine (line : Nat × List Token) : Nat × List Token :=
  (line.1, line.2.map Token.upper)

theorem violations_blankRun (run : Option BlankRun) :
    ((BlankRun.violations run).filter (·.kind.isOther)).map Violation.upper =
      BlankRun.violations run := by
  rw [BlankRun.violations]
  cases run with
  | none => rfl
  | some run =>
      rw [Option.bind_some, BlankRun.violation?]
      split <;> rfl

theorem isBlankLine_upper (tokens : List Token) :
    isBlankLine (tokens.map Token.upper) = isBlankLine tokens := by
  rw [isBlankLine, isBlankLine, List.all_map]
  rfl

/-- A document in upper case has the violations of the document except those of letter case, in
upper case. -/
theorem violationsFrom_upper (settings : LintSettings) (run : Option BlankRun)
    (lines : List (Nat × List Token)) :
    violationsFrom { settings with keywordStyle := .preserve } run (lines.map upperLine) =
      ((violationsFrom settings run lines).filter (·.kind.isOther)).map Violation.upper := by
  induction lines generalizing run with
  | nil => exact (violations_blankRun run).symm
  | cons line lines ih =>
      obtain ⟨index, tokens⟩ := line
      rw [List.map_cons, upperLine, violationsFrom, violationsFrom, isBlankLine_upper]
      split
      · exact ih _
      · rw [List.filter_append, List.filter_append, List.map_append, List.map_append,
          violations_blankRun, lineViolations_upper, ih]

/-- Lines with their keywords in the style have no violations of letter case. -/
theorem isOther_of_mem_violationsFrom {settings : LintSettings} {run : Option BlankRun}
    {lines : List (Nat × List Token)} {violation : Violation}
    (cased : ∀ line ∈ lines, ∀ token ∈ line.2,
      Check.keywordCase settings.keywordStyle token = none)
    (listed : violation ∈ violationsFrom settings run lines) : violation.kind.isOther = true := by
  rcases of_mem_violationsFrom listed with ⟨line, inLines, _, found⟩ | ⟨first, count, rfl, _⟩
  · obtain ⟨site, inLine, kind, inKinds, rfl⟩ := of_mem_lineViolations found
    exact isOther_of_mem_kinds (cased line inLines site.token (Site.token_mem inLine)) inKinds
  · rfl

end Style

end SqlLint
