import SqlLint.Proofs.BetweenClauses
import SqlLint.Proofs.Layers
import SqlLint.Proofs.LineBlocks
import SqlLint.Style.Lookup

/-!
# The style check never looks beyond a line

Every token and every part of a line that the check by numbers asks for is there, because each
request stands behind a test of the number that it needs.  So each check by numbers agrees with the
one on the site with that number (`Lookup.objections_eq`), and the run along a line, whose brackets
are no more than its tokens, with the check of the line (`Lookup.checkLine_eq`).  What is left to
stop the check is an indentation without a step to compare it with, and no accepted settings have
such a step (`Settings.Accepted.indentSteps_pos`).
-/

set_option autoImplicit false

namespace SqlLint

namespace Site

/-- The line of a site. -/
def line (site : Site) : List Token :=
  site.before.reverse ++ site.token :: site.behind

/-- The number of the token of a site in its line. -/
def number (site : Site) : Nat :=
  site.before.length

theorem length_line (site : Site) :
    site.line.length = site.number + 1 + site.behind.length := by
  rw [line, number, List.length_append, List.length_reverse, List.length_cons]
  omega

theorem take_line (site : Site) : site.line.take site.number = site.before.reverse := by
  rw [line, number, ← List.length_reverse, List.take_left]

theorem drop_line (site : Site) (count : Nat) :
    site.line.drop (site.number + count) = (site.token :: site.behind).drop count := by
  rw [line, number, ← List.length_reverse, List.drop_append]
  simp

theorem getElem?_line (site : Site) (count : Nat) :
    site.line[site.number + count]? = (site.token :: site.behind)[count]? := by
  rw [line, number, ← List.length_reverse, List.getElem?_append_right (Nat.le_add_right _ _),
    Nat.add_sub_cancel_left]

end Site

namespace Lookup

variable (site : Site)

/-! ## What is asked for is there -/

theorem token_line : token site.line site.number = .ok site.token := by
  have there := site.getElem?_line 0
  rw [Nat.add_zero] at there
  rw [token, there]
  rfl

theorem before_line : before site.line site.number = .ok site.before.reverse := by
  have length := site.length_line
  rw [before, if_pos (by omega), site.take_line]

theorem startingAt_line : startingAt site.line (site.number + 1) = .ok site.behind := by
  have length := site.length_line
  rw [startingAt, if_pos (by omega), site.drop_line]
  rfl

theorem next_line : site.line[site.number + 1]? = site.behind.head? := by
  rw [site.getElem?_line 1, List.getElem?_cons_succ, List.head?_eq_getElem?]

/-- The token behind a number that is not the last one. -/
theorem token_next {next : Token} {others : List Token} (behind : site.behind = next :: others) :
    token site.line (site.number + 1) = .ok next := by
  rw [token, next_line, behind]
  rfl

/-- The token before a number that is not the first one. -/
theorem previous_line {last : Token} {others : List Token} (before : site.before = last :: others) :
    previous site.line site.number = .ok last := by
  have split : site.line = others.reverse ++ last :: site.token :: site.behind := by
    rw [Site.line, before, List.reverse_cons, List.append_assoc]
    rfl
  have here : site.number = others.length + 1 := by
    rw [Site.number, before, List.length_cons]
  rw [here, previous, token, split, ← List.length_reverse,
    List.getElem?_append_right (Nat.le_refl _), Nat.sub_self]
  rfl

theorem isFirst_line : isFirst site.line site.number = .ok site.isFirst := by
  rw [isFirst, before_line, Site.isFirst]
  exact congrArg Except.ok List.all_reverse

theorem blankBefore_line : blankBefore site.line site.number = .ok (Check.blankBefore site) := by
  rw [blankBefore, Check.blankBefore, ← Site.number]
  by_cases inside : 2 ≤ site.number
  · obtain ⟨last, others, before⟩ :=
      List.exists_cons_of_length_pos (Nat.lt_of_lt_of_le Nat.two_pos inside)
    rw [if_pos inside, previous_line site before, decide_eq_true inside, before]
    rfl
  · rw [if_neg inside, decide_eq_false inside, Bool.false_and]
    rfl

theorem blankInsideBehind_line :
    blankInsideBehind site.line site.number =
      .ok (decide (2 ≤ site.behind.length) && Check.blankBehind site) := by
  have length := site.length_line
  rw [blankInsideBehind, Check.blankBehind]
  by_cases inside : 2 ≤ site.behind.length
  · obtain ⟨next, others, behind⟩ :=
      List.exists_cons_of_length_pos (Nat.lt_of_lt_of_le Nat.two_pos inside)
    rw [if_pos (by omega), token_next site behind, decide_eq_true inside, behind]
    rfl
  · rw [if_neg (by omega), decide_eq_false inside, Bool.false_and]
    rfl

/-! ## Each check -/

theorem ok_bind {Result Next : Type} (result : Result)
    (next : Result → Except LookupFault Next) : Except.ok result >>= next = next result :=
  rfl

theorem number_eq_zero_iff : site.number = 0 ↔ site.before = [] :=
  List.length_eq_zero_iff

theorem indentSteps_line (steps : Nat) :
    indentSteps steps site.line site.number = (Check.indentSteps steps site).mapError .ofCheck := by
  rw [indentSteps, token_line, ok_bind, Check.indentSteps]
  by_cases first : site.before = []
  · have zero : site.number = 0 := (number_eq_zero_iff site).2 first
    cases blank : site.token.isWhitespace with
    | false =>
        rw [zero, first]
        rfl
    | true =>
        rw [zero, first]
        by_cases noStep : steps = 0
        · simp [noStep, Except.mapError, LookupFault.ofCheck]
        · by_cases even : site.token.width % steps = 0 <;>
            simp [noStep, even, Except.mapError, pure, Except.pure]
  · have later : site.number ≠ 0 := mt (number_eq_zero_iff site).1 first
    simp [first, later, Except.mapError, pure, Except.pure]

theorem duplicatedSpaces_line :
    duplicatedSpaces site.line site.number = .ok (Check.duplicatedSpaces site) := by
  rw [duplicatedSpaces, token_line, ok_bind, next_line, Check.duplicatedSpaces]
  by_cases first : site.before = []
  · simp [first, (number_eq_zero_iff site).2 first, pure, Except.pure]
  · have later : site.number ≠ 0 := mt (number_eq_zero_iff site).1 first
    cases blank : site.token.isWhitespace with
    | false => simp [pure, Except.pure]
    | true =>
        cases site.behind.head?.any (·.category == .comment) <;>
          by_cases wide : 2 ≤ site.token.width <;>
            simp [first, later, wide, pure, Except.pure]

theorem commaPosition_line (expected : CommaPosition) :
    commaPosition expected site.line site.number = .ok (Check.commaPosition expected site) := by
  rw [commaPosition, token_line, ok_bind]
  cases comma : site.token.category == .comma with
  | false => simp [Check.commaPosition, comma, pure, Except.pure]
  | true =>
      cases expected with
      | atHead =>
          rw [isFirst_line]
          change Except.ok (if site.isFirst = true then none else some _) = _
          cases first : site.isFirst <;> simp [Check.commaPosition, comma, first]
      | atEnd =>
          rw [startingAt_line]
          change Except.ok (if site.isLast = true then none else some _) = _
          cases last : site.isLast <;> simp [Check.commaPosition, comma, last]

theorem whitespaceAroundComma_line :
    whitespaceAroundComma site.line site.number = .ok (Check.whitespaceAroundComma site) := by
  rw [whitespaceAroundComma, token_line, ok_bind, blankBefore_line, next_line,
    Check.whitespaceAroundComma, Check.blankBehind]
  cases site.token.category == .comma with
  | false => rfl
  | true => cases site.behind <;> rfl

theorem whitespaceInsideBrackets_line :
    whitespaceInsideBrackets site.line site.number =
      .ok (Check.whitespaceInsideBrackets site) := by
  rw [whitespaceInsideBrackets, token_line, ok_bind, blankBefore_line, blankInsideBehind_line,
    Check.whitespaceInsideBrackets]
  cases site.token.category == .bracket with
  | false => rfl
  | true =>
      cases opening : site.token.text == "(" with
      | true =>
          have notClosing : (site.token.text == ")") = false := by
            rw [eq_of_beq opening]
            decide
          rw [notClosing, Bool.true_and]
          cases decide (2 ≤ site.behind.length) && Check.blankBehind site <;> rfl
      | false =>
          cases site.token.text == ")" with
          | true => cases Check.blankBefore site <;> rfl
          | false => rfl

theorem previous?_line : previous? site.line site.number = .ok site.before.head? := by
  rw [previous?]
  cases before : site.before with
  | nil => rw [if_pos ((number_eq_zero_iff site).2 before), List.head?_nil]
  | cons last others =>
      have later : site.number ≠ 0 := by
        rw [Ne, number_eq_zero_iff, before]
        exact List.cons_ne_nil last others
      rw [if_neg later, previous_line site before, ok_bind]
      rfl

theorem map_touching :
    ((site.behind.head?.filter fun next => !(next.isLayout || next.text == ")")).map fun next =>
      ViolationKind.whitespaceAfterOperator (site.token.text ++ next.text)) =
        Check.operatorBehind? site := by
  rw [Check.operatorBehind?]
  cases site.behind with
  | nil => rfl
  | cons next others =>
      rw [List.head?_cons, Option.filter]
      cases touches : next.isLayout || next.text == ")" <;> simp [touches]

theorem map_touched :
    ((site.before.head?.filter fun previous => !(previous.isWhitespace ||
      previous.text == "(" || previous.text.toList.getLast? == some '.')).map fun previous =>
        ViolationKind.whitespaceBeforeOperator (previous.text ++ site.token.text)) =
      Check.operatorBefore? site := by
  rw [Check.operatorBefore?]
  cases site.before with
  | nil => rfl
  | cons last others =>
      rw [List.head?_cons, Option.filter]
      cases touches : last.isWhitespace || last.text == "(" ||
        last.text.toList.getLast? == some '.' <;> simp [touches]

theorem whitespaceAroundOperator_line :
    whitespaceAroundOperator site.line site.number =
      .ok (Check.whitespaceAroundOperator site) := by
  rw [whitespaceAroundOperator, token_line, ok_bind, next_line, previous?_line,
    Check.whitespaceAroundOperator, ← map_touching, ← map_touched]
  cases site.token.category == .operator <;> rfl

theorem joinTable_line : joinTable site.line site.number = .ok (Check.joinTable site) := by
  rw [joinTable, token_line, ok_bind, startingAt_line, ok_bind, Check.joinTable]
  cases site.token.isWord "JOIN" with
  | false => rfl
  | true => cases site.behind.any (·.category == .identifier) <;> rfl

theorem gatherModifiers_eq (words : List String) (tokens : List Token) :
    gatherModifiers words tokens =
      (((tokens.filter (!·.isWhitespace)).takeWhile fun token =>
        Check.joinModifiers.any token.isWord).map (·.text)).reverse ++ words := by
  induction tokens generalizing words with
  | nil => rfl
  | cons token tokens ih =>
      rw [gatherModifiers]
      cases blank : token.isWhitespace with
      | true =>
          rw [List.filter_cons_of_neg (by simp [blank])]
          exact ih words
      | false =>
          rw [List.filter_cons_of_pos (by simp [blank]), if_neg Bool.false_ne_true]
          rw [List.takeWhile_cons]
          cases Check.joinModifiers.any token.isWord with
          | true =>
              rw [if_pos rfl, if_pos rfl, ih, List.map_cons, List.reverse_cons, List.append_assoc]
              rfl
          | false => rfl

theorem joinContext_line : joinContext site.line site.number = .ok (Check.joinContext site) := by
  rw [joinContext, token_line, ok_bind, before_line, ok_bind, List.reverse_reverse,
    gatherModifiers_eq, ← Check.joinWords, Check.joinContext]
  cases site.token.isWord "JOIN" with
  | false => rfl
  | true =>
      change Except.ok (if Check.joinForms.contains ((Check.joinWords site).map Text.upperAscii)
        then _ else _) = Except.ok (if true && !Check.joinForms.contains _ then _ else _)
      cases Check.joinForms.contains ((Check.joinWords site).map Text.upperAscii) <;> rfl

theorem reachesBetween_eq (tokens : List Token) :
    reachesBetween tokens =
      (tokens.find? fun token => token.isWord "AND" || token.isWord "BETWEEN").any
        (·.isWord "BETWEEN") := by
  induction tokens with
  | nil => rfl
  | cons token tokens ih =>
      rw [reachesBetween]
      cases isAnd : token.isWord "AND" with
      | true =>
          rw [List.find?_cons_of_pos (by simp [isAnd]), Option.any_some,
            Token.isWord_between_of_isWord_and isAnd]
          rfl
      | false =>
          cases isBetween : token.isWord "BETWEEN" with
          | true =>
              rw [List.find?_cons_of_pos (by simp [isBetween]), Option.any_some, isBetween]
              rfl
          | false =>
              rw [List.find?_cons_of_neg (by simp [isAnd, isBetween])]
              exact ih

theorem breakLine_line : breakLine site.line site.number = .ok (Check.breakLine site) := by
  rw [breakLine, token_line, ok_bind, isFirst_line, before_line, ok_bind, ok_bind,
    List.reverse_reverse, reachesBetween_eq, Check.breakLine, Check.belongsToBetween]
  cases Check.conjunctions.any site.token.isWord with
  | false => rfl
  | true =>
      cases site.isFirst with
      | true => rfl
      | false =>
          cases site.token.isWord "AND" with
          | false => rfl
          | true =>
              cases (site.before.find? fun token => token.isWord "AND" ||
                token.isWord "BETWEEN").any (·.isWord "BETWEEN") <;> rfl

end Lookup

/-! ## The run along a line -/

/-- The violations at some tokens behind those before them, of which the nearest comes first. -/
def Style.restViolations (settings : LintSettings) (line : Nat) (before rest : List Token) :
    Except CheckFault (List Violation) :=
  ((Site.allFrom before rest).mapM (siteViolations settings line)).map List.flatten

theorem Style.restViolations_cons (settings : LintSettings) (line : Nat) (before rest : List Token)
    (token : Token) :
    restViolations settings line before (token :: rest) = do
      let here ← siteViolations settings line ⟨before, token, rest⟩
      let later ← restViolations settings line (token :: before) rest
      return here ++ later := by
  rw [restViolations, restViolations, Site.allFrom, List.mapM_cons]
  cases siteViolations settings line ⟨before, token, rest⟩ with
  | error fault => rfl
  | ok here =>
      cases (Site.allFrom (token :: before) rest).mapM (siteViolations settings line) <;> rfl

namespace Lookup

variable (site : Site)

theorem outsideBrackets_ok (depth : Int) (found : Option ViolationKind) :
    outsideBrackets depth (.ok found) = .ok (if depth == 0 then found else none) := by
  by_cases outside : depth = 0 <;> simp [outsideBrackets, outside]

theorem objections_eq (settings : LintSettings) (code : site.token.category ≠ .comment) :
    objections settings site.line site.number (Style.depthAt site) site.token =
      (Style.objections settings site).mapError .ofCheck := by
  have noComment : (site.token.category == .comment) = false := beq_eq_false_iff_ne.2 code
  rw [objections, Style.objections, noComment, indentSteps_line, duplicatedSpaces_line,
    commaPosition_line, outsideBrackets_ok, whitespaceAroundComma_line,
    whitespaceInsideBrackets_line, whitespaceAroundOperator_line, joinTable_line,
    joinContext_line, breakLine_line, outsideBrackets_ok]
  cases Check.indentSteps settings.indentSteps site with
  | error fault => rfl
  | ok indent => cases Style.depthAt site == 0 <;> rfl

/-- A line has no more brackets than tokens. -/
theorem depthAfter_eq_ok (short : site.line.length < 2 ^ 31) :
    depthAfter (site.before.foldr (fun token depth => Style.depthAfter depth token) 0) site.token =
      .ok (Style.depthAt site) := by
  have counted : Style.depthAt site = _ := Style.depth_eq (site.token :: site.before)
  have opened := (site.token :: site.before).count_le_length (a := ⟨.bracket, "("⟩)
  have closed := (site.token :: site.before).count_le_length (a := ⟨.bracket, ")"⟩)
  rw [site.length_line, Site.number] at short
  rw [List.length_cons] at opened closed
  change (if -0x80000000 ≤ Style.depthAt site ∧ Style.depthAt site < 0x80000000 then _ else _) = _
  rw [if_pos (by omega)]
  rfl

/-- What is behind some tokens is checked as at its sites. -/
theorem checkRest_eq (settings : LintSettings) (line : Nat) (before rest : List Token)
    (short : (before.reverse ++ rest).length < 2 ^ 31) :
    checkRest settings line (before.reverse ++ rest) before.length (Token.totalBytes before)
        (before.foldr (fun token depth => Style.depthAfter depth token) 0) rest =
      (Style.restViolations settings line before rest).mapError .ofCheck := by
  -- The number, the position and the depth of the run are those of the tokens behind it.
  induction rest generalizing before with
  | nil => rfl
  | cons token rest ih =>
      have step : (token :: before).reverse ++ rest = before.reverse ++ token :: rest := by
        rw [List.reverse_cons, List.append_assoc, List.singleton_append]
      have later := ih (token :: before) (by rwa [step])
      rw [step, List.length_cons, Token.totalBytes, Nat.add_comm token.byteLength] at later
      let site : Site := ⟨before, token, rest⟩
      rw [checkRest, Style.restViolations_cons, Style.siteViolations]
      by_cases comment : token.category = .comment
      · -- A comment has no objections and leaves the brackets as they are.
        have noObjections : Style.objections settings site = .ok [] := by
          rw [Style.objections, beq_iff_eq.2 comment]
          rfl
        rw [List.foldr_cons, Style.depthAfter, comment] at later
        rw [beq_iff_eq.2 comment, if_pos rfl, noObjections]
        refine later.trans ?_
        cases Style.restViolations settings line (token :: before) rest <;> rfl
      · -- The objections come from the site, and so do the brackets behind the token.
        have depth : depthAfter _ token = .ok (Style.depthAt site) := depthAfter_eq_ok site short
        have found := objections_eq site settings comment
        have noComment : (token.category == .comment) = false := beq_eq_false_iff_ne.2 comment
        rw [noComment, if_neg Bool.false_ne_true, depth, ok_bind]
        change (objections settings site.line site.number (Style.depthAt site) site.token >>= _) = _
        rw [found]
        cases Style.objections settings site with
        | error fault => rfl
        | ok kinds =>
            change (checkRest settings line (before.reverse ++ token :: rest) (before.length + 1)
              (Token.totalBytes before + token.byteLength)
              (List.foldr (fun token depth => Style.depthAfter depth token) 0 (token :: before))
              rest >>= _) = _
            rw [later]
            cases Style.restViolations settings line (token :: before) rest <;> rfl

theorem checkLine_eq (settings : LintSettings) (line : Nat) {tokens : List Token}
    (short : tokens.length < 2 ^ 31) :
    checkLine settings line tokens = (Style.checkLine settings line tokens).mapError .ofCheck :=
  checkRest_eq settings line [] tokens short

theorem checkFrom_eq (settings : LintSettings) (run : Option Style.BlankRun)
    {lines : List LineReport} (short : ∀ line ∈ lines, line.tokens.length < 2 ^ 31) :
    checkFrom settings run lines = (Style.checkFrom settings run lines).mapError .ofCheck := by
  induction lines generalizing run with
  | nil => rfl
  | cons line lines ih =>
      have later := fun run => ih run fun other listed =>
        short other (List.mem_cons_of_mem line listed)
      rw [checkFrom, Style.checkFrom, checkLine_eq settings _ (short line List.mem_cons_self),
        later, later]
      cases isBlankLine line.tokens with
      | true => rfl
      | false =>
          cases Style.checkLine settings line.index line.tokens with
          | error fault => rfl
          | ok here => cases Style.checkFrom settings none lines <;> rfl

end Lookup

/-! ## What stops the check -/

/-- No line has so many tokens that its brackets could leave the numbers of 32 bits. -/
def DocumentReport.HasShortLines (report : DocumentReport) : Prop :=
  ∀ line ∈ report.lines, line.tokens.length < 2 ^ 31

theorem LineReport.isIndentedCode_iff {line : LineReport} :
    line.isIndentedCode = true ↔ ¬ line.IsBlank ∧ isIndented line.tokens = true := by
  rw [isIndentedCode, Bool.and_eq_true, Bool.not_eq_true', ← isBlankLine_iff, Bool.not_eq_true]

namespace Lookup

theorem checkLine_eq_error_iff (settings : LintSettings) (line : Nat) {tokens : List Token}
    (short : tokens.length < 2 ^ 31) {fault : LookupFault} :
    checkLine settings line tokens = .error fault ↔
      fault = .zeroIndentSteps ∧ settings.indentSteps = 0 ∧ isIndented tokens = true := by
  rw [checkLine_eq settings line short, Style.checkLine_eq]
  split
  · next stops => simp [stops, Except.mapError, LookupFault.ofCheck, eq_comm]
  · next goesOn => simp [goesOn, Except.mapError]

theorem check_eq (settings : LintSettings) {report : DocumentReport}
    (short : report.HasShortLines) :
    check settings report = (Style.check settings report).mapError .ofCheck :=
  checkFrom_eq settings none short

theorem check_eq_error_iff (settings : LintSettings) {report : DocumentReport}
    (short : report.HasShortLines) {fault : LookupFault} :
    check settings report = .error fault ↔
      fault = .zeroIndentSteps ∧ settings.indentSteps = 0 ∧
        ∃ line ∈ report.lines, ¬ line.IsBlank ∧ isIndented line.tokens = true := by
  have exists_iff : report.lines.any (·.isIndentedCode) = true ↔
      ∃ line ∈ report.lines, ¬ line.IsBlank ∧ isIndented line.tokens = true := by
    simp only [List.any_eq_true, LineReport.isIndentedCode_iff]
  rw [check_eq settings short, Style.check, Style.checkFrom_eq, ← exists_iff]
  split
  · next stops =>
      simp only [stops, Except.mapError, LookupFault.ofCheck, eq_comm, Except.error.injEq,
        and_self, and_true]
  · next goesOn => simp only [goesOn, Except.mapError, reduceCtorEq, and_false]

end Lookup

/-! ## Accepted settings -/

namespace Settings

/-- Settings that one of the ways to get them has returned. -/
inductive Accepted : Settings → Prop
  | ofText {text : String} {settings : Settings} (read : ofTomlText text = .ok settings) :
      Accepted settings
  | ofFile {directory : Directory} {path : String} {settings : Settings}
      (loaded : load directory path = .ok settings) : Accepted settings
  | ofEnvironment {environment : Environment} {settings : Settings}
      (merged : ofEnvironment environment = .ok settings) : Accepted settings
  | ofCommandLine {invocation : Command.Invocation} {surroundings : Command.Surroundings}
      {settings : Settings} (merged : invocation.settings surroundings = .ok settings) :
      Accepted settings

theorem Accepted.validate_eq {settings : Settings} (accepted : settings.Accepted) :
    settings.validate = .ok settings := by
  cases accepted with
  | ofText read => exact (ofTomlText_eq_ok_iff.1 read).2
  | ofFile loaded =>
      obtain ⟨text, _, _, valid⟩ := load_eq_ok_iff.1 loaded
      exact valid
  | ofEnvironment merged =>
      obtain ⟨overlay, _, valid⟩ := bind_eq_ok_iff.1 merged
      obtain ⟨rfl, -⟩ := validate_eq_ok.1 valid
      exact valid
  | ofCommandLine merged =>
      obtain ⟨file, environment, _, _, _, valid⟩ :=
        Command.Invocation.settings_eq_ok_iff.1 merged
      exact valid

theorem Accepted.indentSteps_pos {settings : Settings} (accepted : settings.Accepted) :
    0 < settings.lint.indentSteps :=
  Nat.pos_of_ne_zero (fault?_eq_none_iff.1 (validate_eq_ok_iff.1 accepted.validate_eq)).2.1

end Settings

/-- The check asks for no token and no part of a line that is not there, and the only thing that
stops it is a line of code that is indented, if the step of indentation is zero.  Settings that were
read from a text, a file, the environment or a command line have another step, so that the check of
any document under them has a result. -/
theorem style_check_stops_only_without_step (lint : LintSettings) :
    (∀ (number : Nat) (tokens : List Token), tokens.length < 2 ^ 31 →
      Lookup.checkLine lint number tokens =
          (Style.checkLine lint number tokens).mapError .ofCheck ∧
        ∀ fault, Lookup.checkLine lint number tokens = .error fault ↔
          fault = .zeroIndentSteps ∧ lint.indentSteps = 0 ∧ isIndented tokens = true) ∧
    (∀ report : DocumentReport, report.HasShortLines →
      Lookup.check lint report = (Style.check lint report).mapError .ofCheck ∧
        ∀ fault, Lookup.check lint report = .error fault ↔
          fault = .zeroIndentSteps ∧ lint.indentSteps = 0 ∧
            ∃ line ∈ report.lines, ¬ line.IsBlank ∧ isIndented line.tokens = true) ∧
    (∀ settings : Settings, settings.Accepted → settings.lint = lint →
      settings.validate = .ok settings ∧
        ∀ report, ∃ violations, Style.check lint report = .ok violations ∧
          (report.HasShortLines → Lookup.check lint report = .ok violations)) := by
  refine ⟨?line, ?document, ?accepted⟩
  case line =>
    intro number tokens short
    exact ⟨Lookup.checkLine_eq lint number short,
      fun _ => Lookup.checkLine_eq_error_iff lint number short⟩
  case document =>
    intro report short
    exact ⟨Lookup.check_eq lint short, fun _ => Lookup.check_eq_error_iff lint short⟩
  case accepted =>
    rintro settings accepted rfl
    refine ⟨accepted.validate_eq, fun report => ?_⟩
    have checked := Style.check_eq_ok settings.lint accepted.indentSteps_pos report
    refine ⟨_, checked, fun short => ?_⟩
    rw [Lookup.check_eq settings.lint short, checked]
    rfl

theorem style_check_stops_only_without_step_of_indented_bracket :
    let tokens : List Token := [⟨.whitespace, "  "⟩, ⟨.bracket, ")"⟩]
    let report : DocumentReport := ⟨[⟨0, "  )", [], ⟨tokens, {}, {}, none⟩, []⟩], {}⟩
    (tokens.length < 2 ^ 31 ∧
      Lookup.checkLine { indentSteps := 0 } 7 tokens = .error .zeroIndentSteps) ∧
    (report.HasShortLines ∧
      Lookup.check { indentSteps := 0 } report = .error .zeroIndentSteps) ∧
    (Settings.Accepted { lint := { indentSteps := 2 } } ∧
      ∃ violations, Lookup.check { indentSteps := 2 } report = .ok violations) := by
  intro tokens report
  have short : tokens.length < 2 ^ 31 := by decide
  have shortLines : report.HasShortLines := by
    intro line listed
    obtain rfl := List.mem_singleton.1 listed
    exact short
  have accepted : Settings.Accepted { lint := { indentSteps := 2 } } :=
    @Settings.Accepted.ofEnvironment [("BQLEX_INDENT_STEPS", " 2 ")] _ (by decide +kernel)
  obtain ⟨onLine, onDocument, -⟩ := style_check_stops_only_without_step { indentSteps := 0 }
  obtain ⟨-, -, ofAccepted⟩ := style_check_stops_only_without_step { indentSteps := 2 }
  refine ⟨⟨short, ?_⟩, ⟨shortLines, ?_⟩, accepted, ?_⟩
  · exact ((onLine 7 tokens short).2 _).2 ⟨rfl, rfl, by decide⟩
  · refine ((onDocument report shortLines).2 _).2 ⟨rfl, rfl, _, List.mem_cons_self, ?_, by decide⟩
    rw [← LineReport.isBlankLine_iff]
    decide
  · obtain ⟨violations, -, checked⟩ := (ofAccepted _ accepted rfl).2 report
    exact ⟨violations, checked shortLines⟩

end SqlLint
