import SqlLint.Proofs.LetterCase
import SqlLint.Style.Checks

/-!
# Keywords in a style

A keyword token is an asterisk or a word over ASCII, so a style changes the case of its ASCII
letters and nothing else.  A formatted keyword stays as it is when it is formatted again, and the
check of letter case does not object to it, also where it looks at the first letter alone.
-/

set_option autoImplicit false

namespace SqlLint

namespace Text

theorem isAscii_of_isWordChar {c : Char} (word : isWordChar c = true) : isAscii c = true := by
  rw [isWordChar_iff] at word
  rw [isAscii, decide_eq_true_eq]
  omega

theorem isAscii_of_isAlpha {c : Char} (letter : c.isAlpha = true) : isAscii c = true :=
  isAscii_of_isWordChar (isWordChar_of_isAlpha letter)

theorem isAscii_toUpper (c : Char) : isAscii c.toUpper = isAscii c :=
  apply_toUpper (fun _ letter => isAscii_of_isAlpha letter) c

theorem isAscii_toLower (c : Char) : isAscii c.toLower = isAscii c := by
  cases letter : c.isAlpha with
  | false =>
      rw [Char.isAlpha, Bool.or_eq_false_iff] at letter
      rw [Char.toLower_eq_of_not_isUpper (Bool.eq_false_iff.1 letter.1)]
  | true =>
      rw [isAscii_of_isAlpha letter, isAscii_of_isAlpha]
      rw [Char.isAlpha_toLower_eq_isAlpha, letter]

/-- A text over ASCII. -/
def IsPlain (text : List Char) : Prop :=
  ∀ c ∈ text, isAscii c = true

theorem IsPlain.tail {c : Char} {text : List Char} (plain : IsPlain (c :: text)) : IsPlain text :=
  fun d listed => plain d (List.mem_cons_of_mem c listed)

theorem IsPlain.map {text : List Char} (plain : IsPlain text) {form : Char → Char}
    (keeps : ∀ c, isAscii (form c) = isAscii c) : IsPlain (text.map form) := by
  intro c listed
  obtain ⟨d, inText, rfl⟩ := List.mem_map.1 listed
  rw [keeps]
  exact plain d inText

/-- Over ASCII a form of a text in several characters is one in single characters. -/
theorem IsPlain.flatMap_eq_map {text : List Char} (plain : IsPlain text)
    {form : Char → List Char} {single : Char → Char}
    (same : ∀ c, isAscii c = true → form c = [single c]) : text.flatMap form = text.map single := by
  induction text with
  | nil => rfl
  | cons c text ih =>
      rw [List.flatMap_cons, List.map_cons, ih plain.tail, same c (plain c List.mem_cons_self)]
      rfl

theorem upperForm_of_isAscii {c : Char} (ascii : isAscii c = true) :
    upperForm c = [c.toUpper] := by
  simp [upperForm, ascii]

theorem lowerForm_of_isAscii {c : Char} (ascii : isAscii c = true) :
    lowerForm c = [c.toLower] := by
  simp [lowerForm, ascii]

theorem upper_of_isPlain {text : List Char} (plain : IsPlain text) :
    upper (String.ofList text) = String.ofList (text.map Char.toUpper) := by
  rw [upper, String.toList_ofList, plain.flatMap_eq_map fun _ => upperForm_of_isAscii]

theorem lowerAfter_of_isPlain {text : List Char} (plain : IsPlain text) (before : List Char) :
    lowerAfter before text = text.map Char.toLower := by
  induction text generalizing before with
  | nil => rfl
  | cons c text ih =>
      have ascii : isAscii c = true := plain c List.mem_cons_self
      have noSigma : (c == 'Σ') = false := by
        rw [beq_eq_false_iff_ne]
        rintro rfl
        revert ascii
        decide
      rw [lowerAfter, List.map_cons, ih plain.tail, lowerForm_of_isAscii ascii]
      simp [noSigma]

theorem lower_of_isPlain {text : List Char} (plain : IsPlain text) :
    lower (String.ofList text) = String.ofList (text.map Char.toLower) := by
  rw [lower, String.toList_ofList, lowerAfter_of_isPlain plain]

end Text

namespace KeywordStyle

/-- What a style makes of a word over ASCII. -/
def formatChars : KeywordStyle → List Char → List Char
  | preserve, word => word
  | lower, word => word.map Char.toLower
  | upper, word => word.map Char.toUpper
  | capitalize, [] => []
  | capitalize, first :: others => first.toUpper :: others.map Char.toLower

theorem format_of_isPlain {word : List Char} (plain : Text.IsPlain word) (style : KeywordStyle) :
    style.format (String.ofList word) = String.ofList (style.formatChars word) := by
  cases style with
  | preserve => rfl
  | lower => exact Text.lower_of_isPlain plain
  | upper => exact Text.upper_of_isPlain plain
  | capitalize =>
      rw [format, Text.capitalize, String.toList_ofList]
      cases word with
      | nil => rfl
      | cons first others =>
          have lowered : others.flatMap Text.lowerForm = others.map Char.toLower :=
            plain.tail.flatMap_eq_map fun _ => Text.lowerForm_of_isAscii
          simp [formatChars, lowered, Text.upperForm_of_isAscii (plain first List.mem_cons_self)]

theorem isPlain_formatChars {word : List Char} (plain : Text.IsPlain word)
    (style : KeywordStyle) : Text.IsPlain (style.formatChars word) := by
  cases style with
  | preserve => exact plain
  | lower => exact plain.map Text.isAscii_toLower
  | upper => exact plain.map Text.isAscii_toUpper
  | capitalize =>
      cases word with
      | nil => exact plain
      | cons first others =>
          intro c listed
          rcases List.mem_cons.1 listed with rfl | listed
          · rw [Text.isAscii_toUpper]
            exact plain first List.mem_cons_self
          · exact plain.tail.map Text.isAscii_toLower c listed

theorem upperChars_formatChars (style : KeywordStyle) (word : List Char) :
    Text.upperChars (style.formatChars word) = Text.upperChars word := by
  have lowerFirst : Char.toUpper ∘ Char.toLower = Char.toUpper :=
    funext Char.toUpper_toLower_eq_toUpper
  have upperFirst : Char.toUpper ∘ Char.toUpper = Char.toUpper :=
    funext Char.toUpper_toUpper_eq_toUpper
  cases style with
  | preserve => rfl
  | lower => rw [formatChars, Text.upperChars, Text.upperChars, List.map_map, lowerFirst]
  | upper => rw [formatChars, Text.upperChars, Text.upperChars, List.map_map, upperFirst]
  | capitalize =>
      cases word with
      | nil => rfl
      | cons first others =>
          rw [formatChars, Text.upperChars, Text.upperChars, List.map_cons, List.map_cons,
            List.map_map, lowerFirst, Char.toUpper_toUpper_eq_toUpper]

theorem formatChars_formatChars (style : KeywordStyle) (word : List Char) :
    style.formatChars (style.formatChars word) = style.formatChars word := by
  have lowerTwice : Char.toLower ∘ Char.toLower = Char.toLower :=
    funext Char.toLower_toLower_eq_toLower
  have upperTwice : Char.toUpper ∘ Char.toUpper = Char.toUpper :=
    funext Char.toUpper_toUpper_eq_toUpper
  cases style with
  | preserve => rfl
  | lower => rw [formatChars, formatChars, List.map_map, lowerTwice]
  | upper => rw [formatChars, formatChars, List.map_map, upperTwice]
  | capitalize =>
      cases word with
      | nil => rfl
      | cons first others =>
          rw [formatChars, formatChars, List.map_map, lowerTwice, Char.toUpper_toUpper_eq_toUpper]

theorem breaksCase_formatChars {word : List Char} (plain : Text.IsPlain word)
    (style : KeywordStyle) :
    Check.breaksCase style (String.ofList (style.formatChars word)) = false := by
  have again := format_of_isPlain (isPlain_formatChars plain style) style
  rw [formatChars_formatChars] at again
  cases style with
  | preserve => rfl
  | lower =>
      rw [format] at again
      rw [Check.breaksCase, again]
      exact bne_self_eq_false _
  | upper =>
      rw [format] at again
      rw [Check.breaksCase, again]
      exact bne_self_eq_false _
  | capitalize =>
      rw [Check.breaksCase, String.toList_ofList]
      cases word with
      | nil => rfl
      | cons first others =>
          have ascii : Text.isAscii first.toUpper = true := by
            rw [Text.isAscii_toUpper]
            exact plain first (by simp)
          simp [formatChars, Text.isLowercase, ascii]

end KeywordStyle

/-- A keyword is read as a word over ASCII or as an asterisk. -/
theorem RuleTable.isPlain_of_nextToken? {table : RuleTable} {previous : Option Token}
    {state : LexState} {text after : List Char} {token : Token}
    (found : table.nextToken? previous state text = some (token, after))
    (keyword : token.category = .keyword) : Text.IsPlain token.text.toList := by
  obtain ⟨rule, body, next, rfl⟩ := RuleTable.nextBody?_of_nextToken? found
  obtain ⟨_, takes⟩ := Rule.body?_of_firstBody? next
  rw [toList_text_bodyToken]
  rw [RuleTable.bodyToken] at keyword
  cases rule with
  | keyword =>
      obtain ⟨taken, _⟩ := Option.filter_eq_some_iff.1 takes
      obtain ⟨_, inWord, _⟩ := Cut.takeWord_spec taken
      exact fun c inside => Text.isAscii_of_isWordChar (inWord c inside)
  | operator =>
      simp only [Rule.bodyCategory] at keyword
      split at keyword
      · next star =>
          simp only [Bool.and_eq_true, decide_eq_true_eq] at star
          rw [star.1]
          intro c listed
          rw [List.mem_singleton.1 listed]
          rfl
      · contradiction
  | _ => contradiction

theorem Reads.isPlain_of_keyword {table : RuleTable} {previous : Option Token}
    {state final : LexState} {text rest : List Char} {tokens : List Token}
    (reads : Reads table previous state text tokens final rest) :
    ∀ token ∈ tokens, token.category = .keyword → Text.IsPlain token.text.toList :=
  reads.forall_mem fun _ _ _ _ _ found => RuleTable.isPlain_of_nextToken? found

end SqlLint
