import SqlLint.Proofs.Rendering

/-!
# Lines that differ in letter case

Two lines that are equal up to the case of ASCII letters are lexed in lock step: the tokens match
one by one, and the scans end in one state and at one place (`lexing_ignores_letter_case`).  Put
into upper case both readings are the reading of one text, so they are equal there
(`Reads.upper_eq`), and upper case keeps the number of bytes.
-/

set_option autoImplicit false

namespace SqlLint

/-- Two tokens that differ at most in the letter case of their texts. -/
structure Token.SameUpToCase (first second : Token) : Prop where
  category_eq : first.category = second.category
  text_same : Text.sameWord first.text second.text = true
  byteLength_eq : first.byteLength = second.byteLength

/-- Two lexed lines that differ at most in the letter case of their texts. -/
structure LexedLine.SameUpToCase (first second : LexedLine) : Prop where
  tokens_same : List.Forall₂ Token.SameUpToCase first.tokens second.tokens
  exitState_eq : first.exitState = second.exitState
  offset_eq : first.unlexed.map (·.offset) = second.unlexed.map (·.offset)

namespace Token

theorem sameUpToCase_of_upper_eq {first second : Token} (same : first.upper = second.upper) :
    first.SameUpToCase second := by
  have category : first.upper.category = second.upper.category := congrArg Token.category same
  have text : first.upper.text = second.upper.text := congrArg Token.text same
  rw [category_upper, category_upper] at category
  rw [text_upper, text_upper] at text
  exact ⟨category, Text.sameWord_iff.2 text, Text.utf8ByteSize_eq_of_upperAscii_eq text⟩

theorem forall₂_of_map_upper_eq {tokens others : List Token}
    (same : tokens.map upper = others.map upper) :
    List.Forall₂ SameUpToCase tokens others := by
  have matched : List.Forall₂ (· = ·) (tokens.map upper) (others.map upper) :=
    List.forall₂_eq_eq_eq ▸ same
  rw [List.forall₂_map_left_iff, List.forall₂_map_right_iff] at matched
  exact matched.imp fun _ _ equal => sameUpToCase_of_upper_eq equal

end Token

/-- Readings of two texts that are one text in upper case are one reading in upper case. -/
theorem Reads.upper_eq {table : RuleTable} {previous : Option Token} {state final last : LexState}
    {text other rest remainder : List Char} {tokens others : List Token}
    (same : Text.upperChars text = Text.upperChars other)
    (first : Reads table previous state text tokens final rest)
    (second : Reads table previous state other others last remainder) :
    tokens.map Token.upper = others.map Token.upper ∧ final = last ∧
      Text.upperChars rest = Text.upperChars remainder := by
  have firstUpper := first.upper
  rw [same] at firstUpper
  exact firstUpper.unique second.upper

theorem Unlexed.offset_ofRest?_eq {line other : String} {rest remainder : List Char}
    (sameLine : Text.upperAscii line = Text.upperAscii other)
    (sameRest : Text.upperChars rest = Text.upperChars remainder) :
    (ofRest? line rest).map (·.offset) = (ofRest? other remainder).map (·.offset) := by
  have empty : rest.isEmpty = remainder.isEmpty := by
    have upperEmpty := congrArg List.isEmpty sameRest
    rwa [Text.upperChars, Text.upperChars, List.isEmpty_map, List.isEmpty_map] at upperEmpty
  have lineBytes : line.utf8ByteSize = other.utf8ByteSize :=
    Text.utf8ByteSize_eq_of_upperAscii_eq sameLine
  have restBytes : (String.ofList rest).utf8ByteSize = (String.ofList remainder).utf8ByteSize := by
    apply Text.utf8ByteSize_eq_of_upperAscii_eq
    rw [Text.upperAscii_ofList, Text.upperAscii_ofList, sameRest]
  rw [ofRest?, ofRest?, empty]
  split
  · rfl
  · simp only [Option.map_some, lineBytes, restBytes]

/-- Under any settings and from any state, two lines that are equal up to the case of ASCII letters
give tokens that match one by one, the same state, and remainders at the same place. -/
theorem lexing_ignores_letter_case (settings : LexerSettings) (state : LexState)
    {line other : String} (same : Text.sameWord line other = true) :
    ((RuleTable.ofSettings settings).lexLine state line).SameUpToCase
      ((RuleTable.ofSettings settings).lexLine state other) := by
  have sameChars : Text.upperChars line.toList = Text.upperChars other.toList :=
    Text.sameWord_iff_toList.1 same
  have lineReads := (RuleTable.ofSettings settings).reads_scan none state line.toList
  have otherReads := (RuleTable.ofSettings settings).reads_scan none state other.toList
  obtain ⟨tokens, final, rest⟩ := lineReads.upper_eq sameChars otherReads
  exact
    { tokens_same := Token.forall₂_of_map_upper_eq tokens
      exitState_eq := final
      offset_eq := Unlexed.offset_ofRest?_eq (Text.sameWord_iff.1 same) rest }

theorem lexing_ignores_letter_case_of_halted_select :
    Text.sameWord "Select/*Abc*/ 'xY', f(* froM \x7bz" "sELECT/*aBC*/ 'Xy', F(* From \x7bZ" = true ∧
      LexedLine.SameUpToCase
        ((RuleTable.ofSettings { starExpansion := .selectTarget }).lexLine {}
          "Select/*Abc*/ 'xY', f(* froM \x7bz")
        ((RuleTable.ofSettings { starExpansion := .selectTarget }).lexLine {}
          "sELECT/*aBC*/ 'Xy', F(* From \x7bZ") := by
  have same : Text.sameWord "Select/*Abc*/ 'xY', f(* froM \x7bz"
      "sELECT/*aBC*/ 'Xy', F(* From \x7bZ" = true := Text.sameWord_iff_toList.2 (by decide)
  exact ⟨same, lexing_ignores_letter_case { starExpansion := .selectTarget } {} same⟩

end SqlLint
