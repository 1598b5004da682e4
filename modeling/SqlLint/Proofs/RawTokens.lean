import SqlLint.Proofs.Extraction

/-!
# Raw tokens and the text

The text of a line of markup is accounted for by its raw tokens: it is their texts in order, with
blanks in front, between and behind (`text_is_tokens_and_blanks`).  Blanks reach the text without a
token and fillers reach neither, so that this is a property of the items that are read one after
the other (`Item.WellFormed`, `wellFormed_of_readItem?`).
-/

set_option autoImplicit false

namespace SqlLint.Markup

def OnlyBlanks (text : String) : Prop :=
  ∀ c ∈ text.toList, Text.isBlank c = true

/-- The texts of the tokens, each with what follows it. -/
def weave (tokens : List RawToken) (gaps : List String) : String :=
  String.join (List.zipWith (fun token gap => token.text ++ gap) tokens gaps)

/-- The text is the texts of the tokens in order, with blanks or nothing in front of the first one
and behind each. -/
def Accounted (text : String) (tokens : List RawToken) : Prop :=
  ∃ (front : String) (gaps : List String), gaps.length = tokens.length ∧ OnlyBlanks front ∧
    (∀ gap ∈ gaps, OnlyBlanks gap) ∧ text = front ++ weave tokens gaps

/-- A run of text without blanks and without a sign that starts markup. -/
structure IsBareText (text : String) : Prop where
  nonempty : text ≠ ""
  chars : ∀ c ∈ text.toList, c ≠ '<' ∧ c ≠ '&' ∧ Text.isBlank c = false

/-- The text of a token suits the way in which it was written. -/
structure RawToken.WellFormed (token : RawToken) : Prop where
  not_newline : token.kind ≠ .newline
  inequality_text : token.kind = .inequality → token.text = "<" ∨ token.text = ">"
  unknown_text : token.kind = .unknown → token.text = "&" ∨ IsBareText token.text

/-- What an item holds: a run of blanks has nothing else in it, and tokens are well formed. -/
def Item.WellFormed : Item → Prop
  | .blanks text => ∀ c ∈ text, Text.isBlank c = true
  | .filler => True
  | .token kind text => RawToken.WellFormed ⟨String.ofList text, kind⟩

/-! ## Items -/

theorem RawToken.wellFormed_wrapped (className text : String) :
    WellFormed ⟨text, .wrapped className⟩ := by
  constructor <;> simp

theorem RawToken.wellFormed_inequality {sign : String} (angle : sign = "<" ∨ sign = ">") :
    WellFormed ⟨sign, .inequality⟩ := by
  constructor <;> simp [angle]

theorem RawToken.wellFormed_unknown {text : String} (spelled : text = "&" ∨ IsBareText text) :
    WellFormed ⟨text, .unknown⟩ := by
  constructor <;> simp [spelled]

/-- Whatever an ampersand starts is well formed. -/
theorem wellFormed_of_mem_references {reference : List Char × Item}
    (listed : reference ∈ references) : reference.2.WellFormed := by
  simp only [references, List.mem_cons, List.not_mem_nil, or_false] at listed
  rcases listed with rfl | rfl | rfl | rfl | rfl
  · trivial
  · exact RawToken.wellFormed_inequality (Or.inl rfl)
  · exact RawToken.wellFormed_inequality (Or.inr rfl)
  · exact RawToken.wellFormed_unknown (Or.inl rfl)
  · exact RawToken.wellFormed_unknown (Or.inl rfl)

theorem isBareText_run {c : Char} (bare : isBareChar c = true) (rest : List Char) :
    IsBareText (String.ofList (c :: rest.takeWhile isBareChar)) where
  nonempty := by simp [String.ofList_eq_empty_iff]
  chars := by
    rw [String.toList_ofList]
    have inClass : ∀ d ∈ c :: rest.takeWhile isBareChar, isBareChar d = true :=
      List.forall_mem_cons.2 ⟨bare, fun d listed => List.mem_takeWhile_imp listed⟩
    exact fun d listed => isBareChar_iff.1 (inClass d listed)

theorem wellFormed_of_readItem? {text rest : List Char} {item : Item}
    (read : readItem? text = some (item, rest)) : item.WellFormed := by
  cases text with
  | nil => contradiction
  | cons c others =>
      -- The first character says which of the readers can have read the item.
      rcases sign_cases c with blank | rfl | rfl | bare
      · rw [readItem?_of_isBlank blank] at read
        cases read
        exact List.forall_mem_cons.2 ⟨blank, fun d listed => List.mem_takeWhile_imp listed⟩
      · rw [readItem?_of_angle, readWrapped?] at read
        obtain ⟨⟨className, content, after⟩, _, same⟩ := Option.map_eq_some_iff.1 read
        cases same
        exact RawToken.wellFormed_wrapped _ _
      · rw [readItem?_of_ampersand] at read
        obtain ⟨reference, listed, found⟩ := List.exists_of_findSome?_eq_some read
        obtain ⟨after, _, same⟩ := Option.map_eq_some_iff.1 found
        cases same
        exact wellFormed_of_mem_references listed
      · rw [readItem?_of_isBareChar bare] at read
        cases read
        exact RawToken.wellFormed_unknown (Or.inr (isBareText_run bare others))

theorem wellFormed_of_mem_readItems (text : List Char) :
    ∀ item ∈ (readItems text).1, item.WellFormed := by
  fun_induction readItems text with
  | case1 text refused => exact List.forall_mem_nil _
  | case2 text item rest read items remainder later ih =>
      rw [later] at ih
      exact List.forall_mem_cons.2 ⟨wellFormed_of_readItem? read, ih⟩

/-! ## Lines -/

namespace Accounted

variable {text run : String} {tokens : List RawToken}

theorem nil : Accounted "" [] :=
  ⟨"", [], rfl, by simp [OnlyBlanks], by simp, rfl⟩

theorem blanks (onlyBlanks : OnlyBlanks run) (later : Accounted text tokens) :
    Accounted (run ++ text) tokens := by
  obtain ⟨front, gaps, count, blankFront, blankGaps, rfl⟩ := later
  refine ⟨run ++ front, gaps, count, ?_, blankGaps, (String.append_assoc ..).symm⟩
  intro c listed
  rw [String.toList_append, List.mem_append] at listed
  exact listed.elim (onlyBlanks c) (blankFront c)

/-- What stood in front of the text stands behind the new token. -/
theorem token (token : RawToken) (later : Accounted text tokens) :
    Accounted (token.text ++ text) (token :: tokens) := by
  obtain ⟨front, gaps, count, blankFront, blankGaps, rfl⟩ := later
  refine ⟨"", front :: gaps, by simp [count], by simp [OnlyBlanks],
    List.forall_mem_cons.2 ⟨blankFront, blankGaps⟩, ?_⟩
  simp [weave, String.append_assoc]

end Accounted

theorem accounted_of_wellFormed {items : List Item} (wellFormed : ∀ item ∈ items, item.WellFormed) :
    Accounted (String.ofList (items.flatMap Item.literal)) (items.filterMap Item.rawToken?) := by
  induction items with
  | nil => exact .nil
  | cons item items ih =>
      obtain ⟨first, others⟩ := List.forall_mem_cons.1 wellFormed
      have later := ih others
      rw [List.flatMap_cons, String.ofList_append]
      cases item with
      | blanks text =>
          refine later.blanks ?_
          rw [OnlyBlanks, Item.literal, String.toList_ofList]
          exact first
      | filler => exact later
      | token kind text => exact later.token ⟨String.ofList text, kind⟩

/-- The text of a line is the texts of its tokens in order with blanks around them.  No token is a
filler, tokens for escaped angle brackets are angle brackets, and a token without a wrapper is an
ampersand or a run of bare text. -/
theorem text_is_tokens_and_blanks (markup : String) :
    Accounted (extractLine markup).text (extractLine markup).rawTokens ∧
      ∀ token ∈ (extractLine markup).rawTokens, token.WellFormed := by
  have wellFormed := wellFormed_of_mem_readItems markup.toList
  refine ⟨accounted_of_wellFormed wellFormed, ?_⟩
  intro token listed
  obtain ⟨item, inItems, made⟩ := List.mem_filterMap.1 listed
  cases item with
  | token kind text =>
      cases made
      exact wellFormed _ inItems
  | blanks _ => contradiction
  | filler => contradiction

theorem text_is_tokens_and_blanks_of_halted_line :
    (extractLine " a&nbsp; &lt;&<b").rawTokens =
        [⟨"a", .unknown⟩, ⟨"<", .inequality⟩, ⟨"&", .unknown⟩] ∧
      Accounted " a <&" [⟨"a", .unknown⟩, ⟨"<", .inequality⟩, ⟨"&", .unknown⟩] ∧
      (⟨"&", .unknown⟩ : RawToken) ∈ (extractLine " a&nbsp; &lt;&<b").rawTokens ∧
      RawToken.WellFormed ⟨"&", .unknown⟩ := by
  have line : extractLine " a&nbsp; &lt;&<b" =
      ⟨" a <&", [⟨"a", .unknown⟩, ⟨"<", .inequality⟩, ⟨"&", .unknown⟩],
        some ⟨.unmatched, 14, "<b"⟩⟩ := by decide +kernel
  obtain ⟨accounted, wellFormed⟩ := text_is_tokens_and_blanks " a&nbsp; &lt;&<b"
  rw [line] at accounted wellFormed ⊢
  have listed : (⟨"&", .unknown⟩ : RawToken) ∈
      [⟨"a", .unknown⟩, ⟨"<", .inequality⟩, ⟨"&", .unknown⟩] := by simp
  exact ⟨rfl, accounted, listed, wellFormed _ listed⟩

end SqlLint.Markup
