import SqlLint.Document.Print
import SqlLint.Proofs.JsonText

/-!
# Reports and violations survive JSON

Every part of a report, and every kind of violation with what it carries, is read back from the
value that it is written as, provided that its numbers fit into 64 bits.  With
`Json.read?_print` this makes the printed JSON lose nothing (`json_output_loses_nothing`).
-/

set_option autoImplicit false

namespace SqlLint

/-! ## Records, lists and choices -/

namespace Json

theorem member?_eq_some {members : List (String × Json)} {key : String} {value : Json}
    (distinct : (members.map (·.1)).Nodup) (listed : (key, value) ∈ members) :
    member? members key = some (some value) := by
  have only : members.filter (·.1 == key) = [(key, value)] := by
    induction members with
    | nil => contradiction
    | cons member members ih =>
        obtain ⟨fresh, others⟩ := List.nodup_cons.1 distinct
        rcases List.mem_cons.1 listed with rfl | later
        · have none : members.filter (·.1 == key) = [] := by
            rw [List.filter_eq_nil_iff]
            intro other inMembers same
            exact fresh (List.mem_map.2 ⟨other, inMembers, beq_iff_eq.1 same⟩)
          rw [List.filter_cons, if_pos (beq_self_eq_true key), none]
        · have other : ¬ (member.1 == key) = true := by
            intro same
            exact fresh (List.mem_map.2 ⟨_, later, (beq_iff_eq.1 same).symm⟩)
          rw [List.filter_cons, if_neg other, ih others later]
  rw [member?, only]

/-- A record is read from an object that has its fields in order. -/
theorem fields?_object {fields : List Field} {members : List (String × Json)}
    (distinct : (fields.map (·.key)).Nodup) (keys : fields.map (·.key) = members.map (·.1)) :
    fields? fields (.object members) = some (members.map (·.2)) := by
  rw [keys] at distinct
  have each : ∀ (fields : List Field) (front : List (String × Json)),
      fields.map (·.key) = front.map (·.1) → (∀ member ∈ front, member ∈ members) →
        fields.mapM (fieldOf? members) = some (front.map (·.2)) := by
    intro fields front same listed
    induction fields generalizing front with
    | nil =>
        cases front with
        | nil => rfl
        | cons _ _ => contradiction
    | cons field fields ih =>
        cases front with
        | nil => contradiction
        | cons member front =>
            obtain ⟨key, value⟩ := member
            obtain ⟨first, others⟩ : field.key = key ∧ _ := List.cons.inj same
            have found := member?_eq_some distinct (listed _ List.mem_cons_self)
            have rest := ih front others fun member inFront =>
              listed member (List.mem_cons_of_mem _ inFront)
            rw [List.mapM_cons, rest, fieldOf?, first, found]
            rfl
  exact each fields members keys fun _ listed => listed

theorem text?_string (text : String) : text? (.string text) = some text :=
  rfl

theorem word?_natural {n : Nat} (fits : n ≤ Text.maxWord) : word? (.natural n) = some n :=
  if_pos fits

theorem list?_ofList {Value : Type} {read : Json → Option Value} {write : Value → Json}
    {values : List Value} (each : ∀ value ∈ values, read (write value) = some value) :
    list? read (ofList write values) = some values := by
  rw [ofList, list?]
  induction values with
  | nil => rfl
  | cons value values ih =>
      rw [List.map_cons, List.mapM_cons, each value List.mem_cons_self,
        ih fun other listed => each other (List.mem_cons_of_mem _ listed)]
      rfl

theorem optional?_ofOptional {Value : Type} {read : Json → Option Value} {write : Value → Json}
    {value : Option Value} (notNull : ∀ value, write value ≠ .null)
    (each : ∀ found ∈ value, read (write found) = some found) :
    optional? read (ofOptional write value) = some value := by
  cases value with
  | none => rfl
  | some value =>
      have present : optional? read (write value) = (read (write value)).map some := by
        cases shape : write value with
        | null => exact absurd shape (notNull value)
        | _ => rfl
      rw [ofOptional, present, each value rfl]
      rfl

theorem choice?_string {Choice : Type} {all : List Choice} {name : Choice → String}
    {choice : Choice} (found : all.find? (name · == name choice) = some choice) :
    choice? all name (.string (name choice)) = some choice :=
  found

/-- A text that was printed for a value is read back, if the value is read from what it is written
as. -/
theorem parseAs_print {Value : Type} {read : Json → Option Value} {json : Json} {value : Value}
    (readBack : read json = some value) : parseAs read (print json) = .ok value := by
  rw [parseAs, read?_print, Option.bind_some, readBack]

end Json

/-! ## The parts of a report -/

open Json

theorem TokenCategory.ofJson?_name (category : TokenCategory) :
    ofJson? (.string category.name) = some category :=
  choice?_string category.ofName?_name

theorem Token.ofJson?_toJson (token : Token) : ofJson? token.toJson = some token := by
  rw [toJson, ofJson?, fields?_object (by decide) rfl]
  simp [TokenCategory.ofJson?_name, text?_string]

theorem LexState.ofJson?_toJson (state : LexState) : ofJson? state.toJson = some state := by
  rw [toJson, ofJson?, fields?_object (by decide) rfl]
  simp [bool?]

-- The types put no bound on a number, but the reader refuses one of more than 64 bits.

def Unlexed.Fits (unlexed : Unlexed) : Prop :=
  unlexed.offset ≤ Text.maxWord

theorem Unlexed.ofJson?_toJson {unlexed : Unlexed} (fits : unlexed.Fits) :
    ofJson? unlexed.toJson = some unlexed := by
  rw [toJson, ofJson?, fields?_object (by decide) rfl]
  simp [word?_natural fits, text?_string]

theorem LexedLine.ofJson?_toJson {line : LexedLine}
    (fits : ∀ unlexed ∈ line.unlexed, unlexed.Fits) : ofJson? line.toJson = some line := by
  have tokens : (ofList Token.toJson line.tokens).list? Token.ofJson? = some line.tokens :=
    list?_ofList fun token _ => token.ofJson?_toJson
  have unlexed : (ofOptional Unlexed.toJson line.unlexed).optional? Unlexed.ofJson? =
      some line.unlexed :=
    optional?_ofOptional nofun fun unlexed found => Unlexed.ofJson?_toJson (fits unlexed found)
  rw [toJson, ofJson?, fields?_object (by decide) rfl]
  simp [tokens, LexState.ofJson?_toJson, unlexed]

theorem Markup.RawKind.ofJson?_toJson (kind : RawKind) : ofJson? kind.toJson = some kind := by
  cases kind with
  | newline | inequality | unknown => rfl
  | wrapped className =>
      have carried : fields? [Field.required "class"] (.object [("class", .string className)]) =
          some [.string className] := fields?_object (by decide) rfl
      simp only [toJson, tagged, ofJson?, alternative?, carried]
      rfl

theorem Markup.RawToken.ofJson?_toJson (token : RawToken) : ofJson? token.toJson = some token := by
  rw [toJson, ofJson?, fields?_object (by decide) rfl]
  simp [RawKind.ofJson?_toJson, text?_string]

theorem DiagnosticKind.ofJson?_name (kind : DiagnosticKind) :
    ofJson? (.string kind.name) = some kind :=
  choice?_string (by cases kind <;> rfl)

structure Diagnostic.Fits (diagnostic : Diagnostic) : Prop where
  line_le : diagnostic.line ≤ Text.maxWord
  offset_le : diagnostic.offset ≤ Text.maxWord

theorem Diagnostic.ofJson?_toJson {diagnostic : Diagnostic} (fits : diagnostic.Fits) :
    ofJson? diagnostic.toJson = some diagnostic := by
  rw [toJson, ofJson?, fields?_object (by decide) rfl]
  simp [word?_natural fits.line_le, word?_natural fits.offset_le, DiagnosticKind.ofJson?_name,
    text?_string]

structure LineReport.Fits (line : LineReport) : Prop where
  index_le : line.index ≤ Text.maxWord
  unlexed_fits : ∀ unlexed ∈ line.lexed.unlexed, unlexed.Fits
  diagnostics_fit : ∀ diagnostic ∈ line.diagnostics, diagnostic.Fits

theorem LineReport.ofJson?_toJson {line : LineReport} (fits : line.Fits) :
    ofJson? line.toJson = some line := by
  have rawTokens : (ofList Markup.RawToken.toJson line.rawTokens).list? Markup.RawToken.ofJson? =
      some line.rawTokens := list?_ofList fun token _ => token.ofJson?_toJson
  have diagnostics : (ofList Diagnostic.toJson line.diagnostics).list? Diagnostic.ofJson? =
      some line.diagnostics :=
    list?_ofList fun diagnostic listed =>
      Diagnostic.ofJson?_toJson (fits.diagnostics_fit diagnostic listed)
  rw [toJson, ofJson?, fields?_object (by decide) rfl]
  simp [word?_natural fits.index_le, text?_string, rawTokens,
    LexedLine.ofJson?_toJson fits.unlexed_fits, diagnostics]

def DocumentReport.Fits (report : DocumentReport) : Prop :=
  ∀ line ∈ report.lines, line.Fits

theorem DocumentReport.ofJson?_toJson {report : DocumentReport} (fits : report.Fits) :
    ofJson? report.toJson = some report := by
  have lines : (ofList LineReport.toJson report.lines).list? LineReport.ofJson? =
      some report.lines :=
    list?_ofList fun line listed => LineReport.ofJson?_toJson (fits line listed)
  rw [toJson, ofJson?, fields?_object (by decide) rfl]
  simp [lines, LexState.ofJson?_toJson]

/-! ## Violations -/

theorem KeywordStyle.ofJson?_name (style : KeywordStyle) :
    ofJson? (.string style.name) = some style :=
  choice?_string (by cases style <;> rfl)

theorem CommaPosition.ofJson?_name (position : CommaPosition) :
    ofJson? (.string position.name) = some position :=
  choice?_string (by cases position <;> rfl)

def ViolationKind.Fits : ViolationKind → Prop
  | indentSteps steps width => steps ≤ Text.maxWord ∧ width ≤ Text.maxWord
  | tooManyBlankLines count => count ≤ Text.maxWord
  | _ => True

theorem ViolationKind.ofJson?_tagged {name : String} {members : List (String × Json)}
    (carries : plain.lookup name = none) :
    ofJson? (tagged name members) = ofCarried? (.object members) name := by
  rw [tagged, ofJson?, alternative?]
  simp only [carries, Option.bind_some]

theorem ViolationKind.single?_object {Value : Type} {key : String} {read : Json → Option Value}
    {make : Value → ViolationKind} {json : Json} {value : Value}
    (readBack : read json = some value) :
    single? key read make (.object [(key, json)]) = some (make value) := by
  have field : fields? [Field.required key] (.object [(key, json)]) = some [json] :=
    fields?_object (List.pairwise_singleton _ _) rfl
  simp only [single?, field, readBack, Option.map_some]

theorem ViolationKind.ofJson?_toJson {kind : ViolationKind} (fits : kind.Fits) :
    ofJson? kind.toJson = some kind := by
  cases kind with
  | duplicatedSpaces | whitespaceAfterComma | whitespaceBeforeComma | whitespaceAfterBracket
  | whitespaceBeforeBracket | joinTable => rfl
  | indentSteps steps width =>
      rw [toJson, ofJson?_tagged (by decide), ofCarried?, fields?_object (by decide) rfl]
      simp [word?_natural fits.1, word?_natural fits.2]
  | keywordCase style found expected =>
      rw [toJson, ofJson?_tagged (by decide), ofCarried?, fields?_object (by decide) rfl]
      simp [style.ofJson?_name, text?_string]
  | commaPosition expected =>
      rw [toJson, ofJson?_tagged (by decide), ofCarried?, single?_object expected.ofJson?_name]
  | whitespaceAfterOperator text | whitespaceBeforeOperator text | joinContext text
  | breakLine text =>
      rw [toJson, ofJson?_tagged (by decide), ofCarried?, single?_object (text?_string text)]
  | tooManyBlankLines count =>
      rw [toJson, ofJson?_tagged (by decide), ofCarried?, single?_object (word?_natural fits)]

structure Violation.Fits (violation : Violation) : Prop where
  line_le : violation.line ≤ Text.maxWord
  position_le : violation.position ≤ Text.maxWord
  kind_fits : violation.kind.Fits

theorem Violation.ofJson?_toJson {violation : Violation} (fits : violation.Fits) :
    ofJson? violation.toJson = some violation := by
  rw [toJson, ofJson?, fields?_object (by decide) rfl]
  simp [word?_natural fits.line_le, word?_natural fits.position_le,
    ViolationKind.ofJson?_toJson fits.kind_fits]

/-! ## Printed reports -/

/-- A report that was printed as JSON is read back, and so are violations. -/
theorem json_output_loses_nothing (style : KeywordStyle) {report : DocumentReport}
    (fits : report.Fits) {violations : List Violation}
    (fit : ∀ violation ∈ violations, violation.Fits) :
    DocumentReport.parseJson (report.print .json style) = .ok report ∧
      Violation.parseAllJson (Violation.printAll .json violations) = .ok violations := by
  have parts : (ofList Violation.toJson violations).list? Violation.ofJson? = some violations :=
    list?_ofList fun violation listed => Violation.ofJson?_toJson (fit violation listed)
  exact ⟨parseAs_print (DocumentReport.ofJson?_toJson fits), parseAs_print parts⟩

theorem json_output_loses_nothing_of_unlexed_quote :
    DocumentReport.Fits
        ⟨[⟨7, "\t", [⟨"\"", .wrapped "k"⟩], ⟨[], {}, {}, some ⟨Text.maxWord, "\""⟩⟩, []⟩], {}⟩ ∧
      (∀ violation ∈ [(⟨Text.maxWord, 0, .indentSteps 4 Text.maxWord⟩ : Violation)],
        violation.Fits) ∧
      DocumentReport.parseJson (DocumentReport.print .json .upper
          ⟨[⟨7, "\t", [⟨"\"", .wrapped "k"⟩], ⟨[], {}, {}, some ⟨Text.maxWord, "\""⟩⟩, []⟩], {}⟩) =
        .ok ⟨[⟨7, "\t", [⟨"\"", .wrapped "k"⟩], ⟨[], {}, {}, some ⟨Text.maxWord, "\""⟩⟩, []⟩], {}⟩ ∧
      Violation.parseAllJson
          (Violation.printAll .json [⟨Text.maxWord, 0, .indentSteps 4 Text.maxWord⟩]) =
        .ok [⟨Text.maxWord, 0, .indentSteps 4 Text.maxWord⟩] := by
  have fits : DocumentReport.Fits
      ⟨[⟨7, "\t", [⟨"\"", .wrapped "k"⟩], ⟨[], {}, {}, some ⟨Text.maxWord, "\""⟩⟩, []⟩], {}⟩ := by
    intro line listed
    rw [List.mem_singleton.1 listed]
    refine ⟨by decide, ?_, nofun⟩
    intro unlexed found
    rw [← Option.some.inj found]
    exact Nat.le_refl _
  have fit : ∀ violation ∈ [(⟨Text.maxWord, 0, .indentSteps 4 Text.maxWord⟩ : Violation)],
      violation.Fits := by
    intro violation listed
    rw [List.mem_singleton.1 listed]
    exact ⟨Nat.le_refl _, by decide, by decide, Nat.le_refl _⟩
  exact ⟨fits, fit, json_output_loses_nothing .upper fits fit⟩

end SqlLint
