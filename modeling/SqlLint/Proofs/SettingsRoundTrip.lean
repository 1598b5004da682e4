import SqlLint.Proofs.KeywordFormat
import SqlLint.Proofs.TomlLines
import SqlLint.Settings.Toml

/-!
# Settings files are read back

Valid settings have plain values, so that the tables of their file are read back.  Whatever tables
and keys are left out of the file, and whatever empty lines that leaves, reading gives the settings
that were kept and the defaults of the others (`kept_settings_are_read_back`).
-/

set_option autoImplicit false

namespace SqlLint

/-! ## Valid settings are plain -/

theorem Toml.isPlain_of_isWordChar {c : Char} (word : Text.isWordChar c = true) :
    Toml.isPlain c = true := by
  have quote : c ≠ '"' := Text.ne_of_class word (by decide)
  have backslash : c ≠ '\\' := Text.ne_of_class word (by decide)
  rw [Text.isWordChar_iff] at word
  exact Toml.isPlain_iff.2 ⟨by omega, by omega, quote, backslash⟩

theorem extraKeywordFault?_eq_none_iff {word : String} :
    extraKeywordFault? word = none ↔
      word.isEmpty = false ∧ word.toList.all Text.isWordChar = true := by
  unfold extraKeywordFault?
  split
  · next empty => simp [empty]
  · next nonempty =>
      split
      · next all => simp [nonempty, all]
      · next broken => simp [broken]

theorem Settings.fault?_eq_none_iff {settings : Settings} :
    settings.fault? = none ↔
      (∀ word ∈ settings.lexer.extraKeywords, extraKeywordFault? word = none) ∧
      settings.lint.indentSteps ≠ 0 ∧
      logLevels.contains (Text.lower settings.logging.level) = true := by
  rw [← List.findSome?_eq_none_iff]
  unfold Settings.fault?
  split
  · next fault found => simp [found]
  · next faultless =>
      by_cases zero : settings.lint.indentSteps = 0
      · simp [zero]
      · cases known : logLevels.contains (Text.lower settings.logging.level) with
        | true => simp [faultless, zero]
        | false => simp [zero]

/-- Accepted settings are the given ones. -/
theorem Settings.validate_eq_ok {settings accepted : Settings} :
    settings.validate = .ok accepted ↔ settings = accepted ∧ settings.fault? = none := by
  rw [validate]
  split
  · next fault found => simp [found]
  · next faultless => simp [faultless]

theorem Settings.validate_eq_ok_iff {settings : Settings} :
    settings.validate = .ok settings ↔ settings.fault? = none :=
  validate_eq_ok.trans (and_iff_right rfl)

namespace Text

/-- Lower case keeps the letters of ASCII, up to their case, and everything else of ASCII. -/
theorem toLower_mem_lowerAfter {c : Char} (ascii : isAscii c = true) {text : List Char}
    (listed : c ∈ text) (before : List Char) : c.toLower ∈ lowerAfter before text := by
  induction text generalizing before with
  | nil => contradiction
  | cons first rest ih =>
      rw [lowerAfter]
      rcases List.mem_cons.1 listed with rfl | later
      · have noSigma : (c == 'Σ') = false :=
          beq_eq_false_iff_ne.2 (ne_of_class ascii (by decide))
        apply List.mem_append_left
        rw [noSigma, if_neg Bool.false_ne_true, lowerForm_of_isAscii ascii]
        exact List.mem_singleton_self _
      · exact List.mem_append_right _ (ih later _)

end Text

namespace Toml

theorem isPlain_toLower (c : Char) : isPlain c.toLower = isPlain c := by
  cases letter : c.isAlpha with
  | false =>
      have noUpper : ¬ c.isUpper = true := by
        intro upper
        rw [Char.isAlpha, upper] at letter
        contradiction
      rw [Char.toLower_eq_of_not_isUpper noUpper]
  | true =>
      have lowered : c.toLower.isAlpha = true := by
        rw [Char.isAlpha_toLower_eq_isAlpha, letter]
      rw [isPlain_of_isWordChar (Text.isWordChar_of_isAlpha lowered),
        isPlain_of_isWordChar (Text.isWordChar_of_isAlpha letter)]

theorem isPlain_of_not_isAscii {c : Char} (other : Text.isAscii c = false) :
    isPlain c = true := by
  have quote : c ≠ '"' := by
    rintro rfl
    contradiction
  have backslash : c ≠ '\\' := by
    rintro rfl
    contradiction
  rw [Text.isAscii, decide_eq_false_iff_not] at other
  exact isPlain_iff.2 ⟨by omega, by omega, quote, backslash⟩

end Toml

theorem plainText_of_level {level : String}
    (known : logLevels.contains (Text.lower level) = true) : Toml.PlainText level := by
  have letters : ∀ name ∈ logLevels, Toml.PlainText name := by decide +kernel
  have lowered := letters _ (List.contains_iff_mem.1 known)
  -- Lower case can only make letters of ASCII out of letters that need no escape either.
  constructor
  · intro empty
    apply lowered.nonempty
    rw [Text.lower, empty]
    rfl
  · intro c listed
    cases ascii : Text.isAscii c with
    | false => exact Toml.isPlain_of_not_isAscii ascii
    | true =>
        rw [← Toml.isPlain_toLower]
        apply lowered.plain
        rw [Text.lower, String.toList_ofList]
        exact Text.toLower_mem_lowerAfter ascii listed []

theorem plainText_of_extraKeyword {word : String} (faultless : extraKeywordFault? word = none) :
    Toml.PlainText word := by
  obtain ⟨nonempty, letters⟩ := extraKeywordFault?_eq_none_iff.1 faultless
  constructor
  · intro empty
    rw [String.toList_eq_nil_iff] at empty
    rw [empty] at nonempty
    contradiction
  · intro c listed
    exact Toml.isPlain_of_isWordChar (List.all_eq_true.1 letters c listed)

theorem StarExpansion.plainText_name (policy : StarExpansion) : Toml.PlainText policy.name := by
  cases policy <;> decide

theorem KeywordStyle.plainText_name (style : KeywordStyle) : Toml.PlainText style.name := by
  cases style <;> decide

theorem CommaPosition.plainText_name (position : CommaPosition) :
    Toml.PlainText position.name := by
  cases position <;> decide

namespace Settings

/-- The tables of a settings file and their keys. -/
def layout : List (String × List String) :=
  [("lexer", ["star_expansion", "extra_keywords", "keyword_style"]),
    ("lint", ["comma_position", "keyword_style", "indent_steps"]),
    ("logging", ["level"])]

theorem map_sections (settings : Settings) :
    settings.sections.map (fun written => (written.name, written.entries.map (·.1))) = layout :=
  rfl

theorem plain_of_mem_values {settings : Settings} (valid : settings.fault? = none)
    (fits : settings.lint.indentSteps ≤ Text.maxWord) {written : Toml.Section}
    (listed : written ∈ settings.sections) {value : Toml.Written}
    (inSection : value ∈ written.entries.map (·.2)) : value.Plain := by
  obtain ⟨words, _, known⟩ := fault?_eq_none_iff.1 valid
  simp only [sections, List.mem_cons, List.not_mem_nil, or_false] at listed
  rcases listed with rfl | rfl | rfl
  all_goals simp only [List.map_cons, List.map_nil, List.mem_cons, List.not_mem_nil, or_false]
    at inSection
  · rcases inSection with rfl | rfl | rfl
    · exact settings.lexer.starExpansion.plainText_name
    · exact fun word inList => plainText_of_extraKeyword (words word inList)
    · exact settings.lexer.keywordStyle.plainText_name
  · rcases inSection with rfl | rfl | rfl
    · exact settings.lint.commaPosition.plainText_name
    · exact settings.lint.keywordStyle.plainText_name
    · exact fits
  · rw [inSection]
    exact plainText_of_level known

theorem plain_of_mem_sections {settings : Settings} (valid : settings.fault? = none)
    (fits : settings.lint.indentSteps ≤ Text.maxWord) {written : Toml.Section}
    (listed : written ∈ settings.sections) : written.Plain := by
  have layouts : ∀ table ∈ layout, Toml.isBare table.1 = true ∧
      (∀ key ∈ table.2, Toml.isBare key = true) ∧ table.2.Nodup := by decide +kernel
  have inLayout : (written.name, written.entries.map (·.1)) ∈ layout := by
    rw [← map_sections settings]
    exact List.mem_map_of_mem listed
  obtain ⟨name, keys, distinct⟩ := layouts _ inLayout
  exact ⟨name, keys, distinct, fun _ => plain_of_mem_values valid fits listed⟩

/-! ## What is left of a settings file -/

/-- The tables of a settings file that are kept, and the keys that are kept of them. -/
structure Selection where
  table : String → Bool
  key : String → String → Bool

namespace Selection

def everything : Selection :=
  ⟨fun _ => true, fun _ _ => true⟩

/-- A key is kept, and its table is. -/
def keeps (kept : Selection) (table key : String) : Bool :=
  kept.table table && kept.key table key

/-- What is left of a section. -/
def part (kept : Selection) (written : Toml.Section) : Toml.Section :=
  ⟨written.name, written.entries.filter fun entry => kept.key written.name entry.1⟩

/-- The sections that are left of the file of some settings. -/
def sections (kept : Selection) (settings : Settings) : List Toml.Section :=
  (settings.sections.filter fun written => kept.table written.name).map kept.part

/-- The text is left of the file of some settings: the lines that were kept, with any number of
empty lines between them. -/
def Leaves (kept : Selection) (settings : Settings) (text : String) : Prop :=
  Toml.Spaced ((kept.sections settings).flatMap Toml.Section.lines) text.toList

/-- A setting if its key was kept, or else its default. -/
def pick {Setting : Type} (kept : Selection) (settings : Settings) (table key : String)
    (setting : Settings → Setting) : Setting :=
  if kept.keeps table key then setting settings else setting {}

/-- The settings that were kept, with the defaults of the others. -/
def withDefaults (kept : Selection) (settings : Settings) : Settings where
  lexer :=
    { starExpansion := kept.pick settings "lexer" "star_expansion" (·.lexer.starExpansion)
      extraKeywords := kept.pick settings "lexer" "extra_keywords" (·.lexer.extraKeywords)
      keywordStyle := kept.pick settings "lexer" "keyword_style" (·.lexer.keywordStyle) }
  lint :=
    { commaPosition := kept.pick settings "lint" "comma_position" (·.lint.commaPosition)
      keywordStyle := kept.pick settings "lint" "keyword_style" (·.lint.keywordStyle)
      indentSteps := kept.pick settings "lint" "indent_steps" (·.lint.indentSteps) }
  logging := { level := kept.pick settings "logging" "level" (·.logging.level) }

theorem leaves_print (kept : Selection) (settings : Settings) :
    kept.Leaves settings (Toml.print (kept.sections settings)) :=
  Toml.spaced_print _

/-- With everything kept the whole file is left. -/
theorem leaves_everything (settings : Settings) : everything.Leaves settings settings.toTomlText :=
  leaves_print everything settings

theorem withDefaults_everything (settings : Settings) :
    everything.withDefaults settings = settings :=
  rfl

theorem pick_cases {Setting : Type} (setting : Settings → Setting) (holds : Setting → Prop)
    {kept : Selection} {settings : Settings} {table key : String}
    (given : holds (setting settings)) (default : holds (setting {})) :
    holds (kept.pick settings table key setting) := by
  unfold pick
  split
  · exact given
  · exact default

/-- Settings that were kept are as valid as the defaults. -/
theorem fault?_withDefaults (kept : Selection) {settings : Settings}
    (valid : settings.fault? = none) : (kept.withDefaults settings).fault? = none := by
  obtain ⟨words, positive, known⟩ := fault?_eq_none_iff.1 valid
  rw [fault?_eq_none_iff]
  exact ⟨pick_cases (·.lexer.extraKeywords) (∀ word ∈ ·, extraKeywordFault? word = none) words
      fun _ listed => absurd listed List.not_mem_nil,
    pick_cases (·.lint.indentSteps) (· ≠ 0) positive (by decide),
    pick_cases (·.logging.level) (fun level => logLevels.contains (Text.lower level) = true) known
      (by decide +kernel)⟩

end Selection

end Settings

/-! ## Reading what is left -/

namespace Toml

theorem lookup_filter {Stored : Type} (kept : String → Bool) (key : String)
    (entries : List (String × Stored)) :
    (entries.filter fun entry => kept entry.1).lookup key =
      if kept key then entries.lookup key else none := by
  induction entries with
  | nil => simp
  | cons entry entries ih =>
      obtain ⟨found, stored⟩ := entry
      by_cases same : key = found
      · subst same
        cases here : kept key with
        | true => simp [here]
        | false => simp [here, ih]
      · have other : (key == found) = false := beq_eq_false_iff_ne.2 same
        cases here : kept found with
        | true => simp only [List.filter_cons, here, if_true, List.lookup_cons, other, ih]
        | false =>
            simp only [List.filter_cons, here, Bool.false_eq_true, if_false, List.lookup_cons,
              other, ih]

theorem lookup_entries (kept : String → Bool) (key : String) (entries : List (String × Written)) :
    ((entries.filter fun entry => kept entry.1).map fun entry =>
        (entry.1, entry.2.value)).lookup key =
      if kept key then (entries.map fun entry => (entry.1, entry.2.value)).lookup key
      else none := by
  rw [← lookup_filter, List.filter_map]
  rfl

theorem orDefault_ite {Setting : Type} {read : Value → Option Setting} {value : Value}
    {setting : Setting} (readBack : read value = some setting) (kept : Bool) (default : Setting) :
    orDefault read default (if kept then some value else none) =
      some (if kept then setting else default) := by
  cases kept with
  | false => rfl
  | true => exact readBack

theorem Value.choice?_string {Choice : Type} {all : List Choice} {name : Choice → String}
    {choice : Choice} (found : all.find? (name · == name choice) = some choice) :
    Value.choice? all name (.string (name choice)) = some choice :=
  found

theorem Value.texts?_array (contents : List String) :
    Value.texts? (.array false (contents.map .string)) = some contents := by
  rw [texts?]
  induction contents with
  | nil => rfl
  | cons content contents ih =>
      rw [List.map_cons, List.mapM_cons, ih]
      rfl

theorem Value.word?_integer {n : Nat} (fits : n ≤ Text.maxWord) :
    Value.word? (.integer n) = some n := by
  rw [word?, if_pos ⟨Int.natCast_nonneg n, Int.ofNat_le.2 fits⟩, Int.toNat_natCast]

end Toml

open Toml (Value orDefault_ite)

theorem StarExpansion.choice?_name (policy : StarExpansion) :
    Value.choice? all name (.string policy.name) = some policy :=
  Value.choice?_string (by cases policy <;> rfl)

theorem KeywordStyle.choice?_name (style : KeywordStyle) :
    Value.choice? all name (.string style.name) = some style :=
  Value.choice?_string (by cases style <;> rfl)

theorem CommaPosition.choice?_name (position : CommaPosition) :
    Value.choice? all name (.string position.name) = some position :=
  Value.choice?_string (by cases position <;> rfl)

-- One law for each table: of the entries that are left the settings are read, of the others the
-- defaults, which are those of the table and not those of the choices it holds.

def LexerSettings.entries (settings : LexerSettings) : List (String × Toml.Written) :=
  [("star_expansion", .text settings.starExpansion.name),
    ("extra_keywords", .texts settings.extraKeywords),
    ("keyword_style", .text settings.keywordStyle.name)]

theorem LexerSettings.ofToml?_entries (kept : String → Bool) (settings : LexerSettings) :
    ofToml? (.table .header ((settings.entries.filter fun entry => kept entry.1).map
        fun entry => (entry.1, entry.2.value))) =
      some
        { starExpansion := if kept "star_expansion" then settings.starExpansion else .anywhere
          extraKeywords := if kept "extra_keywords" then settings.extraKeywords else []
          keywordStyle := if kept "keyword_style" then settings.keywordStyle else .preserve } := by
  have fields : Value.looseFields? ["star_expansion", "extra_keywords", "keyword_style"]
      (.table .header ((settings.entries.filter fun entry => kept entry.1).map
        fun entry => (entry.1, entry.2.value))) =
      some [if kept "star_expansion" then some (.string settings.starExpansion.name) else none,
        if kept "extra_keywords" then some (.array false (settings.extraKeywords.map .string))
        else none,
        if kept "keyword_style" then some (.string settings.keywordStyle.name) else none] := by
    simp only [Value.looseFields?, List.map_cons, List.map_nil, Toml.lookup_entries]
    rfl
  simp only [ofToml?, fields, orDefault_ite settings.starExpansion.choice?_name,
    orDefault_ite (Value.texts?_array _), orDefault_ite settings.keywordStyle.choice?_name]
  rfl

def LintSettings.entries (settings : LintSettings) : List (String × Toml.Written) :=
  [("comma_position", .text settings.commaPosition.name),
    ("keyword_style", .text settings.keywordStyle.name),
    ("indent_steps", .number settings.indentSteps)]

theorem LintSettings.ofToml?_entries (kept : String → Bool) {settings : LintSettings}
    (fits : settings.indentSteps ≤ Text.maxWord) :
    ofToml? (.table .header ((settings.entries.filter fun entry => kept entry.1).map
        fun entry => (entry.1, entry.2.value))) =
      some
        { commaPosition := if kept "comma_position" then settings.commaPosition else .atEnd
          keywordStyle := if kept "keyword_style" then settings.keywordStyle else .lower
          indentSteps := if kept "indent_steps" then settings.indentSteps else 4 } := by
  have fields : Value.looseFields? ["comma_position", "keyword_style", "indent_steps"]
      (.table .header ((settings.entries.filter fun entry => kept entry.1).map
        fun entry => (entry.1, entry.2.value))) =
      some [if kept "comma_position" then some (.string settings.commaPosition.name) else none,
        if kept "keyword_style" then some (.string settings.keywordStyle.name) else none,
        if kept "indent_steps" then some (.integer settings.indentSteps) else none] := by
    simp only [Value.looseFields?, List.map_cons, List.map_nil, Toml.lookup_entries]
    rfl
  simp only [ofToml?, fields, orDefault_ite settings.commaPosition.choice?_name,
    orDefault_ite settings.keywordStyle.choice?_name, orDefault_ite (Value.word?_integer fits)]
  rfl

def LogSettings.entries (settings : LogSettings) : List (String × Toml.Written) :=
  [("level", .text settings.level)]

theorem LogSettings.ofToml?_entries (kept : String → Bool) (settings : LogSettings) :
    ofToml? (.table .header ((settings.entries.filter fun entry => kept entry.1).map
        fun entry => (entry.1, entry.2.value))) =
      some { level := if kept "level" then settings.level else "warn" } := by
  have level : Value.text? (.string settings.level) = some settings.level := rfl
  have fields : Value.looseFields? ["level"]
      (.table .header ((settings.entries.filter fun entry => kept entry.1).map
        fun entry => (entry.1, entry.2.value))) =
      some [if kept "level" then some (.string settings.level) else none] := by
    simp only [Value.looseFields?, List.map_cons, List.map_nil, Toml.lookup_entries]
    rfl
  simp only [ofToml?, fields, orDefault_ite level]
  rfl

namespace Settings

theorem sections_eq (settings : Settings) :
    settings.sections = [⟨"lexer", settings.lexer.entries⟩, ⟨"lint", settings.lint.entries⟩,
      ⟨"logging", settings.logging.entries⟩] :=
  rfl

/-- The table of a section, if it is left. -/
theorem lookup_sections (kept : Selection) {settings : Settings} {written : Toml.Section}
    (listed : written ∈ settings.sections) :
    ((kept.sections settings).map Toml.Section.table).lookup written.name =
      if kept.table written.name then some (kept.part written).table.2 else none := by
  have tables : (kept.sections settings).map Toml.Section.table =
      (settings.sections.map fun written => (kept.part written).table).filter
        fun entry => kept.table entry.1 := by
    rw [Selection.sections, List.map_map, List.filter_map]
    rfl
  have found : (settings.sections.map fun written => (kept.part written).table).lookup
      written.name = some (kept.part written).table.2 := by
    simp only [sections_eq, List.mem_cons, List.not_mem_nil, or_false] at listed
    rcases listed with rfl | rfl | rfl <;> rfl
  rw [tables, Toml.lookup_filter, found]

theorem orDefault_lookup (settings : Settings) {Part : Type} {read : Value → Option Part}
    {part : Part} {kept : Selection} {written : Toml.Section}
    (listed : written ∈ settings.sections)
    (readBack : read (kept.part written).table.2 = some part) (default : Part) :
    Toml.orDefault read default
        (((kept.sections settings).map Toml.Section.table).lookup written.name) =
      some (if kept.table written.name then part else default) := by
  rw [lookup_sections kept listed, orDefault_ite readBack]

theorem ofToml?_sections (kept : Selection) {settings : Settings}
    (fits : settings.lint.indentSteps ≤ Text.maxWord) :
    ofToml? ((kept.sections settings).map Toml.Section.table) =
      some (kept.withDefaults settings) := by
  have lexer : Toml.orDefault LexerSettings.ofToml? {}
      (((kept.sections settings).map Toml.Section.table).lookup "lexer") =
        some (kept.withDefaults settings).lexer := by
    refine (orDefault_lookup settings List.mem_cons_self
      (LexerSettings.ofToml?_entries (kept.key "lexer") settings.lexer) {}).trans ?_
    cases table : kept.table "lexer" <;>
      simp [Selection.withDefaults, Selection.pick, Selection.keeps, table]
  have lint : Toml.orDefault LintSettings.ofToml? {}
      (((kept.sections settings).map Toml.Section.table).lookup "lint") =
        some (kept.withDefaults settings).lint := by
    refine (orDefault_lookup settings (List.mem_cons_of_mem _ List.mem_cons_self)
      (LintSettings.ofToml?_entries (kept.key "lint") fits) {}).trans ?_
    cases table : kept.table "lint" <;>
      simp [Selection.withDefaults, Selection.pick, Selection.keeps, table]
  have logging : Toml.orDefault LogSettings.ofToml? {}
      (((kept.sections settings).map Toml.Section.table).lookup "logging") =
        some (kept.withDefaults settings).logging := by
    refine (orDefault_lookup settings
      (List.mem_cons_of_mem _ (List.mem_cons_of_mem _ List.mem_cons_self))
      (LogSettings.ofToml?_entries (kept.key "logging") settings.logging) {}).trans ?_
    cases table : kept.table "logging" <;>
      simp [Selection.withDefaults, Selection.pick, Selection.keeps, table]
  rw [ofToml?, lexer, lint, logging]
  rfl

/-- What is left of the file of valid settings is read. -/
theorem ofTomlText_of_leaves {kept : Selection} {settings : Settings}
    (valid : settings.fault? = none) (fits : settings.lint.indentSteps ≤ Text.maxWord)
    {text : String} (remaining : kept.Leaves settings text) :
    ofTomlText text = .ok (kept.withDefaults settings) := by
  have plain : ∀ written ∈ kept.sections settings, written.Plain := by
    intro written listed
    obtain ⟨whole, inFile, rfl⟩ := List.mem_map.1 listed
    exact (plain_of_mem_sections valid fits (List.mem_filter.1 inFile).1).filter _
  have distinct : ((kept.sections settings).map (·.name)).Nodup := by
    have names : (settings.sections.map (·.name)).Nodup := by
      change ["lexer", "lint", "logging"].Nodup
      decide
    rw [Selection.sections, List.map_map]
    exact names.sublist (List.filter_sublist.map _)
  rw [ofTomlText, Toml.read?_of_spaced remaining plain distinct, Option.bind_some,
    ofToml?_sections kept fits]
  exact validate_eq_ok_iff.2 (kept.fault?_withDefaults valid)

end Settings

/-- Whatever tables and keys are left out of the file of valid settings, and whatever empty lines
that leaves, reading the file gives the settings that were kept and the defaults of the others. -/
theorem kept_settings_are_read_back {settings : Settings}
    (valid : settings.validate = .ok settings) (fits : settings.lint.indentSteps ≤ Text.maxWord)
    {kept : Settings.Selection} {text : String} (remaining : kept.Leaves settings text) :
    Settings.ofTomlText text = .ok (kept.withDefaults settings) ∧
      (kept.keeps "lint" "keyword_style" = false →
        (kept.withDefaults settings).lint.keywordStyle = .lower) ∧
      (kept.keeps "lint" "indent_steps" = false →
        (kept.withDefaults settings).lint.indentSteps = 4) ∧
      Settings.ofTomlText settings.toTomlText = .ok settings := by
  have faultless := Settings.validate_eq_ok_iff.1 valid
  refine ⟨Settings.ofTomlText_of_leaves faultless fits remaining, ?_, ?_, ?_⟩
  · intro absent
    exact if_neg (by rw [absent]; exact Bool.false_ne_true)
  · intro absent
    exact if_neg (by rw [absent]; exact Bool.false_ne_true)
  · have whole := Settings.ofTomlText_of_leaves faultless fits
      (Settings.Selection.leaves_everything settings)
    rw [Settings.Selection.withDefaults_everything] at whole
    exact whole

theorem kept_settings_are_read_back_of_keywords_and_level :
    Settings.validate ⟨⟨.selectTarget, ["go", "Top_1"], .upper⟩, ⟨.atHead, .upper, 2⟩, ⟨"TrAcE"⟩⟩ =
        .ok ⟨⟨.selectTarget, ["go", "Top_1"], .upper⟩, ⟨.atHead, .upper, 2⟩, ⟨"TrAcE"⟩⟩ ∧
      (2 ≤ Text.maxWord) ∧
      Settings.Selection.Leaves ⟨(· != "lint"), fun _ key => key == "extra_keywords" || key == "level"⟩
        ⟨⟨.selectTarget, ["go", "Top_1"], .upper⟩, ⟨.atHead, .upper, 2⟩, ⟨"TrAcE"⟩⟩
        "\n[lexer]\nextra_keywords = [\n    \"go\",\n    \"Top_1\",\n]\n\n\n[logging]\nlevel = \"TrAcE\"\n" ∧
      Settings.ofTomlText
          "\n[lexer]\nextra_keywords = [\n    \"go\",\n    \"Top_1\",\n]\n\n\n[logging]\nlevel = \"TrAcE\"\n" =
        .ok ⟨⟨.anywhere, ["go", "Top_1"], .preserve⟩, ⟨.atEnd, .lower, 4⟩, ⟨"TrAcE"⟩⟩ := by
  have valid : Settings.validate
      ⟨⟨.selectTarget, ["go", "Top_1"], .upper⟩, ⟨.atHead, .upper, 2⟩, ⟨"TrAcE"⟩⟩ =
        .ok ⟨⟨.selectTarget, ["go", "Top_1"], .upper⟩, ⟨.atHead, .upper, 2⟩, ⟨"TrAcE"⟩⟩ := by
    decide +kernel
  have remaining : Settings.Selection.Leaves ⟨(· != "lint"), fun _ key => key == "extra_keywords" || key == "level"⟩
      ⟨⟨.selectTarget, ["go", "Top_1"], .upper⟩, ⟨.atHead, .upper, 2⟩, ⟨"TrAcE"⟩⟩
      "\n[lexer]\nextra_keywords = [\n    \"go\",\n    \"Top_1\",\n]\n\n\n[logging]\nlevel = \"TrAcE\"\n" := by
    have lines := Toml.Spaced.emptyLine <|
      .line (.header "lexer") <| .line (.entry "extra_keywords" (.texts ["go", "Top_1"])) <|
      .emptyLine <| .emptyLine <|
      .line (.header "logging") <| .line (.entry "level" (.text "TrAcE")) .nil
    exact lines
  exact ⟨valid, by decide, remaining,
    (kept_settings_are_read_back valid (by decide) remaining).1⟩

end SqlLint
