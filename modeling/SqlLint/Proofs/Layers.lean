import SqlLint.Command.Run
import SqlLint.Proofs.SettingsRoundTrip

/-!
# Settings in layers

The settings of an invocation are those of a file under two overlays, of the environment and of the
options.  In each field the topmost layer that gives a value decides, and the extra keywords are
those of all layers, each at its first place (`Settings.layeredOf_iff`).  Overlays act on settings:
one after the other they act as their composition (`Settings.merge_merge`).  The settings of an
invocation exist exactly if every layer can be read and the result is valid
(`Command.Invocation.settings_eq_ok_iff`).
-/

set_option autoImplicit false

namespace SqlLint

/-! ## Lists of words -/

/-- Words are added behind those that are there, in order and each at its first place. -/
theorem addWords_eq (words added : List String) :
    addWords words added = words ++ (added.filter fun word => !words.contains word).eraseDups := by
  induction added generalizing words with
  | nil => exact (List.append_nil words).symm
  | cons word added ih =>
      rw [addWords, List.foldl_cons, ← addWords, addWord, List.filter_cons]
      cases known : words.contains word with
      | true =>
          rw [if_pos rfl]
          exact ih words
      | false =>
          have both : (added.filter fun other => !(words ++ [word]).contains other) =
              (added.filter fun other => !words.contains other).filter fun other =>
                !other == word := by
            rw [List.filter_filter]
            refine List.filter_congr fun other _ => ?_
            simp [List.contains_eq_mem, Bool.and_comm, beq_eq_decide]
          rw [if_neg Bool.false_ne_true, ih, both]
          simp [List.eraseDups_cons]

theorem addWords_addWords (words first second : List String) :
    addWords (addWords words first) second = addWords words (first ++ second) :=
  (List.foldl_append).symm

theorem addWords_of_subset {words added : List String} (known : ∀ word ∈ added, word ∈ words) :
    addWords words added = words := by
  have nothing : (added.filter fun word => !words.contains word) = [] := by
    rw [List.filter_eq_nil_iff]
    intro word listed
    simp [known word listed]
  rw [addWords_eq, nothing]
  exact List.append_nil words

theorem mem_addWords_of_mem {words added : List String} {word : String} (listed : word ∈ added) :
    word ∈ addWords words added := by
  rw [addWords_eq, List.mem_append]
  by_cases known : word ∈ words
  · exact Or.inl known
  · exact Or.inr (List.mem_eraseDups.2 (List.mem_filter.2 ⟨listed, by simp [known]⟩))

/-! ## Overlays -/

/-- The value of the upper layer, or else of the lower one, or else the one below both. -/
def topmost {Value : Type} (upper lower : Option Value) (base : Value) : Value :=
  match upper, lower with
  | some value, _ => value
  | none, some value => value
  | none, none => base

theorem getD_getD {Value : Type} (upper lower : Option Value) (base : Value) :
    upper.getD (lower.getD base) = topmost upper lower base := by
  cases upper <;> cases lower <;> rfl

namespace Overlay

/-- Two overlays as one, the second above the first. -/
def compose (first second : Overlay) : Overlay where
  starExpansion := second.starExpansion.or first.starExpansion
  keywordStyle := second.keywordStyle.or first.keywordStyle
  extraKeywords := first.extraKeywords ++ second.extraKeywords
  commaPosition := second.commaPosition.or first.commaPosition
  lintKeywordStyle := second.lintKeywordStyle.or first.lintKeywordStyle
  indentSteps := second.indentSteps.or first.indentSteps
  logLevel := second.logLevel.or first.logLevel

end Overlay

namespace Settings

/-- The settings have in each field the value of the topmost layer that gives one, and the extra
keywords of all layers, each at its first place. -/
structure LayeredOf (file : Settings) (lower upper : Overlay) (settings : Settings) : Prop where
  starExpansion : settings.lexer.starExpansion =
    topmost upper.starExpansion lower.starExpansion file.lexer.starExpansion
  extraKeywords : settings.lexer.extraKeywords =
    file.lexer.extraKeywords ++
      ((lower.extraKeywords ++ upper.extraKeywords).filter fun word =>
        !file.lexer.extraKeywords.contains word).eraseDups
  keywordStyle : settings.lexer.keywordStyle =
    topmost upper.keywordStyle lower.keywordStyle file.lexer.keywordStyle
  commaPosition : settings.lint.commaPosition =
    topmost upper.commaPosition lower.commaPosition file.lint.commaPosition
  lintKeywordStyle : settings.lint.keywordStyle =
    topmost upper.lintKeywordStyle lower.lintKeywordStyle file.lint.keywordStyle
  indentSteps : settings.lint.indentSteps =
    topmost upper.indentSteps lower.indentSteps file.lint.indentSteps
  logLevel : settings.logging.level = topmost upper.logLevel lower.logLevel file.logging.level

theorem layeredOf_merge (file : Settings) (lower upper : Overlay) :
    LayeredOf file lower upper ((file.merge lower).merge upper) where
  starExpansion := getD_getD _ _ _
  extraKeywords := (addWords_addWords _ _ _).trans (addWords_eq _ _)
  keywordStyle := getD_getD _ _ _
  commaPosition := getD_getD _ _ _
  lintKeywordStyle := getD_getD _ _ _
  indentSteps := getD_getD _ _ _
  logLevel := getD_getD _ _ _

/-- The layers decide every field. -/
theorem LayeredOf.unique {file : Settings} {lower upper : Overlay} {first second : Settings}
    (layered : LayeredOf file lower upper first) (other : LayeredOf file lower upper second) :
    first = second := by
  obtain ⟨⟨_, _, _⟩, ⟨_, _, _⟩, ⟨_⟩⟩ := first
  obtain ⟨⟨_, _, _⟩, ⟨_, _, _⟩, ⟨_⟩⟩ := second
  obtain ⟨rfl, rfl, rfl, rfl, rfl, rfl, rfl⟩ := layered
  obtain ⟨rfl, rfl, rfl, rfl, rfl, rfl, rfl⟩ := other
  rfl

theorem layeredOf_iff {file : Settings} {lower upper : Overlay} {settings : Settings} :
    LayeredOf file lower upper settings ↔ settings = (file.merge lower).merge upper := by
  constructor
  · intro layered
    exact layered.unique (layeredOf_merge file lower upper)
  · rintro rfl
    exact layeredOf_merge file lower upper

theorem merge_empty (settings : Settings) : settings.merge {} = settings :=
  rfl

/-- Overlays act on settings as they compose. -/
theorem merge_merge (settings : Settings) (first second : Overlay) :
    (settings.merge first).merge second = settings.merge (first.compose second) := by
  simp [merge, Overlay.compose, addWords_addWords, Option.getD_or]

theorem compose_self (overlay : Overlay) :
    overlay.compose overlay = { overlay with
      extraKeywords := overlay.extraKeywords ++ overlay.extraKeywords } := by
  simp [Overlay.compose]

theorem merge_self (settings : Settings) (overlay : Overlay) :
    (settings.merge overlay).merge overlay = settings.merge overlay := by
  have words : addWords (addWords settings.lexer.extraKeywords overlay.extraKeywords)
      overlay.extraKeywords = addWords settings.lexer.extraKeywords overlay.extraKeywords :=
    addWords_of_subset fun _ => mem_addWords_of_mem
  rw [addWords_addWords] at words
  rw [merge_merge, compose_self, merge, words]
  rfl

end Settings

/-! ## What each layer is read from -/

theorem bind_eq_ok_iff {Step Result : Type} {first : Except Fault Step}
    {next : Step → Except Fault Result} {result : Result} :
    first >>= next = .ok result ↔ ∃ step, first = .ok step ∧ next step = .ok result := by
  cases first with
  | error fault =>
      constructor
      · intro returned
        contradiction
      · rintro ⟨_, none, _⟩
        contradiction
  | ok step =>
      constructor
      · intro returned
        exact ⟨step, rfl, returned⟩
      · rintro ⟨_, ⟨⟩, returned⟩
        exact returned

namespace Environment

/-- A variable is not set, or its text stands for a value. -/
def Gives {Value : Type} (environment : Environment) (name : String)
    (parse : String → Except Fault Value) : Option Value → Prop
  | none => environment.lookup name = none
  | some value => ∃ text, environment.lookup name = some text ∧ parse text = .ok value

theorem read_eq_ok_iff {Value : Type} {environment : Environment} {name : String}
    {parse : String → Except Fault Value} {given : Option Value} :
    environment.read name parse = .ok given ↔ environment.Gives name parse given := by
  rw [read]
  cases set : environment.lookup name with
  | none => cases given <;> simp [Gives, set]
  | some text =>
      cases parsed : parse text with
      | error fault => cases given <;> simp [Gives, set, parsed, Except.map]
      | ok value => cases given <;> simp [Gives, set, parsed, Except.map]

/-- Each variable that is set to a choice or to a number stands for one, and these are the values of
the overlay, together with the log level. -/
structure GivesOverlay (environment : Environment) (overlay : Overlay) : Prop where
  starExpansion :
    environment.Gives "BQLEX_STAR_EXPANSION" StarExpansion.parse overlay.starExpansion
  keywordStyle : environment.Gives "BQLEX_KEYWORD_STYLE" KeywordStyle.parse overlay.keywordStyle
  commaPosition : environment.Gives "BQLEX_COMMA_POSITION" CommaPosition.parse overlay.commaPosition
  indentSteps : environment.Gives "BQLEX_INDENT_STEPS" parseIndentSteps overlay.indentSteps
  logLevel : overlay.logLevel = environment.lookup "BQLEX_LOG_LEVEL"
  extraKeywords : overlay.extraKeywords = []
  lintKeywordStyle : overlay.lintKeywordStyle = none

end Environment

theorem Overlay.ofEnvironment_eq_ok_iff {environment : Environment} {overlay : Overlay} :
    Overlay.ofEnvironment environment = .ok overlay ↔ environment.GivesOverlay overlay := by
  simp only [ofEnvironment, bind_eq_ok_iff, Environment.read_eq_ok_iff]
  constructor
  · rintro ⟨starExpansion, policy, keywordStyle, style, commaPosition, position, indentSteps, steps,
      ⟨⟩⟩
    exact ⟨policy, style, position, steps, rfl, rfl, rfl⟩
  · intro given
    refine ⟨_, given.starExpansion, _, given.keywordStyle, _, given.commaPosition, _,
      given.indentSteps, ?_⟩
    rw [← given.logLevel, ← given.extraKeywords, ← given.lintKeywordStyle]
    rfl

namespace Settings

/-- The text of a file can be read, and it says these settings, which are valid. -/
def InFile (directory : Directory) (path : String) (settings : Settings) : Prop :=
  ∃ text, directory.readText path = .ok text ∧ (Toml.read? text).bind ofToml? = some settings ∧
    settings.validate = .ok settings

theorem ofTomlText_eq_ok_iff {text : String} {settings : Settings} :
    ofTomlText text = .ok settings ↔
      (Toml.read? text).bind ofToml? = some settings ∧ settings.validate = .ok settings := by
  rw [ofTomlText]
  cases said : (Toml.read? text).bind ofToml? with
  | none => simp
  | some other =>
      rw [Option.some_inj]
      constructor
      · intro valid
        obtain ⟨rfl, -⟩ := validate_eq_ok.1 valid
        exact ⟨rfl, valid⟩
      · rintro ⟨rfl, valid⟩
        exact valid

theorem load_eq_ok_iff {directory : Directory} {path : String} {settings : Settings} :
    load directory path = .ok settings ↔ settings.InFile directory path := by
  simp only [load, bind_eq_ok_iff, ofTomlText_eq_ok_iff, InFile]

end Settings

namespace Command.Invocation

/-- The settings are those of the named file, or else of the default one, or else the default
ones. -/
def FileGives (invocation : Invocation) (directory : Directory) (settings : Settings) : Prop :=
  match invocation.settingsFile with
  | some path => settings.InFile directory path
  | none =>
      if directory.holds defaultSettingsFile = true then
        settings.InFile directory defaultSettingsFile
      else settings = {}

theorem fileSettings_eq_ok_iff {invocation : Invocation} {directory : Directory}
    {settings : Settings} :
    invocation.fileSettings directory = .ok settings ↔
      invocation.FileGives directory settings := by
  rw [fileSettings, FileGives]
  cases invocation.settingsFile with
  | some path => exact Settings.load_eq_ok_iff
  | none =>
      cases directory.holds defaultSettingsFile with
      | true => exact Settings.load_eq_ok_iff
      | false =>
          constructor
          · rintro ⟨⟩
            rfl
          · rintro rfl
            rfl

theorem settings_eq_ok_iff {invocation : Invocation} {surroundings : Surroundings}
    {settings : Settings} :
    invocation.settings surroundings = .ok settings ↔
      ∃ file environment, invocation.FileGives surroundings.directory file ∧
        surroundings.environment.GivesOverlay environment ∧
        settings = (file.merge environment).merge invocation.overlay ∧
        settings.validate = .ok settings := by
  simp only [Invocation.settings, bind_eq_ok_iff, fileSettings_eq_ok_iff,
    Overlay.ofEnvironment_eq_ok_iff]
  constructor
  · rintro ⟨file, ofFile, environment, ofEnvironment, valid⟩
    obtain ⟨rfl, -⟩ := Settings.validate_eq_ok.1 valid
    exact ⟨file, environment, ofFile, ofEnvironment, rfl, valid⟩
  · rintro ⟨file, environment, ofFile, ofEnvironment, rfl, valid⟩
    exact ⟨file, ofFile, environment, ofEnvironment, valid⟩

end Command.Invocation

/-! ## The keyword style of a command -/

namespace Settings

def withKeywordStyle (settings : Settings) (style : KeywordStyle) : Settings :=
  { settings with lexer := { settings.lexer with keywordStyle := style } }

def withLintKeywordStyle (settings : Settings) (style : KeywordStyle) : Settings :=
  { settings with lint := { settings.lint with keywordStyle := style } }

/-- A change that no fault depends on can be made before the validation or after it. -/
theorem validate_map {adjust : Settings → Settings}
    (harmless : ∀ settings, (adjust settings).fault? = settings.fault?) (settings : Settings) :
    (adjust settings).validate = settings.validate.map adjust := by
  rw [validate, validate, harmless]
  cases settings.fault? <;> rfl

end Settings

namespace Command.Invocation

/-- Two invocations that read the same file, and whose options give the same settings up to a
change that no fault depends on, have the same settings up to that change. -/
theorem settings_eq_map {first second : Invocation} (adjust : Settings → Settings)
    (sameFile : first.settingsFile = second.settingsFile)
    (harmless : ∀ settings, (adjust settings).fault? = settings.fault?)
    (adjusted : ∀ settings : Settings,
      settings.merge first.overlay = adjust (settings.merge second.overlay))
    (surroundings : Surroundings) :
    first.settings surroundings = (second.settings surroundings).map adjust := by
  have sameSettings : first.fileSettings surroundings.directory =
      second.fileSettings surroundings.directory := by
    rw [fileSettings, fileSettings, sameFile]
  rw [Invocation.settings, Invocation.settings, sameSettings]
  cases second.fileSettings surroundings.directory with
  | error fault => rfl
  | ok file =>
      cases Overlay.ofEnvironment surroundings.environment with
      | error fault => rfl
      | ok environment =>
          change Settings.validate _ = (Settings.validate _).map adjust
          rw [adjusted, Settings.validate_map harmless]

end Command.Invocation

open Command in
/-- The settings of an invocation are resolved field by field: the topmost layer that gives a value
decides, and the extra keywords of all layers are joined. An overlay that is merged twice counts
once, an empty one does not count, and overlays act on settings as they compose. An invocation has
settings exactly if its file, if there is one, can be read, says settings and these are valid, if
every variable that is set to a choice or to a number stands for one, and if the merged settings are
valid. A keyword style among the options is the style of the keywords that are shown, or of the
style check where that is what is asked for. -/
theorem settings_are_resolved_by_layers :
    (∀ (file : Settings) (lower upper : Overlay) (settings : Settings),
      Settings.LayeredOf file lower upper settings ↔ settings = (file.merge lower).merge upper) ∧
    (∀ (settings : Settings) (overlay : Overlay),
      (settings.merge overlay).merge overlay = settings.merge overlay) ∧
    (∀ settings : Settings, settings.merge {} = settings) ∧
    (∀ (settings : Settings) (first second : Overlay),
      (settings.merge first).merge second = settings.merge (first.compose second)) ∧
    (∀ (invocation : Invocation) (surroundings : Surroundings) (settings : Settings),
      invocation.settings surroundings = .ok settings ↔
        ∃ file environment, invocation.FileGives surroundings.directory file ∧
          surroundings.environment.GivesOverlay environment ∧
          settings = (file.merge environment).merge invocation.overlay ∧
          settings.validate = .ok settings) ∧
    (∀ (file logLevel : Option String) (source : SourceKind) (options : LexOptions)
        (style : KeywordStyle) (surroundings : Surroundings),
      Invocation.settings
          ⟨file, logLevel, .lex source { options with keywordStyle := some style }⟩ surroundings =
        (Invocation.settings
          ⟨file, logLevel, .lex source { options with keywordStyle := none }⟩ surroundings).map
          (·.withKeywordStyle style)) ∧
    (∀ (file logLevel : Option String) (options : CheckOptions) (style : KeywordStyle)
        (surroundings : Surroundings),
      Invocation.settings
          ⟨file, logLevel, .check { options with keywordStyle := some style }⟩ surroundings =
        (Invocation.settings
          ⟨file, logLevel, .check { options with keywordStyle := none }⟩ surroundings).map
          (·.withLintKeywordStyle style)) := by
  refine ⟨?fields, Settings.merge_self, Settings.merge_empty, Settings.merge_merge, ?loaded,
    ?shown, ?checked⟩
  case fields =>
    intro file lower upper settings
    exact Settings.layeredOf_iff
  case loaded =>
    intro invocation surroundings settings
    exact Invocation.settings_eq_ok_iff
  case shown =>
    intro file logLevel source options style surroundings
    apply Invocation.settings_eq_map (·.withKeywordStyle style)
    · rfl
    · exact fun _ => rfl
    · exact fun _ => rfl
  case checked =>
    intro file logLevel options style surroundings
    apply Invocation.settings_eq_map (·.withLintKeywordStyle style)
    · rfl
    · exact fun _ => rfl
    · exact fun _ => rfl

end SqlLint
