import SqlLint.Document.Report
import SqlLint.Json.Record

/-!
# Reports in JSON

Every part of a report is written as a record and can be read back. The order of the keys is the
order in which they are written.
-/

set_option autoImplicit false

namespace SqlLint

open Json.Field

def TokenCategory.ofJson? : Json → Option TokenCategory :=
  Json.choice? TokenCategory.all TokenCategory.name

namespace Token

def toJson (token : Token) : Json :=
  .object [("category", .string token.category.name), ("text", .string token.text)]

/-- Reads a token, whose text may be empty. -/
def ofJson? (json : Json) : Option Token :=
  match json.fields? [required "category", required "text"] with
  | some [category, text] => do
      return ⟨← TokenCategory.ofJson? category, ← text.text?⟩
  | _ => none

end Token

namespace LexState

def toJson (state : LexState) : Json :=
  .object [("in_comment", .bool state.inComment), ("in_select_list", .bool state.inSelectList)]

def ofJson? (json : Json) : Option LexState :=
  match json.fields? [required "in_comment", required "in_select_list"] with
  | some [inComment, inSelectList] => do
      return ⟨← inComment.bool?, ← inSelectList.bool?⟩
  | _ => none

end LexState

namespace Unlexed

def toJson (unlexed : Unlexed) : Json :=
  .object [("offset", .natural unlexed.offset), ("text", .string unlexed.text)]

def ofJson? (json : Json) : Option Unlexed :=
  match json.fields? [required "offset", required "text"] with
  | some [offset, text] => do
      return ⟨← offset.word?, ← text.text?⟩
  | _ => none

end Unlexed

namespace LexedLine

def toJson (line : LexedLine) : Json :=
  .object
    [("tokens", Json.ofList Token.toJson line.tokens),
      ("entry_state", line.entryState.toJson),
      ("exit_state", line.exitState.toJson),
      ("unlexed", Json.ofOptional Unlexed.toJson line.unlexed)]

def ofJson? (json : Json) : Option LexedLine :=
  match json.fields? [required "tokens", required "entry_state", required "exit_state",
      optional "unlexed"] with
  | some [tokens, entryState, exitState, unlexed] => do
      return ⟨← tokens.list? Token.ofJson?, ← LexState.ofJson? entryState,
        ← LexState.ofJson? exitState, ← unlexed.optional? Unlexed.ofJson?⟩
  | _ => none

end LexedLine

namespace Markup

namespace RawKind

def toJson : RawKind → Json
  | newline => .string "Newline"
  | inequality => .string "Inequality"
  | wrapped className => Json.tagged "Wrapped" [("class", .string className)]
  | unknown => .string "Unknown"

def ofJson? (json : Json) : Option RawKind :=
  match json.alternative? with
  | some ("Wrapped", some carried) =>
      match carried.fields? [required "class"] with
      | some [className] => className.text?.map wrapped
      | _ => none
  | some (name, carried) =>
      if Json.carriesNothing carried then
        [("Newline", newline), ("Inequality", inequality), ("Unknown", unknown)].lookup name
      else none
  | none => none

end RawKind

namespace RawToken

def toJson (token : RawToken) : Json :=
  .object [("text", .string token.text), ("kind", token.kind.toJson)]

def ofJson? (json : Json) : Option RawToken :=
  match json.fields? [required "text", required "kind"] with
  | some [text, kind] => do
      return ⟨← text.text?, ← RawKind.ofJson? kind⟩
  | _ => none

end RawToken

def HaltKind.name : HaltKind → String
  | bareWrapper => "BareWrapper"
  | unmatched => "Unmatched"

namespace Halt

/-- A halt as a choice that carries its place. -/
def toJson (halt : Halt) : Json :=
  Json.tagged halt.kind.name
    [("offset", .natural halt.offset), ("remainder", .string halt.remainder)]

def ofJson? (json : Json) : Option Halt :=
  match json.alternative? with
  | some (name, some carried) =>
      match [HaltKind.bareWrapper, .unmatched].find? (·.name == name),
          carried.fields? [required "offset", required "remainder"] with
      | some kind, some [offset, remainder] => do
          return ⟨kind, ← offset.word?, ← remainder.text?⟩
      | _, _ => none
  | _ => none

end Halt

namespace ExtractedLine

def toJson (line : ExtractedLine) : Json :=
  .object
    [("text", .string line.text),
      ("raw_tokens", Json.ofList RawToken.toJson line.rawTokens),
      ("halt", Json.ofOptional Halt.toJson line.halt)]

def ofJson? (json : Json) : Option ExtractedLine :=
  match json.fields? [required "text", required "raw_tokens", optional "halt"] with
  | some [text, rawTokens, halt] => do
      return ⟨← text.text?, ← rawTokens.list? RawToken.ofJson?, ← halt.optional? Halt.ofJson?⟩
  | _ => none

end ExtractedLine

end Markup

namespace DiagnosticKind

def all : List DiagnosticKind :=
  [bareWrapper, unmatchedMarkup, noRuleMatch]

def name : DiagnosticKind → String
  | bareWrapper => "BareWrapper"
  | unmatchedMarkup => "UnmatchedMarkup"
  | noRuleMatch => "NoRuleMatch"

def ofJson? : Json → Option DiagnosticKind :=
  Json.choice? all name

end DiagnosticKind

namespace Diagnostic

def toJson (diagnostic : Diagnostic) : Json :=
  .object
    [("line", .natural diagnostic.line), ("kind", .string diagnostic.kind.name),
      ("offset", .natural diagnostic.offset), ("text", .string diagnostic.text)]

def ofJson? (json : Json) : Option Diagnostic :=
  match json.fields? [required "line", required "kind", required "offset", required "text"] with
  | some [line, kind, offset, text] => do
      return ⟨← line.word?, ← DiagnosticKind.ofJson? kind, ← offset.word?, ← text.text?⟩
  | _ => none

end Diagnostic

namespace LineReport

def toJson (line : LineReport) : Json :=
  .object
    [("index", .natural line.index),
      ("literal", .string line.literal),
      ("raw_tokens", Json.ofList Markup.RawToken.toJson line.rawTokens),
      ("lexed", line.lexed.toJson),
      ("diagnostics", Json.ofList Diagnostic.toJson line.diagnostics)]

def ofJson? (json : Json) : Option LineReport :=
  match json.fields? [required "index", required "literal", required "raw_tokens",
      required "lexed", required "diagnostics"] with
  | some [index, literal, rawTokens, lexed, diagnostics] => do
      return ⟨← index.word?, ← literal.text?, ← rawTokens.list? Markup.RawToken.ofJson?,
        ← LexedLine.ofJson? lexed, ← diagnostics.list? Diagnostic.ofJson?⟩
  | _ => none

end LineReport

namespace DocumentReport

def toJson (report : DocumentReport) : Json :=
  .object
    [("lines", Json.ofList LineReport.toJson report.lines),
      ("final_state", report.finalState.toJson)]

def ofJson? (json : Json) : Option DocumentReport :=
  match json.fields? [required "lines", required "final_state"] with
  | some [lines, finalState] => do
      return ⟨← lines.list? LineReport.ofJson?, ← LexState.ofJson? finalState⟩
  | _ => none

end DocumentReport

end SqlLint
