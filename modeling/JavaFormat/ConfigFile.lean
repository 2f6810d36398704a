import JavaFormat.Decimal.Shortest
import JavaFormat.Settings
import JavaFormat.Text.Quoted
import JavaFormat.Toml.Document
import JavaFormat.Toml.Excerpt

/-!
# Config files

A config file is a TOML document with three optional texts and a list of texts.  `Config.ofText`
refuses other keys and values of other kinds, the first of them in the order of the document.
-/

set_option autoImplicit false

namespace JavaFormat

/-- What is wrong with a config file. -/
inductive ConfigProblem where
  /-- It is no TOML document. -/
  | malformed
  /-- A stretch of its text has a key or a value that is not expected, as the message says. -/
  | unexpected (text : List Char) (span : Toml.Span) (message : String)

/-- The problem, in words. -/
def ConfigProblem.message : ConfigProblem → String
  | malformed => "TOML parse error"
  | unexpected text span message => Toml.excerpt text span message

namespace Config

open Toml

/-- The keys of a config file. -/
def keys : List String := ["indentation", "baseline", "encoding", "exclude"]

/-- What kind of value stands somewhere, in words. -/
def kindOf : Node → String
  | .string _ text => "string " ++ Text.quoted text
  | .number _ (.integer n) => "integer `" ++ toString n ++ "`"
  | .number _ (.float x) => "floating point `" ++ Decimal.render x ++ "`"
  | .number _ .date => "map"
  | .boolean _ value => "boolean `" ++ toString value ++ "`"
  | .array _ _ => "sequence"
  | .tables _ _ => "sequence"
  | .inlineTable _ _ => "map"
  | .table _ _ => "map"

/-- A stretch of a document, and why it is refused. -/
abbrev Refusal := Span × String

/-- The refusal of a value where another kind is expected; `around` is a stretch to point at if the
value has none. -/
def mismatch (around : Span) (node : Node) (expected : String) : Refusal :=
  (node.span?.getD around, "invalid type: " ++ kindOf node ++ ", expected " ++ expected)

/-- The text that a value is. -/
def textOf (around : Span) : Node → Except Refusal String
  | .string _ text => .ok text
  | node => .error (mismatch around node "a string")

/-- The texts that a value lists. -/
def textsOf (around : Span) : Node → Except Refusal (List String)
  | .array span elements => elements.mapM (textOf span)
  | .tables span elements => elements.mapM (textOf (span.getD around))
  | node => .error (mismatch around node "a sequence")

/-- The config file with one more entry. -/
def withEntry (config : Config) (entry : Key × Node) : Except Refusal Config :=
  let (key, node) := entry
  match key.name with
  | "indentation" => do return { config with indentation := some (← textOf key.span node) }
  | "baseline" => do return { config with baseline := some (← textOf key.span node) }
  | "encoding" => do return { config with encoding := some (← textOf key.span node) }
  | "exclude" => do return { config with exclude := ← textsOf key.span node }
  | name =>
    .error (key.span, "unknown field `" ++ name ++ "`, expected one of " ++
      ", ".intercalate (keys.map fun known => "`" ++ known ++ "`"))

/-- The config file that a text spells. -/
def ofText (text : String) : Except ConfigProblem Config :=
  match document? text.toList with
  | none => .error .malformed
  | some entries =>
    match entries.foldlM withEntry Config.empty with
    | .ok config => .ok config
    | .error (span, message) => .error (.unexpected text.toList span message)

end Config

end JavaFormat
