import JavaFormat.Source.Layout
import JavaFormat.Text.Blank

/-!
# Settings

A run is governed by the indentation, the language baseline and the encoding of the sources.  Each
is taken from the command line (`Choices`), else from the config file (`Config`), else it has a
default.  The values of the config file are free text, which `Config.merge` checks, but only where
the command line does not overrule them.
-/

set_option autoImplicit false

namespace JavaFormat

/-- What a setting may lack. -/
inductive SettingProblem where
  /-- No indentation has this name. -/
  | unknownIndentation (name : String)
  /-- No baseline has this name. -/
  | unknownBaseline (name : String)
  /-- The encoding is blank. -/
  | blankEncoding
  deriving DecidableEq, Repr

/-- What is wrong with a setting, in words. -/
def SettingProblem.message : SettingProblem → String
  | unknownIndentation name =>
    "unknown indentation '" ++ name ++ "', expected 'tabs' or 'spaces'"
  | unknownBaseline name => "unknown baseline '" ++ name ++ "', expected 'j8' or 'j17'"
  | blankEncoding => "encoding must not be empty"

/-- The name of a value, without the white space around it and in lower case. -/
def valueName (text : String) : String :=
  String.ofList (Text.lowerAscii (Text.trim Text.isWhiteSpace text.toList))

namespace Indentation

/-- The name of an indentation. -/
def name : Indentation → String
  | tabs => "tabs"
  | spaces => "spaces"

/-- The indentation that a text names. -/
def ofText (text : String) : Except SettingProblem Indentation :=
  let name := valueName text
  if name = "tabs" ∨ name = "tab" then .ok .tabs
  else if name = "spaces" ∨ name = "space" then .ok .spaces
  else .error (.unknownIndentation name)

end Indentation

namespace Baseline

/-- The name of a baseline. -/
def name : Baseline → String
  | j8 => "j8"
  | j17 => "j17"

/-- The baseline that a text names. -/
def ofText (text : String) : Except SettingProblem Baseline :=
  let name := valueName text
  if name = "j8" ∨ name = "8" then .ok .j8
  else if name = "j17" ∨ name = "17" then .ok .j17
  else .error (.unknownBaseline name)

end Baseline

/-- The settings of a run. -/
structure Settings where
  /-- What lines are indented with. -/
  indentation : Indentation
  /-- The language version of the sources. -/
  baseline : Baseline
  /-- The label of the encoding of the sources. -/
  encoding : String
  deriving DecidableEq, Repr

/-- Settings that may be left open. -/
structure Choices where
  /-- What lines are indented with. -/
  indentation : Option Indentation
  /-- The language version of the sources. -/
  baseline : Option Baseline
  /-- The label of the encoding of the sources. -/
  encoding : Option String
  deriving DecidableEq, Repr

/-- The settings that some choices amount to; what they leave open is spaces, Java 8 and UTF-8. -/
def Choices.settings (choices : Choices) : Settings where
  indentation := choices.indentation.getD .spaces
  baseline := choices.baseline.getD .j8
  encoding := choices.encoding.getD "UTF-8"

/-- The style that settings ask for, with tab stops every four columns. -/
def Settings.style (settings : Settings) : Style where
  baseline := settings.baseline
  indentation := settings.indentation
  tabWidth := 4

/-- What a config file says. -/
structure Config where
  /-- The name of the indentation. -/
  indentation : Option String
  /-- The name of the baseline. -/
  baseline : Option String
  /-- The label of the encoding. -/
  encoding : Option String
  /-- Patterns of files to leave out. -/
  exclude : List String
  deriving DecidableEq, Repr

namespace Config

/-- The config file that says nothing. -/
def empty : Config := ⟨none, none, none, []⟩

/-- A value that is given, else one that is read from a text, if there is one. -/
def choose {α : Type} (read : String → Except SettingProblem α) (given : Option α)
    (text : Option String) : Except SettingProblem (Option α) :=
  match given, text with
  | some value, _ => .ok (some value)
  | none, some text => (read text).map some
  | none, none => .ok none

/-- The settings of a config file and the choices of a command line, which go first. -/
def merge (config : Config) (given : Choices) : Except SettingProblem Settings := do
  let indentation ← choose Indentation.ofText given.indentation config.indentation
  let baseline ← choose Baseline.ofText given.baseline config.baseline
  let encoding := given.encoding.or config.encoding
  if encoding.any fun label => Text.trim Text.isWhiteSpace label.toList = [] then
    throw .blankEncoding
  return Choices.settings ⟨indentation, baseline, encoding⟩

end Config

end JavaFormat
