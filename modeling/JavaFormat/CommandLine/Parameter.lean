import JavaFormat.Settings
import JavaFormat.Path

/-!
# Parameters of the command line

Both tasks, `check` and `format`, take source directories and the same options.  A `Parameter` knows
how it is spelled and which values it takes; `TaskArgs` holds what a command line says.
-/

set_option autoImplicit false

namespace JavaFormat.CommandLine

/-- The name of the program. -/
def program : String := "javafmt"

/-- The version of the program. -/
def version : String := "0.1.0"

/-- The variable that may name the config file. -/
def configVariable : String := "JAVAFMT_CONFIG"

/-- What the program does. -/
inductive Task where
  /-- Tells whether sources are formatted. -/
  | check
  /-- Formats sources in place. -/
  | format
  deriving DecidableEq, Repr

namespace Task

/-- The name of a task. -/
def name : Task → String
  | check => "check"
  | format => "format"

/-- What a task is for. -/
def about : Task → String
  | check => "Report Java files that are not formatted and fail if any are found"
  | format => "Rewrite Java files in place so that they are formatted"

/-- All tasks. -/
def all : List Task := [check, format]

end Task

/-- What can be said about a task on the command line. -/
inductive Parameter where
  /-- The source directories. -/
  | sources
  /-- The language version of the sources. -/
  | baseline
  /-- What lines are indented with. -/
  | indentation
  /-- The encoding of the sources. -/
  | encoding
  /-- The report. -/
  | report
  /-- A pattern of files to leave out. -/
  | exclude
  /-- The config file. -/
  | config
  /-- The project directory. -/
  | projectDir
  /-- Asks for help. -/
  | help
  /-- Asks for the version. -/
  | version
  deriving DecidableEq, Repr

namespace Parameter

/-- The parameters that take a value and are named by an option. -/
def options : List Parameter :=
  [baseline, indentation, encoding, report, exclude, config, projectDir]

/-- The options, which are named behind two dashes. -/
def named : List Parameter := options ++ [help, version]

/-- The name of an option. -/
def name : Parameter → String
  | sources => "sources"
  | baseline => "baseline"
  | indentation => "indentation"
  | encoding => "encoding"
  | report => "report"
  | exclude => "exclude"
  | config => "config"
  | projectDir => "project-dir"
  | help => "help"
  | version => "version"

/-- What stands for a value in a usage line. -/
def valueName : Parameter → String
  | sources => "SOURCES"
  | baseline => "BASELINE"
  | indentation => "INDENTATION"
  | encoding => "ENCODING"
  | report => "REPORT"
  | exclude => "EXCLUDE"
  | config => "CONFIG"
  | projectDir => "PROJECT_DIR"
  | help => ""
  | version => ""

/-- What a parameter is for. -/
def about : Parameter → String
  | sources => "Source root directories (default: src/main/java and src/test/java when present)"
  | baseline => "Java language baseline [default: j8]"
  | indentation => "Indentation style [default: spaces]"
  | encoding => "Character encoding of the source files [default: UTF-8]"
  | report => "Report file listing files with pending edits"
  | exclude => "Glob pattern (relative to a source root) of files to skip; repeatable"
  | config => "Config file (default: javafmt.toml in the project directory when present)"
  | projectDir => "Project directory used for config discovery and default source roots"
  | help => "Print help"
  | version => "Print version"

/-- The values of a parameter that takes no others, and what they mean. -/
def choices : Parameter → List (String × String)
  | baseline => [("j8", "Java 8 conventions"), ("j17", "Java 17 conventions (text blocks)")]
  | indentation => [("tabs", "Indent with tab characters"), ("spaces", "Indent with spaces")]
  | _ => []

/-- The value of a parameter that is not given. -/
def default? : Parameter → Option String
  | report => some "build/reports/javafmt/report.txt"
  | projectDir => some "."
  | _ => none

/-- Whether a parameter may be given more than once. -/
def isRepeatable : Parameter → Bool
  | sources => true
  | exclude => true
  | _ => false

/-- Whether the values of a parameter are paths, which are not empty. -/
def isPath : Parameter → Bool
  | sources => true
  | report => true
  | config => true
  | projectDir => true
  | _ => false

/-- Whether a parameter takes a value. -/
def takes (p : Parameter) (value : String) : Bool :=
  if p.choices = [] then !(p.isPath && value.isEmpty)
  else p.choices.any fun choice => choice.1 == value

/-- The option with a name. -/
def ofName? (name : String) : Option Parameter := named.find? fun p => p.name == name

end Parameter

/-- What a command line says about a task. -/
structure TaskArgs where
  /-- The source directories; none means the usual ones. -/
  sources : List Path
  /-- The settings that are given. -/
  choices : Choices
  /-- The report. -/
  report : Path
  /-- Patterns of files to leave out. -/
  exclude : List String
  /-- The config file, unless it is looked for. -/
  config : Option Path
  /-- The project directory. -/
  projectDir : Path
  deriving DecidableEq, Repr

/-- A task and what is said about it. -/
structure Invocation where
  /-- The task. -/
  task : Task
  /-- What is said about it. -/
  args : TaskArgs
  deriving DecidableEq, Repr

end JavaFormat.CommandLine
