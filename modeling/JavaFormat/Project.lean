import JavaFormat.CommandLine.Parameter
import JavaFormat.Edit
import JavaFormat.Sources

/-!
# Projects

A project directory may hold a config file and has its sources in the usual places, unless the
command line names others.  A `Plan` is what a command line and a config file together ask for:
which files are sources, how they are encoded and in which style they are formatted.
-/

set_option autoImplicit false

namespace JavaFormat

namespace Project

/-- The name of the config file in a project directory. -/
def configName : String := "javafmt.toml"

/-- The directories below a project directory in which sources usually lie. -/
def usualSources : List Path := ["src/main/java", "src/test/java"]

/-- What the config file at a path says. -/
def readConfig (disk : Disk) (path : Path) : Except Error Config := do
  let text ← (disk.readText path).mapError (Error.unreadable path)
  (Config.ofText text).mapError (Error.config path)

/-- What the config file that is named says, or else the one in the project directory, if there is
one. -/
def findConfig (disk : Disk) (directory : Path) (named : Option Path) : Except Error Config :=
  match named with
  | some path => readConfig disk path
  | none =>
    let path := directory.join configName
    if disk.isFile path then readConfig disk path else .ok Config.empty

/-- The source directories that are given, or else the usual ones, of which there has to be one. -/
def findSources (disk : Disk) (directory : Path) (given : List Path) : Except Error (List Path) :=
  if given.isEmpty then
    let found := (usualSources.map directory.join).filter disk.isDir
    if found.isEmpty then .error (.argument (.noSources usualSources)) else .ok found
  else .ok given

/-- The pattern that a text spells. -/
def readPattern (text : String) : Except Error Glob.Pattern :=
  (Glob.Pattern.ofText text).mapError fun problem => .argument (.pattern text problem)

/-- The sources below some roots, in the order of a walk over each of them. -/
def sources (disk : Disk) (excludes : List Glob.Pattern) (roots : List Path) :
    Except Error (List Path) :=
  (Sources.collect disk.walk excludes roots).mapError Error.walk

end Project

/-- What a task is to work on. -/
structure Plan where
  /-- The settings in force. -/
  settings : Settings
  /-- The encoding of the sources. -/
  charset : Charset
  /-- The source directories. -/
  roots : List Path
  /-- The sources. -/
  files : List Path

namespace Plan

/-- The plan that the arguments of a task ask for. -/
def ofArgs (disk : Disk) (args : CommandLine.TaskArgs) : Except Error Plan := do
  let config ← Project.findConfig disk args.projectDir args.config
  let settings ← (config.merge args.choices).mapError Error.setting
  let charset ← (Charset.ofLabel settings.encoding).mapError (Error.charset settings.encoding)
  let roots ← Project.findSources disk args.projectDir args.sources
  let excludes ← (config.exclude ++ args.exclude).mapM Project.readPattern
  let files ← Project.sources disk excludes roots
  return ⟨settings, charset, roots, files⟩

/-- The edits that change something in the sources. -/
def edits (disk : Disk) (plan : Plan) : Except Error (List Edit) :=
  Edit.pending disk plan.settings.style plan.charset plan.files

end Plan

end JavaFormat
