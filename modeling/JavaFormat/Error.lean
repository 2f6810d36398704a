import JavaFormat.Charset.Basic
import JavaFormat.ConfigFile
import JavaFormat.Disk.Walk
import JavaFormat.Glob
import JavaFormat.Settings

/-!
# What may go wrong

An `Error` says why a task failed.  `Error.message` puts it into words and `Error.causes` gives the
failures behind it, the nearest first.
-/

set_option autoImplicit false

namespace JavaFormat

/-- Why an argument cannot be used. -/
inductive ArgumentProblem where
  /-- A pattern is malformed. -/
  | pattern (text : String) (problem : Glob.Problem)
  /-- There is no source directory among the usual ones. -/
  | noSources (usual : List Path)

/-- Why a task failed. -/
inductive Error where
  /-- A file cannot be read. -/
  | unreadable (path : Path) (cause : IoError)
  /-- A file cannot be written. -/
  | unwritable (path : Path) (cause : IoError)
  /-- The files below a directory cannot be listed. -/
  | walk (cause : WalkError)
  /-- The bytes of a file are malformed. -/
  | undecodable (path : Path) (charset : Charset)
  /-- A character cannot be written. -/
  | unencodable (path : Path) (charset : Charset)
  /-- A label names no charset. -/
  | charset (label : String) (problem : Charset.LabelProblem)
  /-- A setting has no meaning. -/
  | setting (problem : SettingProblem)
  /-- A config file is malformed. -/
  | config (path : Path) (problem : ConfigProblem)
  /-- Sources are not formatted, as a report tells. -/
  | violation (report : Path)
  /-- An argument cannot be used. -/
  | argument (problem : ArgumentProblem)

namespace ArgumentProblem

/-- The problem, in words. -/
def message : ArgumentProblem → String
  | pattern text problem => "Invalid exclude pattern '" ++ text ++ "': " ++ problem.message
  | noSources usual =>
    "No source directories given and none of " ++ ", ".intercalate usual ++ " exist"

end ArgumentProblem

namespace Error

/-- The error, in words. -/
def message : Error → String
  | unreadable path _ => "Failed to read file: " ++ path
  | unwritable path _ => "Failed to write file: " ++ path
  | walk (.notDirectory path) => "Directory not found: " ++ path
  | walk (.unreadable path _ _) => "Failed to walk source directory: " ++ path
  | undecodable path cs => "Failed to decode " ++ path ++ " as " ++ cs.name
  | unencodable path cs =>
    "Cannot encode formatted content of " ++ path ++ " as " ++ cs.name
  | charset label .unknown => "Unsupported encoding: " ++ label
  | charset label .unwritable => "Unsupported encoding: " ++ label ++ " (cannot be written back)"
  | setting problem => "Invalid configuration: " ++ problem.message
  | config path problem =>
    "Failed to parse config file: " ++ path ++ "\nReason: " ++ problem.message
  | violation report => "Java code is not formatted correctly. See report at " ++ report
  | argument problem => "Invalid argument: " ++ problem.message

/-- The failures behind an error, in words. -/
def causes : Error → List String
  | unreadable _ cause => [cause.message]
  | unwritable _ cause => [cause.message]
  | walk (.unreadable _ directory cause) =>
    ["IO error for operation on " ++ directory ++ ": " ++ cause.message, cause.message]
  | _ => []

/-- The error and the failures behind it, one to a line. -/
def account (error : Error) : String :=
  error.message ++ String.join (error.causes.map ("\n  caused by: " ++ ·))

end Error

end JavaFormat
