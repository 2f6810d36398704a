import JavaFormat.Message
import JavaFormat.Project
import JavaFormat.Report

/-!
# Running a task

`check` tells whether all sources are formatted and, if not, writes a report.  `format` puts the
formatted texts in the place of the others.  Both start from the same edits, `pendingEdits`, and end
in an `Outcome`: the disk after the task, what was told on the way and how it ended.
-/

set_option autoImplicit false

namespace JavaFormat

open CommandLine

/-- How a task ends. -/
structure Outcome where
  /-- The disk after the task. -/
  disk : Disk
  /-- What was told on the way. -/
  messages : List Message
  /-- Whether the task was done, or why it failed. -/
  result : Except Error Unit

namespace Outcome

/-- The outcome after some more messages before all others. -/
def after (messages : List Message) (outcome : Outcome) : Outcome :=
  { outcome with messages := messages ++ outcome.messages }

/-- The outcome of a failure. -/
def failure (disk : Disk) (error : Error) : Outcome := ⟨disk, [], .error error⟩

/-- The outcome of a success that is told. -/
def success (disk : Disk) (text : String) : Outcome := ⟨disk, [.notice .success text], .ok ()⟩

/-- An outcome that goes on after an operation on the disk, unless that failed. -/
def andThen (done : Except Error Unit × Disk) (next : Disk → Outcome) : Outcome :=
  match done with
  | (.error e, disk) => failure disk e
  | (.ok (), disk) => next disk

end Outcome

/-- What is told about the files of a plan. -/
def Plan.summary (plan : Plan) : Message :=
  if plan.files.isEmpty then
    .notice .warning ("No Java files found under " ++
      ", ".intercalate (plan.roots.map fun root => "'" ++ root ++ "'"))
  else
    .notice .info ("Found " ++ toString plan.files.length ++ " Java file(s) (indentation: " ++
      plan.settings.indentation.name ++ ", baseline: " ++ plan.settings.baseline.name ++
      ", encoding: " ++ plan.charset.name ++ ")")

/-- The edits that a task is about, after what is told about its files. -/
def pendingEdits (disk : Disk) (args : TaskArgs) : List Message × Except Error (List Edit) :=
  match Plan.ofArgs disk args with
  | .error e => ([], .error e)
  | .ok plan => ([plan.summary], plan.edits disk)

/-- How many lines a text has. -/
def lineCount (text : String) : Nat := (Text.lines text.toList).length

/-- The table of some edits, with the numbers of lines before and after. -/
def editTable (edits : List Edit) : Message :=
  .table <| ["File", "Lines", "Lines (formatted)"] :: edits.map fun edit =>
    [edit.path, toString (lineCount edit.current), toString (lineCount edit.formatted)]

/-- What `check` does about the edits that it finds. -/
def checkEdits (report : Path) (edits : List Edit) (disk : Disk) : Outcome :=
  if edits.isEmpty then .success disk "Java code is formatted correctly."
  else
    Outcome.andThen (Report.write report edits disk) fun disk =>
      ⟨disk, [.notice .warning (toString edits.length ++ " file(s) need formatting:"),
        editTable edits], .error (.violation (Report.location disk report))⟩

/-- What `format` does about the edits that it finds. -/
def formatEdits (report : Path) (edits : List Edit) (disk : Disk) : Outcome :=
  Outcome.andThen (Report.ensure report disk) fun disk =>
    Outcome.andThen (Edit.saveAll edits disk) fun disk =>
      (Outcome.success disk "Java code formatted successfully.").after
        (if edits.isEmpty then []
          else [.notice .info ("Rewrote " ++ toString edits.length ++ " file(s)")])

/-- The title of a task. -/
def CommandLine.Task.title : Task → String
  | .check => "Checking Java Formatting"
  | .format => "Formatting Java Sources"

/-- What a task does about the edits that it finds. -/
def CommandLine.Task.settle : Task → Path → List Edit → Disk → Outcome
  | .check => checkEdits
  | .format => formatEdits

/-- Runs a task. -/
def CommandLine.Invocation.run (invocation : Invocation) (disk : Disk) : Outcome :=
  let (messages, edits) := pendingEdits disk invocation.args
  Outcome.after (.title invocation.task.title :: messages) <|
    match edits with
    | .error e => .failure disk e
    | .ok edits => invocation.task.settle invocation.args.report edits disk

end JavaFormat
