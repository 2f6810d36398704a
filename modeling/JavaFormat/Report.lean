import JavaFormat.Edit

/-!
# Reports

A report lists the sources that are not formatted, each by its path from the root and with the text
that it should have.  `Report.ensure` makes sure that there is a report and leaves the one there is
alone; `Report.write` puts edits into it.
-/

set_option autoImplicit false

namespace JavaFormat.Report

/-- What a report tells of an edit. -/
def block (disk : Disk) (edit : Edit) : String := edit.absolutePath disk ++ ":\n" ++ edit.formatted

/-- The text of a report. -/
def render (disk : Disk) (edits : List Edit) : String := "\n".intercalate (edits.map (block disk))

/-- Where a report lies, from the root. -/
def location (disk : Disk) (report : Path) : Path := Path.absolute disk.home report

/-- Creates the directories that a report lies in, as far as they are missing. -/
def ensureParent (report : Path) (disk : Disk) : Except Error Unit × Disk :=
  match report.parent? with
  | none => (.ok (), disk)
  | some parent =>
    if parent.isEmpty then (.ok (), disk)
    else
      let (result, disk) := disk.makeDirs parent
      (result.mapError (Error.unwritable parent), disk)

/-- Puts a text into a report. -/
def put (report : Path) (text : String) (disk : Disk) : Except Error Unit × Disk :=
  let (result, disk) := disk.writeBytes report text.toUTF8.data.toList
  (result.mapError (Error.unwritable report), disk)

/-- Creates an empty report, and the directories that it lies in, unless there is one. -/
def ensure (report : Path) (disk : Disk) : Except Error Unit × Disk :=
  if disk.exists? report then (.ok (), disk)
  else
    match ensureParent report disk with
    | (.ok (), disk) => put report "" disk
    | failed => failed

/-- Writes a report of some edits in the place of what it told before. -/
def write (report : Path) (edits : List Edit) (disk : Disk) : Except Error Unit × Disk :=
  match ensure report disk with
  | (.ok (), disk) => put report (render disk edits) disk
  | failed => failed

end JavaFormat.Report
