import JavaFormat.Error
import JavaFormat.Disk.Operations

/-!
# Edits

An `Edit` puts the formatted text of a source in the place of the text that it has.  `Edit.pending`
reads some files and keeps the edits that change something; `Edit.save` writes one of them to the
disk, encoded as the source was, and `Edit.saveAll` several, up to the first that fails.
-/

set_option autoImplicit false

namespace JavaFormat

/-- A source with its text and the text that it gets. -/
structure Edit where
  /-- The path of the source. -/
  path : Path
  /-- The text of the source. -/
  current : String
  /-- The text that it gets. -/
  formatted : String
  /-- How texts are encoded in the source. -/
  charset : Charset

namespace Edit

/-- Whether the text changes. -/
def hasEdits (edit : Edit) : Bool := edit.current != edit.formatted

/-- The path of the source from the root. -/
def absolutePath (disk : Disk) (edit : Edit) : Path := Path.absolute disk.home edit.path

/-- The edit that formats the source at a path. -/
def ofFile (disk : Disk) (style : Style) (charset : Charset) (path : Path) : Except Error Edit := do
  let bytes ← (disk.readBytes path).mapError (Error.unreadable path)
  match charset.decode? bytes with
  | none => throw (.undecodable path charset)
  | some text => return ⟨path, text, Source.format style text, charset⟩

/-- The edits that change something in some files, unless one of these cannot be read. -/
def pending (disk : Disk) (style : Style) (charset : Charset) (files : List Path) :
    Except Error (List Edit) :=
  (files.mapM (ofFile disk style charset)).map (·.filter hasEdits)

/-- Writes the new text to the disk. -/
def save (edit : Edit) (disk : Disk) : Except Error Unit × Disk :=
  match edit.charset.encode? edit.formatted with
  | none => (.error (.unencodable edit.path edit.charset), disk)
  | some bytes =>
    let (result, disk) := disk.writeBytes edit.path bytes
    (result.mapError (Error.unwritable edit.path), disk)

/-- Saves edits one after the other; the first failure is the last thing that happens. -/
def saveAll : List Edit → Disk → Except Error Unit × Disk
  | [], disk => (.ok (), disk)
  | edit :: edits, disk =>
    match edit.save disk with
    | (.ok (), disk) => saveAll edits disk
    | failed => failed

end Edit

end JavaFormat
