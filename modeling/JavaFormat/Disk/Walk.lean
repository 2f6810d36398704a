import JavaFormat.Disk.Operations

/-!
# The files below a directory

`Disk.walk` lists the regular files below a directory and the links to such files, each as the path
of the directory continued by names.  Every directory is visited in the order of its names, and
what lies below an entry comes where the entry does.  Links to directories are not entered, but the
first directory may be reached through one.
-/

set_option autoImplicit false

namespace JavaFormat

/-- Why the files below a directory cannot be listed. -/
inductive WalkError where
  /-- The path leads to no directory. -/
  | notDirectory (path : Path)
  /-- A directory below it cannot be read. -/
  | unreadable (path directory : Path) (cause : IoError)
  deriving DecidableEq, Repr

namespace Disk

/-- The files below the directory at `l`, which is spelled `path`, at most `fuel` levels deep. -/
def walkBelow (disk : Disk) (root : Path) : Nat → Location → Path → Except WalkError (List Path)
  | 0, _, _ => .ok []
  | fuel + 1, l, path =>
    if pathLimit ≤ path.utf8ByteSize then .error (.unreadable root path .nameTooLong)
    else do
      let parts ← (disk.names l).mapM fun name =>
        match disk.get? (l ++ [name]) with
        | some (.file _) => .ok [path.join name]
        | some (.link _) => .ok (if disk.isFile (path.join name) then [path.join name] else [])
        | some .dir => disk.walkBelow root fuel (l ++ [name]) (path.join name)
        | none => .ok []
      return parts.flatten

/-- The files below the directory that a path leads to. -/
def walk (disk : Disk) (path : Path) : Except WalkError (List Path) :=
  match disk.resolve .followed path with
  | .ok ⟨.entry l .dir, _⟩ => disk.walkBelow path (disk.depth + 1) l path
  | _ => .error (.notDirectory path)

end Disk

end JavaFormat
