import JavaFormat.Disk.Resolve

/-!
# Operations on a disk, by path

Reading tells a file from a directory and follows links.  Writing creates a file or empties the one
there is, at the end of all links, and puts bytes into it.  `makeDirs` creates a directory and the
missing ones above it.  Each operation that changes a disk gives the disk after it, also where it
fails; a change that is denied is not made (`unlessDenied`).
-/

set_option autoImplicit false

namespace JavaFormat.Disk

/-- What a path leads to in the end. -/
def entryAt (disk : Disk) (path : Path) : Except IoError Entry :=
  match disk.resolve .followed path with
  | .error e => .error e
  | .ok ⟨.vacant _ _, _⟩ => .error .notFound
  | .ok ⟨.entry _ (.file bytes), slash⟩ => if slash then .error .notDirectory else .ok (.file bytes)
  | .ok ⟨.entry _ e, _⟩ => .ok e

/-- Whether a path leads to a directory. -/
def isDir (disk : Disk) (path : Path) : Bool :=
  match disk.entryAt path with
  | .ok .dir => true
  | _ => false

/-- Whether a path leads to a regular file. -/
def isFile (disk : Disk) (path : Path) : Bool :=
  match disk.entryAt path with
  | .ok (.file _) => true
  | _ => false

/-- Whether a path leads to anything. -/
def exists? (disk : Disk) (path : Path) : Bool :=
  match disk.entryAt path with
  | .ok _ => true
  | .error _ => false

/-- The bytes of the file that a path leads to. -/
def readBytes (disk : Disk) (path : Path) : Except IoError (List UInt8) :=
  match disk.entryAt path with
  | .ok (.file bytes) => .ok bytes
  | .ok _ => .error .isDirectory
  | .error e => .error e

/-- The text of the file that a path leads to, which has to be UTF-8. -/
def readText (disk : Disk) (path : Path) : Except IoError String :=
  match disk.readBytes path with
  | .error e => .error e
  | .ok bytes =>
    match String.fromUTF8? ⟨bytes.toArray⟩ with
    | some text => .ok text
    | none => .error .notUtf8

/-- Changes a disk at a location, unless the disk denies it. -/
def unlessDenied (disk : Disk) (l : Location) (changed : Disk) : Except IoError Unit × Disk :=
  match disk.denial? l with
  | none => (.ok (), changed)
  | some denial => (.error (.denied denial), disk)

theorem unlessDenied_of_none {disk changed : Disk} {l : Location} (h : disk.denial? l = none) :
    disk.unlessDenied l changed = (.ok (), changed) := by
  rw [unlessDenied, h]

theorem unlessDenied_of_some {disk changed : Disk} {l : Location} {denial : Denial}
    (h : disk.denial? l = some denial) :
    disk.unlessDenied l changed = (.error (.denied denial), disk) := by
  rw [unlessDenied, h]

theorem unlessDenied_eq_ok_iff {disk changed later : Disk} {l : Location} :
    disk.unlessDenied l changed = (.ok (), later) ↔ disk.denial? l = none ∧ later = changed := by
  unfold unlessDenied
  cases disk.denial? l <;> simp [eq_comm]

/-- A change that is denied is not made. -/
theorem unlessDenied_eq_error {disk changed later : Disk} {l : Location} {cause : IoError}
    (h : disk.unlessDenied l changed = (.error cause, later)) :
    later = disk ∧ ∃ denial, disk.denial? l = some denial ∧ cause = .denied denial := by
  unfold unlessDenied at h
  split at h
  · cases h
  · rename_i denial hdenial
    cases h
    exact ⟨rfl, denial, hdenial, rfl⟩

/-- Puts bytes into the file that a path leads to, which is created where there is none. -/
def writeBytes (disk : Disk) (path : Path) (bytes : List UInt8) : Except IoError Unit × Disk :=
  match disk.resolve .followedUnlessSlash path with
  | .error e => (.error e, disk)
  | .ok ⟨place, slash⟩ =>
    if slash then (.error .isDirectory, disk)
    else
      match place with
      | .vacant l name => disk.unlessDenied l (disk.add l name (.file bytes))
      | .entry l (.file _) => disk.unlessDenied l (disk.setBytes l bytes)
      | .entry _ _ => (.error .isDirectory, disk)

/-- Puts a new entry where a path leads to, without following a link at its end. -/
def create (disk : Disk) (path : Path) (e : Entry) : Except IoError Unit × Disk :=
  match disk.resolve .kept path with
  | .error e => (.error e, disk)
  | .ok ⟨.vacant l name, _⟩ => disk.unlessDenied l (disk.add l name e)
  | .ok ⟨.entry _ _, _⟩ => (.error .alreadyExists, disk)

/-- The failure of creating a directory counts for nothing if there is one. -/
def orDir (result : Except IoError Unit × Disk) (path : Path) : Except IoError Unit × Disk :=
  match result with
  | (.error e, disk) => if disk.isDir path then (.ok (), disk) else (.error e, disk)
  | done => done

/-- Creates a directory and the missing ones above it, as many as `fuel`. -/
def makeDirsWithin (disk : Disk) (path : Path) : Nat → Except IoError Unit × Disk
  | 0 => (.error .notFound, disk)
  | fuel + 1 =>
    if path.isEmpty then (.ok (), disk)
    else
      match disk.create path .dir with
      | (.error .notFound, disk) =>
        match path.parent? with
        | none => (.error .notFound, disk)
        | some parent =>
          match makeDirsWithin disk parent fuel with
          | (.ok (), disk) => orDir (disk.create path .dir) path
          | failed => failed
      | result => orDir result path

/-- Creates a directory and the missing ones above it. -/
def makeDirs (disk : Disk) (path : Path) : Except IoError Unit × Disk :=
  disk.makeDirsWithin path (path.length + 1)

/-- The disk without what stands at the end of a path, a link itself and not its target. -/
def removeAt (disk : Disk) (path : Path) : Disk :=
  match disk.resolve .kept path with
  | .ok ⟨.entry l _, _⟩ => disk.remove l
  | _ => disk

end JavaFormat.Disk
