import JavaFormat.Program

/-!
# The command line

The program works on a `Disk`.  Here the files that a command line is about are loaded onto one, and
what has changed on it after the run is stored again.
-/

set_option autoImplicit false

namespace JavaFormat.Machine

/-- Why a file cannot be opened for writing, if it cannot. -/
def denial? (path : Path) : IO (Option Denial) := do
  try
    let _ ← IO.FS.Handle.mk ((← IO.currentDir) / path) .readWrite
    return none
  catch
    | .permissionDenied _ code _ => return some (if code = 30 then .readOnly else .permission)
    | _ => return none

/-- Loads what stands at an absolute path, and below it, onto a disk, and what links lead to. -/
partial def load (disk : Disk) (path : Path) : IO Disk := do
  let here := (← IO.currentDir) / path
  if disk.exists? path || !(← here.pathExists) then return disk
  match (← here.symlinkMetadata).type with
  | .dir =>
    (← here.readDir).foldlM (fun disk entry => load disk entry.path.toString) (disk.makeDirs path).2
  | .file =>
    let disk := (disk.makeDirs (Path.parent? path |>.getD "/")).2
    let disk := (disk.writeBytes path (← IO.FS.readBinFile here).data.toList).2
    match ← denial? path, disk.resolve .kept path with
    | some denial, .ok ⟨.entry l _, _⟩ => return disk.deny l denial
    | _, _ => return disk
  | .symlink =>
    let target := (← IO.FS.realPath here).toString
    let disk := (disk.makeDirs (Path.parent? path |>.getD "/")).2
    load (disk.create path (.link target)).2 target
  | .other => return disk

/-- The paths that a task reads or writes. -/
def paths (args : CommandLine.TaskArgs) : List Path :=
  args.report :: args.config.toList ++ args.sources ++
    (Project.configName :: Project.usualSources).map args.projectDir.join

/-- The disk that a task works on. -/
def diskFor (args : CommandLine.TaskArgs) : IO Disk := do
  let directory := (← IO.currentDir).toString
  let home : Location := (Path.components directory).filterMap fun
    | .name name => some name
    | _ => none
  let disk : Disk := { (Disk.empty.makeDirs directory).2 with home }
  (paths args).foldlM (fun disk path => load disk (Path.absolute home path)) disk

/-- Stores what has changed on a disk. -/
def store (before after : Disk) : IO Unit := do
  for (l, entry) in after.entries.reverse do
    if before.get? l ≠ some entry then
      let here := (← IO.currentDir) / ("/" ++ "/".intercalate l)
      match entry with
      | .dir => IO.FS.createDirAll here
      | .file bytes => IO.FS.writeBinFile here ⟨bytes.toArray⟩
      | .link _ => pure ()

end JavaFormat.Machine

open JavaFormat in
/-- Runs the program. -/
def main (words : List String) : IO UInt32 := do
  let found ← Environment.variableNames.mapM fun name => return (name, ← IO.getEnv name)
  let environment := Environment.ofVariables fun name => (found.lookup name).join
  let before ←
    match CommandLine.parse environment.configPath words with
    | .ok invocation => Machine.diskFor invocation.args
    | .error _ => pure Disk.empty
  let (left, after) := Program.run environment words before
  Machine.store before after
  IO.print left.output
  IO.eprint left.errors
  return UInt32.ofNat left.code
