import JavaFormat.Glob
import JavaFormat.Path

/-!
# Which files are sources

Of the files that are listed below some roots, those with the extension `java` are sources, unless
a pattern leaves them out.  Patterns see a file as it is spelled below its root.  A file that is
listed more than once counts where it is listed first.
-/

set_option autoImplicit false

namespace JavaFormat.Sources

/-- The extension of a source. -/
def extension : String := "java"

/-- Whether a file below a root is a source that no pattern leaves out. -/
def admits (excludes : List Glob.Pattern) (root path : Path) : Bool :=
  path.extension? == some extension &&
    !excludes.any fun pattern => pattern.matches ((path.relativeTo? root).getD path)

/-- Of the spellings of each path the first one. -/
def firstSpellings : List Path → List Path
  | [] => []
  | p :: ps => p :: (firstSpellings ps).filter fun q => !Path.same p q

/-- The sources below some roots, in the order in which `walk` lists them. -/
def collect {ε : Type} (walk : Path → Except ε (List Path)) (excludes : List Glob.Pattern)
    (roots : List Path) : Except ε (List Path) := do
  let found ← roots.mapM fun root => (walk root).map (·.filter (admits excludes root))
  return firstSpellings found.flatten

end JavaFormat.Sources
