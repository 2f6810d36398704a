import JavaFormat.Disk.Basic

/-!
# Where a path leads

A path is followed from the working directory, or from the root, name by name; a symbolic link on
the way is replaced by its target.  `Disk.resolve` gives the `Place` where a path ends, which may be
a vacant one in a directory, or the `IoError` that ends the way before.
-/

set_option autoImplicit false

namespace JavaFormat

/-- Why an operation on a disk fails. -/
inductive IoError where
  /-- There is no such entry. -/
  | notFound
  /-- There is such an entry already. -/
  | alreadyExists
  /-- An entry on the way is not a directory. -/
  | notDirectory
  /-- The entry is a directory. -/
  | isDirectory
  /-- The path or a name in it is too long. -/
  | nameTooLong
  /-- Too many links have to be followed. -/
  | tooManyLinks
  /-- There is a null character in the path. -/
  | nullCharacter
  /-- The file does not hold UTF-8. -/
  | notUtf8
  /-- The disk denies the change. -/
  | denied (denial : Denial)
  deriving DecidableEq, Repr

/-- What is denied, in words. -/
def Denial.message : Denial → String
  | permission => "Permission denied (os error 13)"
  | readOnly => "Read-only file system (os error 30)"
  | noSpace => "No space left on device (os error 28)"

/-- The failure, in words. -/
def IoError.message : IoError → String
  | notFound => "No such file or directory (os error 2)"
  | alreadyExists => "File exists (os error 17)"
  | notDirectory => "Not a directory (os error 20)"
  | isDirectory => "Is a directory (os error 21)"
  | nameTooLong => "File name too long (os error 36)"
  | tooManyLinks => "Too many levels of symbolic links (os error 40)"
  | nullCharacter => "file name contained an unexpected NUL byte"
  | notUtf8 => "stream did not contain valid UTF-8"
  | denied denial => denial.message

namespace Disk

/-- The longest path that can be opened is shorter than this many bytes. -/
def pathLimit : Nat := 4096

/-- The longest name of an entry, in bytes. -/
def nameLimit : Nat := 255

/-- How many links are followed on one way. -/
def linkLimit : Nat := 40

/-- A step on the way along a path. -/
inductive Step where
  /-- To the root. -/
  | root
  /-- To where one stands. -/
  | stay
  /-- To the directory that holds the one where one stands. -/
  | up
  /-- To an entry by its name. -/
  | down (name : String)
  deriving DecidableEq, Repr

/-- The step that a piece of a path asks for. -/
def Step.ofPiece (piece : List Char) : Step :=
  if piece = ['.'] then .stay
  else if piece = ['.', '.'] then .up
  else .down (String.ofList piece)

/-- The steps along a path. -/
def stepsOf (path : Path) : List Step :=
  (if path.isAbsolute then [.root] else []) ++
    ((Path.pieces path.toList).filter (· != [])).map Step.ofPiece

/-- Where a path ends. -/
inductive Place where
  /-- At an entry. -/
  | entry (l : Location) (e : Entry)
  /-- In a directory that has no entry of the last name. -/
  | vacant (l : Location) (name : String)

/-- Where a path ends, and whether a slash after its last name asks for a directory. -/
structure Destination where
  /-- The place. -/
  place : Place
  /-- Whether the path ends with a slash. -/
  slash : Bool

/-- What becomes of a link at the end of a path. -/
inductive LastLink where
  /-- It is where the path ends. -/
  | kept
  /-- It is followed. -/
  | followed
  /-- It is followed, unless a slash after it asks for a directory. -/
  | followedUnlessSlash
  deriving DecidableEq, Repr

namespace LastLink

/-- Whether a link at the end of a path is followed. -/
def isFollowed (slash : Bool) : LastLink → Bool
  | kept => false
  | followed => true
  | followedUnlessSlash => !slash

/-- Whether the last name of a path has to be one that an entry may have. -/
def limitsName (slash : Bool) : LastLink → Bool
  | followedUnlessSlash => !slash
  | _ => true

end LastLink

/-- Where some steps from a directory end.  A link in the place of a directory is followed, and one
at the end if `last` says so, as long as `links` are left to be followed. -/
def walkSteps (disk : Disk) (last : LastLink) (links : Nat) (at_ : Location) (slash : Bool) :
    List Step → Except IoError Destination
  | [] => .ok ⟨.entry at_ .dir, slash⟩
  | .root :: rest => walkSteps disk last links [] slash rest
  | .stay :: rest => walkSteps disk last links at_ slash rest
  | .up :: rest => walkSteps disk last links at_.dropLast slash rest
  | .down name :: rest =>
    if nameLimit < name.utf8ByteSize ∧ (rest ≠ [] ∨ last.limitsName slash) then
      .error .nameTooLong
    else
      match disk.get? (at_ ++ [name]) with
      | none => if rest = [] then .ok ⟨.vacant at_ name, slash⟩ else .error .notFound
      | some .dir => walkSteps disk last links (at_ ++ [name]) slash rest
      | some (.file bytes) =>
        if rest = [] then .ok ⟨.entry (at_ ++ [name]) (.file bytes), slash⟩
        else .error .notDirectory
      | some (.link target) =>
        if rest = [] ∧ ¬last.isFollowed slash then
          .ok ⟨.entry (at_ ++ [name]) (.link target), slash⟩
        else
          match links with
          | 0 => .error .tooManyLinks
          | links + 1 =>
            walkSteps disk last links at_ (slash || (rest.isEmpty && target.endsWithSlash))
              (stepsOf target ++ rest)
termination_by steps => (links, steps.length)

/-- Where a path ends. -/
def resolve (disk : Disk) (last : LastLink) (path : Path) : Except IoError Destination :=
  if path.toList.contains '\x00' then .error .nullCharacter
  else if path.isEmpty then .error .notFound
  else if pathLimit ≤ path.utf8ByteSize then .error .nameTooLong
  else walkSteps disk last linkLimit disk.home path.endsWithSlash (stepsOf path)

end Disk

end JavaFormat
