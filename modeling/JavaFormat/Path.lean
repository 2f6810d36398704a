/-!
# Paths

A path is a text whose pieces are separated by slashes.  Empty pieces and pieces `.` inside a path
say nothing, so `Path.components` leaves them out and two paths are the same (`Path.same`) when
their components are.  The spelling still matters where a path is shown, matched or opened, so
`parent?`, `relativeTo?` and `join` keep what they can of it.
-/

set_option autoImplicit false

namespace JavaFormat

/-- A path, as it is spelled. -/
abbrev Path := String

namespace Path

/-- A component of a path. -/
inductive Component where
  /-- The root, which starts an absolute path. -/
  | root
  /-- The component `.`, which counts only at the start of a relative path. -/
  | current
  /-- The component `..`. -/
  | parent
  /-- The name of an entry. -/
  | name (name : String)
  deriving DecidableEq, Repr

/-! ## Pieces -/

/-- The pieces of a text between slashes, the current one being `acc` in reverse. -/
def piecesFrom : List Char → List Char → List (List Char)
  | acc, [] => [acc.reverse]
  | acc, c :: cs => if c = '/' then acc.reverse :: piecesFrom [] cs else piecesFrom (c :: acc) cs

/-- The pieces of a text between slashes. -/
def pieces (text : List Char) : List (List Char) := piecesFrom [] text

/-- The text that some pieces spell. -/
def spell (ps : List (List Char)) : List Char := ['/'].intercalate ps

/-- Whether a piece says nothing inside a path. -/
def isVoid (piece : List Char) : Bool := piece == [] || piece == ['.']

/-- Pieces without the trailing ones that say nothing. -/
def trimEnd (ps : List (List Char)) : List (List Char) := (ps.reverse.dropWhile isVoid).reverse

/-- A path cut into its start and the pieces after it. -/
structure Cut where
  /-- The root, or the component `.`, that the path starts with. -/
  start : Option Component
  /-- The pieces after the start. -/
  body : List (List Char)

namespace Cut

/-- The start and the pieces of a path. -/
def ofPath (path : Path) : Cut :=
  match pieces path.toList with
  | [] :: p :: ps => ⟨some .root, p :: ps⟩
  | ['.'] :: ps => ⟨some .current, ps⟩
  | ps => ⟨none, ps⟩

/-- The path with a start and pieces. -/
def toPath (cut : Cut) : Path :=
  String.ofList <|
    match cut.start, cut.body with
    | some .root, ps => '/' :: spell ps
    | some _, [] => ['.']
    | some _, ps => '.' :: '/' :: spell ps
    | none, ps => spell ps

/-- The component that a piece spells. -/
def componentOf (piece : List Char) : Component :=
  if piece = ['.', '.'] then .parent else .name (String.ofList piece)

/-- The components of a path that is cut. -/
def components (cut : Cut) : List Component :=
  cut.start.toList ++ (cut.body.filter fun piece => !isVoid piece).map componentOf

end Cut

/-! ## Components -/

/-- The components of a path. -/
def components (path : Path) : List Component := (Cut.ofPath path).components

/-- Whether two paths have the same components. -/
def same (p q : Path) : Bool := p.components == q.components

/-- Whether a path starts at the root. -/
def isAbsolute (path : Path) : Bool := path.toList.head? == some '/'

/-- Whether a path ends with a slash. -/
def endsWithSlash (path : Path) : Bool := path.toList.getLast? == some '/'

/-- A path continued by another one, which stands alone if it is absolute. -/
def join (path tail : Path) : Path :=
  if tail.isAbsolute then tail
  else if path.isEmpty ∨ path.endsWithSlash then path ++ tail
  else path ++ "/" ++ tail

/-- The path without its last component; none where there is nothing to leave out but the root. -/
def parent? (path : Path) : Option Path :=
  let cut := Cut.ofPath path
  match (trimEnd cut.body).reverse with
  | _ :: rest => some (Cut.toPath ⟨cut.start, trimEnd rest.reverse⟩)
  | [] => if cut.start = some .current then some "" else none

/-- The last component, if it is a name. -/
def fileName? (path : Path) : Option String :=
  match path.components.getLast? with
  | some (.name name) => some name
  | _ => none

/-- What stands after the last point of the file name, unless that point starts the name. -/
def extension? (path : Path) : Option String :=
  match path.fileName? with
  | none => none
  | some name =>
    let reversed := name.toList.reverse
    match reversed.dropWhile (· != '.') with
    | _ :: _ :: _ => some (String.ofList (reversed.takeWhile (· != '.')).reverse)
    | _ => none

/-- The pieces after the first `n` that say something. -/
def piecesAfter : Nat → List (List Char) → List (List Char)
  | 0, ps => ps
  | _, [] => []
  | n + 1, p :: ps => if isVoid p then piecesAfter (n + 1) ps else piecesAfter n ps

/-- The path from `base` to a path below it, spelled as in the latter. -/
def relativeTo? (path base : Path) : Option Path :=
  let cut := Cut.ofPath path
  let start := base.components
  if start.isPrefixOf cut.components then
    match start with
    | [] =>
      some (Cut.toPath ⟨cut.start, trimEnd cut.body⟩)
    | _ =>
      let rest := piecesAfter (start.length - cut.start.toList.length) cut.body
      some (String.ofList (spell (trimEnd (rest.dropWhile isVoid))))
  else none

/-- How a component is spelled. -/
def Component.text : Component → List Char
  | root => []
  | current => ['.']
  | parent => ['.', '.']
  | name n => n.toList

/-- The absolute form of a path, with the names of the working directory.  Components `..` stay, two
slashes at the start stay two, and a slash at the end stays. -/
def absolute (directory : List String) (path : Path) : Path :=
  if path.isEmpty then path
  else
    let names := (path.components.filter fun c => c ≠ .root ∧ c ≠ .current).map Component.text
    let text :=
      if path.isAbsolute then
        (if path.toList.takeWhile (· == '/') = ['/', '/'] then ['/', '/'] else ['/']) ++ spell names
      else '/' :: spell (directory.map String.toList ++ names)
    String.ofList (if path.endsWithSlash ∧ text.getLast? ≠ some '/' then text ++ ['/'] else text)

end Path

end JavaFormat
