import JavaFormat.Toml.Number

/-!
# Documents of TOML

A document is a table, whose entries are kept in the order in which they are first defined.
`document?` reads a text and fails where it is malformed or defines something twice.  Where a value
stands is kept for messages: a value in the text has the span of its text, a table with a header
that from the header to the last value below it, and a table that only keys imply has none.
-/

set_option autoImplicit false

namespace JavaFormat.Toml

/-- How a table came about. -/
structure Header where
  /-- Whether it is only implied by the names of other tables. -/
  implicit : Bool
  /-- Whether it was implied by a key with points. -/
  dotted : Bool
  /-- Where it stands, from its header on. -/
  span : Option Span

/-- A value of a document. -/
inductive Node where
  /-- A text. -/
  | string (span : Span) (text : String)
  /-- A number or a date. -/
  | number (span : Span) (value : Number)
  /-- A truth value. -/
  | boolean (span : Span) (value : Bool)
  /-- Values in brackets. -/
  | array (span : Span) (elements : List Node)
  /-- A table in braces, which is closed. -/
  | inlineTable (span : Span) (entries : List (Key × Node))
  /-- Any other table. -/
  | table (header : Header) (entries : List (Key × Node))
  /-- Tables that share a header. -/
  | tables (span : Option Span) (elements : List Node)

/-- Where a value stands. -/
def Node.span? : Node → Option Span
  | string span _ => some span
  | number span _ => some span
  | boolean span _ => some span
  | array span _ => some span
  | inlineTable span _ => some span
  | table header _ => header.span
  | tables span _ => span

/-- The entries of a table. -/
abbrev Entries := List (Key × Node)

namespace Entries

/-- The value of a name. -/
def find? (entries : Entries) (name : String) : Option Node :=
  (List.find? (fun entry => entry.1.name == name) entries).map Prod.snd

/-- The entries with another value for a name. -/
def replace (entries : Entries) (name : String) (node : Node) : Entries :=
  entries.map fun entry => if entry.1.name == name then (entry.1, node) else entry

/-- The entries without a name. -/
def erase (entries : Entries) (name : String) : Entries :=
  entries.filter fun entry => entry.1.name != name

/-- Changes the table that a path leads to from a table, where the tables on the way that are
missing are implied.  Keys with points do not lead into a table that has a header. -/
def modify (dotted : Bool) (change : Header → Entries → Option (Header × Entries)) :
    List Key → Header → Entries → Option (Header × Entries)
  | [], header, entries => change header entries
  | key :: path, header, entries =>
    match find? entries key.name with
    | none => do
      let (inner, below) ← modify dotted change path ⟨true, dotted, none⟩ []
      return (header, entries ++ [(key, .table inner below)])
    | some (.table inner below) =>
      if dotted ∧ ¬inner.implicit then none
      else do
        let (inner, below) ← modify dotted change path inner below
        return (header, replace entries key.name (.table inner below))
    | some (.tables span elements) =>
      match elements.reverse with
      | .table inner below :: others => do
        let (inner, below) ← modify dotted change path inner below
        return (header, replace entries key.name
          (.tables span (others.reverse ++ [.table inner below])))
      | _ => none
    | some _ => none

/-- Adds an entry that must be new, where a path of a key with points leads to.  Such a key defines
no part of a table with a header. -/
def define (path : List Key) (key : Key) (node : Node) :
    Header → Entries → Option (Header × Entries) :=
  modify true (fun header entries =>
    if header.dotted = path.isEmpty then none
    else if (find? entries key.name).isSome then none
    else some (header, entries ++ [(key, node)])) path

end Entries

/-- The last of some keys and those before it. -/
def splitKeys? (keys : List Key) : Option (List Key × Key) :=
  match keys.reverse with
  | key :: path => some (path.reverse, key)
  | [] => none

/-! ## Values -/

/-- Blanks, comments and line breaks, which may surround the elements of an array. -/
def skipLines? : Nat → List Char → Option (List Char)
  | 0, cs => some cs
  | fuel + 1, cs =>
    match skipBlanks cs with
    | '#' :: rest => (lineBreak? (skipComment ('#' :: rest))).bind (skipLines? fuel)
    | '\n' :: rest => skipLines? fuel rest
    | '\r' :: rest => (lineBreak? ('\r' :: rest)).bind (skipLines? fuel)
    | rest => some rest

/-- The elements of an array and its closing bracket, after those of `read`, which are in
reverse. -/
def elements? (element : List Char → Option (Node × List Char)) (read : List Node) :
    Nat → List Char → Option (List Node × List Char)
  | 0, _ => none
  | fuel + 1, cs => do
    match ← skipLines? cs.length cs with
    | ']' :: rest => return (read.reverse, rest)
    | start =>
      let (node, after) ← element start
      match ← skipLines? after.length after with
      | ',' :: rest => elements? element (node :: read) fuel rest
      | ']' :: rest => return ((node :: read).reverse, rest)
      | _ => none

/-- The entries of a table in braces and its closing brace, after those of `table`. -/
def pairs? (value : List Char → Option (Node × List Char)) (table : Header × Entries) :
    Nat → List Char → Option (Entries × List Char)
  | 0, _ => none
  | fuel + 1, cs => do
    let (keys, rest) ← keys? cs
    let (path, key) ← splitKeys? keys
    let rest ← skipChar? '=' rest
    let (node, rest) ← value (skipBlanks rest)
    let table ← Entries.define path key node table.1 table.2
    match skipBlanks rest with
    | ',' :: rest => pairs? value table fuel rest
    | '}' :: rest => return (table.2, rest)
    | _ => none

/-- A value, with arrays and tables nested at most so deep. -/
def value? : Nat → List Char → Option (Node × List Char)
  | depth, cs =>
    let span (rest : List Char) : Span := ⟨cs.length, rest.length⟩
    match cs with
    | [] => none
    | '"' :: _ => (string? cs).map fun (text, rest) => (.string (span rest) text, rest)
    | '\'' :: _ => (string? cs).map fun (text, rest) => (.string (span rest) text, rest)
    | 't' :: 'r' :: 'u' :: 'e' :: rest => some (.boolean (span rest) true, rest)
    | 'f' :: 'a' :: 'l' :: 's' :: 'e' :: rest => some (.boolean (span rest) false, rest)
    | '[' :: rest =>
      match depth with
      | 0 => none
      | depth + 1 =>
        (elements? (value? depth) [] (rest.length + 1) rest).map fun (nodes, rest) =>
          (.array (span rest) nodes, rest)
    | '{' :: rest =>
      match depth with
      | 0 => none
      | depth + 1 =>
        match skipBlanks rest with
        | '}' :: rest => some (.inlineTable (span rest) [], rest)
        | _ =>
          (pairs? (value? depth) (⟨false, false, none⟩, []) (rest.length + 1) rest).map
            fun (entries, rest) => (.inlineTable (span rest) entries, rest)
    | _ => (number? cs).map fun (number, rest) => (.number (span rest) number, rest)
  termination_by depth => depth

/-! ## Documents -/

/-- What has been read of a document. -/
structure Reading where
  /-- The entries of the finished tables. -/
  finished : Entries
  /-- The keys of the table that is being read. -/
  path : List Key
  /-- Whether it is one of several with its header. -/
  shared : Bool
  /-- How it came about. -/
  header : Header
  /-- Its entries so far. -/
  entries : Entries

namespace Reading

/-- The reading before the first line. -/
def start : Reading := ⟨[], [], false, ⟨false, false, none⟩, []⟩

/-- The stretch from the first of some tables to the last. -/
def spanOf (elements : List Node) : Option Span := do
  let first ← (← elements.head?).span?
  let last ← (← elements.getLast?).span?
  return ⟨first.start, last.stop⟩

/-- The entries of the finished tables and the current one, which is put in its place. -/
def finish? (reading : Reading) : Option Entries :=
  match splitKeys? reading.path with
  | none => some reading.entries
  | some (path, key) =>
    let node := Node.table reading.header reading.entries
    let put : Header → Entries → Option (Header × Entries) := fun header entries =>
      match reading.shared, Entries.find? entries key.name with
      | false, none => some (header, entries ++ [(key, node)])
      | false, some _ => none
      | true, none => some (header, entries ++ [(key, .tables (spanOf [node]) [node])])
      | true, some (.tables _ elements) =>
        let all := elements ++ [node]
        some (header, Entries.replace entries key.name (.tables (spanOf all) all))
      | true, some _ => none
    (Entries.modify false put path ⟨false, false, none⟩ reading.finished).map Prod.snd

/-- The reading after a header.  A table that was only implied is defined by its header; what has
been defined is not defined again. -/
def openTable? (reading : Reading) (shared : Bool) (keys : List Key) (span : Span) :
    Option Reading := do
  let finished ← reading.finish?
  let (path, key) ← splitKeys? keys
  let header : Header := ⟨false, false, some span⟩
  if shared then
    let check : Header → Entries → Option (Header × Entries) := fun header entries =>
      match Entries.find? entries key.name with
      | none => some (header, entries)
      | some (.tables _ _) => some (header, entries)
      | some _ => none
    let (_, finished) ← Entries.modify false check path ⟨false, false, none⟩ finished
    return ⟨finished, keys, true, header, []⟩
  else
    let take : Header → Entries → Option (Header × Entries) := fun header entries =>
      match Entries.find? entries key.name with
      | none => some (header, entries)
      | some (.table inner _) =>
        if inner.implicit ∧ ¬inner.dotted then some (header, Entries.erase entries key.name)
        else none
      | some _ => none
    let children := childrenOf finished keys
    let (_, finished) ← Entries.modify false take path ⟨false, false, none⟩ finished
    return ⟨finished, keys, false, header, children⟩
where
  /-- The entries of the table that keys lead to, if there is one. -/
  childrenOf : Entries → List Key → Entries
    | entries, [] => entries
    | entries, key :: keys =>
      match Entries.find? entries key.name with
      | some (.table _ below) => childrenOf below keys
      | some (.tables _ elements) =>
        match elements.getLast? with
        | some (.table _ below) => childrenOf below keys
        | _ => []
      | _ => []

/-- The header of a table that goes on with a value. -/
def extend (header : Header) (node : Node) : Header :=
  match header.span, node.span? with
  | some span, some last => { header with span := some ⟨span.start, last.stop⟩ }
  | _, _ => header

/-- The reading after a key and its value. -/
def define? (reading : Reading) (keys : List Key) (node : Node) : Option Reading := do
  let (path, key) ← splitKeys? keys
  let header := extend reading.header node
  let (header, entries) ← Entries.define path key node header reading.entries
  return { reading with header, entries }

/-- The reading after a header of a table, and what follows its line. -/
def headerLine? (reading : Reading) (cs : List Char) : Option (Reading × List Char) := do
  let rest ← skipChar? '[' cs
  let (shared, rest) :=
    match rest with
    | '[' :: rest => (true, rest)
    | rest => (false, rest)
  let (keys, rest) ← keys? rest
  let rest ← skipChar? ']' rest
  let rest ← if shared then skipChar? ']' rest else some rest
  let reading ← reading.openTable? shared keys ⟨cs.length, rest.length⟩
  return (reading, ← endLine? rest)

/-- The reading after a key and its value, and what follows their line. -/
def keyLine? (reading : Reading) (cs : List Char) : Option (Reading × List Char) := do
  let (keys, rest) ← keys? cs
  let rest ← skipChar? '=' rest
  let (node, rest) ← value? (nestingLimit - 1) (skipBlanks rest)
  let rest ← endLine? rest
  return (← reading.define? keys node, rest)

/-- The reading after the rest of a text. -/
def readLines? (reading : Reading) : Nat → List Char → Option Reading
  | 0, _ => none
  | fuel + 1, cs =>
    match skipBlanks cs with
    | [] => some reading
    | '#' :: rest => (endLine? ('#' :: rest)).bind (readLines? reading fuel)
    | '\n' :: rest => readLines? reading fuel rest
    | '\r' :: rest => (lineBreak? ('\r' :: rest)).bind (readLines? reading fuel)
    | '[' :: rest =>
      match headerLine? reading ('[' :: rest) with
      | some (reading, rest) => readLines? reading fuel rest
      | none => none
    | start =>
      match keyLine? reading start with
      | some (reading, rest) => readLines? reading fuel rest
      | none => none

end Reading

/-- The entries of the document that a text spells. -/
def document? (text : List Char) : Option Entries :=
  let body :=
    match text with
    | '\uFEFF' :: rest => rest
    | text => text
  (Reading.start.readLines? (body.length + 1) body).bind Reading.finish?

end JavaFormat.Toml
