import JavaFormat.CommandLine.Help
import JavaFormat.CommandLine.Similar

/-!
# Reading a command line

`parse` reads the words of a command line: the name of a task and what is said about it.  What it
cannot read it refuses for the first reason in the order of the words, save that a word that is no
option is refused before the values in front of it are looked at.
-/

set_option autoImplicit false

namespace JavaFormat.CommandLine

open RichText

/-- What may have been meant. -/
inductive Tip where
  /-- Things of a kind that are named similarly. -/
  | similar (kind : String) (names : List String)
  /-- A word that is not to be taken for an option. -/
  | asValue (word : String)
  /-- An option of a task. -/
  | optionOf (task : Task) (name : String)
  /-- A task behind two dashes, which are not needed. -/
  | noDashes (task : String)

/-- Why a command line is refused. -/
inductive Refusal where
  /-- A parameter does not take a value. -/
  | invalidValue (p : Parameter) (value : String)
  /-- A parameter is given without a value. -/
  | missingValue (p : Parameter)
  /-- A parameter is given more than once. -/
  | repeated (task : Task) (p : Parameter)
  /-- There is no such option.  The usage is that for the given parameters. -/
  | unknownOption (topic : Topic) (word : String) (tip : Option Tip) (given : List Parameter)
  /-- An option takes no value.  `begun` says whether another parameter was given before. -/
  | unneededValue (topic : Topic) (p : Parameter) (value : String) (begun : Bool)
  /-- There is no such task, but perhaps similar ones. -/
  | unknownTask (topic : Topic) (name : String) (similar : List String)

/-- What a command line leads to instead of a task. -/
inductive Reply where
  /-- Help, which was asked for. -/
  | help (text : RichText)
  /-- The version. -/
  | version (text : RichText)
  /-- Help, since no task was named. -/
  | noTask
  /-- A refusal. -/
  | refused (refusal : Refusal)

/-- The tip, in words. -/
def Tip.message : Tip → RichText
  | similar kind names =>
    plain (if names.length = 1 then "a similar " ++ kind ++ " exists: "
      else "some similar " ++ kind ++ "s exist: ") ++
      separated ", " (names.map fun name => inQuotes (valid name))
  | asValue word =>
    plain "to pass " ++ inQuotes (invalid word) ++ plain " as a value, use " ++
      inQuotes (valid ("-- " ++ word))
  | optionOf task name => inQuotes (valid (task.name ++ " --" ++ name)) ++ plain " exists"
  | noDashes task =>
    plain "subcommand " ++ inQuotes (valid task) ++ plain " exists; to use it, remove the " ++
      inQuotes (invalid "--") ++ plain " before it"

namespace Refusal

/-- The values that a parameter takes, if they are few. -/
def valuesLine (p : Parameter) : RichText :=
  if p.choices = [] then []
  else
    plain "\n  [possible values: " ++
      separated ", " (p.choices.map fun choice => valid choice.1) ++ plain "]"

/-- What may have been meant, below an empty line. -/
def tipLine : Option Tip → RichText
  | none => []
  | some tip => plain "\n\n  " ++ valid "tip:" ++ plain " " ++ tip.message

/-- A usage line below an empty line. -/
def usageLine (topic : Topic) (given : List Parameter) : RichText :=
  plain "\n\n" ++ usage topic given

/-- What is wrong, in words. -/
def reason : Refusal → RichText
  | invalidValue p value =>
    plain "invalid value " ++ inQuotes (invalid value) ++ plain " for " ++
      inQuotes (literal p.listed.text) ++ valuesLine p ++
      tipLine ((similar value (p.choices.map Prod.fst)).getLast?.map fun name =>
        .similar "value" [name])
  | missingValue p =>
    plain "a value is required for " ++ inQuotes (invalid p.listed.text) ++
      plain " but none was supplied" ++ valuesLine p
  | repeated task p =>
    plain "the argument " ++ inQuotes (invalid p.listed.text) ++
      plain " cannot be used multiple times" ++ usageLine (.task task) []
  | unknownOption topic word tip given =>
    plain "unexpected argument " ++ inQuotes (invalid word) ++ plain " found" ++ tipLine tip ++
      usageLine topic given
  | unneededValue topic p value begun =>
    plain "unexpected value " ++ inQuotes (invalid value) ++ plain " for " ++
      inQuotes (literal p.listed.text) ++ plain " found; no more were expected\n\n" ++
      flagUsage topic p begun
  | unknownTask topic name similar =>
    plain "unrecognized subcommand " ++ inQuotes (invalid name) ++
      tipLine (if similar.isEmpty then none else some (.similar "subcommand" similar)) ++
      usageLine topic []

/-- Where to find help, below an empty line, or the end of the line for the task that shows help,
which has no such option. -/
def helpLine : Refusal → RichText
  | unknownTask .help _ _ => plain "\n"
  | _ => plain "\n\nFor more information, try " ++ inQuotes (literal "--help") ++ plain ".\n"

/-- The refusal, in words. -/
def message (refusal : Refusal) : RichText :=
  failure "error:" ++ plain " " ++ refusal.reason ++ refusal.helpLine

end Refusal

namespace Reply

/-- The reply, in words. -/
def message : Reply → RichText
  | help text => text
  | version text => text
  | noTask => programHelp
  | refused refusal => refusal.message

/-- Whether a reply is what was asked for. -/
def isWanted : Reply → Bool
  | help _ => true
  | version _ => true
  | noTask => false
  | refused _ => false

/-- The exit code of a reply. -/
def exitCode (reply : Reply) : Nat := if reply.isWanted then 0 else 2

end Reply

/-- The version of what has a name. -/
def versionLine (name : String) : RichText := plain (name ++ " " ++ version ++ "\n")

/-! ## Words -/

/-- What a word of the command line looks like. -/
inductive Word where
  /-- Two dashes, after which no word is an option. -/
  | stop
  /-- An option behind two dashes, with the value behind an equals sign. -/
  | long (name : String) (value : Option String)
  /-- Options behind one dash. -/
  | short (letters : List Char)
  /-- Any other word. -/
  | plain
  deriving DecidableEq, Repr

/-- What a word looks like. -/
def Word.ofText (text : String) : Word :=
  match text.toList with
  | ['-', '-'] => .stop
  | '-' :: '-' :: rest =>
    let name := String.ofList (rest.takeWhile (· != '='))
    match rest.dropWhile (· != '=') with
    | _ :: value => .long name (some (String.ofList value))
    | [] => .long name none
  | ['-'] => .plain
  | '-' :: rest => .short rest
  | _ => .plain

/-! ## Parameters of a task -/

/-- What has been read of the words behind a task. -/
structure Reading where
  /-- The values of the parameters, in the order in which these were first given. -/
  given : List (Parameter × List String)
  /-- A parameter whose values are still being read. -/
  pending : Option (Parameter × List String)

namespace Reading

/-- The reading before the first word. -/
def start : Reading := ⟨[], none⟩

/-- The parameters that were given. -/
def parameters (reading : Reading) : List Parameter := reading.given.map Prod.fst

/-- The values of a parameter. -/
def values (reading : Reading) (p : Parameter) : List String := (reading.given.lookup p).getD []

/-- The reading with more values of a parameter. -/
def add (reading : Reading) (p : Parameter) (values : List String) : Reading :=
  { reading with
    given :=
      if p ∈ reading.parameters then
        reading.given.map fun entry => if entry.1 = p then (p, entry.2 ++ values) else entry
      else reading.given ++ [(p, values)] }

/-- The reading after a parameter with its values, and why it is refused, if it is. -/
def give (task : Task) (reading : Reading) (p : Parameter) (values : List String) :
    Reading × Option Refusal :=
  if values.isEmpty then (reading, some (.missingValue p))
  else if !p.isRepeatable && p ∈ reading.parameters then
    ({ reading with given := reading.given.filter fun entry => entry.1 ≠ p },
      some (.repeated task p))
  else
    (reading.add p values,
      (values.find? fun value => !p.takes value).map fun value =>
        if value.isEmpty then .missingValue p else .invalidValue p value)

/-- The reading with the pending parameter given. -/
def settle (task : Task) (reading : Reading) : Reading × Option Refusal :=
  match reading.pending with
  | none => (reading, none)
  | some (p, values) => give task { reading with pending := none } p values

/-- The reading with a source, next to those that are pending. -/
def addSource (task : Task) (reading : Reading) (source : String) : Except Reply Reading :=
  match reading.pending with
  | some (.sources, values) => .ok { reading with pending := some (.sources, values ++ [source]) }
  | _ =>
    match reading.settle task with
    | (_, some refusal) => .error (.refused refusal)
    | (reading, none) => .ok { reading with pending := some (.sources, [source]) }

/-- The parameter that the next word is a value of, if it is no option. -/
def expects? (reading : Reading) : Option Parameter :=
  match reading.pending with
  | some (p, []) => some p
  | _ => none

/-- The reply to a parameter that asks for one. -/
def replyTo (configured : Option String) (long : Bool) (task : Task) : Parameter → Reply
  | .version => .version (versionLine (program ++ "-" ++ task.name))
  | _ => .help (if long then longHelp configured task else shortHelp configured task)

/-- The refusal of an unknown option behind two dashes. -/
def refuseLong (task : Task) (reading : Reading) (name : String) : Refusal :=
  let reading := (reading.settle task).1
  let word := "--" ++ name
  match (similar name (Parameter.named.map (·.name))).getLast? with
  | some other =>
    let given := reading.parameters
    let given :=
      match Parameter.ofName? other with
      | some p => if p ∈ given then given else given ++ [p]
      | none => given
    .unknownOption (.task task) word (some (.similar "argument" ["--" ++ other])) given
  | none => .unknownOption (.task task) word (some (.asValue word)) reading.parameters

/-- The reading after an option behind two dashes. -/
def readLong (configured : Option String) (task : Task) (reading : Reading) (name : String)
    (value : Option String) : Except Reply Reading :=
  match Parameter.ofName? name with
  | none => .error (.refused (refuseLong task reading name))
  | some p =>
    if p = .help ∨ p = .version then
      match value with
      | some value =>
        .error (.refused (.unneededValue (.task task) p value (!reading.given.isEmpty)))
      | none =>
        match reading.settle task with
        | (_, some refusal) => .error (.refused refusal)
        | (_, none) => .error (replyTo configured true task p)
    else
      match reading.settle task with
      | (_, some refusal) => .error (.refused refusal)
      | (reading, none) =>
        match value with
        | none => .ok { reading with pending := some (p, []) }
        | some value =>
          match reading.give task p [value] with
          | (_, some refusal) => .error (.refused refusal)
          | (reading, none) => .ok reading

/-- The reply to options behind one dash, of which there are only those that ask for one. -/
def readShort (configured : Option String) (task : Task) (reading : Reading)
    (letters : List Char) : Reply :=
  let ask (p : Parameter) : Reply :=
    match reading.settle task with
    | (_, some refusal) => .refused refusal
    | (_, none) => replyTo configured false task p
  match letters with
  | 'h' :: _ => ask .help
  | 'V' :: _ => ask .version
  | letters =>
    let word := "-" ++ String.ofList (letters.take 1)
    .refused (.unknownOption (.task task) word (some (.asValue word)) [])

/-- The reading after some words. -/
def readWords (configured : Option String) (task : Task) (reading : Reading) :
    List String → Except Reply Reading
  | [] => .ok reading
  | word :: words =>
    match Word.ofText word with
    | .stop => words.foldlM (addSource task) reading
    | .long name value => do
      let reading ← reading.readLong configured task name value
      readWords configured task reading words
    | .short letters => .error (reading.readShort configured task letters)
    | .plain =>
      match reading.expects? with
      | some p => readWords configured task { reading with pending := some (p, [word]) } words
      | none => do readWords configured task (← reading.addSource task word) words

/-- The arguments that a reading amounts to. -/
def toArgs (reading : Reading) : TaskArgs :=
  let value? (p : Parameter) : Option String := (reading.values p).head?
  let valueOr (p : Parameter) : String := ((value? p).or p.default?).getD ""
  { sources := reading.values .sources
    choices :=
      { indentation := (value? .indentation).bind fun text => (Indentation.ofText text).toOption
        baseline := (value? .baseline).bind fun text => (Baseline.ofText text).toOption
        encoding := value? .encoding }
    report := valueOr .report
    exclude := reading.values .exclude
    config := value? .config
    projectDir := valueOr .projectDir }

end Reading

/-- The arguments of a task from the words behind it.  `configured` is the value of the variable
that names the config file, which counts if no option does. -/
def parseTask (configured : Option String) (task : Task) (words : List String) :
    Except Reply TaskArgs := do
  let reading ← Reading.start.readWords configured task words
  match reading.settle task with
  | (_, some refusal) => throw (.refused refusal)
  | (reading, none) =>
    match configured with
    | some path =>
      if .config ∈ reading.parameters then return reading.toArgs
      else
        match reading.give task .config [path] with
        | (_, some refusal) => throw (.refused refusal)
        | (reading, none) => return reading.toArgs
    | none => return reading.toArgs

/-! ## The whole command line -/

/-- The names of the tasks, that of help included. -/
def taskNames : List String := Task.all.map Task.name ++ ["help"]

/-- The task with a name. -/
def Task.ofName? (name : String) : Option Task := all.find? fun task => task.name == name

/-- The reply to `help` and the words behind it. -/
def helpReply (configured : Option String) : List String → Reply
  | [] => .help programHelp
  | name :: rest =>
    match Task.ofName? name, rest with
    | some task, [] => .help (longHelp configured task)
    | some task, other :: _ => .refused (.unknownTask (.task task) other [])
    | none, [] =>
      if name = "help" then .help helpHelp else .refused (.unknownTask .program name [])
    | none, other :: _ =>
      .refused <|
        if name = "help" then .unknownTask .help other [] else .unknownTask .program name []

/-- The tasks that a later word names and that have an option similar to a name, each with the place
of that word and the option. -/
def optionsElsewhere (name : String) (words : List String) : List (Nat × Tip) :=
  Task.all.filterMap fun task => do
    let other ← (similar name (Parameter.named.map (·.name))).getLast?
    let place ← words.findIdx? (· == task.name)
    return (place, .optionOf task other)

/-- The refusal of an unknown option in front of the task. -/
def refuseFirst (name : String) (words : List String) : Refusal :=
  let word := "--" ++ name
  match (similar name [Parameter.help.name, Parameter.version.name]).getLast? with
  | some other =>
    .unknownOption .program word (some (.similar "argument" ["--" ++ other]))
      (Parameter.ofName? other).toList
  | none =>
    let tip : Option Tip :=
      match optionsElsewhere name words with
      | [] => none
      | first :: rest =>
        some (rest.foldl (fun best other => if other.1 < best.1 then other else best) first).2
    .unknownOption .program word tip []

/-- The task and what is said about it, or what the command line leads to instead. -/
def parse (configured : Option String) : List String → Except Reply Invocation
  | [] => .error .noTask
  | word :: words =>
    match Word.ofText word with
    | .stop =>
      match words with
      | [] => .error .noTask
      | name :: _ =>
        if name ∈ taskNames then
          .error (.refused (.unknownOption .program name (some (.noDashes name)) []))
        else .error (.refused (.unknownTask .program name (similar name taskNames)))
    | .long name value =>
      match name, value with
      | "help", none => .error (.help programHelp)
      | "version", none => .error (.version (versionLine program))
      | "help", some value => .error (.refused (.unneededValue .program .help value false))
      | "version", some value => .error (.refused (.unneededValue .program .version value false))
      | name, _ => .error (.refused (refuseFirst name words))
    | .short letters =>
      match letters with
      | 'h' :: _ => .error (.help programHelp)
      | 'V' :: _ => .error (.version (versionLine program))
      | letters =>
        .error (.refused (.unknownOption .program ("-" ++ String.ofList (letters.take 1)) none []))
    | .plain =>
      match Task.ofName? word with
      | some task => (parseTask configured task words).map fun args => ⟨task, args⟩
      | none =>
        if word = "help" then .error (helpReply configured words)
        else .error (.refused (.unknownTask .program word (similar word taskNames)))

end JavaFormat.CommandLine
