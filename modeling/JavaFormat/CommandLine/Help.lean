import JavaFormat.CommandLine.Parameter
import JavaFormat.Text.Rich

/-!
# Help

Help about the program lists its tasks; help about a task its parameters, in a short form with one
line for each and in a long form.
-/

set_option autoImplicit false

namespace JavaFormat.CommandLine

open RichText

/-- What a usage line is about. -/
inductive Topic where
  /-- The program. -/
  | program
  /-- A task. -/
  | task (task : Task)
  /-- The task that shows help. -/
  | help
  deriving DecidableEq, Repr

namespace Parameter

/-- The name of an option behind two dashes. -/
def long (p : Parameter) : RichText := literal ("--" ++ p.name)

/-- How a parameter is shown in a usage line or a list. -/
def listed : Parameter → RichText
  | sources => plain "[SOURCES]..."
  | help => help.long
  | version => version.long
  | p => p.long ++ plain (" <" ++ p.valueName ++ ">")

/-- How a parameter that was given is shown in a usage line. -/
def listedGiven : Parameter → RichText
  | sources => plain "<SOURCES>..."
  | p => p.listed

end Parameter

/-- What the words of a usage line are that follow the name.  The parameters that are given stand
for the options. -/
def usageWords (topic : Topic) (given : List Parameter) : List RichText :=
  match topic with
  | .program => literal program :: given.map Parameter.listedGiven ++ [plain "<COMMAND>"]
  | .help => [literal (program ++ " help"), plain "[COMMAND]..."]
  | .task task =>
    let options :=
      if given.isEmpty then [plain "[OPTIONS]"]
      else (given.filter (· ≠ .sources)).map Parameter.listedGiven
    literal (program ++ " " ++ task.name) :: options ++
      [if .sources ∈ given then Parameter.sources.listedGiven else Parameter.sources.listed]

/-- A usage line. -/
def usage (topic : Topic) (given : List Parameter) : RichText :=
  separated " " (heading "Usage:" :: usageWords topic given)

/-- The parameters that take a value, as one choice. -/
def anyParameter : RichText :=
  let shown := Parameter.sources.valueName :: Parameter.options.map fun p => p.listed.text
  plain ("<" ++ "|".intercalate shown ++ ">")

/-- A usage line about an option without a value.  All parameters of a task are a choice if one of
them was given. -/
def flagUsage (topic : Topic) (flag : Parameter) (begun : Bool) : RichText :=
  match topic, begun with
  | .task task, true =>
    separated " "
      [heading "Usage:", literal (program ++ " " ++ task.name), flag.listed, anyParameter]
  | topic, _ => usage topic [flag]

/-- What the task that shows help is for. -/
def helpAbout : String := "Print this message or the help of the given subcommand(s)"

/-- An option that has a short name, with what stands in front of it. -/
def lettered (letter : String) (p : Parameter) : RichText :=
  plain "  " ++ literal ("-" ++ letter) ++ plain ", " ++ p.listed

/-- Help about the program. -/
def programHelp : RichText :=
  let entry (name about : String) : RichText :=
    plain "  " ++ padded 8 (literal name) ++ plain about
  ofLines
    ([plain "Check and format the Java sources of a module", [], usage .program [], [],
        heading "Commands:"] ++
      Task.all.map (fun task => entry task.name task.about) ++
      [entry "help" helpAbout, [], heading "Options:",
        lettered "h" .help ++ plain "     Print help",
        lettered "V" .version ++ plain "  Print version"])

/-- Help about the task that shows help. -/
def helpHelp : RichText :=
  ofLines
    [plain helpAbout, [], usage .help [], [], heading "Arguments:",
      plain "  [COMMAND]...  Print help for the subcommand(s)"]

/-- What else is to be said about a parameter: its variable and its default. -/
def remarks (configured : Option String) (p : Parameter) : List String :=
  (if p = .config then ["[env: " ++ configVariable ++ "=" ++ configured.getD "" ++ "]"] else []) ++
    match p.default? with
    | some value => ["[default: " ++ value ++ "]"]
    | none => []

/-- A text in which every line but the first is indented. -/
def hanging (margin : Nat) (text : String) : String :=
  String.ofList (text.toList.flatMap fun c =>
    if c = '\n' then c :: List.replicate margin ' ' else [c])

/-- The options in the short form, each with the text that stands beside it. -/
def shortEntries (configured : Option String) : List (RichText × String) :=
  Parameter.options.map (fun p =>
    let values :=
      if p.choices = [] then []
      else ["[possible values: " ++ ", ".intercalate (p.choices.map Prod.fst) ++ "]"]
    (blanks 6 ++ p.listed, " ".intercalate ([p.about] ++ remarks configured p ++ values))) ++
  [(lettered "h" .help, "Print help (see more with '--help')"),
    (lettered "V" .version, "Print version")]

/-- Help about a task, in short. -/
def shortHelp (configured : Option String) (task : Task) : RichText :=
  let entries := shortEntries configured
  let width := (entries.map fun entry => entry.1.text.length).foldl max 0 + 2
  ofLines
    ([plain task.about, [], usage (.task task) [], [], heading "Arguments:",
        plain "  " ++ Parameter.sources.listed ++ plain ("  " ++ Parameter.sources.about), [],
        heading "Options:"] ++
      entries.map fun entry => padded width entry.1 ++ plain (hanging width entry.2))

/-- The lines of an option in the long form. -/
def longEntry (configured : Option String) (p : Parameter) : List RichText :=
  let margin := blanks 10
  let width := (p.choices.map fun choice => choice.1.length).foldl max 0 + 2
  let values :=
    if p.choices = [] then []
    else [[], margin ++ plain "Possible values:"] ++ p.choices.map fun choice =>
      margin ++ plain "- " ++ padded width (literal choice.1 ++ plain ":") ++ plain choice.2
  let notes := (remarks configured p).flatMap fun remark =>
    [margin, margin ++ plain (hanging 10 remark)]
  [blanks 6 ++ p.listed, margin ++ plain p.about] ++ values ++ notes ++ [[]]

/-- Help about a task. -/
def longHelp (configured : Option String) (task : Task) : RichText :=
  let margin := blanks 10
  ofLines
    ([plain task.about, [], usage (.task task) [], [], heading "Arguments:",
        plain "  " ++ Parameter.sources.listed, margin ++ plain Parameter.sources.about, [],
        heading "Options:"] ++
      Parameter.options.flatMap (longEntry configured) ++
      [lettered "h" .help, margin ++ plain "Print help (see a summary with '-h')", [],
        lettered "V" .version, margin ++ plain "Print version"])

end JavaFormat.CommandLine
