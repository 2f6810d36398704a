import JavaFormat.CommandLine.Parse
import JavaFormat.Run

/-!
# The program

`Program.run` reads a command line and runs the task that it names.  What is told goes to the
standard output, why the program fails to the standard error; the exit code is 1 if a task failed
and 2 if the command line was refused.
-/

set_option autoImplicit false

namespace JavaFormat

/-- What the program takes from the environment. -/
structure Environment where
  /-- The config file. -/
  configPath : Option String
  /-- Whether what a task tells is coloured. -/
  colour : Bool
  /-- Whether replies to the command line are coloured. -/
  replyColour : Bool
  deriving DecidableEq, Repr

namespace Environment

/-- The variables that count. -/
def variableNames : List String := [CommandLine.configVariable, "CLICOLOR_FORCE", "NO_COLOR"]

/-- The environment with some variables.  Any value but `0` of `CLICOLOR_FORCE` asks for colour;
`NO_COLOR` takes it from the replies to the command line again. -/
def ofVariables (value? : String → Option String) : Environment :=
  let forced (values : List String) : Bool :=
    (value? "CLICOLOR_FORCE").any fun value => !values.contains value
  { configPath := value? CommandLine.configVariable
    colour := forced ["0"]
    replyColour := forced ["0", ""] && !(value? "NO_COLOR").any (· != "") }

end Environment

/-- What a run of the program leaves behind. -/
structure Exit where
  /-- The exit code. -/
  code : Nat
  /-- The standard output. -/
  output : String
  /-- The standard error. -/
  errors : String
  deriving DecidableEq, Repr

namespace Program

/-- What is left behind by a command line that is answered by a reply. -/
def exitOfReply (colour : Bool) (reply : CommandLine.Reply) : Exit :=
  let text := reply.message.printed colour
  if reply.isWanted then ⟨reply.exitCode, text, ""⟩ else ⟨reply.exitCode, "", text⟩

/-- What is left behind by a task. -/
def exitOfOutcome (colour : Bool) (outcome : Outcome) : Exit :=
  let output := Message.renderAll colour outcome.messages
  match outcome.result with
  | .ok () => ⟨0, output, ""⟩
  | .error e => ⟨1, output, Message.render colour (.notice .error e.account)⟩

/-- Runs the program with a command line. -/
def run (environment : Environment) (words : List String) (disk : Disk) : Exit × Disk :=
  match CommandLine.parse environment.configPath words with
  | .error reply => (exitOfReply environment.replyColour reply, disk)
  | .ok invocation =>
    let outcome := invocation.run disk
    (exitOfOutcome environment.colour outcome, outcome.disk)

end Program

end JavaFormat
