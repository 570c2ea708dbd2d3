import PageBlocks.CommandLine.Arguments
import PageBlocks.Config.Load

/-!
# A run of the program

From the arguments, the variables and the files to the messages and the exit code. A run ends with
0 if all went well, with 1 if anything failed, and with 2 if the command line made no sense.
-/

namespace PageBlocks.CommandLine

/-- What kind of message a line is. -/
inductive Tone where
  | plain
  | success
  | warning
  | error
  | summary
  deriving DecidableEq, Repr

/-- A line of messages. -/
inductive Line where
  | message (tone : Tone) (text : String)
  /-- About the use of the program. -/
  | usage (spans : List Span)
  deriving DecidableEq, Repr

/-- What is shown in colours. -/
structure Colours where
  messages : Bool
  usage : Bool
  deriving DecidableEq, Repr

/-- What the variables want in colours. Both kinds of messages can be forced to have them, but they
differ in what counts: for messages all but a zero, for the rest all but nothing, and for these
alone there is a way to refuse. -/
def Colours.ofVariables (vars : Variables) : Colours :=
  let forced? := vars.lookup "CLICOLOR_FORCE".toList
  let refused? := vars.lookup "NO_COLOR".toList
  { messages := forced?.any (· != ['0'])
    usage := forced?.any (!·.isEmpty) && refused?.all List.isEmpty }

/-- How the colour of a tone is switched on. -/
def Tone.colour : Tone → String
  | .plain => ""
  | .success => "\x1b[32m"
  | .warning => "\x1b[33m"
  | .error => "\x1b[31m"
  | .summary => "\x1b[36m\x1b[1m"

/-- The text of a line, perhaps in colours. -/
def Line.render (colours : Colours) : Line → String
  | .message tone text =>
    if colours.messages && tone != .plain then tone.colour ++ text ++ "\x1b[0m" else text
  | .usage spans => String.join (spans.map (Span.render colours.usage))

/-- How a run ends. -/
structure Exit where
  code : Nat
  /-- What was asked for: the version, or the beginning of help. -/
  output : List String := []
  messages : List Line := []
  deriving DecidableEq, Repr

/-- The name and version of the program. -/
def versionText : String := "buildblock 0.1.24"

/-- What the program is, which is how its help begins. How it goes on is up to the parser of the
command line. -/
def aboutText : String := "Build-block directive processor - CLI"

/-- The end of a run that did not begin. -/
def Exit.ofStop : Stop → Exit
  | .help => { code := 0, output := [aboutText] }
  | .version => { code := 0, output := [versionText] }
  | .nothing => { code := 2, messages := [.usage [.plain aboutText]] }
  | .usage e =>
    { code := 2
      messages := [
        .usage (⟨.alarm, "error:"⟩ :: .plain " " :: e.spans),
        .usage [],
        .usage ([.plain "For more information, try "] ++ Span.quoted .exact "--help"
          ++ [.plain "."])] }

/-- The end of a run that failed, behind the messages so far. -/
def Exit.failed (before : List Line) (message : String) : Exit :=
  { code := 1, messages := before ++ [.message .error ("Error: " ++ message)] }

/-- What the switches of a pair say: on, off, or nothing. -/
def Arguments.choice (a : Arguments) (on off : Switch) : Option Bool :=
  if a.has on then some true else if a.has off then some false else none

/-- The settings that the arguments and the variables make. -/
def Arguments.overrides (a : Arguments) (vars : Variables) : Overrides where
  environment := (a.value? .environment).or (vars.lookup "BUILDBLOCK_ENV".toList)
  strip := a.choice .strip .noStrip
  recursive := a.choice .recursive .noRecursive
  marker := a.value? .marker
  data := (a.valuesOf .data).filterMap Reading.keyValue?
  blockSources := a.valuesOf .blockType

/-- The jobs that the arguments ask for. -/
def Arguments.jobs (a : Arguments) (c : Config) : List Job :=
  match a.command with
  | .run => c.jobs
  | .process => [⟨a.sources, (a.value? .output).getD []⟩]

/-- The lines that say what a run works with. -/
def openingLines (c : Config) : List Line :=
  let file := c.file?.toList.map fun p => .message .plain ("Config: " ++ String.ofList p)
  let environment :=
    c.options.environment.toList.map fun e =>
      .message .plain ("Environment: " ++ String.ofList e)
  file ++ environment

/-- The lines of a report. -/
def reportLines (r : Report) : List Line :=
  r.written.map (fun p => .message .success ("  wrote " ++ String.ofList p))
    ++ r.notices.map (fun n => .message .warning ("  warning: " ++ n.message))
    ++ r.failures.map (fun f =>
      .message .error ("  failed " ++ String.ofList f.path ++ ": " ++ f.error.message))

/-- The end of a run of jobs with `total` sources. -/
def Exit.ofReport (before : List Line) (total : Nat) (r : Report) : Exit :=
  let lines := before ++ reportLines r
  if r.isSuccess then
    let summary := "Processed " ++ toString total ++ " file(s), wrote " ++ toString r.written.length
    { code := 0, messages := lines ++ [.message .summary summary] }
  else
    .failed lines (toString r.failures.length ++ " of " ++ toString total ++ " file(s) failed")

variable {m : Type → Type} [Monad m]

/-- Sets up a processor with the files as they are. -/
def setUp (fs : FileSystem m) (o : Options) : m (Except ProcessError Processor) :=
  fs.consult
    (fun made => match made with
      | .ok _ => []
      | .error e => e.unread?.toList)
    fun read => Processor.ofOptions o read .passthrough none

/-- Runs jobs with a configuration. -/
def execute (fs : FileSystem m) (c : Config) (jobs : List Job) : m Exit := do
  let before := openingLines c
  match ← setUp fs c.options with
  | .error e => return .failed before e.message
  | .ok p => do
    let total := (jobs.flatMap Job.sources).length
    return .ofReport before total (← Job.runAll fs p jobs)

/-- Does what the arguments ask for. -/
def perform (fs : FileSystem m) (vars : Variables) (current : Path) (a : Arguments) : m Exit := do
  match ← Config.load fs vars current (a.value? .config) (a.overrides vars) with
  | .error e => return .failed [] e.message
  | .ok c =>
    let jobs := a.jobs c
    if jobs.isEmpty then
      return .failed [] "no [[files]] jobs configured (is buildblock.toml present?)"
    else execute fs c jobs

/-- A run of the program. -/
def run (fs : FileSystem m) (vars : Variables) (current : Path) (args : List Text) : m Exit :=
  match read args with
  | .error stop => return .ofStop stop
  | .ok a => perform fs vars current a

end PageBlocks.CommandLine
