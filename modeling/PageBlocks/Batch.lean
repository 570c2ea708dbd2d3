import PageBlocks.FileSystem
import PageBlocks.Processor

/-!
# Batches

A job names sources and a destination. If that is a directory, each source becomes a file of the
same name in it. Otherwise all sources together become one file, and that only if none of them
failed. No failure keeps other sources from being processed.
-/

namespace PageBlocks

/-- Sources, and where their pages go. -/
structure Job where
  sources : List Path
  dest : Path
  deriving DecidableEq, Repr

/-- A source that could not be processed, or a destination that could not be written. -/
structure Failure where
  path : Path
  error : ProcessError
  deriving DecidableEq, Repr

/-- What became of a batch. -/
structure Report where
  written : List Path := []
  failures : List Failure := []
  notices : List Notice := []
  deriving DecidableEq, Repr

namespace Report

/-- Did nothing fail? -/
def isSuccess (r : Report) : Bool := r.failures.isEmpty

/-- One report after the other. -/
def append (r s : Report) : Report :=
  ⟨r.written ++ s.written, r.failures ++ s.failures, r.notices ++ s.notices⟩

/-- Adds a written file. -/
def addWritten (r : Report) (p : Path) : Report := { r with written := r.written ++ [p] }

/-- Adds a failure. -/
def addFailure (r : Report) (p : Path) (e : ProcessError) : Report :=
  { r with failures := r.failures ++ [⟨p, e⟩] }

/-- The report about sources that have been processed; nothing is written yet. -/
def ofResults (results : List (Path × Outcome Text)) : Report where
  failures := results.filterMap fun (source, x) =>
    match x.result with
    | .ok _ => none
    | .error e => some ⟨source, e⟩
  notices := results.flatMap fun (_, x) => if x.result.isOk then x.notices else []

end Report

/-- The pages of the sources that could be processed. -/
def pages (results : List (Path × Outcome Text)) : List (Path × Text) :=
  results.filterMap fun (source, x) => x.result.toOption.map fun text => (source, text)

/-- Puts pages together; each starts on a new line. -/
def concatenate (texts : List Text) : Text :=
  texts.foldl (fun joined text =>
    if joined.isEmpty || Text.endsWith ['\n'] joined then joined ++ text
    else joined ++ '\n' :: text) []

namespace Job

variable {m : Type → Type} [Monad m]

/-- Does each source become a file of its own? -/
def toDirectory (fs : FileSystem m) (job : Job) : m Bool :=
  if Text.endsWith ['/'] job.dest then return true else fs.isDirectory job.dest

/-- Processes all sources. -/
def process (fs : FileSystem m) (p : Processor) (job : Job) : m (List (Path × Outcome Text)) :=
  fs.consult (fun results => results.flatMap fun (_, x) => x.unread) fun read =>
    job.sources.map fun source => (source, { p with read }.processFile source)

/-- Writes one file, and reports it. -/
def writeOne (fs : FileSystem m) (r : Report) (dest : Path) (text : Text) : m Report := do
  match ← fs.write dest text with
  | .ok () => return r.addWritten dest
  | .error cause => return r.addFailure dest (.io dest cause)

/-- Writes each page to a file of its own. -/
def writeEach (fs : FileSystem m) (dest : Path) : Report → List (Path × Text) → m Report
  | r, [] => return r
  | r, (source, text) :: rest =>
    match Path.fileName? source with
    | none => writeEach fs dest (r.addFailure source (.io source "no file name".toList)) rest
    | some name => do writeEach fs dest (← writeOne fs r (Path.join dest name) text) rest

/-- Runs a job. -/
def run (fs : FileSystem m) (p : Processor) (job : Job) : m Report := do
  let results ← job.process fs p
  let report := Report.ofResults results
  if ← job.toDirectory fs then writeEach fs job.dest report (pages results)
  else if !report.isSuccess || results.isEmpty then return report
  else writeOne fs report job.dest (concatenate ((pages results).map Prod.snd))

/-- Runs all jobs, in order. -/
def runAll (fs : FileSystem m) (p : Processor) : List Job → m Report
  | [] => return {}
  | job :: jobs => do
    let first ← job.run fs p
    return first.append (← runAll fs p jobs)

end Job

end PageBlocks
