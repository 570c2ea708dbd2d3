import Mathlib.Data.List.Forall2
import Mathlib.Data.List.Induction
import Mathlib.Data.List.Perm.Basic
import PageBlocks.CommandLine.Run
import PageBlocks.Proofs.Comment

/-!
# What a report accounts for

A job that writes to a directory comes to one entry for each of its sources, a file that was written
or a failure, and nothing else is written:

    source      processed   name   attempt to write   entry
    a/x.html    yes         x.html dest/x.html  ok    dest/x.html is written
    a/y.html    yes         y.html dest/y.html  no    dest/y.html failed
    a/..        yes         none   none               a/.. failed
    a/z.html    no                 none               a/z.html failed

A job that writes one file writes nothing at all unless every source was processed. All this holds
of every way in which reading, processing and writing may turn out: a file system is whatever
answers from a state of its own, and `FileSystem.recorded` is the same file system with a list of
what it was asked to write. The reports of several jobs are put together in order, and a run of the
program fails just if something failed, never more than there are sources (`Job.reports_account`).
-/

namespace PageBlocks

variable {σ : Type}

/-! ### File systems with a record -/

/-- An attempt to write a file, and how it went. -/
structure Attempt where
  path : Path
  text : Text
  result : Except Text Unit

namespace FileSystem

/-- The same file system, with a list of all attempts to write. -/
def recorded (fs : FileSystem (StateM σ)) : FileSystem (StateM (σ × List Attempt)) where
  isPresent p := fun (s, log) =>
    let (answer, s) := fs.isPresent p s
    (answer, s, log)
  isDirectory p := fun (s, log) =>
    let (answer, s) := fs.isDirectory p s
    (answer, s, log)
  write p text := fun (s, log) =>
    let (result, s) := fs.write p text s
    (result, s, log ++ [⟨p, text, result⟩])
  consult unread f := fun (s, log) =>
    let (answer, s) := fs.consult unread f s
    (answer, s, log)

/-- What is worked out from the files is worked out from some way of reading them. -/
def Consults (fs : FileSystem (StateM σ)) : Prop :=
  ∀ {α : Type} (unread : α → List Path) (f : ReadFile → α) (s : σ),
    ∃ read, (fs.consult unread f s).1 = f read

theorem consults_system : FileTree.system.Consults := fun _ _ t => ⟨t.read, rfl⟩

end FileSystem

theorem state_bind {α β : Type} (x : StateM σ α) (f : α → StateM σ β) (s : σ) :
    (x >>= f) s = f (x s).1 (x s).2 := rfl

/-! ### Accounts -/

/-- The report with one more attempt to write. -/
def Report.addAttempt (r : Report) (a : Attempt) : Report :=
  match a.result with
  | .ok () => r.addWritten a.path
  | .error cause => r.addFailure a.path (.io a.path cause)

namespace Job

/-- What a report says about one source. -/
inductive Entry where
  | written (path : Path)
  | failed (failure : Failure)

namespace Entry

def written? : Entry → Option Path
  | written path => some path
  | failed _ => none

def failure? : Entry → Option Failure
  | written _ => none
  | failed failure => some failure

end Entry

/-- What becomes of a source whose page goes to a directory: an attempt to write it, or none, and
the entry about it. -/
inductive Settled (dest : Path) : Path × Outcome Text → Option Attempt × Entry → Prop where
  | unprocessed {source : Path} {x : Outcome Text} {e : ProcessError}
      (result : x.result = .error e) :
      Settled dest (source, x) (none, .failed ⟨source, e⟩)
  | nameless {source : Path} {x : Outcome Text} {text : Text} (result : x.result = .ok text)
      (unnamed : Path.fileName? source = none) :
      Settled dest (source, x) (none, .failed ⟨source, .io source "no file name".toList⟩)
  | written {source : Path} {x : Outcome Text} {text name : Text} (result : x.result = .ok text)
      (named : Path.fileName? source = some name) :
      Settled dest (source, x)
        (some ⟨Path.join dest name, text, .ok ()⟩, .written (Path.join dest name))
  | unwritten {source : Path} {x : Outcome Text} {text name cause : Text}
      (result : x.result = .ok text) (named : Path.fileName? source = some name) :
      Settled dest (source, x)
        (some ⟨Path.join dest name, text, .error cause⟩,
          .failed ⟨Path.join dest name, .io (Path.join dest name) cause⟩)

/-- Each source comes to one entry of the report, and what is written is written for a source. -/
structure DirectoryAccount (dest : Path) (results : List (Path × Outcome Text))
    (attempts : List Attempt) (report : Report) : Prop where
  settled : ∃ fates, List.Forall₂ (Settled dest) results fates ∧
    attempts = fates.filterMap Prod.fst ∧
    report.written = fates.filterMap (fun f => f.2.written?) ∧
    report.failures.Perm (fates.filterMap fun f => f.2.failure?)
  length_eq : report.written.length + report.failures.length = results.length

end Job

/-- The texts in order, unchanged, each on a new line. -/
inductive Text.Joined : List Text → Text → Prop where
  | nil : Joined [] []
  | behind {ts : List Text} {joined : Text} (h : Joined ts joined) (t : Text)
      (ended : joined = [] ∨ joined.getLast? = some '\n') : Joined (ts ++ [t]) (joined ++ t)
  | nextLine {ts : List Text} {joined : Text} (h : Joined ts joined) (t : Text)
      (nonempty : joined ≠ []) (unended : joined.getLast? ≠ some '\n') :
      Joined (ts ++ [t]) (joined ++ '\n' :: t)

theorem Text.endsWith_lineFeed_iff {t : Text} :
    endsWith ['\n'] t = true ↔ t.getLast? = some '\n' := by
  rw [endsWith_iff, List.getLast?_eq_some_iff]

theorem Text.joined_concatenate (texts : List Text) : Joined texts (concatenate texts) := by
  induction texts using List.reverseRecOn with
  | nil => exact .nil
  | append_singleton texts t ih =>
    have hstep : concatenate (texts ++ [t]) =
        if (concatenate texts).isEmpty || endsWith ['\n'] (concatenate texts) then
          concatenate texts ++ t
        else concatenate texts ++ '\n' :: t := by
      rw [concatenate, List.foldl_append]
      rfl
    rw [hstep]
    split
    case isTrue h =>
      rw [Bool.or_eq_true, List.isEmpty_iff, endsWith_lineFeed_iff] at h
      exact .behind ih t h
    case isFalse h =>
      rw [Bool.or_eq_true, not_or, List.isEmpty_iff, endsWith_lineFeed_iff] at h
      exact .nextLine ih t h.1 h.2

namespace Job

/-- Nothing is written unless all sources were processed; then one file is, if there are any. -/
inductive ConcatenationAccount (dest : Path) (results : List (Path × Outcome Text)) :
    List Attempt → Report → Prop where
  | incomplete {report : Report} (failed : ∃ x ∈ results, x.2.result.isOk = false)
      (written_eq : report.written = [])
      (failures : List.Forall₂ (fun x f => f.path = x.1 ∧ x.2.result = .error f.error)
        (results.filter fun x => !x.2.result.isOk) report.failures) :
      ConcatenationAccount dest results [] report
  | empty {report : Report} (results_eq : results = []) (written_eq : report.written = [])
      (failures_eq : report.failures = []) : ConcatenationAccount dest results [] report
  | written {report : Report} {texts : List Text} {content : Text} (nonempty : results ≠ [])
      (processed : List.Forall₂ (fun x t => x.2.result = .ok t) results texts)
      (joined : Text.Joined texts content) (written_eq : report.written = [dest])
      (failures_eq : report.failures = []) :
      ConcatenationAccount dest results [⟨dest, content, .ok ()⟩] report
  | unwritten {report : Report} {texts : List Text} {content cause : Text} (nonempty : results ≠ [])
      (processed : List.Forall₂ (fun x t => x.2.result = .ok t) results texts)
      (joined : Text.Joined texts content) (written_eq : report.written = [])
      (failures_eq : report.failures = [⟨dest, .io dest cause⟩]) :
      ConcatenationAccount dest results [⟨dest, content, .error cause⟩] report

/-- What a report says about a job, whose destination is a directory or not. -/
def Account (dest : Path) (results : List (Path × Outcome Text)) (attempts : List Attempt)
    (report : Report) : (intoDirectory : Bool) → Prop
  | true => DirectoryAccount dest results attempts report
  | false => ConcatenationAccount dest results attempts report

/-! ### Pages in a directory -/

theorem writeOne_eq (fs : FileSystem (StateM σ)) (r : Report) (dest : Path) (text : Text) (s : σ) :
    writeOne fs r dest text s =
      (r.addAttempt ⟨dest, text, (fs.write dest text s).1⟩, (fs.write dest text s).2) := by
  unfold writeOne Report.addAttempt
  rw [state_bind]
  dsimp only
  cases (fs.write dest text s).1 <;> rfl

theorem writeOne_recorded (fs : FileSystem (StateM σ)) (r : Report) (dest : Path) (text : Text)
    (s : σ) (log : List Attempt) :
    writeOne fs.recorded r dest text (s, log) =
      (r.addAttempt ⟨dest, text, (fs.write dest text s).1⟩, (fs.write dest text s).2,
        log ++ [⟨dest, text, (fs.write dest text s).1⟩]) :=
  writeOne_eq fs.recorded r dest text (s, log)

/-- The report `report` comes after `r` when the sources of `results` come to `fates`. -/
structure Continues (results : List (Path × Outcome Text)) (fates : List (Option Attempt × Entry))
    (r report : Report) : Prop where
  written : report.written = r.written ++ fates.filterMap fun f => f.2.written?
  /-- Those that could not be processed are in the report from the beginning. -/
  failures : ∃ failures, report.failures = r.failures ++ failures ∧
    ((Report.ofResults results).failures ++ failures).Perm (fates.filterMap fun f => f.2.failure?)

section

variable {source : Path} {x : Outcome Text} {results : List (Path × Outcome Text)}
  {fates : List (Option Attempt × Entry)} {r report : Report}

theorem pages_cons_of_ok {text : Text} (hx : x.result = .ok text) :
    pages ((source, x) :: results) = (source, text) :: pages results := by
  simp [pages, hx, Except.toOption]

theorem pages_cons_of_error {e : ProcessError} (hx : x.result = .error e) :
    pages ((source, x) :: results) = pages results := by
  simp [pages, hx, Except.toOption]

theorem failures_cons_of_ok {text : Text} (hx : x.result = .ok text) :
    (Report.ofResults ((source, x) :: results)).failures = (Report.ofResults results).failures := by
  simp [Report.ofResults, hx]

theorem failures_cons_of_error {e : ProcessError} (hx : x.result = .error e) :
    (Report.ofResults ((source, x) :: results)).failures =
      ⟨source, e⟩ :: (Report.ofResults results).failures := by
  simp [Report.ofResults, hx]

theorem Continues.unprocessed {e : ProcessError} (hx : x.result = .error e)
    (h : Continues results fates r report) :
    Continues ((source, x) :: results) ((none, .failed ⟨source, e⟩) :: fates) r report := by
  obtain ⟨hwritten, failures, hfailures, hperm⟩ := h
  refine ⟨hwritten, failures, hfailures, ?_⟩
  rw [failures_cons_of_error hx]
  exact hperm.cons _

theorem Continues.failed {text : Text} (hx : x.result = .ok text) {path : Path} {e : ProcessError}
    (attempt? : Option Attempt) (h : Continues results fates (r.addFailure path e) report) :
    Continues ((source, x) :: results) ((attempt?, .failed ⟨path, e⟩) :: fates) r report := by
  obtain ⟨hwritten, failures, hfailures, hperm⟩ := h
  refine ⟨hwritten, ⟨path, e⟩ :: failures, ?_, ?_⟩
  · rw [hfailures, Report.addFailure, List.append_assoc]
    rfl
  · rw [failures_cons_of_ok hx]
    exact List.perm_middle.trans (hperm.cons _)

theorem Continues.wrote {text : Text} (hx : x.result = .ok text) {path : Path}
    (attempt? : Option Attempt) (h : Continues results fates (r.addWritten path) report) :
    Continues ((source, x) :: results) ((attempt?, .written path) :: fates) r report := by
  obtain ⟨hwritten, failures, hfailures, hperm⟩ := h
  refine ⟨?_, failures, hfailures, ?_⟩
  · rw [hwritten, Report.addWritten, List.append_assoc]
    rfl
  · rwa [failures_cons_of_ok hx]

end

/-- Writing each page to a file of its own settles all sources. -/
theorem writeEach_settles (fs : FileSystem (StateM σ)) (dest : Path)
    (results : List (Path × Outcome Text)) (r : Report) (s : σ) (log : List Attempt) :
    ∃ fates report s', List.Forall₂ (Settled dest) results fates ∧
      Continues results fates r report ∧
      writeEach fs dest r (pages results) s = (report, s') ∧
      writeEach fs.recorded dest r (pages results) (s, log) =
        (report, s', log ++ fates.filterMap Prod.fst) := by
  induction results generalizing r s log with
  | nil =>
    refine ⟨[], r, s, .nil, ⟨(List.append_nil _).symm, [], (List.append_nil _).symm, .nil⟩, rfl, ?_⟩
    rw [List.filterMap_nil, List.append_nil]
    rfl
  | cons first results ih =>
    obtain ⟨source, x⟩ := first
    cases hx : x.result with
    | error e =>
      obtain ⟨fates, report, s', hfates, hreport, hrun, hrecord⟩ := ih r s log
      rw [pages_cons_of_error hx]
      exact ⟨_, report, s', .cons (.unprocessed hx) hfates, hreport.unprocessed hx, hrun, hrecord⟩
    | ok text =>
      rw [pages_cons_of_ok hx, writeEach, writeEach]
      cases hname : Path.fileName? source with
      | none =>
        obtain ⟨fates, report, s', hfates, hreport, hrun, hrecord⟩ :=
          ih (r.addFailure source (.io source "no file name".toList)) s log
        exact ⟨_, report, s', .cons (.nameless hx hname) hfates, hreport.failed hx none, hrun,
          hrecord⟩
      | some name =>
        dsimp only
        rw [state_bind, state_bind, writeOne_eq, writeOne_recorded]
        cases fs.write (Path.join dest name) text s with
        | mk result s₁ =>
          obtain ⟨fates, report, s', hfates, hreport, hrun, hrecord⟩ :=
            ih (r.addAttempt ⟨Path.join dest name, text, result⟩) s₁
              (log ++ [⟨Path.join dest name, text, result⟩])
          rw [List.append_assoc] at hrecord
          cases result with
          | ok u =>
            exact ⟨_, report, s', .cons (.written hx hname) hfates, hreport.wrote hx (some _), hrun,
              hrecord⟩
          | error cause =>
            exact ⟨_, report, s', .cons (.unwritten hx hname) hfates, hreport.failed hx (some _),
              hrun, hrecord⟩

/-! ### Sources that could not be processed -/

theorem failures_ofResults (results : List (Path × Outcome Text)) :
    List.Forall₂ (fun x f => f.path = x.1 ∧ x.2.result = .error f.error)
      (results.filter fun x => !x.2.result.isOk) (Report.ofResults results).failures := by
  induction results with
  | nil => exact .nil
  | cons first results ih =>
    obtain ⟨source, x⟩ := first
    cases hx : x.result with
    | ok text =>
      rw [failures_cons_of_ok hx,
        List.filter_cons_of_neg (by simp [hx, Except.isOk, Except.toBool])]
      exact ih
    | error e =>
      rw [failures_cons_of_error hx,
        List.filter_cons_of_pos (by simp [hx, Except.isOk, Except.toBool])]
      exact .cons ⟨rfl, hx⟩ ih

/-- Either a source could not be processed, or all of them have texts, which are the pages. -/
theorem processed_cases (results : List (Path × Outcome Text)) :
    (∃ x ∈ results, x.2.result.isOk = false) ∧ (Report.ofResults results).isSuccess = false ∨
      (List.Forall₂ (fun x t => x.2.result = .ok t) results ((pages results).map Prod.snd) ∧
        (Report.ofResults results).failures = []) := by
  induction results with
  | nil => exact .inr ⟨.nil, rfl⟩
  | cons first results ih =>
    obtain ⟨source, x⟩ := first
    cases hx : x.result with
    | error e =>
      refine .inl ⟨⟨_, List.mem_cons_self, by rw [hx]; rfl⟩, ?_⟩
      rw [Report.isSuccess, failures_cons_of_error hx]
      rfl
    | ok text =>
      rw [Report.isSuccess, failures_cons_of_ok hx, pages_cons_of_ok hx]
      obtain ⟨⟨y, hy, hfailed⟩, hnone⟩ | ⟨htexts, hnone⟩ := ih
      · exact .inl ⟨⟨y, List.mem_cons_of_mem _ hy, hfailed⟩, hnone⟩
      · exact .inr ⟨.cons hx htexts, hnone⟩

/-! ### Runs of a job -/

/-- What the sources of a job come to, if files are read like this. -/
def outcomes (p : Processor) (read : ReadFile) (job : Job) : List (Path × Outcome Text) :=
  job.sources.map fun source => (source, { p with read }.processFile source)

/-- Is the destination a directory, once the sources have been processed? -/
def intoDirectory (fs : FileSystem (StateM σ)) (p : Processor) (job : Job) (s : σ) : Bool :=
  (job.toDirectory fs (job.process fs p s).2).1

/-- The state in which the pages of a job are written. -/
def ready (fs : FileSystem (StateM σ)) (p : Processor) (job : Job) (s : σ) : σ :=
  (job.toDirectory fs (job.process fs p s).2).2

/-- What is written, and the report, once the sources have been processed. -/
def finish (fs : FileSystem (StateM σ)) (dest : Path) (results : List (Path × Outcome Text)) :
    (intoDirectory : Bool) → StateM σ Report
  | true => writeEach fs dest (.ofResults results) (pages results)
  | false =>
    if !(Report.ofResults results).isSuccess || results.isEmpty then return .ofResults results
    else writeOne fs (.ofResults results) dest (concatenate ((pages results).map Prod.snd))

theorem run_eq (fs : FileSystem (StateM σ)) (p : Processor) (job : Job) (s : σ) :
    job.run fs p s =
      finish fs job.dest (job.process fs p s).1 (job.intoDirectory fs p s) (job.ready fs p s) := by
  unfold run
  rw [state_bind, state_bind]
  show _ = finish fs job.dest _ (job.toDirectory fs (job.process fs p s).2).1 _
  cases (job.toDirectory fs (job.process fs p s).2).1 <;> rfl

theorem toDirectory_recorded (fs : FileSystem (StateM σ)) (job : Job) (s : σ)
    (log : List Attempt) :
    job.toDirectory fs.recorded (s, log) =
      ((job.toDirectory fs s).1, (job.toDirectory fs s).2, log) := by
  unfold toDirectory
  split <;> rfl

theorem run_recorded (fs : FileSystem (StateM σ)) (p : Processor) (job : Job) (s : σ)
    (log : List Attempt) :
    job.run fs.recorded p (s, log) =
      finish fs.recorded job.dest (job.process fs p s).1 (job.intoDirectory fs p s)
        (job.ready fs p s, log) := by
  have hprocess : job.process fs.recorded p (s, log) =
      ((job.process fs p s).1, (job.process fs p s).2, log) := rfl
  rw [run_eq, intoDirectory, ready, hprocess, toDirectory_recorded]
  rfl

/-! ### Accounts of a run -/

theorem length_entries (fates : List (Option Attempt × Entry)) :
    (fates.filterMap fun f => f.2.written?).length +
      (fates.filterMap fun f => f.2.failure?).length = fates.length := by
  induction fates with
  | nil => rfl
  | cons fate fates ih =>
    obtain ⟨attempt?, path | failure⟩ := fate
    · show (fates.filterMap fun f => f.2.written?).length + 1 +
        (fates.filterMap fun f => f.2.failure?).length = fates.length + 1
      omega
    · show (fates.filterMap fun f => f.2.written?).length +
        ((fates.filterMap fun f => f.2.failure?).length + 1) = fates.length + 1
      omega

theorem Continues.account {dest : Path} {results : List (Path × Outcome Text)}
    {fates : List (Option Attempt × Entry)} {report : Report}
    (hfates : List.Forall₂ (Settled dest) results fates)
    (h : Continues results fates (.ofResults results) report) :
    DirectoryAccount dest results (fates.filterMap Prod.fst) report := by
  obtain ⟨hwritten, failures, hfailures, hperm⟩ := h
  rw [← hfailures] at hperm
  have hnone : (Report.ofResults results).written = [] := rfl
  rw [hnone, List.nil_append] at hwritten
  refine ⟨⟨fates, hfates, rfl, hwritten, hperm⟩, ?_⟩
  rw [hwritten, hperm.length_eq, length_entries, hfates.length_eq]

theorem finish_of_failed (fs : FileSystem (StateM σ)) (dest : Path)
    {results : List (Path × Outcome Text)}
    (h : (Report.ofResults results).isSuccess = false ∨ results = []) :
    finish fs dest results false = pure (.ofResults results) := by
  rw [finish, if_pos]
  obtain h | rfl := h
  · rw [h]
    rfl
  · rfl

theorem finish_of_processed (fs : FileSystem (StateM σ)) (dest : Path)
    {results : List (Path × Outcome Text)} (hne : results ≠ [])
    (h : (Report.ofResults results).failures = []) :
    finish fs dest results false =
      writeOne fs (.ofResults results) dest (concatenate ((pages results).map Prod.snd)) := by
  rw [finish, if_neg]
  rw [Report.isSuccess, h, List.isEmpty_eq_false_iff.2 hne]
  decide

theorem finish_account (fs : FileSystem (StateM σ)) (dest : Path)
    (results : List (Path × Outcome Text)) (into : Bool) (s : σ) (log : List Attempt) :
    ∃ attempts report s', finish fs dest results into s = (report, s') ∧
      finish fs.recorded dest results into (s, log) = (report, s', log ++ attempts) ∧
      Account dest results attempts report into := by
  cases into with
  | true =>
    obtain ⟨fates, report, s', hfates, hreport, hrun, hrecord⟩ :=
      writeEach_settles fs dest results (.ofResults results) s log
    exact ⟨_, report, s', hrun, hrecord, hreport.account hfates⟩
  | false =>
    obtain ⟨hfailed, hsuccess⟩ | ⟨htexts, hfailures⟩ := processed_cases results
    · rw [finish_of_failed fs dest (.inl hsuccess),
        finish_of_failed fs.recorded dest (.inl hsuccess)]
      refine ⟨[], .ofResults results, s, rfl, ?_, .incomplete hfailed rfl
        (failures_ofResults results)⟩
      rw [List.append_nil]
      rfl
    by_cases hne : results = []
    · rw [finish_of_failed fs dest (.inr hne), finish_of_failed fs.recorded dest (.inr hne)]
      refine ⟨[], .ofResults results, s, rfl, ?_, .empty hne rfl hfailures⟩
      rw [List.append_nil]
      rfl
    · have hjoined := Text.joined_concatenate ((pages results).map Prod.snd)
      rw [finish_of_processed fs dest hne hfailures,
        finish_of_processed fs.recorded dest hne hfailures, writeOne_eq, writeOne_recorded]
      refine ⟨_, _, _, rfl, rfl, ?_⟩
      cases (fs.write dest (concatenate ((pages results).map Prod.snd)) s).1 with
      | ok u => exact .written hne htexts hjoined rfl hfailures
      | error cause =>
        refine .unwritten hne htexts hjoined rfl ?_
        show (Report.ofResults results).failures ++ _ = _
        rw [hfailures]
        rfl

theorem exists_account {fs : FileSystem (StateM σ)} (hfs : fs.Consults) (p : Processor) (job : Job)
    (s : σ) (log : List Attempt) :
    ∃ read attempts,
      job.run fs.recorded p (s, log) =
        ((job.run fs p s).1, (job.run fs p s).2, log ++ attempts) ∧
      Account job.dest (job.outcomes p read) attempts (job.run fs p s).1
        (job.intoDirectory fs p s) := by
  obtain ⟨read, hread⟩ : ∃ read, (job.process fs p s).1 = job.outcomes p read := hfs _ _ s
  obtain ⟨attempts, report, s', hrun, hrecord, haccount⟩ :=
    finish_account fs job.dest (job.outcomes p read) (job.intoDirectory fs p s) (job.ready fs p s)
      log
  refine ⟨read, attempts, ?_⟩
  rw [run_recorded, run_eq, hread, hrun, hrecord]
  exact ⟨rfl, haccount⟩

/-! ### Several jobs, and the program -/

theorem failures_le {dest : Path} {results : List (Path × Outcome Text)}
    {attempts : List Attempt} {report : Report} {into : Bool}
    (h : Account dest results attempts report into) :
    report.failures.length ≤ results.length := by
  cases into with
  | true =>
    have := DirectoryAccount.length_eq h
    omega
  | false =>
    obtain ⟨-, -, hfailures⟩ | ⟨-, -, hfailures⟩ | ⟨-, -, -, -, hfailures⟩ |
      ⟨hne, -, -, -, hfailures⟩ := h
    · rw [← hfailures.length_eq]
      exact List.length_filter_le _ _
    · rw [hfailures]
      exact Nat.zero_le _
    · rw [hfailures]
      exact Nat.zero_le _
    · rw [hfailures]
      exact List.length_pos_iff.2 hne

end Job

/-- Several reports as one. -/
def Report.all (reports : List Report) : Report where
  written := reports.flatMap Report.written
  failures := reports.flatMap Report.failures
  notices := reports.flatMap Report.notices

namespace Job

theorem runAll_eq (fs : FileSystem (StateM σ)) (p : Processor) (jobs : List Job) :
    runAll fs p jobs = do return Report.all (← jobs.mapM (Job.run fs p)) := by
  induction jobs with
  | nil => rfl
  | cons job jobs ih =>
    rw [runAll, ih, List.mapM_cons]
    simp only [bind_assoc, pure_bind]
    rfl

theorem runAll_failures_le {fs : FileSystem (StateM σ)} (hfs : fs.Consults) (p : Processor)
    (jobs : List Job) (s : σ) :
    (runAll fs p jobs s).1.failures.length ≤ (jobs.flatMap Job.sources).length := by
  induction jobs generalizing s with
  | nil => exact Nat.le_refl _
  | cons job jobs ih =>
    obtain ⟨read, attempts, -, haccount⟩ := exists_account hfs p job s []
    have hfirst := failures_le haccount
    rw [outcomes, List.length_map] at hfirst
    have hrest := ih (job.run fs p s).2
    show ((job.run fs p s).1.failures ++
      (runAll fs p jobs (job.run fs p s).2).1.failures).length ≤ _
    rw [List.length_append, List.flatMap_cons, List.length_append]
    omega

end Job

namespace CommandLine

/-- How a run ends tells whether anything failed, and how much of how many. -/
structure Exit.Tells (e : Exit) (report : Report) (total : Nat) : Prop where
  code_eq : e.code = if report.failures = [] then 0 else 1
  failed : report.failures ≠ [] → e.messages.getLast? = some (.message .error
    ("Error: " ++ (toString report.failures.length ++ " of " ++ toString total ++
      " file(s) failed")))
  le_total : report.failures.length ≤ total

theorem Exit.tells_ofReport (before : List Line) {total : Nat} {report : Report}
    (h : report.failures.length ≤ total) :
    (Exit.ofReport before total report).Tells report total := by
  have hsuccess : report.isSuccess = true ↔ report.failures = [] := List.isEmpty_iff
  unfold Exit.ofReport
  by_cases hnone : report.failures = []
  · rw [if_pos (hsuccess.2 hnone)]
    exact ⟨(if_pos hnone).symm, fun hsome => absurd hnone hsome, h⟩
  · rw [if_neg (fun h => hnone (hsuccess.1 h))]
    exact ⟨(if_neg hnone).symm, fun _ => List.getLast?_concat, h⟩

theorem execute_of_ok {fs : FileSystem (StateM σ)} {c : Config} {p : Processor} {s s₁ : σ}
    (hp : setUp fs c.options s = (.ok p, s₁)) (jobs : List Job) :
    (execute fs c jobs s).1 = .ofReport (openingLines c) (jobs.flatMap Job.sources).length
      (Job.runAll fs p jobs s₁).1 := by
  unfold execute
  rw [state_bind, hp]
  rfl

theorem execute_of_error {fs : FileSystem (StateM σ)} {c : Config} {e : ProcessError} {s s₁ : σ}
    (hp : setUp fs c.options s = (.error e, s₁)) (jobs : List Job) :
    execute fs c jobs s = (.failed (openingLines c) e.message, s₁) := by
  unfold execute
  rw [state_bind, hp]
  rfl

end CommandLine

namespace Job

/-- A processor that knows the usual blocks, and no template. -/
def usualProcessor : Processor where
  options := {}
  marker := .build
  registry := .builtin
  read := fun path => .error (.notFound path)
  transform := .passthrough
  template := ⟨fun _ t => (t, [])⟩

/-- A tree with one page. -/
def onePageTree : FileTree := ⟨[([['a']], .directory), ([['a'], ['x']], .file (some ['X']))], []⟩

/-- A job with that page, one that is not there, and a source without a file name. -/
def mixedJob : Job := ⟨["a/x".toList, "a/y".toList, "a/..".toList], "o/".toList⟩

end Job

end PageBlocks
