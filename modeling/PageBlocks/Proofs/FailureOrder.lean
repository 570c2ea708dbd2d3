import PageBlocks.Proofs.Accounting

/-!
# The order of failures

A job that writes to a directory goes through its sources twice: all of them are processed, and then
the pages are written. Failures are reported as they come, so those of the second round stand behind
all those of the first:

    place   source   processed   written        in the report
    0       a        yes         no             third
    1       b        no                         first
    2       c        yes         yes
    3       d        no                         second

The report is in the order of the sources just if no source whose page could not be written stands
before one that could not be processed (`Job.failures_ordered_iff`). A job that writes one file
stops behind the first round if anything failed there, and otherwise its one file is all that can
fail.
-/

namespace PageBlocks

namespace Job

variable {σ : Type} {dest : Path} {results : List (Path × Outcome Text)}
  {fates : List (Option Attempt × Entry)} {r report : Report}

/-! ### Failures in their places -/

/-- The failures of the sources that were processed, or of those that were not, each with the place
of its source. -/
def failuresAt (processed : Bool) :
    List (Path × Outcome Text) → List (Option Attempt × Entry) → List (Nat × Failure)
  | x :: results, fate :: fates =>
    let here := if x.2.result.isOk = processed then fate.2.failure?.toList else []
    here.map (0, ·) ++ (failuresAt processed results fates).map fun (i, f) => (i + 1, f)
  | _, _ => []

/-- The source at this place could not be processed. -/
def Unprocessed (results : List (Path × Outcome Text)) (i : Nat) : Prop :=
  ∃ x e, results[i]? = some x ∧ x.2.result = .error e

/-- The source at this place was processed, and its page could not be written. -/
def Unwritten (results : List (Path × Outcome Text)) (fates : List (Option Attempt × Entry))
    (i : Nat) : Prop :=
  ∃ x text attempt? f, results[i]? = some x ∧ x.2.result = .ok text ∧
    fates[i]? = some (attempt?, .failed f)

/-- The failures of a report, each with the place of the source it belongs to. -/
structure Placed (fates : List (Option Attempt × Entry)) (placed : List (Nat × Failure))
    (failures : List Failure) : Prop where
  failures_eq : failures = placed.map Prod.snd
  belongs : ∀ i f, (i, f) ∈ placed ↔ ∃ attempt?, fates[i]? = some (attempt?, .failed f)

theorem Entry.failure?_eq_some_iff {entry : Entry} {f : Failure} :
    entry.failure? = some f ↔ entry = .failed f := by
  cases entry <;> simp [failure?]

theorem exists_at {α β : Type} {R : α → β → Prop} {xs : List α} {ys : List β}
    (h : List.Forall₂ R xs ys) {i : Nat} {x : α} (hx : xs[i]? = some x) :
    ∃ y, ys[i]? = some y ∧ R x y := by
  obtain ⟨hi, rfl⟩ := List.getElem?_eq_some_iff.1 hx
  have hi' : i < ys.length := h.length_eq ▸ hi
  exact ⟨ys[i], List.getElem?_eq_getElem hi', h.get hi hi'⟩

theorem mem_failuresAt {processed : Bool} {i : Nat} {f : Failure} :
    (i, f) ∈ failuresAt processed results fates ↔
      ∃ x attempt?, results[i]? = some x ∧ x.2.result.isOk = processed ∧
        fates[i]? = some (attempt?, .failed f) := by
  induction results generalizing fates i with
  | nil => simp [failuresAt]
  | cons x results ih =>
    cases fates with
    | nil => simp [failuresAt]
    | cons fate fates =>
      obtain ⟨attempt?, entry⟩ := fate
      rw [failuresAt, List.mem_append]
      cases i with
      | zero =>
        by_cases hx : x.2.result.isOk = processed
        · simp [hx, ← Entry.failure?_eq_some_iff, eq_comm]
        · simp [hx]
      | succ i => simp [ih]

/-- Places go up. -/
theorem pairwise_failuresAt (processed : Bool) (results : List (Path × Outcome Text))
    (fates : List (Option Attempt × Entry)) :
    (failuresAt processed results fates).Pairwise (·.1 < ·.1) := by
  induction results generalizing fates with
  | nil => exact .nil
  | cons x results ih =>
    cases fates with
    | nil => exact .nil
    | cons fate fates =>
      rw [failuresAt, List.pairwise_append]
      refine ⟨?_, ?_, ?_⟩
      · -- A source has one failure at most.
        split
        · cases fate.2.failure? <;> simp
        · exact .nil
      · exact (ih fates).map _ fun a b hab => Nat.succ_lt_succ hab
      · intro a ha b hb
        obtain ⟨f, -, rfl⟩ := List.mem_map.1 ha
        obtain ⟨c, -, rfl⟩ := List.mem_map.1 hb
        exact Nat.succ_pos _

section

variable {x : Path × Outcome Text} {fate : Option Attempt × Entry} {text : Text}

theorem map_failuresAt_cons {processed : Bool} (hx : x.2.result.isOk = processed) :
    (failuresAt processed (x :: results) (fate :: fates)).map Prod.snd =
      fate.2.failure?.toList ++ (failuresAt processed results fates).map Prod.snd := by
  simp [failuresAt, hx, Function.comp_def]

theorem map_failuresAt_cons_of_ne {processed : Bool} (hx : x.2.result.isOk ≠ processed) :
    (failuresAt processed (x :: results) (fate :: fates)).map Prod.snd =
      (failuresAt processed results fates).map Prod.snd := by
  simp [failuresAt, hx, Function.comp_def]

/-- A source that was processed adds to the failures of the second round only. -/
theorem map_failuresAt_cons_of_ok (hx : x.2.result = .ok text) :
    (failuresAt false (x :: results) (fate :: fates)).map Prod.snd =
        (failuresAt false results fates).map Prod.snd ∧
      (failuresAt true (x :: results) (fate :: fates)).map Prod.snd =
        fate.2.failure?.toList ++ (failuresAt true results fates).map Prod.snd := by
  have hok : x.2.result.isOk = true := by
    rw [hx]
    rfl
  exact ⟨map_failuresAt_cons_of_ne (by simp [hok]), map_failuresAt_cons hok⟩

/-- A source that was not processed adds to those of the first round only. -/
theorem map_failuresAt_cons_of_error {e : ProcessError} (hx : x.2.result = .error e) :
    (failuresAt false (x :: results) (fate :: fates)).map Prod.snd =
        fate.2.failure?.toList ++ (failuresAt false results fates).map Prod.snd ∧
      (failuresAt true (x :: results) (fate :: fates)).map Prod.snd =
        (failuresAt true results fates).map Prod.snd := by
  have herror : x.2.result.isOk = false := by
    rw [hx]
    rfl
  exact ⟨map_failuresAt_cons herror, map_failuresAt_cons_of_ne (by simp [herror])⟩

end

/-! ### The two rounds -/

/-- What is reported of the first round. -/
theorem map_failuresAt_false (h : List.Forall₂ (Settled dest) results fates) :
    (failuresAt false results fates).map Prod.snd = (Report.ofResults results).failures := by
  induction h with
  | nil => rfl
  | cons hsettled _ ih =>
    cases hsettled with
    | unprocessed result =>
      rw [(map_failuresAt_cons_of_error result).1, failures_cons_of_error result, ih]
      rfl
    | nameless result => rw [(map_failuresAt_cons_of_ok result).1, failures_cons_of_ok result, ih]
    | written result => rw [(map_failuresAt_cons_of_ok result).1, failures_cons_of_ok result, ih]
    | unwritten result => rw [(map_failuresAt_cons_of_ok result).1, failures_cons_of_ok result, ih]

/-- A record that goes on with `a` tells how the page was written that comes next. -/
theorem result_eq_of_record {fs : FileSystem (StateM σ)} {source name text : Text}
    {s s' : σ} {log later : List Attempt} {a : Attempt}
    (hname : Path.fileName? source = some name)
    (hrun : writeEach fs.recorded dest r ((source, text) :: pages results) (s, log) =
      (report, s', log ++ a :: later)) :
    ∃ s₁, writeEach fs.recorded dest (r.addAttempt a) (pages results) (s₁, log ++ [a]) =
      (report, s', (log ++ [a]) ++ later) := by
  rw [writeEach, hname] at hrun
  dsimp only at hrun
  rw [state_bind, writeOne_recorded] at hrun
  -- What was recorded is still in front when the other pages have been written.
  obtain ⟨fates, report', s'', -, -, -, hothers⟩ := writeEach_settles fs dest results
    (r.addAttempt ⟨Path.join dest name, text, (fs.write (Path.join dest name) text s).1⟩)
    (fs.write (Path.join dest name) text s).2
    (log ++ [⟨Path.join dest name, text, (fs.write (Path.join dest name) text s).1⟩])
  have hlog : log ++ [⟨Path.join dest name, text, (fs.write (Path.join dest name) text s).1⟩] ++
      fates.filterMap Prod.fst = log ++ a :: later :=
    congrArg (fun x => x.2.2) (hothers.symm.trans hrun)
  rw [List.append_assoc, List.singleton_append] at hlog
  obtain ⟨rfl, -⟩ := List.cons.inj (List.append_cancel_left hlog)
  exact ⟨_, by rw [hrun, List.append_assoc, List.singleton_append]⟩

/-- What is reported of the second round. -/
theorem failures_writeEach {fs : FileSystem (StateM σ)} {s s' : σ} {log : List Attempt}
    (h : List.Forall₂ (Settled dest) results fates)
    (hrun : writeEach fs.recorded dest r (pages results) (s, log) =
      (report, s', log ++ fates.filterMap Prod.fst)) :
    report.failures = r.failures ++ (failuresAt true results fates).map Prod.snd := by
  induction h generalizing r s log with
  | nil =>
    obtain ⟨rfl, -⟩ := Prod.mk.inj hrun
    exact (List.append_nil _).symm
  | cons hsettled _ ih =>
    cases hsettled with
    | unprocessed result =>
      rw [pages_cons_of_error result] at hrun
      rw [(map_failuresAt_cons_of_error result).2]
      exact ih hrun
    | nameless result unnamed =>
      rw [pages_cons_of_ok result, writeEach, unnamed] at hrun
      rw [(map_failuresAt_cons_of_ok result).2, ih hrun, Report.addFailure, List.append_assoc]
      rfl
    | written result named =>
      rw [pages_cons_of_ok result] at hrun
      obtain ⟨s₁, hrest⟩ := result_eq_of_record named hrun
      rw [(map_failuresAt_cons_of_ok result).2, ih hrest]
      rfl
    | unwritten result named =>
      rw [pages_cons_of_ok result] at hrun
      obtain ⟨s₁, hrest⟩ := result_eq_of_record named hrun
      rw [(map_failuresAt_cons_of_ok result).2, ih hrest]
      exact List.append_assoc ..

/-- The failure of a source that was processed is about the file that its page was to go to. -/
theorem path_of_settled {source text name : Text} {x : Outcome Text} {attempt? : Option Attempt}
    {f : Failure} (h : Settled dest (source, x) (attempt?, .failed f)) (hx : x.result = .ok text)
    (hname : Path.fileName? source = some name) : f.path = Path.join dest name := by
  cases h with
  | unprocessed result => cases hx.symm.trans result
  | nameless _ unnamed => cases hname.symm.trans unnamed
  | unwritten _ named =>
    obtain rfl := Option.some.inj (hname.symm.trans named)
    rfl

/-! ### Both rounds together -/

section

variable (h : List.Forall₂ (Settled dest) results fates)
include h

/-- All failures have a place in one of the two rounds. -/
theorem placed_of_settled (hreport : report.failures =
      (Report.ofResults results).failures ++ (failuresAt true results fates).map Prod.snd) :
    Placed fates (failuresAt false results fates ++ failuresAt true results fates)
      report.failures where
  failures_eq := by rw [hreport, List.map_append, map_failuresAt_false h]
  belongs := by
    intro i f
    rw [List.mem_append, mem_failuresAt, mem_failuresAt]
    constructor
    · rintro (⟨-, attempt?, -, -, hfate⟩ | ⟨-, attempt?, -, -, hfate⟩) <;> exact ⟨attempt?, hfate⟩
    · rintro ⟨attempt?, hfate⟩
      obtain ⟨x, hx, -⟩ := exists_at h.flip hfate
      cases hok : x.2.result.isOk with
      | false => exact .inl ⟨x, attempt?, hx, hok, hfate⟩
      | true => exact .inr ⟨x, attempt?, hx, hok, hfate⟩

theorem unprocessed_iff {i : Nat} :
    Unprocessed results i ↔ ∃ f, (i, f) ∈ failuresAt false results fates := by
  constructor
  · rintro ⟨⟨source, x⟩, e, hx, herror⟩
    obtain ⟨fate, hfate, hsettled⟩ := exists_at h hx
    obtain ⟨attempt?, f, rfl⟩ : ∃ attempt? f, fate = (attempt?, .failed f) := by
      cases hsettled with
      | unprocessed => exact ⟨_, _, rfl⟩
      | nameless result => cases herror.symm.trans result
      | written result => cases herror.symm.trans result
      | unwritten result => cases herror.symm.trans result
    refine ⟨f, mem_failuresAt.2 ⟨_, attempt?, hx, ?_, hfate⟩⟩
    dsimp only at herror ⊢
    rw [herror]
    rfl
  · rintro ⟨f, hf⟩
    obtain ⟨x, attempt?, hx, herror, -⟩ := mem_failuresAt.1 hf
    cases hresult : x.2.result with
    | error e => exact ⟨x, e, hx, hresult⟩
    | ok text =>
      rw [hresult] at herror
      cases herror

omit h in
theorem unwritten_iff {i : Nat} :
    Unwritten results fates i ↔ ∃ f, (i, f) ∈ failuresAt true results fates := by
  constructor
  · rintro ⟨x, text, attempt?, f, hx, hok, hfate⟩
    refine ⟨f, mem_failuresAt.2 ⟨x, attempt?, hx, ?_, hfate⟩⟩
    rw [hok]
    rfl
  · rintro ⟨f, hf⟩
    obtain ⟨x, attempt?, hx, hok, hfate⟩ := mem_failuresAt.1 hf
    cases hresult : x.2.result with
    | ok text => exact ⟨x, text, attempt?, f, hx, hresult, hfate⟩
    | error e =>
      rw [hresult] at hok
      cases hok

/-- Places go up in both rounds together if they do so from one round to the other. -/
theorem pairwise_rounds_iff :
    (failuresAt false results fates ++ failuresAt true results fates).Pairwise (·.1 < ·.1) ↔
      ∀ i j, Unprocessed results i → Unwritten results fates j → i < j := by
  rw [List.pairwise_append]
  simp only [unprocessed_iff h, unwritten_iff]
  constructor
  · rintro ⟨-, -, hcross⟩ i j ⟨f, hf⟩ ⟨g, hg⟩
    exact hcross _ hf _ hg
  · intro hcross
    refine ⟨pairwise_failuresAt false results fates, pairwise_failuresAt true results fates, ?_⟩
    rintro ⟨i, f⟩ hf ⟨j, g⟩ hg
    exact hcross i j ⟨f, hf⟩ ⟨g, hg⟩

end

/-- A job that writes one file has failures of one round only. -/
theorem failures_of_concatenation {attempts : List Attempt}
    (h : ConcatenationAccount dest results attempts report) :
    List.Forall₂ (fun x f => f.path = x.1 ∧ x.2.result = .error f.error)
        (results.filter fun x => !x.2.result.isOk) report.failures ∨
      (∀ x ∈ results, x.2.result.isOk = true) ∧
        ∃ cause, report.failures = [⟨dest, .io dest cause⟩] := by
  have hall : ∀ {texts}, List.Forall₂ (fun x t => x.2.result = .ok t) results texts →
      ∀ x ∈ results, x.2.result.isOk = true := by
    intro texts hprocessed x hx
    obtain ⟨i, hi⟩ := List.getElem?_of_mem hx
    obtain ⟨text, -, htext⟩ := exists_at hprocessed hi
    rw [htext]
    rfl
  cases h with
  | incomplete _ _ failures => exact .inl failures
  | empty results_eq _ failures_eq =>
    rw [results_eq, failures_eq]
    exact .inl .nil
  | written _ processed _ _ failures_eq =>
    have hnone : (results.filter fun x => !x.2.result.isOk) = [] :=
      List.filter_eq_nil_iff.2 fun x hx => by simp [hall processed x hx]
    rw [hnone, failures_eq]
    exact .inl .nil
  | unwritten _ processed _ _ failures_eq => exact .inr ⟨hall processed, _, failures_eq⟩

/-- Whether the failures of a job are reported in the order of its sources. A job that writes to a
directory reports first those sources that could not be processed, and then those whose page could
not be written. Each round is in the order of the sources, so the whole report is if no source of
the second kind stands before one of the first, and only then. A job that writes one file reports
the sources that could not be processed, in order, or else at most that the file could not be
written. -/
theorem failures_ordered_iff {fs : FileSystem (StateM σ)} (hfs : fs.Consults) (p : Processor)
    (job : Job) (s : σ) (log : List Attempt) :
    let failures := (job.run fs p s).1.failures
    ∃ read attempts,
      job.run fs.recorded p (s, log) =
        ((job.run fs p s).1, (job.run fs p s).2, log ++ attempts) ∧
      (job.process fs p s).1 = job.outcomes p read ∧
      match job.intoDirectory fs p s with
      | true =>
        ∃ fates, List.Forall₂ (Settled job.dest) (job.outcomes p read) fates ∧
          attempts = fates.filterMap Prod.fst ∧
          let placed := failuresAt false (job.outcomes p read) fates ++
            failuresAt true (job.outcomes p read) fates
          Placed fates placed failures ∧
            (placed.Pairwise (·.1 < ·.1) ↔ ∀ i j, Unprocessed (job.outcomes p read) i →
              Unwritten (job.outcomes p read) fates j → i < j)
      | false =>
        List.Forall₂ (fun x f => f.path = x.1 ∧ x.2.result = .error f.error)
            ((job.outcomes p read).filter fun x => !x.2.result.isOk) failures ∨
          (∀ x ∈ job.outcomes p read, x.2.result.isOk = true) ∧
            ∃ cause, failures = [⟨job.dest, .io job.dest cause⟩] := by
  intro failures
  obtain ⟨read, hread⟩ : ∃ read, (job.process fs p s).1 = job.outcomes p read := hfs _ _ s
  obtain ⟨attempts, report, s', hrun, hrecord, haccount⟩ :=
    finish_account fs job.dest (job.outcomes p read) (job.intoDirectory fs p s) (job.ready fs p s)
      log
  have hreport : job.run fs p s = (report, s') := by rw [run_eq, hread, hrun]
  have hfailures : failures = report.failures := by rw [← congrArg (·.1.failures) hreport]
  refine ⟨read, attempts, by rw [run_recorded, hread, hrecord, hreport], hread, ?_⟩
  rw [hfailures]
  cases hinto : job.intoDirectory fs p s with
  | true =>
    rw [hinto] at hrecord haccount
    obtain ⟨⟨fates, hfates, rfl, -, -⟩, -⟩ := haccount
    exact ⟨fates, hfates, rfl, placed_of_settled hfates (failures_writeEach hfates hrecord),
      pairwise_rounds_iff hfates⟩
  | false =>
    rw [hinto] at haccount
    exact failures_of_concatenation haccount

/-- A tree with one page, and with a file where a directory is to be. -/
def barredTree : FileTree where
  nodes := [(["a.html".toList], .file (some ['A'])), (["out".toList], .file (some ['x']))]
  current := []

/-- A job whose first source is not there, and whose second one cannot be written. -/
def orderedJob : Job := ⟨["b.html".toList, "a.html".toList], "out/".toList⟩

/-- The same job with its sources in the other order. -/
def crossedJob : Job := ⟨["a.html".toList, "b.html".toList], "out/".toList⟩

/-- What is reported in either case. -/
def barredFailures : List Failure :=
  [⟨"b.html".toList, .fileNotFound "b.html".toList⟩,
    ⟨"out/a.html".toList, .io "out/a.html".toList "File exists (os error 17)".toList⟩]

theorem failures_ordered_iff_orderedJob :
    FileTree.system.Consults ∧ ∃ fates placed,
      List.Forall₂ (Settled orderedJob.dest) (orderedJob.outcomes usualProcessor barredTree.read)
        fates ∧ Placed fates placed barredFailures ∧ placed.Pairwise (·.1 < ·.1) := by
  obtain ⟨read, attempts, -, hread, haccount⟩ :=
    failures_ordered_iff FileSystem.consults_system usualProcessor orderedJob barredTree []
  have hdest : orderedJob.intoDirectory FileTree.system usualProcessor barredTree = true := rfl
  have hfailures : (orderedJob.run FileTree.system usualProcessor barredTree).1.failures =
      barredFailures := by decide +kernel
  have houtcomes : orderedJob.outcomes usualProcessor read =
      orderedJob.outcomes usualProcessor barredTree.read := hread.symm
  rw [hdest, hfailures, houtcomes] at haccount
  obtain ⟨fates, hfates, -, hplaced, hiff⟩ := haccount
  refine ⟨FileSystem.consults_system, fates, _, hfates, hplaced, hiff.2 ?_⟩
  have hresults : (orderedJob.outcomes usualProcessor barredTree.read).map (·.2.result.isOk) =
      [false, true] := by decide +kernel
  rintro i j ⟨x, e, hx, herror⟩ ⟨y, text, -, -, hy, hok, -⟩
  have hi := congrArg (·[i]?) hresults
  have hj := congrArg (·[j]?) hresults
  simp only [List.getElem?_map, hx, hy, Option.map_some, herror, hok, Except.isOk, Except.toBool]
    at hi hj
  -- Only the first source was not processed, so it is not the one that was not written.
  rcases i with _ | _ | i
  · rcases j with _ | j
    · simp at hj
    · exact Nat.succ_pos j
  · simp at hi
  · simp at hi

/-- The page that could not be written comes first among the sources, and last in the report. -/
theorem not_failures_ordered_crossedJob :
    (crossedJob.run FileTree.system usualProcessor barredTree).1.failures = barredFailures ∧
      ¬ ∃ fates placed,
        List.Forall₂ (Settled crossedJob.dest) (crossedJob.outcomes usualProcessor barredTree.read)
          fates ∧ Placed fates placed barredFailures ∧ placed.Pairwise (·.1 < ·.1) := by
  refine ⟨by decide +kernel, ?_⟩
  rintro ⟨fates, placed, hfates, hplaced, hpairwise⟩
  have ha : ({ usualProcessor with read := barredTree.read }.processFile "a.html".toList).result =
      .ok ['A'] := by decide +kernel
  obtain ⟨⟨i, f⟩, ⟨j, g⟩, rfl⟩ : ∃ a b, placed = [a, b] := by
    have hlength := congrArg List.length hplaced.failures_eq
    rw [List.length_map] at hlength
    exact List.length_eq_two.1 hlength.symm
  obtain ⟨rfl, hg⟩ := List.cons.inj hplaced.failures_eq.symm
  have hlt : i < j := by simpa using hpairwise
  obtain ⟨attempt?, hi⟩ := (hplaced.belongs i _).1 List.mem_cons_self
  obtain ⟨attempt?', hj⟩ := (hplaced.belongs j _).1 (List.mem_cons_of_mem _ List.mem_cons_self)
  cases hfates with
  | @cons _ fate _ later hsettled hlater =>
    have hone : later.length = 1 := hlater.length_eq.symm
    rcases i with _ | i
    · -- The first source did not come to the failure of the second one.
      have hname : Path.fileName? "a.html".toList = some "a.html".toList := by decide +kernel
      have hpath : Path.join crossedJob.dest "a.html".toList ≠ "b.html".toList := by decide +kernel
      obtain rfl := Option.some.inj hi
      exact hpath (path_of_settled hsettled ha hname).symm
    · -- Behind the place of the second source there is none.
      obtain ⟨hbound, -⟩ := List.getElem?_eq_some_iff.1 hj
      rw [List.length_cons] at hbound
      omega

end Job

end PageBlocks
