import PageBlocks.Proofs.Accounting
import PageBlocks.Proofs.Tree

/-!
# Sources of one name

A job that writes to a directory names each file after its source, by the last name alone. So of
all sources with one file name only the last is held in the end, although all of them are reported
as written:

    source   page   written   held by out/x, out/y
    a/x      A      out/x     no, unless A = B
    b/x      B      out/x     yes
    b/y      C      out/y     yes

All sources are held just if those of one name come to the same page (`Job.all_held_iff`).
-/

namespace PageBlocks

namespace Job

/-! ### Files written one after the other -/

/-- Each page is written to a file in `dest` that is named after its source. -/
inductive Wrote (dest : Path) : FileTree → List (Path × Text) → FileTree → Prop where
  | nil (t : FileTree) : Wrote dest t [] t
  | cons {t t₁ t' : FileTree} {source : Path} {text name : Text} {rest : List (Path × Text)}
      (named : Path.fileName? source = some name)
      (written : t.write (Path.join dest name) text = (.ok (), t₁))
      (others : Wrote dest t₁ rest t') :
      Wrote dest t ((source, text) :: rest) t'

section

variable {dest : Path} {t t' : FileTree} {ps qs : List (Path × Text)} {source : Path}
  {text name old : Text} {r report : Report}

/-- An attempt to write that went well is a file of the tree. -/
theorem write_eq_of_system {p : Path} (h : (FileTree.system.write p text t).1 = .ok ()) :
    t.write p text = (.ok (), (FileTree.system.write p text t).2) := by
  have hresult : (FileTree.system.write p text t).1 =
      (t.write p text).1.mapError fun f => f.text.toList := rfl
  have hstate : (FileTree.system.write p text t).2 = (t.write p text).2 := rfl
  rw [hresult] at h
  rw [hstate]
  cases hwrite : t.write p text with
  | mk result t₁ =>
    rw [hwrite] at h
    cases result with
    | ok u => rfl
    | error f => cases h

theorem ok_of_addAttempt {a : Attempt} (h : (r.addAttempt a).failures = []) :
    r.failures = [] ∧ a.result = .ok () := by
  unfold Report.addAttempt at h
  cases ha : a.result with
  | ok u =>
    rw [ha] at h
    exact ⟨h, rfl⟩
  | error cause =>
    rw [ha] at h
    exact absurd h (List.append_ne_nil_of_right_ne_nil _ (List.cons_ne_nil _ _))

theorem wrote_of_writeEach (hrun : writeEach FileTree.system dest r ps t = (report, t'))
    (hok : report.failures = []) : r.failures = [] ∧ Wrote dest t ps t' := by
  induction ps generalizing r t with
  | nil =>
    obtain ⟨rfl, rfl⟩ : r = report ∧ t = t' := Prod.mk.inj hrun
    exact ⟨hok, .nil t⟩
  | cons first rest ih =>
    obtain ⟨source, text⟩ := first
    rw [writeEach] at hrun
    cases hname : Path.fileName? source with
    | none =>
      rw [hname] at hrun
      exact absurd (ih hrun).1 (List.append_ne_nil_of_right_ne_nil _ (List.cons_ne_nil _ _))
    | some name =>
      rw [hname] at hrun
      dsimp only at hrun
      rw [state_bind, writeOne_eq] at hrun
      obtain ⟨hattempt, hrest⟩ := ih hrun
      obtain ⟨hnone, hwrite⟩ := ok_of_addAttempt hattempt
      exact ⟨hnone, .cons hname (write_eq_of_system hwrite) hrest⟩

namespace Wrote

theorem named (h : Wrote dest t ps t') (hp : (source, text) ∈ ps) :
    ∃ name, Path.fileName? source = some name := by
  induction h with
  | nil => cases hp
  | cons named _ _ ih =>
    obtain heq | hp := List.mem_cons.1 hp
    · cases heq
      exact ⟨_, named⟩
    · exact ih hp

theorem exists_of_append (h : Wrote dest t (ps ++ qs) t') :
    ∃ t₁, Wrote dest t ps t₁ ∧ Wrote dest t₁ qs t' := by
  induction ps generalizing t with
  | nil => exact ⟨t, .nil t, h⟩
  | cons p ps ih =>
    rw [List.cons_append] at h
    obtain _ | ⟨named, written, others⟩ := h
    obtain ⟨t₁, hps, hqs⟩ := ih others
    exact ⟨t₁, .cons named written hps, hqs⟩

/-- A file stays what it is while files of other names are written. -/
theorem contents_of_ne (h : Wrote dest t ps t') (hname : Path.IsName name)
    (hothers : ∀ p ∈ ps, Path.fileName? p.1 ≠ some name)
    (hold : t.contents (Path.join dest name) = .ok old) :
    t'.contents (Path.join dest name) = .ok old := by
  induction h with
  | nil => exact hold
  | @cons t t₁ t' source text other rest named written others ih =>
    obtain ⟨hother, hothers⟩ := List.forall_mem_cons.1 hothers
    refine ih hothers (FileTree.contents_of_write_of_ne written ?_ hold)
    intro t place place' hplace hplace'
    refine FileTree.ne_of_locate_join (Path.isName_of_fileName? named) hname ?_ hplace hplace'
    rintro rfl
    exact hother named

/-- The last page of a name is held. -/
theorem contents (h : Wrote dest t (ps ++ (source, text) :: qs) t')
    (hsource : Path.fileName? source = some name)
    (hothers : ∀ p ∈ qs, Path.fileName? p.1 ≠ some name) :
    t'.contents (Path.join dest name) = .ok text := by
  obtain ⟨t₁, -, h⟩ := h.exists_of_append
  obtain _ | ⟨named, written, others⟩ := h
  rw [hsource] at named
  cases named
  exact others.contents_of_ne (Path.isName_of_fileName? hsource) hothers
    (FileTree.contents_of_write written)

end Wrote

end

/-! ### Jobs without failures -/

theorem exists_of_failures_eq_nil {results : List (Path × Outcome Text)}
    (h : (Report.ofResults results).failures = []) {x : Path × Outcome Text} (hx : x ∈ results) :
    ∃ text, x.2.result = .ok text := by
  have hnone := List.filterMap_eq_nil_iff.1 h x hx
  dsimp only at hnone
  split at hnone
  case h_1 text htext => exact ⟨text, htext⟩
  case h_2 => cases hnone

theorem exists_of_mem_pages {results : List (Path × Outcome Text)} {p : Path × Text}
    (h : p ∈ pages results) : ∃ x ∈ results, x.1 = p.1 := by
  obtain ⟨x, hx, hp⟩ := List.mem_filterMap.1 h
  obtain ⟨text, -, rfl⟩ := Option.map_eq_some_iff.1 hp
  exact ⟨x, hx, rfl⟩

theorem exists_last_of_mem {α : Type} {P : α → Prop} {xs : List α} {x : α} (hx : x ∈ xs)
    (hP : P x) :
    ∃ before last after, xs = before ++ last :: after ∧ P last ∧ ∀ y ∈ after, ¬ P y := by
  induction xs generalizing x with
  | nil => cases hx
  | cons y ys ih =>
    by_cases hys : ∃ z ∈ ys, P z
    · obtain ⟨z, hz, hPz⟩ := hys
      obtain ⟨before, last, after, rfl, hlast, hafter⟩ := ih hz hPz
      exact ⟨y :: before, last, after, rfl, hlast, hafter⟩
    · obtain rfl | hx := List.mem_cons.1 hx
      · exact ⟨[], x, ys, rfl, hP, fun z hz hPz => hys ⟨z, hz, hPz⟩⟩
      · exact absurd ⟨x, hx, hP⟩ hys

/-- What a source comes to, if it is processed with the files of a tree. -/
def result (p : Processor) (t : FileTree) (source : Path) : Except ProcessError Text :=
  ({ p with read := t.read }.processFile source).result

/-- After a job that began with `t`, the file that is named after the source is its page. -/
def Held (p : Processor) (job : Job) (t t' : FileTree) (source : Path) : Prop :=
  ∃ name text, Path.fileName? source = some name ∧ result p t source = .ok text ∧
    t'.contents (Path.join job.dest name) = .ok text

section

variable {p : Processor} {job : Job} {t t' : FileTree} {report : Report}

theorem wrote_of_run (hdir : (job.toDirectory FileTree.system t).1 = true)
    (hrun : job.run FileTree.system p t = (report, t')) (hok : report.failures = []) :
    (Report.ofResults (job.outcomes p t.read)).failures = [] ∧
      Wrote job.dest t (pages (job.outcomes p t.read)) t' := by
  have hprocess : job.process FileTree.system p t = (job.outcomes p t.read, t) := rfl
  have hready : job.ready FileTree.system p t = t := by
    rw [ready, hprocess, toDirectory]
    split <;> rfl
  have hinto : job.intoDirectory FileTree.system p t = true := by
    rw [intoDirectory, hprocess]
    exact hdir
  rw [run_eq, hprocess, hinto, hready] at hrun
  exact wrote_of_writeEach hrun hok

variable (hdir : (job.toDirectory FileTree.system t).1 = true)
  (hrun : job.run FileTree.system p t = (report, t')) (hok : report.failures = [])

include hdir hrun hok

theorem processed_of_run {source : Path} (hsource : source ∈ job.sources) :
    ∃ name text, Path.fileName? source = some name ∧ result p t source = .ok text := by
  obtain ⟨hnone, hwrote⟩ := wrote_of_run hdir hrun hok
  have hmem : (source, { p with read := t.read }.processFile source) ∈ job.outcomes p t.read :=
    List.mem_map_of_mem hsource
  obtain ⟨text, htext⟩ := exists_of_failures_eq_nil hnone hmem
  have hpage : (source, text) ∈ pages (job.outcomes p t.read) := by
    refine List.mem_filterMap.2 ⟨_, hmem, ?_⟩
    dsimp only at htext ⊢
    rw [htext]
    rfl
  obtain ⟨name, hname⟩ := hwrote.named hpage
  exact ⟨name, text, hname, htext⟩

/-- The last source of its name is held. -/
theorem held_of_run {before after : List Path} {last : Path}
    (hsources : job.sources = before ++ last :: after)
    (hafter : ∀ source ∈ after, Path.fileName? source ≠ Path.fileName? last) :
    job.Held p t t' last := by
  have hlast : last ∈ job.sources := hsources ▸ List.mem_append_right _ List.mem_cons_self
  obtain ⟨name, text, hname, htext⟩ := processed_of_run hdir hrun hok hlast
  refine ⟨name, text, hname, htext, ?_⟩
  obtain ⟨-, hwrote⟩ := wrote_of_run hdir hrun hok
  rw [outcomes, hsources, List.map_append, List.map_cons, pages, List.filterMap_append] at hwrote
  change Wrote _ _ (pages _ ++ pages _) _ at hwrote
  rw [pages_cons_of_ok htext] at hwrote
  refine hwrote.contents hname fun page hpage => ?_
  obtain ⟨x, hx, hpath⟩ := exists_of_mem_pages hpage
  obtain ⟨source, hsource, rfl⟩ := List.mem_map.1 hx
  rw [← hpath, ← hname]
  exact hafter source hsource

/-- A job that writes to a directory without any failure has processed all its sources, and holds
the last source of each name. It holds all of them just if sources of one name come to the same. -/
theorem all_held_iff :
    (∀ source ∈ job.sources,
      ∃ name text, Path.fileName? source = some name ∧ result p t source = .ok text) ∧
    (∀ before last after, job.sources = before ++ last :: after →
      (∀ source ∈ after, Path.fileName? source ≠ Path.fileName? last) → job.Held p t t' last) ∧
    ((∀ source ∈ job.sources, job.Held p t t' source) ↔
      ∀ source ∈ job.sources, ∀ other ∈ job.sources,
        Path.fileName? source = Path.fileName? other → result p t source = result p t other) := by
  refine ⟨fun _ => processed_of_run hdir hrun hok, fun _ _ _ => held_of_run hdir hrun hok, ?_, ?_⟩
  · intro hheld source hsource other hother hnames
    obtain ⟨name, text, hname, htext, hcontents⟩ := hheld source hsource
    obtain ⟨name', text', hname', htext', hcontents'⟩ := hheld other hother
    rw [hnames, hname'] at hname
    cases hname
    rw [htext, htext', Except.ok.inj (hcontents.symm.trans hcontents')]
  · intro hsame source hsource
    obtain ⟨before, last, after, hsources, hlast, hafter⟩ :=
      exists_last_of_mem (P := fun other => Path.fileName? other = Path.fileName? source) hsource
        rfl
    obtain ⟨name, text, hname, htext, hcontents⟩ := held_of_run hdir hrun hok hsources
      fun other hother hnames => hafter other hother (hnames.trans hlast)
    have hmem : last ∈ job.sources := hsources ▸ List.mem_append_right _ List.mem_cons_self
    exact ⟨name, text, hlast ▸ hname, (hsame source hsource last hmem hlast.symm).trans htext,
      hcontents⟩

end

/-- Two directories with a file of one name. -/
def namesakeTree : FileTree where
  nodes := [
    ([['a']], .directory), ([['a'], ['x']], .file (some ['A'])),
    ([['b']], .directory), ([['b'], ['x']], .file (some ['B'])),
    ([['b'], ['y']], .file (some ['C']))]
  current := []

def otherNamesJob : Job := ⟨["a/x".toList, "b/y".toList], "out/".toList⟩

theorem all_held_iff_otherNamesJob :
    (otherNamesJob.run FileTree.system usualProcessor namesakeTree).1.failures = [] ∧
      ∀ source ∈ otherNamesJob.sources, otherNamesJob.Held usualProcessor namesakeTree
        (otherNamesJob.run FileTree.system usualProcessor namesakeTree).2 source := by
  have hdir : (otherNamesJob.toDirectory FileTree.system namesakeTree).1 = true := by
    decide +kernel
  have hok : (otherNamesJob.run FileTree.system usualProcessor namesakeTree).1.failures = [] := by
    decide +kernel
  have hnames : ∀ source ∈ otherNamesJob.sources, ∀ other ∈ otherNamesJob.sources,
      Path.fileName? source = Path.fileName? other →
        result usualProcessor namesakeTree source = result usualProcessor namesakeTree other := by
    decide +kernel
  exact ⟨hok, (all_held_iff hdir rfl hok).2.2.2 hnames⟩

def namesakeJob : Job := ⟨["a/x".toList, "b/x".toList], "out/".toList⟩

/-- Nothing failed, but the page of `a/x` is gone. -/
theorem not_all_held_namesakeJob :
    (namesakeJob.toDirectory FileTree.system namesakeTree).1 = true ∧
      (namesakeJob.run FileTree.system usualProcessor namesakeTree).1.failures = [] ∧
      ¬ ∀ source ∈ namesakeJob.sources, namesakeJob.Held usualProcessor namesakeTree
        (namesakeJob.run FileTree.system usualProcessor namesakeTree).2 source := by
  refine ⟨by decide +kernel, by decide +kernel, fun hheld => ?_⟩
  obtain ⟨name, text, hname, htext, hcontents⟩ := hheld "a/x".toList List.mem_cons_self
  have hx : Path.fileName? "a/x".toList = some ['x'] := by decide +kernel
  have hA : result usualProcessor namesakeTree "a/x".toList = .ok ['A'] := by decide +kernel
  have hB : (namesakeJob.run FileTree.system usualProcessor namesakeTree).2.contents
      (Path.join namesakeJob.dest ['x']) = .ok ['B'] := by decide +kernel
  rw [hx] at hname
  cases hname
  rw [hA] at htext
  cases htext
  rw [hB] at hcontents
  cases hcontents

end Job

end PageBlocks
