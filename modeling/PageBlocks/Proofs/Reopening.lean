import PageBlocks.Proofs.Denotation
import PageBlocks.Proofs.Folding
import PageBlocks.Proofs.OpenFiles

/-!
# Files that are asked for again

A file is open from when it was asked for and opened until all that its text leads to is done. Paths
are relative to the file that they stand in, so the same file is hardly ever asked for with the same
path twice.

    a.html                  open: a.html
      └─ b/c.html           open: a.html, b/c.html
           └─ ../a.html     asked for as b/../a.html

The names in the list of open files are the folded paths of the open files (`mem_chain_iff`), and
folding tells respellings from all other paths. So a run that asks for an open file ends there with
the error about it, however the path is spelled this time (`Processor.respellings_refused`).
-/

namespace PageBlocks

open Relation (ReflTransGen)

/-- The file is open at the moment `k`. It has been from the beginning, as those in `top` have, or
it was asked for and opened, and `k` follows from that. -/
def Moment.HasOpen (p : Processor) (top : List Path) (k : Moment) (file : Path) : Prop :=
  file ∈ top ∨ ∃ asked opened : Moment, asked.call = .file file ∧ Leads p asked opened ∧
    ReflTransGen (Leads p) opened k

section

variable {p : Processor} {k k' : Moment}

/-- A call that is not for a file leaves the open files as they are. -/
theorem chain_of_leads (h : Leads p k k') :
    ((∀ path, k.call ≠ .file path) ∧ k'.chain = k.chain) ∨
      ∃ path, k.call = .file path ∧ k'.chain = k.chain ++ [Path.normalize path] := by
  cases h with
  | block => exact Or.inl ⟨(fun _ h => by cases h), rfl⟩
  | content => exact Or.inl ⟨(fun _ h => by cases h), rfl⟩
  | file => exact Or.inl ⟨(fun _ h => by cases h), rfl⟩
  | opened => exact Or.inr ⟨_, rfl, rfl⟩

theorem chain_isPrefix (h : ReflTransGen (Leads p) k k') : k.chain <+: k'.chain := by
  induction h with
  | refl => exact List.prefix_rfl
  | tail _ hstep ih =>
    rcases chain_of_leads hstep with ⟨-, hchain⟩ | ⟨path, -, hchain⟩
    · rw [hchain]
      exact ih
    · rw [hchain]
      exact ih.trans (List.prefix_append _ _)

variable {top : List Path} {call : Call}

/-- The open files by their folded paths. -/
theorem mem_chain_iff (h : ReflTransGen (Leads p) ⟨call, top.map Path.normalize, 0⟩ k)
    (name : Path) : name ∈ k.chain ↔ ∃ file, k.HasOpen p top file ∧ name = Path.normalize file := by
  constructor
  · intro hname
    induction h with
    | refl =>
      obtain ⟨file, hfile, rfl⟩ := List.mem_map.1 hname
      exact ⟨file, Or.inl hfile, rfl⟩
    | @tail k k' hk hstep ih =>
      have hkeep : name ∈ k.chain → ∃ file, k'.HasOpen p top file ∧ name = Path.normalize file := by
        intro hold
        obtain ⟨file, hfile, rfl⟩ := ih hold
        refine ⟨file, hfile.imp_right ?_, rfl⟩
        rintro ⟨asked, opened, hasked, hopened, hreached⟩
        exact ⟨asked, opened, hasked, hopened, hreached.tail hstep⟩
      rcases chain_of_leads hstep with ⟨-, hchain⟩ | ⟨path, hcall, hchain⟩
      · rw [hchain] at hname
        exact hkeep hname
      · rw [hchain] at hname
        rcases List.mem_append.1 hname with hold | hnew
        · exact hkeep hold
        · exact ⟨path, Or.inr ⟨k, k', hcall, hstep, .refl⟩, List.mem_singleton.1 hnew⟩
  · rintro ⟨file, hfile | ⟨asked, opened, hasked, hopened, hreached⟩, rfl⟩
    · exact (chain_isPrefix h).subset (List.mem_map_of_mem hfile)
    · refine (chain_isPrefix hreached).subset ?_
      rcases chain_of_leads hopened with ⟨hnone, -⟩ | ⟨path, hcall, hchain⟩
      · exact absurd hasked (hnone file)
      · rw [hasked] at hcall
        cases hcall
        rw [hchain]
        exact List.mem_append_right _ (List.mem_singleton_self _)

end

/-- A run that came to `outcome` and knew each open file again. -/
structure Watchful (p : Processor) (top : List Path) (outcome : Outcome Text)
    (run : Except ProcessError Text × Run) : Prop where
  result_eq : run.1 = outcome.result
  notices_eq : run.2.notices = outcome.notices
  chain_iff : ∀ k ∈ run.2.starts, ∀ name,
    name ∈ k.chain ↔ ∃ file, k.HasOpen p top file ∧ name = Path.normalize file
  /-- It was over when an open file was asked for. -/
  refused : ∀ k ∈ run.2.starts, ∀ path file, k.call = .file path → k.HasOpen p top file →
    Path.Respelling file path → ∃ location,
      outcome.result = .error (.includeCycle location (k.chain ++ [Path.normalize path]))

/-- What mirrors the processor from the beginning is watchful. -/
theorem Watchful.of_mirrors {p : Processor} (hrecursive : p.options.recursive = true)
    {top : List Path} {call : Call} {x : Act Text} {y : Outcome Text}
    (h : Mirrors p (ReflTransGen (Leads p) ⟨call, top.map Path.normalize, 0⟩) NoHandler
      { chain := top.map Path.normalize } x y) :
    Watchful p top y (x { chain := top.map Path.normalize }) := by
  obtain ⟨ks, ends, rs, hstate, -, haccount⟩ := h.state_eq
  rw [show x { chain := top.map Path.normalize } = (y.result, _) from
    Prod.ext h.result_eq hstate]
  refine ⟨rfl, rfl, fun k hk name => mem_chain_iff (haccount.reached k hk) name, ?_⟩
  intro k hk path file hcall hopen hrespelling
  have hname : Path.normalize path ∈ k.chain := by
    rw [← hrespelling.normalize_eq]
    exact (mem_chain_iff (haccount.reached k hk) _).2 ⟨file, hopen, rfl⟩
  obtain ⟨location, -, hresult⟩ := haccount.result_of_refused hrecursive hk hcall (Or.inl hname)
  exact ⟨location, hresult⟩

namespace Processor

variable {p : Processor}

theorem watchful_processText (hrecursive : p.options.recursive = true) (dir : Path) (text : Text) :
    Watchful p [] (p.processText dir text) (Run.processText p dir text) :=
  .of_mirrors hrecursive (mirrors_process none dir text)

theorem watchful_processFile (hrecursive : p.options.recursive = true) (page : Path) :
    Watchful p [page] (p.processFile page) (Run.processFile p page) := by
  have hunread : ∀ e, Watchful p [page] (.fail e) (.error e, { chain := [Path.normalize page] }) :=
    fun e => ⟨rfl, rfl, by simp, by simp⟩
  unfold processFile Run.processFile
  cases p.read page with
  | error e =>
    cases e with
    | notFound => exact hunread _
    | failed => exact hunread _
  | ok text =>
    have hmirrors : Mirrors p
        (ReflTransGen (Leads p) ⟨.text text, [page].map Path.normalize, 0⟩) NoHandler
        { chain := [page].map Path.normalize } _ _ :=
      mirrors_process (some page) (Path.directory page) text
    exact .of_mirrors hrecursive hmirrors

/-- An `include` block that counts, and whose file can be read, fails if the file is open. -/
theorem renderBlock_of_open (hrecursive : p.options.recursive = true) {site : Site} {b : Block}
    {d : Directive} (hknown : ∀ c ∈ b.directives, p.registry.contains c.type = true)
    (hd : p.audience.select? b.directives = some d)
    (hget : p.registry.get? d.type = some Handler.insertFile)
    (htarget : (unquote d.args).isEmpty = false) {text : Text}
    (hread : p.read (Path.join site.baseDir (unquote d.args)) = .ok text)
    (hopen : Path.normalize (Path.join site.baseDir (unquote d.args)) ∈ site.chain)
    (expand : Nat → Text → Outcome Text) (deeper? : Option (Site → Text → Outcome Text)) :
    p.renderBlock site expand (p.insertFile deeper? site) b =
      .fail (.includeCycle ⟨site.source, b.line⟩
        (site.chain ++ [Path.normalize (Path.join site.baseDir (unquote d.args))])) := by
  have hnone : b.directives.find? (fun c => !p.registry.contains c.type) = none := by
    simpa using hknown
  have hanswer : Handler.insertFile.handle (p.context site b) d b.content =
      pure (.insertFile (Path.join site.baseDir (unquote d.args)) text) :=
    Handler.handle_insertFile htarget hread b.content
  have hrefused : ∀ location,
      p.insertFile deeper? site location (Path.join site.baseDir (unquote d.args)) text =
        .fail (.includeCycle location
          (site.chain ++ [Path.normalize (Path.join site.baseDir (unquote d.args))])) := by
    intro location
    rw [insertFile, hrecursive]
    exact if_pos (List.contains_iff_mem.2 hopen)
  rw [renderBlock_eq, hnone]
  dsimp only
  rw [hd]
  dsimp only
  rw [hget]
  show (Handler.insertFile.handle (p.context site b) d b.content >>= _ : Outcome Rendered) = _
  rw [hanswer, pure_bind]
  show (p.insertFile deeper? site _ (Path.join site.baseDir (unquote d.args)) text >>= _ :
    Outcome Rendered) = _
  rw [hrefused]
  rfl

/-- Folding is a normal form of paths that no spelling gets around.

The components of a folded path are a root, if there is one, then `..` so many times, then ordinary
names, and these components tell the path. Folding it again changes nothing. A name and back again
makes no difference on the way to a relative path, nor does a dot, and two paths fold to the same
one exactly if they are respellings of each other by such means.

So, with `recursive` on, an `include` block fails with the error about open files if its file can be
read and is open under any spelling. And whatever is processed, the files that are listed as open
are those that are, and the whole run fails with that error as soon as one of them is asked for
under any spelling. -/
theorem respellings_refused :
    (∀ path : Path, ∃ rooted ups names,
      Path.components (Path.normalize path) = Path.shape rooted ups names ∧
        ∀ t ∈ names, Path.IsOrdinary t) ∧
    (∀ path path' : Path, Path.normalize path = Path.normalize path' ↔
      Path.components (Path.normalize path) = Path.components (Path.normalize path')) ∧
    (∀ path : Path, Path.normalize (Path.normalize path) = Path.normalize path) ∧
    (∀ (q r : Path) (x : Text), Path.isAbsolute r = false → Path.IsOrdinary x →
      Path.normalize (Path.join (Path.join (Path.join q x) ['.', '.']) r) =
          Path.normalize (Path.join q r) ∧
        Path.normalize (Path.join q r) = Path.normalize (Path.join (Path.join q ['.']) r)) ∧
    (∀ path path' : Path, Path.normalize path = Path.normalize path' ↔
      Path.Respelling path path') ∧
    ∀ p : Processor, p.options.recursive = true →
      (∀ (site : Site) (b : Block) (d : Directive) (text : Text) (file : Path),
        (∀ c ∈ b.directives, p.registry.contains c.type = true) →
        p.audience.select? b.directives = some d →
        p.registry.get? d.type = some Handler.insertFile → (unquote d.args).isEmpty = false →
        p.read (Path.join site.baseDir (unquote d.args)) = .ok text →
        Path.normalize file ∈ site.chain →
        Path.Respelling file (Path.join site.baseDir (unquote d.args)) →
        ∀ expand deeper?, p.renderBlock site expand (p.insertFile deeper? site) b =
          .fail (.includeCycle ⟨site.source, b.line⟩
            (site.chain ++ [Path.normalize (Path.join site.baseDir (unquote d.args))]))) ∧
      (∀ dir text, Watchful p [] (p.processText dir text) (Run.processText p dir text)) ∧
      ∀ page, Watchful p [page] (p.processFile page) (Run.processFile p page) := by
  refine ⟨?_, ?_, ?_, ?_, fun _ _ => Path.normalize_eq_iff, ?_⟩
  · intro path
    rw [Path.components_normalize]
    exact (Path.isFolded_stack path).exists_shape
  · intro path path'
    refine ⟨fun h => by rw [h], fun h => ?_⟩
    rw [Path.components_normalize, Path.components_normalize] at h
    exact Path.normalize_eq_of_stack (List.reverse_injective h)
  · intro path
    exact Path.normalize_eq_of_stack (Path.stack_normalize path)
  · intro q r x hr hx
    exact ⟨Path.normalize_join_detour hr q hx, (Path.normalize_join_dot hr q).symm⟩
  · intro p hrecursive
    refine ⟨?_, watchful_processText hrecursive, watchful_processFile hrecursive⟩
    intro site b d text file hknown hd hget htarget hread hopen hrespelling expand deeper?
    rw [hrespelling.normalize_eq] at hopen
    exact renderBlock_of_open hrecursive hknown hd hget htarget hread hopen expand deeper?

/-- Every file asks for `a`, on a way with a detour. -/
def roundaboutProcessor : Processor :=
  { includingProcessor with
    read := fun _ => .ok "<!--build:include x/.././a--><!--endbuild-->".toList }

/-- A block that is replaced by `a`, which it asks for on that way. -/
def roundaboutBlock : Block :=
  { includingBlock with
    first := { includingBlock.first with args := "x/.././a".toList } }

theorem respellings_refused_roundabout :
    Path.normalize (Path.join (Path.join (Path.join [] ['x']) ['.', '.']) "./a".toList) =
        Path.normalize (Path.join [] "./a".toList) ∧
      Path.Respelling ['a'] "x/.././a".toList ∧
      roundaboutProcessor.renderBlock ⟨some ['a'], [], [['a']]⟩ (fun _ inner => pure inner)
          (roundaboutProcessor.insertFile none ⟨some ['a'], [], [['a']]⟩) roundaboutBlock =
        .fail (.includeCycle ⟨some ['a'], 1⟩ [['a'], ['a']]) ∧
      ∃ k ∈ (Run.processFile roundaboutProcessor ['a']).2.starts,
        k.call = .file "x/.././a".toList ∧ k.HasOpen roundaboutProcessor [['a']] ['a'] ∧
          ∃ location, (roundaboutProcessor.processFile ['a']).result =
            .error (.includeCycle location (k.chain ++ [Path.normalize "x/.././a".toList])) := by
  obtain ⟨-, -, -, hdetour, hrespelling, hprocessor⟩ := respellings_refused
  obtain ⟨hblock, -, hfile⟩ := hprocessor roundaboutProcessor rfl
  have hway : Path.Respelling ['a'] "x/.././a".toList := (hrespelling _ _).1 (by decide +kernel)
  have hargs : Path.join [] (unquote roundaboutBlock.first.args) = "x/.././a".toList := by
    decide +kernel
  have hasked : ((Run.processFile roundaboutProcessor ['a']).2.starts.filterMap fun k =>
      match k.call with
      | .file path => some path
      | _ => none) = ["x/.././a".toList] := by decide +kernel
  obtain ⟨k, hk, hfound⟩ := List.mem_filterMap.1 (hasked ▸ List.mem_singleton_self _)
  have hcall : k.call = .file "x/.././a".toList := by
    split at hfound
    · rename_i path hpath
      rw [hpath, Option.some.inj hfound]
    · cases hfound
  have hopen : k.HasOpen roundaboutProcessor [['a']] ['a'] := Or.inl (List.mem_singleton_self _)
  refine ⟨(hdetour [] _ ['x'] rfl ⟨by decide, by decide, by decide, by decide⟩).1, hway, ?_,
    k, hk, hcall, hopen, (hfile ['a']).refused k hk _ ['a'] hcall hopen hway⟩
  exact hblock ⟨some ['a'], [], [['a']]⟩ roundaboutBlock roundaboutBlock.first _ ['a']
    (by decide +kernel) (by decide +kernel) rfl (by decide +kernel) rfl (by decide +kernel)
    (by rw [hargs]; exact hway) _ none

end Processor

end PageBlocks
