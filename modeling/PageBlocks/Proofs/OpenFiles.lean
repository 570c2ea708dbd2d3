import Mathlib.Data.List.Nodup
import PageBlocks.Proofs.Registration
import PageBlocks.Proofs.Run

/-!
# Open files

At all times of a run the files that are open are different ones, there is one of them for each file
that is being included, besides the page itself if it came from a file, and there are no more than
may be included (`Moment.InOrder`). A file that is open already is never opened again: the run stops
with the list of the open files and that file at its end, and this is, besides reaching the limit,
the only reason to refuse a file (`Processor.runs_orderly`).

What a handler fails with, the run fails with. A handler is not told which files are open, so the
error about them is not its to give, and no handler of the program's own, built in or declared, ever
gives it (`Handler.ReportsNoCycle`). For handlers that the caller wrote this is an assumption. If
one of them breaks it, the error can be traced to the block that it was asked about, and what is
said of refused files is as true as before.
-/

namespace PageBlocks

open Relation (ReflTransGen)

/-- The open files are in order; `top` are those that are open from the beginning. -/
structure Moment.InOrder (p : Processor) (top : List Path) (k : Moment) : Prop where
  distinct : k.chain.Nodup
  folded : ∀ name ∈ k.chain, ∃ path, name = Path.normalize path
  below_top : top <+: k.chain
  length_eq : k.chain.length = k.depth + top.length
  depth_le : k.depth ≤ p.options.maxIncludeDepth

namespace Moment.InOrder

variable {p : Processor} {top : List Path} {k k' : Moment}

/-- At the beginning nothing is being included. -/
theorem beginning (call : Call) (htop : top.Nodup)
    (hfolded : ∀ name ∈ top, ∃ path, name = Path.normalize path) :
    InOrder p top ⟨call, top, 0⟩ where
  distinct := htop
  folded := hfolded
  below_top := List.prefix_rfl
  length_eq := (Nat.zero_add _).symm
  depth_le := Nat.zero_le _

theorem of_leads (h : k.InOrder p top) (hk : Leads p k k') : k'.InOrder p top := by
  cases hk with
  | block => exact ⟨h.distinct, h.folded, h.below_top, h.length_eq, h.depth_le⟩
  | content => exact ⟨h.distinct, h.folded, h.below_top, h.length_eq, h.depth_le⟩
  | file => exact ⟨h.distinct, h.folded, h.below_top, h.length_eq, h.depth_le⟩
  | @opened path text chain depth recursive closed left =>
    -- Only here a file is added, and it is one that was not open.
    refine ⟨?_, ?_, ?_, ?_, left⟩
    · exact List.nodup_append.2 ⟨h.distinct, List.nodup_singleton _, by
        intro a ha b hb
        rw [List.mem_singleton.1 hb]
        rintro rfl
        exact closed ha⟩
    · intro name hname
      rcases List.mem_append.1 hname with hname | hname
      · exact h.folded name hname
      · exact ⟨path, List.mem_singleton.1 hname⟩
    · exact h.below_top.trans (List.prefix_append _ _)
    · have hlength : chain.length = depth + top.length := h.length_eq
      simp only [List.length_append, List.length_singleton]
      omega

theorem of_reachable (h : k.InOrder p top) (hk : ReflTransGen (Leads p) k k') :
    k'.InOrder p top := by
  induction hk with
  | refl => exact h
  | tail _ hstep ih => exact ih.of_leads hstep

end Moment.InOrder

/-- A run that came to `outcome` and kept the open files in order. -/
structure Orderly (p : Processor) (top : List Path) (outcome : Outcome Text)
    (run : Except ProcessError Text × Run) : Prop where
  result_eq : run.1 = outcome.result
  notices_eq : run.2.notices = outcome.notices
  starts : ∀ k ∈ run.2.starts, k.InOrder p top
  /-- Each call is over, and it ended with what it started with. -/
  ends : run.2.ends.Perm (run.2.starts.map fun k => (k, k))
  chain_eq : run.2.chain = top
  depth_eq : run.2.depth = 0
  /-- A file is refused because it is open, or because no more may be. The error says so, the run
  fails with it, and no call comes after it. -/
  refusals : ∀ k e, (k, e) ∈ run.2.refusals →
    outcome.result = .error e ∧ run.2.starts.getLast? = some k ∧
      ∃ location path, k.call = .file path ∧
        e = .includeCycle location (k.chain ++ [Path.normalize path]) ∧
        (Path.normalize path ∈ k.chain ∨ k.depth = p.options.maxIncludeDepth)
  /-- With `recursive` on, such a file is always refused, and the run fails. -/
  refused : p.options.recursive = true → ∀ k ∈ run.2.starts, ∀ path, k.call = .file path →
    (Path.normalize path ∈ k.chain ∨ k.depth = p.options.maxIncludeDepth) → ∃ location,
      (k, .includeCycle location (k.chain ++ [Path.normalize path])) ∈ run.2.refusals ∧
        outcome.result = .error (.includeCycle location (k.chain ++ [Path.normalize path]))
  /-- An error about open files is that of a refusal, if the handler of a block that was rendered
  has not failed with it. -/
  cycle : ∀ location chain, outcome.result = .error (.includeCycle location chain) →
    (∃ k, (k, .includeCycle location chain) ∈ run.2.refusals) ∨
      ∃ k ∈ run.2.starts, p.HandlerFails k (.includeCycle location chain)

section

variable {p : Processor} {top : List Path}

/-- What mirrors the processor from the beginning is orderly. -/
theorem Orderly.of_mirrors {call : Call} (htop : (⟨call, top, 0⟩ : Moment).InOrder p top)
    {x : Act Text} {y : Outcome Text}
    (h : Mirrors p (ReflTransGen (Leads p) ⟨call, top, 0⟩) NoHandler { chain := top } x y) :
    Orderly p top y (x { chain := top }) := by
  obtain ⟨ks, ends, rs, hstate, hends, haccount⟩ := h.state_eq
  have hks : ∀ k ∈ ks, k.InOrder p top := fun k hk => htop.of_reachable (haccount.reached k hk)
  rw [show x { chain := top } = (y.result, _) from Prod.ext h.result_eq hstate]
  refine ⟨rfl, rfl, hks, hends, rfl, rfl, ?_, ?_, ?_⟩
  · intro k e hmem
    obtain ⟨hresult, hlast, location, path, hcall, he, hfull⟩ := haccount.refusals k e hmem
    have hle := (hks k (List.mem_of_getLast? hlast)).depth_le
    exact ⟨hresult, hlast, location, path, hcall, he,
      hfull.imp_right fun h => Nat.le_antisymm hle h⟩
  · intro hrecursive k hk path hcall hfull
    exact haccount.result_of_refused hrecursive hk hcall
      (hfull.imp_right fun h => Nat.le_of_eq h.symm)
  · intro location chain hresult
    rcases haccount.cycle location chain hresult with hmem | hfails | hnone
    · exact Or.inl hmem
    · exact Or.inr hfails
    · exact hnone.elim

/-- The whole work on a text, with the placeholders of the page. -/
theorem mirrors_process (source : Option Path) (dir : Path) (text : Text) :
    Mirrors p (ReflTransGen (Leads p) ⟨.text text, top, 0⟩) NoHandler { chain := top }
      (do .ofOutcome (p.finish source (← Run.expand p source dir text)))
      (do p.finish source (← p.expand ⟨source, dir, top⟩ text)) := by
  refine .bind (mirrors_expandAt (fun _ _ hk hstep => hk.tail hstep) rfl 1 .refl) ?_
  intro page r' _ _ _
  exact .ofOutcome fun _ _ h => by cases h

end

/-! ### Handlers that know nothing of open files -/

/-- Whatever a handler fails with, it is not about open files. -/
def Handler.ReportsNoCycle (g : Handler) : Prop :=
  ∀ ctx d content location chain,
    (g.handle ctx d content).result ≠ .error (.includeCycle location chain)

theorem Handler.reportsNoCycle_builtin {g : Handler} (hg : g ∈ Registry.builtin.handlers) :
    g.ReportsNoCycle := by
  intro ctx d content location chain h
  rcases Processor.mem_builtin hg with rfl | rfl | ⟨kind, rfl⟩ | rfl | rfl
  · cases h
  · unfold Handler.insertFile at h
    dsimp only at h
    split at h
    · cases h
    · split at h <;> cases h
  · unfold Handler.asset at h
    dsimp only at h
    split at h
    · split at h <;> cases h
    · split at h
      · cases h
      · split at h <;> cases h
  · unfold Handler.setAttribute at h
    dsimp only at h
    split at h
    · cases h
    · split at h
      · cases h
      · split at h <;> cases h
  · cases h

theorem Handler.Declared.reportsNoCycle {g : Handler} (hg : g.Declared) : g.ReportsNoCycle := by
  intro ctx d content location chain h
  cases hg <;> cases h

theorem Processor.reportsNoCycle_of_ofOptions {options : Options} {read : ReadFile}
    {transform : Transform} {template? : Option Template} {p : Processor}
    (hp : ofOptions options read transform template? = .ok p) {type : Text} {g : Handler}
    (hget : p.registry.get? type = some g) : g.ReportsNoCycle :=
  forall_get?_of_ofOptions (fun _ h => Handler.reportsNoCycle_builtin h)
    (fun _ h => h.reportsNoCycle) hp hget

/-- Where no handler makes up the error about open files, it is that of a refusal. -/
theorem Orderly.refusal_of_cycle {p : Processor} {top : List Path} {outcome : Outcome Text}
    {run : Except ProcessError Text × Run} (h : Orderly p top outcome run)
    (hhandlers : ∀ type g, p.registry.get? type = some g → g.ReportsNoCycle) {location : Location}
    {chain : List Path} (hresult : outcome.result = .error (.includeCycle location chain)) :
    ∃ k, (k, .includeCycle location chain) ∈ run.2.refusals := by
  rcases h.cycle location chain hresult with hmem | ⟨k, -, b, d, g, source, dir, content, hfails⟩
  · exact hmem
  · obtain ⟨-, -, hget, hfails⟩ := hfails
    exact absurd hfails (hhandlers d.type g hget _ d content location chain)

/-- Every file includes `a`, also `a` itself. -/
def Processor.cyclicProcessor : Processor :=
  { includingProcessor with read := fun _ => .ok "<!--build:include a--><!--endbuild-->".toList }

end PageBlocks
