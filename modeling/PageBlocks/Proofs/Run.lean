import Mathlib.Logic.Relation
import PageBlocks.Proofs.Inclusion

/-!
# Runs

While a page is processed, the list of open files is handed down to every file that is included. A
run keeps one list and one depth for all of it instead: a file is put at the end of the list when it
is opened and taken off when it is done with, whether that went well or not. It also keeps a record
of its calls, with the list and the depth at the start of each and at its end, and of the files that
it refused to open.

    text  ──▶  block  ──▶  text            the content of the block
                 │
                 └──────▶  file  ──▶  text      one level deeper

A run comes to the same as the processor, and each of its calls leaves the list and the depth as it
found them (`mirrors_expandAt`). What is on record are calls that follow from each other in the way
of the drawing, which is what `Leads` says, so that whatever holds at the first call and is kept
from each call to the next holds at all times.
-/

namespace PageBlocks

/-- What can be under way while a page is processed. -/
inductive Call where
  /-- The blocks of a text are found and rendered. -/
  | text (text : Text)
  /-- A block is rendered. -/
  | block (block : Block)
  /-- A file takes the place of a block, as the block's handler has answered. -/
  | file (path : Path)

/-- The start or the end of a call. -/
structure Moment where
  call : Call
  chain : List Path
  depth : Nat

/-- The state of a run. -/
structure Run where
  /-- The files that are open, the outermost first, in their folded spelling. -/
  chain : List Path
  /-- How many of them are being included. -/
  depth : Nat := 0
  notices : List Notice := []
  /-- All calls so far, in the order of their starts. -/
  starts : List Moment := []
  /-- The start and the end of each call that is over, in the order of their ends. -/
  ends : List (Moment × Moment) := []
  /-- The calls for files that were not opened, with the errors that say so. -/
  refusals : List (Moment × ProcessError) := []

/-- A step of a run. An error leaves the state that it came up in. -/
def Act (α : Type) : Type := Run → Except ProcessError α × Run

namespace Act

variable {α β : Type}

/-- One step after the other; an error ends the work. -/
def andThen (x : Act α) (f : α → Act β) : Act β := fun r =>
  match (x r).1 with
  | .error e => (.error e, (x r).2)
  | .ok a => f a (x r).2

instance : Monad Act where
  pure a := fun r => (.ok a, r)
  bind := andThen

/-- The state as it is. -/
def state : Act Run := fun r => (.ok r, r)

/-- Puts a call on record, when it starts and when it is over, whatever it comes to. -/
def during (call : Call) (x : Act α) : Act α := fun r =>
  let k : Moment := ⟨call, r.chain, r.depth⟩
  let (result, r') := x { r with starts := r.starts ++ [k] }
  (result, { r' with ends := r'.ends ++ [(k, ⟨call, r'.chain, r'.depth⟩)] })

/-- The error that this file is open already, or one too many, which is put on record. -/
def refuse (location : Location) (path : Path) : Act α := fun r =>
  let e : ProcessError := .includeCycle location (r.chain ++ [Path.normalize path])
  (.error e, { r with refusals := r.refusals ++ [(⟨.file path, r.chain, r.depth⟩, e)] })

/-- Work that does not look at the state. -/
def ofOutcome (x : Outcome α) : Act α := fun r =>
  (x.result, { r with notices := r.notices ++ x.notices })

/-- Work on a file, which is opened before and closed afterwards, whatever the work comes to. -/
def within (name : Path) (x : Act α) : Act α := fun r =>
  let (result, r') := x { r with chain := r.chain ++ [name], depth := r.depth + 1 }
  (result, { r' with chain := r'.chain.dropLast, depth := r'.depth - 1 })

theorem bind_of_ok {x : Act α} {r : Run} {a : α} (h : (x r).1 = .ok a) (f : α → Act β) :
    (x >>= f) r = f a (x r).2 := by
  show x.andThen f r = _
  simp [andThen, h]

theorem bind_of_error {x : Act α} {r : Run} {e : ProcessError} (h : (x r).1 = .error e)
    (f : α → Act β) : (x >>= f) r = (.error e, (x r).2) := by
  show x.andThen f r = _
  simp [andThen, h]

theorem state_bind (f : Run → Act α) (r : Run) : (state >>= f) r = f r r := rfl

end Act

namespace Run

/-- The segments of a scan are added, in order. -/
def addAll (render : Block → Act Rendered) : List Segment → Assembly → Act Assembly
  | [], a => return a
  | .literal t :: later, a => addAll render later (a.addLiteral t)
  | .block b :: later, a => do addAll render later (a.addBlock b (← render b))

/-- A file takes the place of a block. With `recursive` it is processed itself, unless it is open
already or as many files are being included as may be. -/
def insertFile (p : Processor) (deeper? : Option (Path → Text → Act Text)) (location : Location)
    (path : Path) (text : Text) : Act Text := .during (.file path) do
  if !p.options.recursive then return text
  else
    let name := Path.normalize path
    let r ← Act.state
    if r.chain.contains name || p.options.maxIncludeDepth ≤ r.depth then .refuse location path
    else
      match deeper? with
      | none => .refuse location path
      | some expand => .within name (expand path text)

/-- What becomes of a block by the answer of its handler. -/
def settle (insert : Path → Text → Act Text) (kept : Act Text) : Output → Act Rendered
  | .keep => return ⟨← kept, false⟩
  | .drop => return ⟨[], false⟩
  | .edit text => return ⟨text, false⟩
  | .replace text => return ⟨text, true⟩
  | .insertFile path text => return ⟨Text.dropFinalBreak (← insert path text), true⟩

/-- A block is rendered. -/
def renderBlock (p : Processor) (source : Option Path) (dir : Path)
    (expandContent : Nat → Text → Act Text) (insert : Location → Path → Text → Act Text)
    (b : Block) : Act Rendered := .during (.block b) do
  let location : Location := ⟨source, b.line⟩
  match b.directives.find? fun d => !p.registry.contains d.type with
  | some d => .ofOutcome (.fail (.unknownType location d.type))
  | none =>
    match p.audience.select? b.directives with
    | none => return ⟨← expandContent b.contentLine b.content, false⟩
    | some d =>
      match p.registry.get? d.type with
      | none => .ofOutcome (.fail (.unknownType location d.type))
      | some handler =>
        let ask (content : Text) : Act Output :=
          .ofOutcome (handler.handle (p.context ⟨source, dir, []⟩ b) d content)
        if handler.readsContent d then do
          let content ← expandContent b.contentLine b.content
          settle (insert location) (pure content) (← ask content)
        else do
          settle (insert location) (expandContent b.contentLine b.content) (← ask b.content)

/-- The blocks of a text are found and rendered. -/
def expandWithin (p : Processor) (deeper? : Option (Path → Text → Act Text))
    (source : Option Path) (dir : Path) (line : Nat) (text : Text) : Act Text :=
  .during (.text text) do
    let scan := p.marker.scan line text
    let content (line : Nat) (inner : Text) : Act Text :=
      if _shorter : inner.length < text.length then expandWithin p deeper? source dir line inner
      else return inner
    let render := renderBlock p source dir content (insertFile p deeper?)
    let page ← addAll render scan.segments {}
    match scan.error? with
    | some e => .ofOutcome (.fail (.ofScan source e))
    | none => return page.out
termination_by text.length

/-- The blocks of a text are found and rendered; the recursion is on the levels that are left. -/
def expandAt (p : Processor) :
    (levels : Nat) → Option Path → (dir : Path) → (line : Nat) → Text → Act Text
  | 0, source, dir, line, text => expandWithin p none source dir line text
  | levels + 1, source, dir, line, text =>
    expandWithin p (some fun path text =>
      expandAt p levels (some path) (Path.directory path) 1 text) source dir line text

/-- The blocks of a whole text are found and rendered. -/
def expand (p : Processor) (source : Option Path) (dir : Path) (text : Text) : Act Text :=
  expandAt p p.options.maxIncludeDepth source dir 1 text

/-- A whole run, for a text that came from no file. -/
def processText (p : Processor) (dir : Path) (text : Text) : Except ProcessError Text × Run :=
  (do .ofOutcome (p.finish none (← expand p none dir text)) : Act Text) { chain := [] }

/-- A whole run, for a file. -/
def processFile (p : Processor) (path : Path) : Except ProcessError Text × Run :=
  let r : Run := { chain := [Path.normalize path] }
  match p.read path with
  | .error (.notFound _) => (.error (.fileNotFound path), r)
  | .error (.failed cause) => (.error (.io path cause), r)
  | .ok text =>
    (do .ofOutcome (p.finish (some path)
      (← expand p (some path) (Path.directory path) text)) : Act Text) r

end Run

/-! ### What is on record -/

/-- A block is being rendered, and the handler of its directive fails with this error by itself. -/
def Processor.HandlerFails (p : Processor) (k : Moment) (e : ProcessError) : Prop :=
  ∃ b d g source dir content, k.call = .block b ∧ p.audience.select? b.directives = some d ∧
    p.registry.get? d.type = some g ∧
    (g.handle (p.context ⟨source, dir, k.chain⟩ b) d content).result = .error e

/-- A call can lead to another one. -/
inductive Leads (p : Processor) : Moment → Moment → Prop where
  | block {text : Text} {b : Block} {line : Nat} {chain : List Path} {depth : Nat}
      (found : .block b ∈ (p.marker.scan line text).segments) :
      Leads p ⟨.text text, chain, depth⟩ ⟨.block b, chain, depth⟩
  | content {b : Block} {chain : List Path} {depth : Nat} :
      Leads p ⟨.block b, chain, depth⟩ ⟨.text b.content, chain, depth⟩
  | file {b : Block} {path : Path} {chain : List Path} {depth : Nat} :
      Leads p ⟨.block b, chain, depth⟩ ⟨.file path, chain, depth⟩
  | opened {path : Path} {text : Text} {chain : List Path} {depth : Nat}
      (recursive : p.options.recursive = true) (closed : Path.normalize path ∉ chain)
      (left : depth < p.options.maxIncludeDepth) :
      Leads p ⟨.file path, chain, depth⟩ ⟨.text text, chain ++ [Path.normalize path], depth + 1⟩

/-- What calls and refusals on record have to do with what the work came to. The calls are among
those that can be reached, the work ends with the first refusal, and the error about open files
comes from there or from a handler. `Passed` are the errors of the handler whose block is being
rendered. -/
structure Account {α : Type} (p : Processor) (Reached : Moment → Prop)
    (Passed : ProcessError → Prop) (ks : List Moment) (rs : List (Moment × ProcessError))
    (result : Except ProcessError α) : Prop where
  reached : ∀ k ∈ ks, Reached k
  /-- A refusal is for a file that is open, or for one too many, and no call comes after it. -/
  refusals : ∀ k e, (k, e) ∈ rs → result = .error e ∧ ks.getLast? = some k ∧
    ∃ location path, k.call = .file path ∧
      e = .includeCycle location (k.chain ++ [Path.normalize path]) ∧
      (Path.normalize path ∈ k.chain ∨ p.options.maxIncludeDepth ≤ k.depth)
  /-- Such files are refused. -/
  refused : p.options.recursive = true → ∀ k ∈ ks, ∀ path, k.call = .file path →
    (Path.normalize path ∈ k.chain ∨ p.options.maxIncludeDepth ≤ k.depth) → ∃ e, (k, e) ∈ rs
  cycle : ∀ location chain, result = .error (.includeCycle location chain) →
    (∃ k, (k, .includeCycle location chain) ∈ rs) ∨
      (∃ k ∈ ks, p.HandlerFails k (.includeCycle location chain)) ∨
      Passed (.includeCycle location chain)

namespace Account

variable {α β : Type} {p : Processor} {Reached : Moment → Prop} {Passed : ProcessError → Prop}
  {ks ks' : List Moment} {rs rs' : List (Moment × ProcessError)}

theorem nil {result : Except ProcessError α}
    (h : ∀ location chain, result = .error (.includeCycle location chain) →
      Passed (.includeCycle location chain)) : Account p Reached Passed [] [] result where
  reached := by simp
  refusals := by simp
  refused := by simp
  cycle := fun location chain hresult => Or.inr (Or.inr (h location chain hresult))

theorem nil_of_ok (a : α) : Account p Reached Passed [] [] (.ok a) :=
  nil fun _ _ h => by cases h

theorem of_error {e : ProcessError} (h : Account p Reached Passed ks rs (.error e : Except _ α)) :
    Account p Reached Passed ks rs (.error e : Except _ β) where
  reached := h.reached
  refusals := by
    intro k e' hmem
    obtain ⟨hresult, hrest⟩ := h.refusals k e' hmem
    cases hresult
    exact ⟨rfl, hrest⟩
  refused := h.refused
  cycle := by
    intro location chain hresult
    cases hresult
    exact h.cycle location chain rfl

/-- The error for a file that is refused is what the work came to. -/
theorem result_of_refused {result : Except ProcessError α}
    (h : Account p Reached Passed ks rs result) (hrecursive : p.options.recursive = true)
    {k : Moment} (hk : k ∈ ks) {path : Path} (hcall : k.call = .file path)
    (hfull : Path.normalize path ∈ k.chain ∨ p.options.maxIncludeDepth ≤ k.depth) : ∃ location,
      (k, .includeCycle location (k.chain ++ [Path.normalize path])) ∈ rs ∧
        result = .error (.includeCycle location (k.chain ++ [Path.normalize path])) := by
  obtain ⟨e, hmem⟩ := h.refused hrecursive k hk path hcall hfull
  obtain ⟨hresult, -, location, path', hcall', rfl, -⟩ := h.refusals k e hmem
  cases hcall.symm.trans hcall'
  exact ⟨location, hmem, hresult⟩

/-- Where all went well, nothing was refused. -/
theorem eq_nil {a : α} (h : Account p Reached Passed ks rs (.ok a)) : rs = [] := by
  refine List.eq_nil_iff_forall_not_mem.2 fun q hq => ?_
  cases (h.refusals q.1 q.2 hq).1

/-- Calls that went well can stand before others. -/
theorem append {a : α} {result : Except ProcessError β} (h : Account p Reached Passed ks rs (.ok a))
    (h' : Account p Reached Passed ks' rs' result) :
    Account p Reached Passed (ks ++ ks') (rs ++ rs') result := by
  have hnone := h.eq_nil
  subst hnone
  refine ⟨?_, ?_, ?_, ?_⟩
  · intro k hk
    rcases List.mem_append.1 hk with hk | hk
    · exact h.reached k hk
    · exact h'.reached k hk
  · intro k e hmem
    obtain ⟨hresult, hlast, hrest⟩ := h'.refusals k e hmem
    refine ⟨hresult, ?_, hrest⟩
    rw [List.getLast?_append, hlast, Option.some_or]
  · intro hrecursive k hk path hcall hfull
    rcases List.mem_append.1 hk with hk | hk
    · obtain ⟨e, he⟩ := h.refused hrecursive k hk path hcall hfull
      cases he
    · exact h'.refused hrecursive k hk path hcall hfull
  · intro location chain hresult
    refine (h'.cycle location chain hresult).imp_right (Or.imp_left ?_)
    rintro ⟨k, hk, hfails⟩
    exact ⟨k, List.mem_append_right _ hk, hfails⟩

/-- A call can stand before those that it leads to, if it is not for a file that is to be refused.
What its handler fails with is accounted for with it. -/
theorem cons {Passed' : ProcessError → Prop} {k₀ : Moment} {result : Except ProcessError α}
    (h : Account p Reached Passed' ks rs result) (hreached : Reached k₀)
    (hcall : ∀ path, k₀.call = .file path → p.options.recursive = true →
      Path.normalize path ∉ k₀.chain ∧ k₀.depth < p.options.maxIncludeDepth)
    (hpassed : ∀ e, Passed' e → p.HandlerFails k₀ e ∨ Passed e) :
    Account p Reached Passed (k₀ :: ks) rs result where
  reached := List.forall_mem_cons.2 ⟨hreached, h.reached⟩
  refusals := by
    intro k e hmem
    obtain ⟨hresult, hlast, hrest⟩ := h.refusals k e hmem
    refine ⟨hresult, ?_, hrest⟩
    rw [List.getLast?_cons, hlast, Option.getD_some]
  refused := by
    intro hrecursive k hk path hpath hfull
    rcases List.mem_cons.1 hk with rfl | hk
    · obtain ⟨hclosed, hleft⟩ := hcall path hpath hrecursive
      rcases hfull with hopen | hfull
      · exact absurd hopen hclosed
      · exact absurd hleft (Nat.not_lt.2 hfull)
    · exact h.refused hrecursive k hk path hpath hfull
  cycle := by
    intro location chain hresult
    rcases h.cycle location chain hresult with hmem | ⟨k, hk, hfails⟩ | hraise
    · exact Or.inl hmem
    · exact Or.inr (Or.inl ⟨k, List.mem_cons_of_mem _ hk, hfails⟩)
    · rcases hpassed _ hraise with hfails | hraise
      · exact Or.inr (Or.inl ⟨k₀, List.mem_cons_self, hfails⟩)
      · exact Or.inr (Or.inr hraise)

/-- A call for a file that was refused. -/
theorem singleton {location : Location} {path : Path} {k : Moment} (hreached : Reached k)
    (hcall : k.call = .file path)
    (h : Path.normalize path ∈ k.chain ∨ p.options.maxIncludeDepth ≤ k.depth) :
    Account p Reached Passed [k]
      [(k, .includeCycle location (k.chain ++ [Path.normalize path]))]
      (.error (.includeCycle location (k.chain ++ [Path.normalize path])) : Except _ α) where
  reached := List.forall_mem_singleton.2 hreached
  refusals := by
    intro k' e hmem
    cases List.mem_singleton.1 hmem
    exact ⟨rfl, rfl, location, path, hcall, rfl, h⟩
  refused := by
    intro _ k' hk' _ _ _
    rw [List.mem_singleton.1 hk']
    exact ⟨_, List.mem_singleton_self _⟩
  cycle := by
    intro location' chain hresult
    cases hresult
    exact Or.inl ⟨k, List.mem_singleton_self _⟩

end Account

/-- In the state `r`, the run does what the processor does, accounts for its calls, and leaves the
open files and the depth as they are, as each of its calls does. -/
structure Mirrors {α : Type} (p : Processor) (Reached : Moment → Prop)
    (Passed : ProcessError → Prop) (r : Run) (x : Act α) (y : Outcome α) : Prop where
  result_eq : (x r).1 = y.result
  state_eq : ∃ ks ends rs, (x r).2 = { r with
      notices := r.notices ++ y.notices, starts := r.starts ++ ks, ends := r.ends ++ ends,
      refusals := r.refusals ++ rs } ∧
    ends.Perm (ks.map fun k => (k, k)) ∧ Account p Reached Passed ks rs y.result

namespace Mirrors

variable {α β : Type} {p : Processor} {Reached : Moment → Prop}
  {Passed Passed' : ProcessError → Prop} {r : Run} {x : Act α} {y : Outcome α}

theorem chain_eq (h : Mirrors p Reached Passed r x y) : (x r).2.chain = r.chain := by
  obtain ⟨ks, ends, rs, hstate, -⟩ := h.state_eq
  rw [hstate]

theorem depth_eq (h : Mirrors p Reached Passed r x y) : (x r).2.depth = r.depth := by
  obtain ⟨ks, ends, rs, hstate, -⟩ := h.state_eq
  rw [hstate]

theorem mono (h : Mirrors p Reached Passed r x y) (hpassed : ∀ e, Passed e → Passed' e) :
    Mirrors p Reached Passed' r x y := by
  obtain ⟨ks, ends, rs, hstate, hends, haccount⟩ := h.state_eq
  refine ⟨h.result_eq, ks, ends, rs, hstate, hends, haccount.reached, haccount.refusals,
    haccount.refused, fun location chain hresult => ?_⟩
  exact (haccount.cycle location chain hresult).imp_right (Or.imp_right (hpassed _))

theorem pure (a : α) : Mirrors p Reached Passed r (Pure.pure a) (Pure.pure a) where
  result_eq := rfl
  state_eq := ⟨[], [], [], by simp [Pure.pure, Outcome.value], .nil, .nil_of_ok a⟩

theorem ofOutcome (h : ∀ location chain, y.result = .error (.includeCycle location chain) →
    Passed (.includeCycle location chain)) : Mirrors p Reached Passed r (.ofOutcome y) y where
  result_eq := rfl
  state_eq := ⟨[], [], [], by simp [Act.ofOutcome], .nil, .nil h⟩

theorem bind {f : α → Act β} {g : α → Outcome β} (h : Mirrors p Reached Passed r x y)
    (hfg : ∀ a r', y.result = .ok a → r'.chain = r.chain → r'.depth = r.depth →
      Mirrors p Reached Passed r' (f a) (g a)) :
    Mirrors p Reached Passed r (x >>= f) (y >>= g) := by
  obtain ⟨ks, ends, rs, hstate, hends, haccount⟩ := h.state_eq
  cases hy : y.result with
  | error e =>
    have hx : (x r).1 = .error e := h.result_eq.trans hy
    rw [hy] at haccount
    constructor
    · rw [Act.bind_of_error hx, Outcome.bind_of_error hy]
    · rw [Act.bind_of_error hx, Outcome.bind_of_error hy]
      exact ⟨ks, ends, rs, hstate, hends, haccount.of_error⟩
  | ok a =>
    have hx : (x r).1 = .ok a := h.result_eq.trans hy
    rw [hy] at haccount
    have hnext := hfg a (x r).2 hy h.chain_eq h.depth_eq
    obtain ⟨ks', ends', rs', hstate', hends', haccount'⟩ := hnext.state_eq
    constructor
    · rw [Act.bind_of_ok hx, Outcome.bind_of_ok hy]
      exact hnext.result_eq
    · rw [Act.bind_of_ok hx, Outcome.bind_of_ok hy]
      refine ⟨ks ++ ks', ends ++ ends', rs ++ rs', ?_, ?_, haccount.append haccount'⟩
      · rw [hstate', hstate]
        simp
      · rw [List.map_append]
        exact hends.append hends'

/-- A call is put on record when it starts and when it is over. -/
theorem during_of_account {call : Call} (ks : List Moment) (ends : List (Moment × Moment))
    (rs : List (Moment × ProcessError))
    (hresult : (x { r with starts := r.starts ++ [⟨call, r.chain, r.depth⟩] }).1 = y.result)
    (hstate : (x { r with starts := r.starts ++ [⟨call, r.chain, r.depth⟩] }).2 = { r with
      notices := r.notices ++ y.notices, starts := r.starts ++ ⟨call, r.chain, r.depth⟩ :: ks,
      ends := r.ends ++ ends, refusals := r.refusals ++ rs })
    (hends : ends.Perm (ks.map fun k => (k, k)))
    (haccount : Account p Reached Passed (⟨call, r.chain, r.depth⟩ :: ks) rs y.result) :
    Mirrors p Reached Passed r (.during call x) y := by
  refine ⟨hresult, ⟨call, r.chain, r.depth⟩ :: ks,
    ends ++ [(⟨call, r.chain, r.depth⟩, ⟨call, r.chain, r.depth⟩)], rs, ?_, ?_, haccount⟩
  · simp only [Act.during]
    rw [hstate]
    simp
  · rw [List.map_cons]
    exact (List.perm_append_singleton _ _).trans (hends.cons _)

/-- A call that is not for a file to be refused. -/
theorem during {call : Call} (hreached : Reached ⟨call, r.chain, r.depth⟩)
    (hcall : ∀ path, call = .file path → p.options.recursive = true →
      Path.normalize path ∉ r.chain ∧ r.depth < p.options.maxIncludeDepth)
    (hpassed : ∀ e, Passed' e → p.HandlerFails ⟨call, r.chain, r.depth⟩ e ∨ Passed e)
    (h : ∀ r', r'.chain = r.chain → r'.depth = r.depth → Mirrors p Reached Passed' r' x y) :
    Mirrors p Reached Passed r (.during call x) y := by
  have hnext := h { r with starts := r.starts ++ [⟨call, r.chain, r.depth⟩] } rfl rfl
  obtain ⟨ks, ends, rs, hstate, hends, haccount⟩ := hnext.state_eq
  exact during_of_account ks ends rs hnext.result_eq (by rw [hstate]; simp) hends
    (haccount.cons hreached hcall hpassed)

theorem state {f : Run → Act α} (h : Mirrors p Reached Passed r (f r) y) :
    Mirrors p Reached Passed r (Act.state >>= f) y where
  result_eq := h.result_eq
  state_eq := h.state_eq

/-- A file is refused because it is open, or because it is one too many. -/
theorem refuse {path : Path} {location : Location}
    (hreached : Reached ⟨.file path, r.chain, r.depth⟩)
    (h : Path.normalize path ∈ r.chain ∨ p.options.maxIncludeDepth ≤ r.depth)
    (hx : ∀ r', r'.chain = r.chain → r'.depth = r.depth → x r' = Act.refuse location path r') :
    Mirrors p Reached Passed r (.during (.file path) x)
      (.fail (.includeCycle location (r.chain ++ [Path.normalize path]))) := by
  have hrefuse := hx { r with starts := r.starts ++ [⟨.file path, r.chain, r.depth⟩] } rfl rfl
  refine during_of_account [] []
    [(⟨.file path, r.chain, r.depth⟩, .includeCycle location (r.chain ++ [Path.normalize path]))]
    (by rw [hrefuse]; rfl) ?_ .nil (.singleton hreached rfl h)
  rw [hrefuse]
  simp [Act.refuse, Outcome.fail]

/-- What is opened is closed again. -/
theorem within {name : Path} (h : Mirrors p Reached Passed
      { r with chain := r.chain ++ [name], depth := r.depth + 1 } x y) :
    Mirrors p Reached Passed r (Act.within name x) y := by
  obtain ⟨ks, ends, rs, hstate, hends, haccount⟩ := h.state_eq
  refine ⟨h.result_eq, ks, ends, rs, ?_, hends, haccount⟩
  simp only [Act.within]
  rw [hstate]
  simp

end Mirrors

/-! ### The run follows the processor -/

section

variable {p : Processor} {Reached : Moment → Prop} {r : Run}

/-- Where no block is being rendered, no handler's errors are passed on. -/
def NoHandler : ProcessError → Prop := fun _ => False

theorem mirrors_addAll {f : Block → Act Rendered} {g : Block → Outcome Rendered}
    {ss : List Segment} (h : ∀ b r', .block b ∈ ss → r'.chain = r.chain → r'.depth = r.depth →
      Mirrors p Reached NoHandler r' (f b) (g b)) (a : Assembly) :
    Mirrors p Reached NoHandler r (Run.addAll f ss a) (Assembly.addAll g ss a) := by
  induction ss generalizing r a with
  | nil => exact .pure a
  | cons s ss ih =>
    cases s with
    | literal t =>
      exact ih (fun b r' hb hchain hdepth => h b r' (List.mem_cons_of_mem _ hb) hchain hdepth) _
    | block b =>
      refine .bind (h b r List.mem_cons_self rfl rfl) fun rendered r' _ hchain hdepth => ?_
      refine ih (fun b r'' hb hchain' hdepth' => ?_) _
      exact h b r'' (List.mem_cons_of_mem _ hb) (hchain'.trans hchain) (hdepth'.trans hdepth)

/-- What processes files one level down on either side. -/
inductive Serves (p : Processor) (Reached : Moment → Prop) (depth : Nat) :
    Option (Path → Text → Act Text) → Option (Site → Text → Outcome Text) → Prop where
  | none (full : p.options.maxIncludeDepth ≤ depth) : Serves p Reached depth none none
  | some {f : Path → Text → Act Text} {g : Site → Text → Outcome Text}
      (left : depth < p.options.maxIncludeDepth)
      (mirrors : ∀ r path text, r.depth = depth + 1 → Reached ⟨.text text, r.chain, r.depth⟩ →
        Mirrors p Reached NoHandler r (f path text)
          (g ⟨some path, Path.directory path, r.chain⟩ text)) :
      Serves p Reached depth (some f) (some g)

variable {deeper? : Option (Path → Text → Act Text)}
  {deeper?' : Option (Site → Text → Outcome Text)} {source : Option Path} {dir : Path}
  (hleads : ∀ k k', Reached k → Leads p k k' → Reached k')

include hleads

theorem mirrors_insertFile (hdeeper : Serves p Reached r.depth deeper? deeper?')
    (location : Location) {path : Path} (hreached : Reached ⟨.file path, r.chain, r.depth⟩)
    (text : Text) :
    Mirrors p Reached NoHandler r (Run.insertFile p deeper? location path text)
      (p.insertFile deeper?' ⟨source, dir, r.chain⟩ location path text) := by
  unfold Run.insertFile Processor.insertFile
  cases hrecursive : p.options.recursive with
  | false =>
    refine .during hreached ?_ (fun _ => Or.inr) fun _ _ _ => .pure text
    intro path' _ hon
    rw [hrecursive] at hon
    cases hon
  | true =>
    simp only [Bool.not_true, Bool.false_eq_true, if_false]
    by_cases hopen : Path.normalize path ∈ r.chain
    · rw [if_pos (List.contains_iff_mem.2 hopen)]
      refine .refuse hreached (Or.inl hopen) fun r' hchain _ => ?_
      rw [Act.state_bind, if_pos (by simp [hchain, hopen])]
    · rw [if_neg (by simp [hopen])]
      cases hdeeper with
      | none full =>
        refine .refuse hreached (Or.inr full) fun r' _ hdepth => ?_
        rw [Act.state_bind, if_pos (by simp [hdepth, full])]
      | @some f g left mirrors =>
        refine .during hreached ?_ (fun _ => Or.inr) fun r' hchain hdepth => .state ?_
        · intro path' hpath _
          cases hpath
          exact ⟨hopen, left⟩
        · have hnext : Reached ⟨.text text, r'.chain ++ [Path.normalize path], r'.depth + 1⟩ := by
            rw [hchain, hdepth]
            exact hleads _ _ hreached (.opened hrecursive hopen left)
          have hopened := mirrors
            { r' with chain := r'.chain ++ [Path.normalize path], depth := r'.depth + 1 } path text
            (by rw [hdepth]) hnext
          rw [if_neg (by simp [hchain, hdepth, hopen, left]), ← hchain]
          exact hopened.within

/-- A block is rendered alike if its content is, and the file in its place. -/
theorem mirrors_renderBlock {b : Block} (hreached : Reached ⟨.block b, r.chain, r.depth⟩)
    {expand : Nat → Text → Act Text} {expand' : Nat → Text → Outcome Text}
    {insert : Location → Path → Text → Act Text}
    {insert' : Location → Path → Text → Outcome Text}
    (hexpand : ∀ r', r'.chain = r.chain → r'.depth = r.depth → Mirrors p Reached NoHandler r'
      (expand b.contentLine b.content) (expand' b.contentLine b.content))
    (hinsert : ∀ r' location path text, r'.chain = r.chain → r'.depth = r.depth →
      Reached ⟨.file path, r'.chain, r'.depth⟩ →
        Mirrors p Reached NoHandler r' (insert location path text) (insert' location path text)) :
    Mirrors p Reached NoHandler r (Run.renderBlock p source dir expand insert b)
      (p.renderBlock ⟨source, dir, r.chain⟩ expand' insert' b) := by
  let Passed := p.HandlerFails ⟨.block b, r.chain, r.depth⟩
  have hmono : ∀ e, NoHandler e → Passed e := fun _ h => h.elim
  have hunknown : ∀ (r' : Run) (location : Location) (type : Text),
      Mirrors p Reached (α := Rendered) Passed r' (.ofOutcome (.fail (.unknownType location type)))
        (.fail (.unknownType location type)) := by
    intro r' location type
    refine .ofOutcome fun _ _ h => ?_
    cases h
  have hsettle : ∀ (r' : Run) (kept : Act Text) (kept' : Outcome Text) (out : Output),
      r'.chain = r.chain → r'.depth = r.depth → Mirrors p Reached Passed r' kept kept' →
        Mirrors p Reached Passed r' (Run.settle (insert ⟨source, b.line⟩) kept out)
          (Processor.settle (insert' ⟨source, b.line⟩) kept' out) := by
    intro r' kept kept' out hchain hdepth hkept
    cases out with
    | keep => exact .bind hkept fun _ _ _ _ _ => .pure _
    | drop => exact .pure _
    | edit text => exact .pure _
    | replace text => exact .pure _
    | insertFile path text =>
      refine .bind ((hinsert r' _ path text hchain hdepth ?_).mono hmono) fun _ _ _ _ _ => .pure _
      rw [hchain, hdepth]
      exact hleads _ _ hreached .file
  rw [Processor.renderBlock_eq]
  unfold Run.renderBlock
  refine .during hreached (fun _ h => by cases h) (fun _ => Or.inl) fun r' hchain hdepth => ?_
  dsimp only
  cases b.directives.find? fun d => !p.registry.contains d.type with
  | some d => exact hunknown _ _ _
  | none =>
    dsimp only
    cases hselect : p.audience.select? b.directives with
    | none => exact .bind ((hexpand r' hchain hdepth).mono hmono) fun _ _ _ _ _ => .pure _
    | some d =>
      dsimp only
      cases hget : p.registry.get? d.type with
      | none => exact hunknown _ _ _
      | some handler =>
        have hask : ∀ r' content, Mirrors p Reached Passed r'
            (.ofOutcome (handler.handle (p.context ⟨source, dir, []⟩ b) d content))
            (handler.handle (p.context ⟨source, dir, r.chain⟩ b) d content) := by
          intro r' content
          exact .ofOutcome fun _ _ h =>
            ⟨b, d, handler, source, dir, content, rfl, hselect, hget, h⟩
        simp only [Processor.handleBlock]
        split
        · refine .bind ((hexpand r' hchain hdepth).mono hmono)
            fun content r₁ _ hchain₁ hdepth₁ => ?_
          refine .bind (hask r₁ content) fun out r₂ _ hchain₂ hdepth₂ => ?_
          exact hsettle r₂ _ _ out (hchain₂.trans (hchain₁.trans hchain))
            (hdepth₂.trans (hdepth₁.trans hdepth)) (.pure content)
        · refine .bind (hask r' b.content) fun out r₁ _ hchain₁ hdepth₁ => ?_
          have hchain₂ := hchain₁.trans hchain
          have hdepth₂ := hdepth₁.trans hdepth
          exact hsettle r₁ _ _ out hchain₂ hdepth₂ ((hexpand r₁ hchain₂ hdepth₂).mono hmono)

theorem mirrors_expandWithin {r : Run} (hdeeper : Serves p Reached r.depth deeper? deeper?')
    (line : Nat) {text : Text} (hreached : Reached ⟨.text text, r.chain, r.depth⟩) :
    Mirrors p Reached NoHandler r (Run.expandWithin p deeper? source dir line text)
      (p.expandWithin deeper?' ⟨source, dir, r.chain⟩ line text) := by
  rw [Run.expandWithin, Processor.expandWithin]
  dsimp only
  refine .during hreached (fun _ h => by cases h) (fun _ => Or.inr) fun r' hchain hdepth => ?_
  refine .bind (mirrors_addAll (fun b r₁ hb hchain₁ hdepth₁ => ?_) _) fun page r₁ _ _ _ => ?_
  · have hblock : Reached ⟨.block b, r₁.chain, r₁.depth⟩ := by
      rw [hchain₁, hdepth₁, hchain, hdepth]
      exact hleads _ _ hreached (.block hb)
    rw [← hchain, ← hchain₁]
    refine mirrors_renderBlock hleads hblock (fun r₂ hchain₂ hdepth₂ => ?_) ?_
    · have hcontent : Reached ⟨.text b.content, r₂.chain, r₂.depth⟩ := by
        rw [hchain₂, hdepth₂]
        exact hleads _ _ hblock .content
      have hserves : Serves p Reached r₂.depth deeper? deeper?' := by
        rw [hdepth₂, hdepth₁, hdepth]
        exact hdeeper
      split
      · rename_i hshorter
        rw [← hchain₂]
        exact mirrors_expandWithin hserves b.contentLine hcontent
      · exact .pure _
    · intro r₂ location path file hchain₂ hdepth₂ hfile
      have hserves : Serves p Reached r₂.depth deeper? deeper?' := by
        rw [hdepth₂, hdepth₁, hdepth]
        exact hdeeper
      rw [← hchain₂]
      exact mirrors_insertFile hleads hserves location hfile file
  · cases (p.marker.scan line text).error? with
    | some e => exact .ofOutcome fun _ _ h => by cases e <;> cases h
    | none => exact .pure _
termination_by text.length

/-- In every state, a run does what the processor does and leaves the state's files and depth as
they are. -/
theorem mirrors_expandAt {levels : Nat}
    (hlevels : levels = p.options.maxIncludeDepth - r.depth) (line : Nat) {text : Text}
    (hreached : Reached ⟨.text text, r.chain, r.depth⟩) :
    Mirrors p Reached NoHandler r (Run.expandAt p levels source dir line text)
      (p.expandAt levels ⟨source, dir, r.chain⟩ line text) := by
  induction levels generalizing r source dir line text with
  | zero =>
    exact mirrors_expandWithin hleads (.none (by omega)) line hreached
  | succ levels ih =>
    refine mirrors_expandWithin hleads (.some (by omega) fun r' path file hdepth hfile => ?_) line
      hreached
    refine ih ?_ 1 hfile
    rw [hdepth]
    omega

end

end PageBlocks
