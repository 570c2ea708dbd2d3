import Mathlib.Data.Prod.Lex
import PageBlocks.Proofs.Inclusion
import PageBlocks.Proofs.Scanner

/-!
# Why processing ends

To process a text is to process other texts: the contents of its blocks, and the files that take the
place of blocks. `expandBy` says which and what is made of them, and leaves open how they are
processed themselves. There are two kinds of calls inside a call.

    text ──▶ content of a block     same include depth, shorter text
      └────▶ file for a block       one level deeper, up to the limit, any text

Levels that are left and length of the text, in this order, go down with every call
(`lex_of_nests`), whatever the handlers answer and however the files include each other. So there is
exactly one way to process all texts that is as `expandBy` says, and it is the processor's.
-/

namespace PageBlocks

/-- A call that processes a text. -/
structure Frame where
  site : Site
  /-- How many files are being included. -/
  depth : Nat
  line : Nat
  text : Text

namespace Processor

/-- A file in the place of a block, where `self` processes texts. -/
def includeBy (p : Processor) (self : Frame → Outcome Text) (f : Frame) (location : Location)
    (path : Path) (text : Text) : Outcome Text :=
  if !p.options.recursive then return text
  else
    let name := Path.normalize path
    let chain := f.site.chain ++ [name]
    if f.site.chain.contains name || p.options.maxIncludeDepth ≤ f.depth then
      .fail (.includeCycle location chain)
    else self ⟨⟨some path, Path.directory path, chain⟩, f.depth + 1, 1, text⟩

/-- One call, where `self` processes the texts inside. -/
def expandBy (p : Processor) (self : Frame → Outcome Text) (f : Frame) : Outcome Text := do
  let scan := p.marker.scan f.line f.text
  let content (line : Nat) (inner : Text) := self { f with line := line, text := inner }
  let page ← Assembly.addAll (p.renderBlock f.site content (p.includeBy self f)) scan.segments {}
  match scan.error? with
  | some e => .fail (.ofScan f.site.source e)
  | none => return page.out

/-- The calls that a call can make itself. -/
inductive Nests (p : Processor) (outer : Frame) : Frame → Prop where
  /-- The content of a block is processed. -/
  | content {b : Block} (found : .block b ∈ (p.marker.scan outer.line outer.text).segments) :
      Nests p outer { outer with line := b.contentLine, text := b.content }
  /-- A file is processed that the handler of a block has answered with. -/
  | file {b : Block} (found : .block b ∈ (p.marker.scan outer.line outer.text).segments)
      {d : Directive} {handler : Handler} (handled : p.registry.get? d.type = some handler)
      {content : Text} {path : Path} {text : Text}
      (answered : (handler.handle (p.context outer.site b) d content).result =
        .ok (.insertFile path text))
      (recursive : p.options.recursive = true)
      (closed : Path.normalize path ∉ outer.site.chain)
      (left : outer.depth < p.options.maxIncludeDepth) :
      Nests p outer ⟨⟨some path, Path.directory path, outer.site.chain ++ [Path.normalize path]⟩,
        outer.depth + 1, 1, text⟩

/-- The include levels that are left, and the length of the text. -/
def rank (p : Processor) (f : Frame) : Nat × Nat :=
  (p.options.maxIncludeDepth - f.depth, f.text.length)

variable {p : Processor} {outer inner : Frame}

/-- A call inside is at the same depth for a shorter text, or one level deeper. -/
theorem shorter_or_deeper_of_nests (h : p.Nests outer inner) :
    (inner.depth = outer.depth ∧ inner.text.length < outer.text.length) ∨
      (inner.depth = outer.depth + 1 ∧ inner.depth ≤ p.options.maxIncludeDepth) := by
  cases h with
  | content found => exact Or.inl ⟨rfl, Marker.length_content_lt found⟩
  | file found handled answered recursive closed left => exact Or.inr ⟨rfl, left⟩

theorem lex_of_nests (h : p.Nests outer inner) :
    Prod.Lex (· < ·) (· < ·) (p.rank inner) (p.rank outer) := by
  unfold rank
  rcases shorter_or_deeper_of_nests h with ⟨hdepth, hlength⟩ | ⟨hdepth, hle⟩
  · rw [hdepth]
    exact Prod.Lex.right _ hlength
  · exact Prod.Lex.left _ _ (by omega)

/-- There is no endless chain of calls, each inside the one before. -/
theorem wellFounded_nests (p : Processor) : WellFounded fun inner outer => p.Nests outer inner :=
  Subrelation.wf (fun h => lex_of_nests h)
    (InvImage.wf p.rank (WellFounded.prod_lex Nat.lt_wfRel.wf Nat.lt_wfRel.wf))

end Processor

/-! ### What a call depends on -/

/-- Only what the first step can come to matters to the second one. -/
theorem Outcome.bind_congr_of_ok {α β : Type} {x : Outcome α} {f g : α → Outcome β}
    (h : ∀ a, x.result = .ok a → f a = g a) : x >>= f = x >>= g := by
  cases hx : x.result with
  | error e => rw [bind_of_error hx, bind_of_error hx]
  | ok a => rw [bind_of_ok hx, bind_of_ok hx, h a hx]

namespace Processor

variable {p : Processor} {site : Site} {expand : Nat → Text → Outcome Text}
  {insert insert' : Location → Path → Text → Outcome Text} {b : Block}

/-- Of the files in a block's place, only those matter that a handler answers with. -/
theorem renderBlock_congr_insert
    (h : ∀ d handler content path text, p.registry.get? d.type = some handler →
      (handler.handle (p.context site b) d content).result = .ok (.insertFile path text) →
      insert ⟨site.source, b.line⟩ path text = insert' ⟨site.source, b.line⟩ path text) :
    p.renderBlock site expand insert b = p.renderBlock site expand insert' b := by
  have hsettle : ∀ d handler content kept out, p.registry.get? d.type = some handler →
      (handler.handle (p.context site b) d content).result = .ok out →
      settle (insert ⟨site.source, b.line⟩) kept out =
        settle (insert' ⟨site.source, b.line⟩) kept out := by
    intro d handler content kept out hget hout
    cases out with
    | insertFile path text => rw [settle, settle, h d handler content path text hget hout]
    | keep => rfl
    | drop => rfl
    | edit text => rfl
    | replace text => rfl
  rw [renderBlock_eq, renderBlock_eq]
  cases b.directives.find? fun d => !p.registry.contains d.type with
  | some d => rfl
  | none =>
    dsimp only
    cases p.audience.select? b.directives with
    | none => rfl
    | some d =>
      dsimp only
      cases hget : p.registry.get? d.type with
      | none => rfl
      | some handler =>
        dsimp only
        unfold handleBlock
        split
        · refine Outcome.bind_congr_of_ok fun content _ => ?_
          exact Outcome.bind_congr_of_ok fun out hout => hsettle d handler content _ out hget hout
        · exact Outcome.bind_congr_of_ok fun out hout => hsettle d handler _ _ out hget hout

/-- What a call comes to depends on the calls inside alone. -/
theorem expandBy_congr {self self' : Frame → Outcome Text} {f : Frame}
    (h : ∀ inner, p.Nests f inner → self inner = self' inner) :
    p.expandBy self f = p.expandBy self' f := by
  unfold expandBy
  refine congrArg (· >>= _) (Assembly.addAll_congr (fun b hb => ?_) {})
  refine (renderBlock_congr (h _ (.content hb))).trans (renderBlock_congr_insert ?_)
  intro d handler content path text hget hanswer
  unfold includeBy
  cases hrecursive : p.options.recursive with
  | false => rfl
  | true =>
    dsimp only
    split
    · rfl
    · split
      · rfl
      · rename_i hopen
        rw [Bool.or_eq_true, not_or, decide_eq_true_iff, Nat.not_le] at hopen
        have hclosed : Path.normalize path ∉ f.site.chain :=
          fun hmem => hopen.1 (List.contains_iff_mem.2 hmem)
        exact h _ (.file hb hget hanswer hrecursive hclosed hopen.2)

/-! ### The processor's own way -/

/-- A call as the processor makes it. -/
def expandFrame (p : Processor) (f : Frame) : Outcome Text :=
  p.expandAt (p.options.maxIncludeDepth - f.depth) f.site f.line f.text

theorem includeBy_expandFrame (p : Processor) (f : Frame) :
    p.includeBy p.expandFrame f =
      p.insertFile (p.below (p.options.maxIncludeDepth - f.depth)) f.site := by
  funext location path text
  unfold includeBy insertFile
  split
  · rfl
  · dsimp only
    by_cases hopen : f.site.chain.contains (Path.normalize path) = true
    · rw [if_pos hopen, hopen, Bool.true_or, if_pos rfl]
    · rw [if_neg hopen, Bool.eq_false_iff.2 hopen, Bool.false_or]
      by_cases hleft : p.options.maxIncludeDepth ≤ f.depth
      · rw [if_pos (decide_eq_true hleft), Nat.sub_eq_zero_of_le hleft]
        rfl
      · obtain ⟨levels, hlevels⟩ : ∃ levels, p.options.maxIncludeDepth - f.depth = levels + 1 :=
          ⟨p.options.maxIncludeDepth - f.depth - 1, by omega⟩
        have hdeeper : p.options.maxIncludeDepth - (f.depth + 1) = levels := by omega
        rw [if_neg (by simpa using hleft), hlevels]
        simp only [expandFrame, hdeeper, below]

/-- The processor does what a call says. -/
theorem expandFrame_eq (p : Processor) (f : Frame) :
    p.expandFrame f = p.expandBy p.expandFrame f := by
  have hcontent : (fun line inner => p.expandFrame { f with line := line, text := inner }) =
      p.expandWithin (p.below (p.options.maxIncludeDepth - f.depth)) f.site := by
    funext line inner
    rw [expandFrame, expandAt_eq]
  rw [expandBy, includeBy_expandFrame, hcontent, expandFrame, expandAt_eq]
  exact p.expandWithin_eq _ f.site f.line f.text

/-- There is no other way to do so. -/
theorem eq_expandFrame {self : Frame → Outcome Text} (h : ∀ f, self f = p.expandBy self f) :
    self = p.expandFrame := by
  funext f
  induction f using p.wellFounded_nests.induction with
  | _ f ih => rw [h f, expandFrame_eq p f, expandBy_congr ih]

/-- Processing ends on every input. Each call of a scanner finishes it, moves its cursor forward, or
hands out a block that the call before it held back when it moved the cursor; the scanner is
finished after at most one call more than there are characters. A text is processed by calls that go
down in the lexicographic order of levels left and length of the text, and by nothing else, so that
there is exactly one way to do it, and the processor goes that way for each text and each file. -/
theorem processing_ends (p : Processor) :
    (∀ line text n, (p.marker.drain n (.start line text)).2.Advances
      (p.marker.next (p.marker.drain n (.start line text)).2)) ∧
    (∀ line (text : Text),
      (p.marker.drain (text.length + 1) (.start line text)).1 = (p.marker.scan line text).items ∧
        (p.marker.drain (text.length + 1) (.start line text)).2.finished = true) ∧
    (∀ outer inner, p.Nests outer inner →
      ((inner.depth = outer.depth ∧ inner.text.length < outer.text.length) ∨
        (inner.depth = outer.depth + 1 ∧ inner.depth ≤ p.options.maxIncludeDepth)) ∧
      Prod.Lex (· < ·) (· < ·) (p.rank inner) (p.rank outer)) ∧
    (WellFounded fun inner outer => p.Nests outer inner) ∧
    (∀ self self' f, (∀ inner, p.Nests f inner → self inner = self' inner) →
      p.expandBy self f = p.expandBy self' f) ∧
    ∃ self : Frame → Outcome Text, (∀ f, self f = p.expandBy self f) ∧
      (∀ other : Frame → Outcome Text, (∀ f, other f = p.expandBy other f) → other = self) ∧
      (∀ dir text, p.processText dir text = (do
        p.finish none (← self ⟨⟨none, dir, []⟩, 0, 1, text⟩))) ∧
      ∀ path text, p.read path = .ok text → p.processFile path = (do
        p.finish (some path)
          (← self ⟨⟨some path, Path.directory path, [Path.normalize path]⟩, 0, 1, text⟩)) := by
  refine ⟨?_, ?_, ?_, p.wellFounded_nests, fun _ _ _ h => expandBy_congr h, p.expandFrame,
    p.expandFrame_eq, fun _ h => eq_expandFrame h, fun _ _ => rfl, ?_⟩
  · intro line text n
    exact ((Scanner.within_start line text).drain p.marker n).advances (Scanner.step_next _ _)
  · exact Scanner.drain_start p.marker
  · exact fun outer inner h => ⟨shorter_or_deeper_of_nests h, lex_of_nests h⟩
  · intro path text hread
    rw [processFile, hread]
    rfl

/-- A block between two characters is handed out by a call that neither finishes the scanner nor
moves its cursor: that is where the call before has put it, with one character left to search. -/
theorem cursor_stands_still :
    let s := (Marker.build.drain 1 (.start 1 "a<!--build:remove-->x<!--endbuild-->b".toList)).2
    (Marker.build.next s).1.isSome = true ∧ s.rest = ['b'] ∧
      ¬((Marker.build.next s).2.finished = true ∨ s.cursor < (Marker.build.next s).2.cursor) := by
  decide +kernel

/-- A page with one block, for which `a` is included. -/
def includingFrame : Frame := ⟨⟨none, [], []⟩, 0, 1, includingBlock.source⟩

/-- `a` in its place. -/
def includedFrame : Frame :=
  ⟨⟨some ['a'], Path.directory ['a'], [Path.normalize ['a']]⟩, 1, 1,
    "A<!--build:include b--><!--endbuild-->\n".toList⟩

theorem processing_ends_included :
    includingProcessor.Nests includingFrame includedFrame ∧
      includingFrame.text.length < includedFrame.text.length ∧
      Prod.Lex (· < ·) (· < ·) (includingProcessor.rank includedFrame)
        (includingProcessor.rank includingFrame) := by
  have hfound : .block includingBlock ∈
      (includingProcessor.marker.scan 1 includingBlock.source).segments := by decide +kernel
  have hget : includingProcessor.registry.get? includingBlock.first.type =
      some Handler.insertFile := rfl
  have hanswer : (Handler.insertFile.handle
      (includingProcessor.context includingFrame.site includingBlock) includingBlock.first
      []).result = .ok (.insertFile ['a'] includedFrame.text) := by decide +kernel
  have hnests : includingProcessor.Nests includingFrame includedFrame :=
    .file hfound hget hanswer rfl List.not_mem_nil (by decide)
  exact ⟨hnests, by decide +kernel,
    ((processing_ends includingProcessor).2.2.1 includingFrame includedFrame hnests).2⟩

end Processor

end PageBlocks
