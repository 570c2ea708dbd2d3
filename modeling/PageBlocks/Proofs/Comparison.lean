import PageBlocks.Proofs.Expansion

/-!
# Comparing two ways to process

Many facts about pages compare two runs: with another list of open files, with other line numbers,
with more levels left. Such runs take the same steps, and what has to be shown is only that every
step of the one that succeeds is a step of the other. `Outcome.Comparison` says what a comparison
has to put up with so that it holds of a page when it holds of its blocks, and of a block when it
holds of its content, its handler and the file in its place.
-/

namespace PageBlocks

variable {R : (α : Type) → Outcome α → Outcome α → Prop}

namespace Outcome

variable {α β : Type}

/-- A way to compare outcomes that asks nothing of a failure and goes through step by step. -/
structure Comparison (R : (α : Type) → Outcome α → Outcome α → Prop) : Prop where
  refl : ∀ {α : Type} (x : Outcome α), R α x x
  fail : ∀ {α : Type} (e : ProcessError) (y : Outcome α), R α (.fail e) y
  bind : ∀ {α β : Type} {x y : Outcome α} {f g : α → Outcome β}, R α x y →
    (∀ a, x.result = .ok a → R β (f a) (g a)) → R β (x >>= f) (y >>= g)

/-- When two steps succeed, the first one does, and the second one on what it came to. -/
theorem ok_of_bind {x : Outcome α} {f : α → Outcome β} {b : β} (h : (x >>= f).result = .ok b) :
    ∃ a, x.result = .ok a ∧ (f a).result = .ok b := by
  cases hx : x.result with
  | error e =>
    rw [bind_of_error hx] at h
    cases h
  | ok a =>
    rw [result_bind hx] at h
    exact ⟨a, rfl, h⟩

/-- If the first one succeeds, the second one is the same, with all that was noted. -/
def Kept (α : Type) (x y : Outcome α) : Prop := ∀ a, x.result = .ok a → y = x

/-- If the first one succeeds, the second one comes to the same value. -/
def Agrees (α : Type) (x y : Outcome α) : Prop := ∀ a, x.result = .ok a → y.result = .ok a

theorem comparison_kept : Comparison Kept where
  refl := fun _ _ _ => rfl
  fail := fun _ _ _ h => by cases h
  bind := by
    intro α β x y f g hxy hfg b hb
    obtain ⟨a, hx, hf⟩ := ok_of_bind hb
    rw [hxy a hx, bind_of_ok hx, bind_of_ok hx, hfg a hx b hf]

theorem comparison_agrees : Comparison Agrees where
  refl := fun _ _ h => h
  fail := fun _ _ _ h => by cases h
  bind := by
    intro α β x y f g hxy hfg b hb
    obtain ⟨a, hx, hf⟩ := ok_of_bind hb
    rw [result_bind (hxy a hx)]
    exact hfg a hx b hf

end Outcome

/-- Pieces of two pages that are put together in the same way, and rendered comparably. -/
inductive Segment.Compared (R : (α : Type) → Outcome α → Outcome α → Prop)
    (f g : Block → Outcome Rendered) : Segment → Segment → Prop where
  | literal (t : Text) : Compared R f g (.literal t) (.literal t)
  | block {b b' : Block} (layout : ∀ a r, Assembly.addBlock a b' r = Assembly.addBlock a b r)
      (rendered : R Rendered (f b) (g b')) : Compared R f g (.block b) (.block b')

namespace Outcome.Comparison

variable (hR : Comparison R)

include hR

/-- Pages are comparable when their pieces are. -/
theorem addAll {f g : Block → Outcome Rendered} {ss ss' : List Segment}
    (h : List.Forall₂ (Segment.Compared R f g) ss ss') (a : Assembly) :
    R Assembly (Assembly.addAll f ss a) (Assembly.addAll g ss' a) := by
  induction h generalizing a with
  | nil => exact hR.refl _
  | cons hs _ ih =>
    cases hs with
    | literal t => exact ih _
    | block layout rendered =>
      refine hR.bind rendered fun r _ => ?_
      rw [layout]
      exact ih _

/-- Answers that name the same file in a block's place are followed comparably. -/
theorem settle {insert insert' : Path → Text → Outcome Text} {kept kept' : Outcome Text}
    (hinsert : ∀ path text, R Text (insert path text) (insert' path text))
    (hkept : R Text kept kept') (out : Output) :
    R Rendered (Processor.settle insert kept out) (Processor.settle insert' kept' out) := by
  cases out with
  | keep => exact hR.bind hkept fun _ _ => hR.refl _
  | drop => exact hR.refl _
  | edit text => exact hR.refl _
  | replace text => exact hR.refl _
  | insertFile path text => exact hR.bind (hinsert path text) fun _ _ => hR.refl _

/-- Blocks are rendered comparably when their contents, their handlers and the files in their place
are comparable. -/
theorem renderBlock {p p' : Processor} (hregistry : p'.registry = p.registry)
    (haudience : p'.audience = p.audience) {site site' : Site} {b b' : Block}
    (hdirectives : b'.directives = b.directives) (hcontent : b'.content = b.content)
    {expand expand' : Nat → Text → Outcome Text}
    {insert insert' : Location → Path → Text → Outcome Text}
    (hexpand : R Text (expand b.contentLine b.content) (expand' b'.contentLine b'.content))
    (hhandle : ∀ d handler, p.registry.get? d.type = some handler → ∀ content, R Output
      (handler.handle (p.context site b) d content)
      (handler.handle (p'.context site' b') d content))
    (hinsert : ∀ path text, R Text (insert ⟨site.source, b.line⟩ path text)
      (insert' ⟨site'.source, b'.line⟩ path text)) :
    R Rendered (p.renderBlock site expand insert b) (p'.renderBlock site' expand' insert' b') := by
  rw [Processor.renderBlock_eq, Processor.renderBlock_eq, hregistry, haudience, hdirectives]
  cases b.directives.find? fun d => !p.registry.contains d.type with
  | some d => exact hR.fail _ _
  | none =>
    dsimp only
    cases p.audience.select? b.directives with
    | none => exact hR.bind hexpand fun _ _ => hR.refl _
    | some d =>
      dsimp only
      cases hget : p.registry.get? d.type with
      | none => exact hR.fail _ _
      | some handler =>
        simp only [Processor.handleBlock]
        split
        · refine hR.bind hexpand fun content _ => ?_
          refine hR.bind (hhandle d handler hget content) fun out _ => ?_
          exact hR.settle hinsert (hR.refl _) out
        · have hanswer := hhandle d handler hget b'.content
          rw [hcontent] at hanswer hexpand ⊢
          refine hR.bind hanswer fun out _ => ?_
          exact hR.settle hinsert hexpand out

end Outcome.Comparison

end PageBlocks
