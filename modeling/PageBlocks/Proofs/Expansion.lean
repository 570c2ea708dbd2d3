import PageBlocks.Processor
import PageBlocks.Proofs.Content

/-!
# Processing, step by step

The content of a block is shorter than the text that the block stands in, so the guard under which
`expandWithin` calls itself never fails, and `expandWithin_eq` says what processing is without it.
What a page comes to is then read off one block at a time (`result_addAll_block`), given what each
block is rendered to.
-/

namespace PageBlocks

namespace Outcome

variable {α β : Type}

theorem result_bind {x : Outcome α} {a : α} (h : x.result = .ok a) (f : α → Outcome β) :
    (x >>= f).result = (f a).result := by
  rw [bind_of_ok h]

end Outcome

namespace Assembly

variable {f g render : Block → Outcome Rendered}

theorem addAll_congr {segments : List Segment} (h : ∀ b, .block b ∈ segments → f b = g b)
    (a : Assembly) : addAll f segments a = addAll g segments a := by
  induction segments generalizing a with
  | nil => rfl
  | cons s later ih =>
    have hlater : ∀ b, .block b ∈ later → f b = g b := fun b hb => h b (List.mem_cons_of_mem _ hb)
    cases s with
    | literal t => exact ih hlater _
    | block b =>
      rw [addAll, addAll, h b List.mem_cons_self]
      exact congrArg _ (funext fun r => ih hlater _)

theorem result_addAll_block {b : Block} {r : Rendered} (h : (render b).result = .ok r)
    (later : List Segment) (a : Assembly) :
    (addAll render (.block b :: later) a).result =
      (addAll render later (a.addBlock b r)).result := by
  rw [addAll, Outcome.result_bind h]

/-- A literal is added as far as it is not skipped, and an empty one adds nothing. -/
theorem addAll_literal {t : Text} {a : Assembly} (h : a.skip ≤ t.length) (later : List Segment) :
    addAll render (Scan.literal t later) a = addAll render later (a.addLiteral t) := by
  cases t with
  | nil =>
    obtain ⟨out, skip⟩ := a
    obtain rfl : skip = 0 := Nat.le_zero.1 h
    simp [Scan.literal, addLiteral]
  | cons c t => rfl

end Assembly

namespace Processor

variable {p : Processor} {site : Site}

theorem renderBlock_congr {f g : Nat → Text → Outcome Text}
    {insert : Location → Path → Text → Outcome Text} {b : Block}
    (h : f b.contentLine b.content = g b.contentLine b.content) :
    p.renderBlock site f insert b = p.renderBlock site g insert b := by
  unfold renderBlock
  rw [h]

/-- What becomes of a block by the answer of its handler; `kept` is its content, processed. -/
def settle (insert : Path → Text → Outcome Text) (kept : Outcome Text) : Output → Outcome Rendered
  | .keep => return ⟨← kept, false⟩
  | .drop => return ⟨[], false⟩
  | .edit text => return ⟨text, false⟩
  | .replace text => return ⟨text, true⟩
  | .insertFile path text => return ⟨Text.dropFinalBreak (← insert path text), true⟩

/-- What becomes of a block that `handler` takes care of. -/
def handleBlock (p : Processor) (site : Site) (expandContent : Nat → Text → Outcome Text)
    (insert : Location → Path → Text → Outcome Text) (b : Block) (d : Directive)
    (handler : Handler) : Outcome Rendered :=
  let kept := expandContent b.contentLine b.content
  if handler.readsContent d then do
    let content ← kept
    settle (insert ⟨site.source, b.line⟩) (pure content)
      (← handler.handle (p.context site b) d content)
  else do
    settle (insert ⟨site.source, b.line⟩) kept
      (← handler.handle (p.context site b) d b.content)

/-- A block is rendered by the handler of the directive that counts, if all its directives have
one. -/
theorem renderBlock_eq (p : Processor) (site : Site) (expandContent : Nat → Text → Outcome Text)
    (insert : Location → Path → Text → Outcome Text) (b : Block) :
    p.renderBlock site expandContent insert b =
      match b.directives.find? fun d => !p.registry.contains d.type with
      | some d => .fail (.unknownType ⟨site.source, b.line⟩ d.type)
      | none =>
        match p.audience.select? b.directives with
        | none => return ⟨← expandContent b.contentLine b.content, false⟩
        | some d =>
          match p.registry.get? d.type with
          | none => .fail (.unknownType ⟨site.source, b.line⟩ d.type)
          | some handler => p.handleBlock site expandContent insert b d handler := by
  unfold renderBlock handleBlock
  cases b.directives.find? fun d => !p.registry.contains d.type with
  | some d => rfl
  | none =>
    dsimp only
    cases p.audience.select? b.directives with
    | none => rfl
    | some d =>
      dsimp only
      cases p.registry.get? d.type with
      | none => rfl
      | some handler =>
        dsimp only
        split
        · refine congrArg (_ >>= ·) (funext fun content => ?_)
          refine congrArg (_ >>= ·) (funext fun out => ?_)
          cases out <;> simp [settle]
        · rw [pure_bind]
          refine congrArg (_ >>= ·) (funext fun out => ?_)
          cases out <;> rfl

/-- A block with one directive is up to the handler if the directive counts. -/
theorem renderBlock_of_single {p : Processor} {site : Site} {b : Block} {d : Directive}
    {g : Handler} (hdirectives : b.directives = [d]) (hget : p.registry.get? d.type = some g)
    (expand : Nat → Text → Outcome Text) (insert : Location → Path → Text → Outcome Text) :
    p.renderBlock site expand insert b =
      if p.audience.accepts d then p.handleBlock site expand insert b d g
      else return ⟨← expand b.contentLine b.content, false⟩ := by
  have hknown : [d].find? (fun d => !p.registry.contains d.type) = none := by
    simp [Registry.contains, hget]
  rw [renderBlock_eq, hdirectives, hknown]
  dsimp only
  by_cases haccepts : p.audience.accepts d
  · have hselect : p.audience.select? [d] = some d := by simp [Audience.select?, haccepts]
    rw [hselect, if_pos haccepts]
    dsimp only
    rw [hget]
  · have hselect : p.audience.select? [d] = none := by simp [Audience.select?, haccepts]
    rw [hselect, if_neg haccepts]

/-- Processing calls itself on the content of every block. -/
theorem expandWithin_eq (p : Processor) (deeper? : Option (Site → Text → Outcome Text))
    (site : Site) (line : Nat) (text : Text) :
    p.expandWithin deeper? site line text = do
      let page ← Assembly.addAll
        (p.renderBlock site (p.expandWithin deeper? site) (p.insertFile deeper? site))
        (p.marker.scan line text).segments {}
      match (p.marker.scan line text).error? with
      | some e => .fail (.ofScan site.source e)
      | none => return page.out := by
  rw [expandWithin]
  refine congrArg (· >>= _) ?_
  refine Assembly.addAll_congr (fun b hb => ?_) {}
  refine renderBlock_congr ?_
  rw [dif_pos (Marker.length_content_lt hb)]

theorem result_expandWithin {deeper? : Option (Site → Text → Outcome Text)} {line : Nat}
    {text : Text} {segments : List Segment} {a : Assembly}
    (hscan : p.marker.scan line text = ⟨segments, none⟩)
    (hadd : (Assembly.addAll
      (p.renderBlock site (p.expandWithin deeper? site) (p.insertFile deeper? site))
      segments {}).result = .ok a) :
    (p.expandWithin deeper? site line text).result = .ok a.out := by
  rw [expandWithin_eq, hscan, Outcome.result_bind hadd]
  rfl

/-- The number of include levels does not matter to a text that comes to the same on each. -/
theorem result_expand {text out : Text}
    (h : ∀ deeper?, (p.expandWithin deeper? site 1 text).result = .ok out) :
    (p.expand site text).result = .ok out := by
  unfold expand
  cases p.options.maxIncludeDepth with
  | zero => exact h none
  | succ levels => exact h _

end Processor

end PageBlocks
