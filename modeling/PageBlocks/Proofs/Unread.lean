import PageBlocks.Proofs.Concatenation
import PageBlocks.Proofs.Partition

/-!
# Content that nobody reads

A handler that does not ask for the content of a block and does not keep it leaves no trace of it in
the page (`Processor.unread_content_hidden`). Two pages that differ only inside such blocks are
compared block by block. What a block can see of an earlier one ends at the `>` of its closing
directive, and what it can see of a later one at the `<` of its opening directive:

    … inner <!-- endbuild -->   ⎵ ⎵   block   ⎵ ⎵   <!-- build:remove --> inner …
                            >                       <

Neither sign is blank, so a block that stands alone has a line feed before the one and the other,
and nothing behind these line feeds matters to it. So it is with any two pages whose pieces stand
side by side: the rules for layout see the same place (`Segment.placedAlike_of_beside`), and the
pages are put together in the same way if their blocks are rendered to the same
(`Processor.agrees_of_beside`).
-/

namespace PageBlocks

open Outcome (Agrees comparison_agrees)
open Segment (sources)

/-! ### What a block sees of later ones -/

namespace Text

/-- What follows is the same to the rules for layout. -/
structure AlikeAhead (r r' : Text) : Prop where
  blankToLineEnd_eq : blankToLineEnd r' = blankToLineEnd r
  breaksLine_eq : breaksLine r' = breaksLine r
  blanks_eq : leadingBlanks r' = leadingBlanks r
  lineEnd_eq : lineEnd r' = lineEnd r

theorem AlikeAhead.refl (r : Text) : AlikeAhead r r := ⟨rfl, rfl, rfl, rfl⟩

theorem leadingBlanks_append_angle (t x : Text) :
    leadingBlanks (t ++ '<' :: x) = leadingBlanks t := by
  have hangle : ('<' :: x).takeWhile isBlank = [] := rfl
  rw [leadingBlanks, leadingBlanks, List.takeWhile_append]
  split
  · rename_i hall
    rw [hangle, List.append_nil, (List.takeWhile_prefix isBlank).eq_of_length hall]
  · rfl

/-- A line feed that comes before the first `<` stands in front of it. -/
theorem mem_of_append_angle {w r t x : Text} (h : w ++ '\n' :: r = t ++ '<' :: x)
    (hw : '<' ∉ w) : '\n' ∈ t := by
  obtain ⟨u, rfl, hu⟩ := exists_of_append_cons h hw
  cases u with
  | nil => cases hu
  | cons c u =>
    obtain ⟨rfl, -⟩ := List.cons.inj hu
    simp

theorem dropLineBreak?_append_angle {t : Text} (ht : '\n' ∉ t) (x : Text) :
    dropLineBreak? ((t ++ '<' :: x).dropWhile isBlank) = none := by
  have hsplit : leadingBlanks (t ++ '<' :: x) ++ (t ++ '<' :: x).dropWhile isBlank =
      t ++ '<' :: x := List.takeWhile_append_dropWhile
  have hblanks : '<' ∉ leadingBlanks (t ++ '<' :: x) := by
    intro hmem
    exact (ne_of_blank (blank_leadingBlanks _) _ hmem).1 rfl
  rw [Option.eq_none_iff_forall_ne_some]
  intro r hr
  rcases dropLineBreak?_eq_some hr with hr | hr
  · rw [hr, List.append_cons] at hsplit
    refine ht (mem_of_append_angle hsplit ?_)
    simpa using hblanks
  · rw [hr] at hsplit
    exact ht (mem_of_append_angle hsplit hblanks)

theorem blankToLineEnd_append_angle {t : Text} (ht : '\n' ∉ t) (x : Text) :
    blankToLineEnd (t ++ '<' :: x) = false := by
  have hne : ∀ c ∈ t ++ ['<'], (c != '\n') = true := by
    intro c hc
    rw [bne_iff_ne]
    rintro rfl
    exact ht (by simpa using hc)
  have hline : restOfLine (t ++ '<' :: x) = t ++ '<' :: restOfLine x := by
    rw [restOfLine, List.append_cons, List.takeWhile_append_of_pos hne, ← List.append_cons]
    rfl
  -- The sign is no carriage return, so it stays when these are dropped from the end.
  have hangle : '<' ∈ dropEndWhile (· == '\r') (t ++ '<' :: restOfLine x) := by
    have hmem : '<' ∈ (t ++ '<' :: restOfLine x).reverse := by simp
    rw [← List.takeWhile_append_dropWhile (p := (· == '\r'))
      (l := (t ++ '<' :: restOfLine x).reverse), List.mem_append] at hmem
    rw [dropEndWhile, List.mem_reverse]
    refine hmem.resolve_left fun hreturn => ?_
    exact absurd (List.all_eq_true.1 List.all_takeWhile _ hreturn) (by decide)
  rw [blankToLineEnd, hline, Bool.eq_false_iff]
  intro hblank
  exact absurd (blank_iff.1 hblank _ hangle) (by decide)

/-- Nothing behind the next `<` matters. -/
theorem alikeAhead_angle (t x y : Text) : AlikeAhead (t ++ '<' :: x) (t ++ '<' :: y) := by
  by_cases ht : '\n' ∈ t
  · constructor
    · rw [blankToLineEnd_append_of_mem ht, blankToLineEnd_append_of_mem ht]
    · rw [breaksLine_append_of_mem ht, breaksLine_append_of_mem ht]
    · rw [leadingBlanks_append_of_mem ht, leadingBlanks_append_of_mem ht]
    · rw [lineEnd_append_of_mem ht, lineEnd_append_of_mem ht]
  · have hend : ∀ z, lineEnd (t ++ '<' :: z) = [] := by
      intro z
      rw [lineEnd, dropLineEnd, dropLineBreak?_append_angle ht, Option.getD_none, Nat.sub_self,
        List.take_zero]
    constructor
    · rw [blankToLineEnd_append_angle ht, blankToLineEnd_append_angle ht]
    · rw [breaksLine, breaksLine, dropLineBreak?_append_angle ht, dropLineBreak?_append_angle ht]
    · rw [leadingBlanks_append_angle, leadingBlanks_append_angle]
    · rw [hend, hend]

end Text

/-- Nothing before the last `>` matters to a blank line. -/
theorem Document.lineSoFar_angle {t x : Text}
    (hline : Text.blank (lineSoFar (t.reverse ++ '>' :: x))) (y : Text) :
    lineSoFar (t.reverse ++ '>' :: y) = lineSoFar (t.reverse ++ '>' :: x) := by
  obtain ⟨u, v, rfl, hv⟩ := exists_of_blank_lineSoFar hline
  have hfree : '\n' ∉ v := by
    intro hmem
    rw [hv] at hline
    exact (Text.ne_of_blank hline _ hmem).2.2 rfl
  rw [hv, List.reverse_append, List.reverse_cons, List.append_assoc, List.append_assoc]
  exact lineSoFar_append hfree _

/-! ### Pages that differ in what is ignored -/

namespace Segment

/-- Pieces of two pages that stand side by side: the same literal, or two blocks as `R` has them. -/
inductive Beside (R : Block → Block → Prop) : Segment → Segment → Prop where
  | literal (t : Text) : Beside R (.literal t) (.literal t)
  | block {b b' : Block} (related : R b b') : Beside R (.block b) (.block b')

variable {R S : Block → Block → Prop}

theorem Beside.imp {s s' : Segment} (hRS : ∀ {b b' : Block}, R b b' → S b b')
    (h : Beside R s s') : Beside S s s' := by
  cases h with
  | literal t => exact .literal t
  | block hrelated => exact .block (hRS hrelated)

theorem Beside.symm {s s' : Segment} (hRS : ∀ {b b' : Block}, R b b' → S b' b)
    (h : Beside R s s') : Beside S s' s := by
  cases h with
  | literal t => exact .literal t
  | block hrelated => exact .block (hRS hrelated)

/-- The same piece of two pages, but for the inner text of a block that is ignored. -/
inductive SameBut (ignored : Block → Prop) : Segment → Segment → Prop where
  | literal (t : Text) : SameBut ignored (.literal t) (.literal t)
  | block {b b' : Block} (directives_eq : b'.directives = b.directives)
      (opening_eq : b'.opening = b.opening) (closing_eq : b'.closing = b.closing)
      (inner_eq : b'.inner = b.inner ∨ ignored b) : SameBut ignored (.block b) (.block b')

namespace SameBut

variable {ignored : Block → Prop} {s s' : Segment}

theorem symm (hignored : ∀ {b b' : Block}, ignored b → b'.directives = b.directives →
    ignored b') (h : SameBut ignored s s') : SameBut ignored s' s := by
  cases h with
  | literal t => exact .literal t
  | block hdirectives hopening hclosing hinner =>
    refine .block hdirectives.symm hopening.symm hclosing.symm ?_
    exact hinner.imp Eq.symm fun h => hignored h hdirectives

theorem beside (h : SameBut ignored s s') :
    Beside (fun b b' => b'.directives = b.directives ∧ (b'.inner = b.inner ∨ ignored b)) s s' := by
  cases h with
  | literal t => exact .literal t
  | block hdirectives _ _ hinner => exact .block ⟨hdirectives, hinner⟩

end SameBut

/-- No two literals in a row, and blocks that start and end with the signs of comments. -/
structure Orderly (ss : List Segment) : Prop where
  apart : ∀ t t', ¬ [.literal t, .literal t'] <:+: ss
  ends : ∀ b, .block b ∈ ss → (∃ x, b.opening = '<' :: x) ∧ ∃ y, b.closing = y ++ ['>']

theorem Orderly.of_append {pre post : List Segment} (h : Orderly (pre ++ post)) :
    Orderly pre ∧ Orderly post := by
  constructor
  · refine ⟨fun t t' hin => h.apart t t' (hin.trans (List.prefix_append _ _).isInfix), ?_⟩
    exact fun b hb => h.ends b (List.mem_append_left _ hb)
  · refine ⟨fun t t' hin => h.apart t t' (hin.trans (List.suffix_append _ _).isInfix), ?_⟩
    exact fun b hb => h.ends b (List.mem_append_right _ hb)

theorem alikeAhead_sources {post post' : List Segment} (hpost : Orderly post)
    (hpost' : Orderly post') (h : List.Forall₂ (Beside R) post post') :
    Text.AlikeAhead (sources post) (sources post') := by
  -- A block starts with its sign, behind a literal at most.
  have hblock : ∀ (t : Text) {b b' : Block} {later later' : List Segment}, .block b ∈ post →
      .block b' ∈ post' → Text.AlikeAhead (t ++ sources (.block b :: later))
        (t ++ sources (.block b' :: later')) := by
    intro t b b' later later' hb hb'
    obtain ⟨x, hx⟩ := (hpost.ends b hb).1
    obtain ⟨x', hx'⟩ := (hpost'.ends b' hb').1
    simp only [sources_cons, source, Block.source, hx, hx', List.append_assoc, List.cons_append]
    exact Text.alikeAhead_angle t _ _
  cases h with
  | nil => exact .refl []
  | cons hs hlater =>
    cases hs with
    | block hrelated => exact hblock [] List.mem_cons_self List.mem_cons_self
    | literal t =>
      cases hlater with
      | nil => exact .refl _
      | cons hs' hlater' =>
        cases hs' with
        | literal t' => exact absurd ⟨[], _, rfl⟩ (hpost.apart t t')
        | block hrelated => exact hblock t (by simp) (by simp)

/-- What stands before a block on its line is the same in both pages, if it is blank. -/
theorem lineSoFar_sources {pre pre' : List Segment} (hpre : Orderly pre) (hpre' : Orderly pre')
    (h : List.Forall₂ (Beside R) pre pre')
    (hblank : Text.blank (Document.lineSoFar (sources pre).reverse)) :
    Document.lineSoFar (sources pre').reverse = Document.lineSoFar (sources pre).reverse := by
  -- A block ends with its sign, so a blank line starts in the literal behind it.
  have hblock : ∀ (t : Text) {b b' : Block} (front front' : Text), .block b ∈ pre →
      .block b' ∈ pre' →
      Text.blank (Document.lineSoFar (t.reverse ++ (b.source.reverse ++ front))) →
      Document.lineSoFar (t.reverse ++ (b'.source.reverse ++ front')) =
        Document.lineSoFar (t.reverse ++ (b.source.reverse ++ front)) := by
    intro t b b' front front' hb hb' hline
    obtain ⟨y, hy⟩ := (hpre.ends b hb).2
    obtain ⟨y', hy'⟩ := (hpre'.ends b' hb').2
    simp only [Block.source, hy, hy', List.reverse_append, List.reverse_cons, List.reverse_nil,
      List.nil_append, List.cons_append, List.append_assoc] at hline ⊢
    exact Document.lineSoFar_angle hline _
  have hreverse : ∀ ss : List Segment, (sources ss).reverse =
      ss.reverse.flatMap fun s => s.source.reverse := fun ss => List.reverse_flatMap
  rw [← List.forall₂_reverse_iff] at h
  rw [hreverse] at hblank
  rw [hreverse, hreverse]
  -- The pieces are looked at from the nearest one on.
  generalize hnear : pre.reverse = near at h hblank
  generalize hnear' : pre'.reverse = near' at h
  have hmem : ∀ s ∈ near, s ∈ pre := by
    intro s hs
    rw [← hnear] at hs
    exact List.mem_reverse.1 hs
  have hmem' : ∀ s ∈ near', s ∈ pre' := by
    intro s hs
    rw [← hnear'] at hs
    exact List.mem_reverse.1 hs
  cases h with
  | nil => rfl
  | cons hs hlater =>
    cases hs with
    | block hrelated =>
      exact hblock [] _ _ (hmem _ List.mem_cons_self) (hmem' _ List.mem_cons_self) hblank
    | literal t =>
      cases hlater with
      | nil => rfl
      | cons hs' hlater' =>
        cases hs' with
        | literal t' =>
          refine absurd ?_ (hpre.apart t' t)
          rw [← List.reverse_infix, hnear]
          exact ⟨[], _, rfl⟩
        | block hrelated =>
          exact hblock t _ _ (hmem _ (by simp)) (hmem' _ (by simp)) hblank

/-- Blocks that stand side by side in two pages are laid out in the same way. -/
theorem placedAlike_of_beside {pre pre' post post' : List Segment} {b b' : Block}
    (hpre : Orderly pre) (hpre' : Orderly pre') (hpost : Orderly post) (hpost' : Orderly post')
    (hbefore : List.Forall₂ (Beside R) pre pre') (hbehind : List.Forall₂ (Beside R) post post')
    (hb : b.seen = (sources pre).reverse ∧ b.rest = sources post)
    (hb' : b'.seen = (sources pre').reverse ∧ b'.rest = sources post') : b.PlacedAlike b' := by
  have hbefore' : List.Forall₂ (Beside fun b' b => R b b') pre' pre :=
    hbefore.flip.imp fun _ _ h => h.symm id
  have hlead : b.lead = Document.lineSoFar (sources pre).reverse := by rw [← hb.1]; rfl
  have hlead' : b'.lead = Document.lineSoFar (sources pre').reverse := by rw [← hb'.1]; rfl
  have hahead : Text.AlikeAhead b.rest b'.rest := by
    rw [hb.2, hb'.2]
    exact alikeAhead_sources hpost hpost' hbehind
  refine ⟨?_, hahead.breaksLine_eq, hahead.blanks_eq, hahead.lineEnd_eq⟩
  unfold Block.indent?
  rw [hahead.blankToLineEnd_eq]
  by_cases hblank : Text.blank b.lead
  · have hsame : b'.lead = b.lead := by
      rw [hlead] at hblank
      rw [hlead, hlead', lineSoFar_sources hpre hpre' hbefore hblank]
    rw [hsame]
  · have hblank' : ¬ Text.blank b'.lead := by
      intro h
      have h' := h
      rw [hlead'] at h'
      rw [hlead', ← lineSoFar_sources hpre' hpre hbefore' h', ← hlead] at h
      exact hblank h
    simp [hblank, hblank']

end Segment

/-- A relation along two lists may be told from what stands on both sides of a pair. -/
theorem forall₂_of_splits {R S : Segment → Segment → Prop} {pre pre' ss ss' : List Segment}
    (hpre : List.Forall₂ R pre pre') (h : List.Forall₂ R ss ss')
    (hS : ∀ {front front' s s' later later'}, pre ++ ss = front ++ s :: later →
      pre' ++ ss' = front' ++ s' :: later' → List.Forall₂ R front front' → R s s' →
      List.Forall₂ R later later' → S s s') : List.Forall₂ S ss ss' := by
  induction h generalizing pre pre' with
  | nil => exact .nil
  | @cons s s' later later' hs hlater ih =>
    refine .cons (hS rfl rfl hpre hs hlater) ?_
    refine ih (List.rel_append hpre (.cons hs .nil)) fun hsplit hsplit' => ?_
    rw [List.append_assoc, List.singleton_append] at hsplit hsplit'
    exact hS hsplit hsplit'

theorem Marker.orderly_segments (m : Marker) (line : Nat) (text : Text) :
    Segment.Orderly (m.scan line text).segments where
  apart := by
    intro t t'
    rw [scan_eq_ofMarks]
    exact Scan.not_literal_literal
  ends := fun _ hb => ends_of_mem_segments hb

/-! ### What is ignored -/

/-- A handler that does not read the content answers without it. -/
def Handler.Blind (g : Handler) : Prop :=
  ∀ d, g.readsContent d = false → ∀ ctx content content',
    g.handle ctx d content' = g.handle ctx d content

theorem Handler.blind_builtin {g : Handler} (hg : g ∈ Registry.builtin.handlers) : g.Blind := by
  intro d hreads ctx content content'
  rcases Processor.mem_builtin hg with rfl | rfl | ⟨kind, rfl⟩ | rfl | rfl
  · rfl
  · rfl
  · unfold Handler.asset at hreads ⊢
    dsimp only at hreads ⊢
    cases hargs : afterInline? d.args with
    | none => rfl
    | some rest =>
      rw [hargs, Option.any_some] at hreads
      simp only [hreads, Bool.false_eq_true, if_false]
  · cases hreads
  · cases hreads

namespace Processor

/-- The content of the block is neither read nor kept: the directive that counts has a handler that
does not ask for it and gives another answer than to keep it, if it gives one. -/
def Ignores (p : Processor) (site : Site) (b : Block) : Prop :=
  ∃ d handler, p.audience.select? b.directives = some d ∧
    p.registry.get? d.type = some handler ∧ handler.readsContent d = false ∧
    (handler.handle (p.context site b) d b.content).result ≠ .ok .keep

variable {p : Processor} {deeper? : Option (Site → Text → Outcome Text)} {site : Site}

theorem settle_of_ne_keep {out : Output} (h : out ≠ .keep) (insert : Path → Text → Outcome Text)
    (kept kept' : Outcome Text) : settle insert kept' out = settle insert kept out := by
  cases out with
  | keep => exact absurd rfl h
  | drop => rfl
  | edit text => rfl
  | replace text => rfl
  | insertFile path text => rfl

/-- Pages with pieces side by side are put together in the same way, if their blocks are rendered to
the same. -/
theorem agrees_of_beside {R : Block → Block → Prop} {line : Nat} {text text' : Text}
    (hscan : (p.marker.scan line text).error? = none)
    (hscan' : (p.marker.scan line text').error? = none)
    (hbeside : List.Forall₂ (Segment.Beside R) (p.marker.scan line text).segments
      (p.marker.scan line text').segments)
    (hrender : ∀ {b b' : Block}, R b b' → b.PlacedAlike b' → Agrees Rendered
      (p.renderBlock site (p.expandWithin deeper? site) (p.insertFile deeper? site) b)
      (p.renderBlock site (p.expandWithin deeper? site) (p.insertFile deeper? site) b')) :
    Agrees Text (p.expandWithin deeper? site line text)
      (p.expandWithin deeper? site line text') := by
  rw [expandWithin_eq, expandWithin_eq, hscan, hscan']
  refine comparison_agrees.bind (comparison_agrees.addAll ?_ _) fun _ _ => comparison_agrees.refl _
  refine forall₂_of_splits .nil hbeside ?_
  intro pre pre' s s' post post' hsplit hsplit' hpre hs hpost
  rw [List.nil_append] at hsplit hsplit'
  cases hs with
  | literal t => exact .literal t
  | @block b b' hrelated =>
    have horderly := p.marker.orderly_segments line text
    have horderly' := p.marker.orderly_segments line text'
    rw [hsplit, List.append_cons] at horderly
    rw [hsplit', List.append_cons] at horderly'
    have hplaced := Segment.placedAlike_of_beside horderly.of_append.1.of_append.1
      horderly'.of_append.1.of_append.1 horderly.of_append.2 horderly'.of_append.2 hpre hpost
      (Marker.place_of_segments hscan hsplit) (Marker.place_of_segments hscan' hsplit')
    exact .block hplaced.addBlock_eq (hrender hrelated hplaced)

variable (hregistry : p.registry = .builtin)
include hregistry

/-- Built-in handlers that do not read the content answer the same on another line and to another
content. -/
theorem agrees_handle {b b' : Block} {d : Directive} {handler : Handler}
    (hget : p.registry.get? d.type = some handler) (hreads : handler.readsContent d = false) :
    Agrees Output (handler.handle (p.context site b) d b.content)
      (handler.handle (p.context site b') d b'.content) := by
  rw [hregistry] at hget
  have hmem := Registry.mem_of_get? hget
  rw [Handler.blind_builtin hmem d hreads (p.context site b') b.content b'.content]
  exact Handler.lineFree_builtin hmem (p.context site b) b'.line d b.content

/-- What is ignored in one page is ignored in the other. -/
theorem Ignores.of_directives {b b' : Block} (h : p.Ignores site b)
    (hdirectives : b'.directives = b.directives) : p.Ignores site b' := by
  obtain ⟨d, handler, hd, hget, hreads, hkeep⟩ := h
  refine ⟨d, handler, by rw [hdirectives, hd], hget, hreads, fun hkeep' => hkeep ?_⟩
  exact agrees_handle hregistry hget hreads _ hkeep'

/-- Blocks with the same directives are rendered to the same, if their content is ignored. -/
theorem agrees_of_ignores {b b' : Block} (h : p.Ignores site b)
    (hdirectives : b'.directives = b.directives) :
    Agrees Rendered
      (p.renderBlock site (p.expandWithin deeper? site) (p.insertFile deeper? site) b)
      (p.renderBlock site (p.expandWithin deeper? site) (p.insertFile deeper? site) b') := by
  obtain ⟨d, handler, hd, hget, hreads, hkeep⟩ := h
  rw [renderBlock_eq, renderBlock_eq, hdirectives, hd]
  cases b.directives.find? fun d => !p.registry.contains d.type with
  | some d => exact comparison_agrees.fail _ _
  | none =>
    simp only [hget, handleBlock, hreads, Bool.false_eq_true, if_false]
    refine comparison_agrees.bind (agrees_handle hregistry hget hreads) fun out hout => ?_
    have hne : out ≠ .keep := by
      rintro rfl
      exact hkeep hout
    rw [settle_of_ne_keep hne _ (p.expandWithin deeper? site b.contentLine b.content)
      (p.expandWithin deeper? site b'.contentLine b'.content)]
    exact comparison_agrees.settle (agrees_insertFile _ _) (comparison_agrees.refl _) out

/-- Pages that differ in what is ignored are put together in the same way. -/
theorem agrees_of_sameBut {line : Nat} {text text' : Text}
    (hscan : (p.marker.scan line text).error? = none)
    (hscan' : (p.marker.scan line text').error? = none)
    (hsame : List.Forall₂ (Segment.SameBut (p.Ignores site)) (p.marker.scan line text).segments
      (p.marker.scan line text').segments) :
    Agrees Text (p.expandWithin deeper? site line text)
      (p.expandWithin deeper? site line text') := by
  refine agrees_of_beside hscan hscan' (hsame.imp fun _ _ h => h.beside) ?_
  rintro b b' ⟨hdirectives, hinner | hignores⟩ hplaced
  · exact agrees_of_alike (fun _ _ => lineFree_of_builtin hregistry)
      (hplaced.alike hdirectives hinner)
  · exact agrees_of_ignores hregistry hignores hdirectives

omit hregistry

/-- Content that is neither read nor kept cannot be told from the page. If the types of blocks are
the usual ones, take two texts that are scanned without error to the same pieces, but for the inner
text of blocks whose content is ignored. Then both are processed without error or neither is, and if
they are, they come to the same, before their placeholders are filled and after. -/
theorem unread_content_hidden (hregistry : p.registry = .builtin) {text text' : Text}
    (hscan : (p.marker.scan 1 text).error? = none)
    (hscan' : (p.marker.scan 1 text').error? = none)
    (hsame : List.Forall₂ (Segment.SameBut (p.Ignores site)) (p.marker.scan 1 text).segments
      (p.marker.scan 1 text').segments) (out : Text) :
    ((p.expand site text).result = .ok out ↔ (p.expand site text').result = .ok out) ∧
      ((p.processAt site text).result = .ok out ↔ (p.processAt site text').result = .ok out) := by
  have hsame' : List.Forall₂ (Segment.SameBut (p.Ignores site)) (p.marker.scan 1 text').segments
      (p.marker.scan 1 text).segments :=
    hsame.flip.imp fun _ _ h => h.symm fun h hd => h.of_directives hregistry hd
  have hexpand : Agrees Text (p.expand site text) (p.expand site text') := by
    rw [expand, expand, expandAt_eq]
    exact agrees_of_sameBut hregistry hscan hscan' hsame
  have hexpand' : Agrees Text (p.expand site text') (p.expand site text) := by
    rw [expand, expand, expandAt_eq]
    exact agrees_of_sameBut hregistry hscan' hscan hsame'
  refine ⟨⟨hexpand out, hexpand' out⟩, ?_, ?_⟩
  · exact comparison_agrees.bind hexpand (fun _ _ => comparison_agrees.refl _) out
  · exact comparison_agrees.bind hexpand' (fun _ _ => comparison_agrees.refl _) out

/-- A page with a `remove` block that stands alone, and with a block that is replaced by the file
`a` on the line behind it. -/
def hidingPage (removed replaced : Text) : Text :=
  "A\n <!--build:remove-->".toList ++ removed ++ "<!--endbuild-->\n<!--build:include a-->".toList ++
    replaced ++ "<!--endbuild-->.".toList

/-- The pieces of a `hidingPage`; the second block is on line `line`. -/
def hidingSegments (removed replaced : Text) (line : Nat) : List Segment :=
  let front := "A\n ".toList
  let first : Block :=
    { first := ⟨"remove".toList, [], [], "<!--build:remove-->".toList, "<!--endbuild-->".toList⟩
      stacked := []
      seen := front.reverse
      opening := "<!--build:remove-->".toList
      inner := removed
      closing := "<!--endbuild-->".toList
      rest := "\n<!--build:include a-->".toList ++ replaced ++ "<!--endbuild-->.".toList
      line := 2 }
  let second : Block :=
    { includingBlock with
      seen := (front ++ first.source ++ ['\n']).reverse
      inner := replaced
      rest := ['.']
      line := line }
  [.literal front, .block first, .literal ['\n'], .block second, .literal ['.']]

theorem unread_content_hidden_page :
    (includingProcessor.expand ⟨none, [], []⟩ (hidingPage ['x'] ['y'])).result =
        .ok "A\nAB.".toList ∧
      (includingProcessor.expand ⟨none, [], []⟩
        (hidingPage "\n<!--build:js--><!--endbuild-->".toList ['\n'])).result =
          .ok "A\nAB.".toList ∧
      (includingProcessor.processText []
        (hidingPage "\n<!--build:js--><!--endbuild-->".toList ['\n'])).result =
          .ok "A\nAB.".toList := by
  have hscan : includingProcessor.marker.scan 1 (hidingPage ['x'] ['y']) =
      ⟨hidingSegments ['x'] ['y'] 3, none⟩ := by decide +kernel
  have hscan' : includingProcessor.marker.scan 1
      (hidingPage "\n<!--build:js--><!--endbuild-->".toList ['\n']) =
        ⟨hidingSegments "\n<!--build:js--><!--endbuild-->".toList ['\n'] 4, none⟩ := by
    decide +kernel
  have hexpand : (includingProcessor.expand ⟨none, [], []⟩ (hidingPage ['x'] ['y'])).result =
      .ok "A\nAB.".toList := by decide +kernel
  have hprocess : (includingProcessor.processText [] (hidingPage ['x'] ['y'])).result =
      .ok "A\nAB.".toList := by decide +kernel
  have hsame : List.Forall₂ (Segment.SameBut (includingProcessor.Ignores ⟨none, [], []⟩))
      (hidingSegments ['x'] ['y'] 3)
      (hidingSegments "\n<!--build:js--><!--endbuild-->".toList ['\n'] 4) := by
    refine .cons (.literal _) (.cons (.block rfl rfl rfl (.inr ?_)) (.cons (.literal _)
      (.cons (.block rfl rfl rfl (.inr ?_)) (.cons (.literal _) .nil))))
    · refine ⟨_, .remove, rfl, rfl, rfl, ?_⟩
      intro h
      cases h
    · refine ⟨_, .insertFile, rfl, rfl, rfl, ?_⟩
      decide +kernel
  have hall := unread_content_hidden rfl (by rw [hscan]) (by rw [hscan'])
    (by rw [hscan, hscan']; exact hsame) "A\nAB.".toList
  exact ⟨hexpand, hall.1.1 hexpand, hall.2.1 hprocess⟩

end Processor

end PageBlocks
