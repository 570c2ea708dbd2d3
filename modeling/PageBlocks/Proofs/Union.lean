import PageBlocks.Proofs.Grammar
import PageBlocks.Proofs.Removal
import PageBlocks.Proofs.Unread

/-!
# Stacked `remove` directives

A stack of `remove` directives counts when one of them does, and this is what one directive for all
their environments says as well (`Processor.stacked_removes_unite`):

    <!-- build:remove(dev) --> <!-- build:remove(test,dist) -->   …   <!-- endbuild -->
    <!-- build:remove(dev,test,dist) -->                          …   <!-- endbuild -->

How many directives are stacked is told from the closing directives behind them. That the page still
falls into the same blocks, also where the content starts with `remove` blocks, is seen from the
document that the text is printed from: the stack is a part of it, and another one may take its
place, since a comment does not start in a gap because of the comment behind the gap
(`Marker.cut_replace`).
-/

namespace PageBlocks

open Outcome (Agrees comparison_agrees)
open Segment (Beside)

/-! ### Who is meant -/

namespace Audience

variable {a : Audience} {d : Directive}

theorem accepts_of_remove (htype : d.type = removeType) (htargets : d.targets ≠ []) :
    a.accepts d = (a.strip || a.environment.any fun e => d.targets.contains e) := by
  have hempty : d.targets.isEmpty = false := List.isEmpty_eq_false_iff.2 htargets
  have hremove : (d.type == "remove".toList) = true := beq_iff_eq.2 htype
  rw [accepts, hempty, hremove, Bool.and_true, Bool.or_false]

/-- A directive for the environments of a whole stack counts exactly when one of the stack does. -/
theorem accepts_union {ds : List Directive} (hne : ds ≠ [])
    (hstack : ∀ d ∈ ds, d.type = removeType ∧ d.targets ≠ []) (htype : d.type = removeType)
    (htargets : d.targets = ds.flatMap Directive.targets) : a.accepts d = ds.any a.accepts := by
  obtain ⟨d₀, ds', rfl⟩ := List.exists_cons_of_ne_nil hne
  have hd₀ := (hstack d₀ List.mem_cons_self).2
  have hunion : d.targets ≠ [] := by simp [htargets, hd₀]
  rw [accepts_of_remove htype hunion, Bool.eq_iff_iff, List.any_eq_true]
  have hmember : ∀ d' ∈ d₀ :: ds', a.accepts d' = true ↔
      a.strip = true ∨ ∃ e ∈ a.environment, e ∈ d'.targets := by
    intro d' hd'
    rw [accepts_of_remove (hstack d' hd').1 (hstack d' hd').2]
    simp [Option.any_eq_true]
  simp only [Bool.or_eq_true, Option.any_eq_true, List.contains_iff_mem, htargets,
    List.mem_flatMap]
  constructor
  · rintro (hstrip | ⟨e, he, d', hd', hmem⟩)
    · exact ⟨d₀, List.mem_cons_self, (hmember d₀ List.mem_cons_self).2 (.inl hstrip)⟩
    · exact ⟨d', hd', (hmember d' hd').2 (.inr ⟨e, he, hmem⟩)⟩
  · rintro ⟨d', hd', haccepts⟩
    rcases (hmember d' hd').1 haccepts with hstrip | ⟨e, he, hmem⟩
    · exact .inl hstrip
    · exact .inr ⟨e, he, d', hd', hmem⟩

end Audience

/-! ### Another stack in front of a block -/

namespace Document

variable {m : Marker} {R : Block → Block → Prop}

/-- The comments of a document are still where they were when a single directive takes the place of
a stack. -/
theorem cut_of_stack {front body later : Document m} {s s' : Stack m} {c : Closing m}
    (hcut : m.cut (front.append (.block s body c later)).print =
      (front.append (.block s body c later)).cuts [])
    (hmore : s'.more = []) (hcomment : m.Comment s'.first.comment) :
    m.cut (front.append (.block s' body c later)).print =
      (front.append (.block s' body c later)).cuts [] := by
  have hsource := source_cuts (front.append (.block s' body c later)) []
  rw [List.nil_append] at hsource
  rw [cuts_append] at hcut
  have hreplaced := Marker.cut_replace hcut hcomment
  rw [← hsource, cuts_append, cuts, Stack.cuts, hmore]
  exact hreplaced

variable (hR : ∀ {b b' : Block}, b'.directives = b.directives → b'.inner = b.inner → R b b')
include hR

/-- The pieces of a document in two places. -/
theorem beside_segments (doc : Document m) (seen seen' : Text) (line line' : Nat) (gap : Text) :
    List.Forall₂ (Beside R) (doc.segments seen line gap) (doc.segments seen' line' gap) := by
  induction doc generalizing seen seen' line line' gap with
  | nil => exact Scan.forall₂_literal .literal gap .nil
  | text t later ih => exact ih _ _ _ _ _
  | block s body c later _ ih =>
    exact Scan.forall₂_literal .literal gap (.cons (.block (hR rfl rfl)) (ih _ _ _ _ _))

/-- The pieces of documents that differ in what comes later. -/
theorem beside_append {x y : Document m}
    (hxy : ∀ seen line gap, List.Forall₂ (Beside R) (x.segments seen line gap)
      (y.segments seen line gap)) (front : Document m) (seen : Text) (line : Nat) (gap : Text) :
    List.Forall₂ (Beside R) ((front.append x).segments seen line gap)
      ((front.append y).segments seen line gap) := by
  induction front generalizing seen line gap with
  | nil => exact hxy seen line gap
  | text t later ih => exact ih _ _ _
  | block s body c later _ ih =>
    exact Scan.forall₂_literal .literal gap (.cons (.block (hR rfl rfl)) (ih _ _ _))

/-- The pieces of documents that differ in one stack. -/
theorem beside_of_stack {s s' : Stack m} {body : Document m} {c : Closing m}
    (hstack : ∀ seen rest line, R (blockOf s body.print c.comment seen rest line)
      (blockOf s' body.print c.comment seen rest line)) (front later : Document m) (line : Nat) :
    List.Forall₂ (Beside R) ((front.append (.block s body c later)).segments [] line [])
      ((front.append (.block s' body c later)).segments [] line []) := by
  refine beside_append hR (fun seen line gap => ?_) front [] line []
  exact Scan.forall₂_literal .literal gap
    (.cons (.block (hstack _ _ _)) (beside_segments hR later _ _ _ _ _))

end Document

/-- The text around a block with another opening directive in front of the block's inner text. -/
def Block.reopened (b : Block) (opening : Text) : Text :=
  b.seen.reverse ++ (opening ++ (b.inner ++ (b.closing ++ b.rest)))

/-- The same block in two texts, or the block `b` and the one that `d` opens in its place. -/
structure Block.ReopenedBy (b : Block) (d : Directive) (x y : Block) : Prop where
  inner_eq : y.inner = x.inner
  directives : y.directives = x.directives ∨
    x.directives = b.directives ∧ y.directives = [{ d with closing := b.closing }]

/-- With one directive in place of a stack, a text is still scanned without error, and to the same
pieces but for the directives of the one block. -/
theorem Marker.scan_reopened {m : Marker} {line : Nat} {text opening : Text} {b : Block}
    {d : Directive} (hscan : (m.scan line text).error? = none)
    (hb : .block b ∈ (m.scan line text).segments) (hcomment : m.Comment opening)
    (hread : m.readOpening opening = .ok d) :
    (m.scan line (b.reopened opening)).error? = none ∧
      List.Forall₂ (Beside (b.ReopenedBy d)) (m.scan line text).segments
        (m.scan line (b.reopened opening)).segments := by
  obtain ⟨doc, hwell, hcut, rfl⟩ := Document.exists_of_scan hscan
  rw [Document.scan_of_cut hwell hcut] at hb
  obtain ⟨front, s, body, c, later, line', rfl, rfl⟩ := Document.exists_append_of_mem hb
  let s' : Document.Stack m :=
    ⟨⟨opening, d, readOpening_eq_ok_iff.1 hread⟩, [], by simp, by simp⟩
  have hwell' : (front.append (.block s' body c later)).WellFormed :=
    hwell.of_append.1.append hwell.of_append.2
  have htext : (Document.blockOf s body.print c.comment (front.print.reverse ++ []) later.print
      line').reopened opening = (front.append (.block s' body c later)).print := by
    simp [Document.print_append, Document.print, Document.Stack.print, Document.Stack.cuts,
      Document.blockOf, Block.reopened, s']
  rw [htext, Document.scan_of_cut hwell hcut,
    Document.scan_of_cut hwell' (Document.cut_of_stack hcut rfl hcomment)]
  exact ⟨rfl, Document.beside_of_stack (fun hdirectives hinner => ⟨hinner, .inl hdirectives⟩)
    (fun _ _ _ => ⟨rfl, .inr ⟨rfl, rfl⟩⟩) front later line⟩

/-! ### Directives for the environments of a stack -/

namespace Marker

variable {m : Marker} {labels : List Text}

/-- The comment is a directive that removes a block for the environments `labels`. -/
def Removes (m : Marker) (labels : List Text) (comment : Text) : Prop :=
  m.Comment comment ∧
    ∃ d, m.readOpening comment = .ok d ∧ d.type = removeType ∧ d.targets = labels

/-- The usual spelling of such a directive. -/
def removal (m : Marker) (labels : List Text) : Text :=
  m.written [' '] removeType ('(' :: (Text.join [','] labels ++ [')'])) [' ']

theorem removes_removal (hne : labels ≠ []) (hlabels : ∀ l ∈ labels, Directive.IsLabel l) :
    m.Removes labels (m.removal labels) := by
  have htype : Directive.IsType removeType := Directive.isBlockType_iff.1 (by decide)
  have hlist := Directive.Targets.inParentheses hne (Directive.labels_self hlabels)
  have hrest : Directive.IsRest [' '] := by simp [Directive.IsRest, Text.isSpace]
  have hfront : Text.spaces [' '] := by decide
  have hread := m.readOpening_written hfront htype hlist hrest
  have hname : ∀ c ∈ removeType, c ≠ '>' ∧ c ≠ '\r' ∧ c ≠ '\n' := by
    intro c hc
    obtain ⟨-, -, hreturn, hfeed, -, -, -, hangle⟩ :=
      isNameChar_ne (List.all_eq_true.1 (by decide : removeType.all isNameChar = true) c hc)
    exact ⟨hangle, hreturn, hfeed⟩
  have hjoin : ∀ c ∈ Text.join [','] labels, c ≠ '>' ∧ c ≠ '\r' ∧ c ≠ '\n' := by
    refine Text.forall_mem_join (List.forall_mem_singleton.2 (by decide)) ?_
    intro label hlabel c hc
    have hchar := (hlabels label hlabel).chars c hc
    refine ⟨?_, ?_, ?_⟩ <;> rintro rfl <;> revert hchar <;> decide
  have hline : ∀ c ∈ removeType ++ ('(' :: (Text.join [','] labels ++ [')']) ++ [' ']),
      c ≠ '>' ∧ c ≠ '\r' ∧ c ≠ '\n' := by
    intro c hc
    simp only [List.mem_append, List.mem_cons, List.not_mem_nil, or_false] at hc
    rcases hc with hc | (rfl | hc | rfl) | rfl
    · exact hname c hc
    · decide
    · exact hjoin c hc
    · decide
    · decide
  exact ⟨comment_written (by decide) hline, _, hread, rfl, rfl⟩

end Marker

theorem Directive.Targets.isLabel {list : Text} {labels : List Text} (h : Targets list labels) :
    ∀ l ∈ labels, IsLabel l := by
  cases h with
  | absent => simp
  | blank => simp
  | behindColon _ husable => exact husable
  | inParentheses hne hpadded =>
    clear hne
    induction hpadded with
    | nil => simp
    | cons hlabel _ ih => exact List.forall_mem_cons.2 ⟨hlabel.1, ih⟩

namespace Document

variable {m : Marker}

theorem Opening.isLabel (o : Opening m) : ∀ l ∈ o.directive.targets, Directive.IsLabel l := by
  obtain ⟨inside, body, type, targets, args, -, -, hread, hd⟩ := Marker.of_classify_opens o.reads
  obtain ⟨list, rest, -, -, hlist, -, -⟩ := Directive.of_readBody hread
  rw [hd]
  exact hlist.isLabel

theorem isLabel_of_mem_blockOf {s : Stack m} {inner closing seen rest : Text} {line : Nat}
    {d : Directive} (hd : d ∈ (blockOf s inner closing seen rest line).directives) :
    ∀ l ∈ d.targets, Directive.IsLabel l := by
  rcases List.mem_cons.1 hd with rfl | hd
  · exact s.first.isLabel
  · obtain ⟨x, -, rfl⟩ := List.mem_map.1 hd
    exact x.2.isLabel

end Document

/-- The directives of a block list labels and nothing else. -/
theorem Marker.isLabel_of_mem_directives {m : Marker} {line : Nat} {text : Text} {b : Block}
    (hscan : (m.scan line text).error? = none) (hb : .block b ∈ (m.scan line text).segments)
    {d : Directive} (hd : d ∈ b.directives) : ∀ l ∈ d.targets, Directive.IsLabel l := by
  obtain ⟨doc, hwell, hcut, rfl⟩ := Document.exists_of_scan hscan
  rw [Document.scan_of_cut hwell hcut] at hb
  obtain ⟨front, s, body, c, later, line', -, rfl⟩ := Document.exists_append_of_mem hb
  exact Document.isLabel_of_mem_blockOf hd

/-! ### Processing -/

/-- Blocks with the same inner text, and with the same directives or with `remove` directives of
which one counts for the one block if one does for the other. -/
structure Block.Restacked (a : Audience) (b b' : Block) : Prop where
  inner_eq : b'.inner = b.inner
  directives : b'.directives = b.directives ∨
    (∀ d ∈ b.directives, d.type = removeType) ∧ (∀ d ∈ b'.directives, d.type = removeType) ∧
      b'.directives.any a.accepts = b.directives.any a.accepts

theorem Block.Restacked.symm {a : Audience} {b b' : Block} (h : b.Restacked a b') :
    b'.Restacked a b where
  inner_eq := h.inner_eq.symm
  directives := h.directives.imp Eq.symm fun ⟨hremove, hremove', hcounts⟩ =>
    ⟨hremove', hremove, hcounts.symm⟩

/-- One directive for all the environments of a stack restacks the block. -/
theorem Block.restacked_of_reopened {a : Audience} {b x y : Block} {d : Directive}
    (hstack : ∀ d ∈ b.directives, d.type = removeType ∧ d.targets ≠ [])
    (htype : d.type = removeType) (htargets : d.targets = b.directives.flatMap Directive.targets)
    (h : b.ReopenedBy d x y) : x.Restacked a y := by
  refine ⟨h.inner_eq, h.directives.imp id ?_⟩
  rintro ⟨hx, hy⟩
  have hunion : a.accepts { d with closing := b.closing } = b.directives.any a.accepts :=
    Audience.accepts_union (List.cons_ne_nil _ _) hstack htype htargets
  rw [hx, hy]
  refine ⟨fun d hd => (hstack d hd).1, List.forall_mem_singleton.2 htype, ?_⟩
  rw [List.any_cons, List.any_nil, Bool.or_false, hunion]

namespace Processor

variable {p : Processor} {deeper? : Option (Site → Text → Outcome Text)} {site : Site}

section

variable (hregistry : p.registry = .builtin)
include hregistry

/-- Restacked blocks are rendered to the same. -/
theorem agrees_of_restacked {b b' : Block} (h : b.Restacked p.audience b')
    (hplaced : b.PlacedAlike b') :
    Agrees Rendered
      (p.renderBlock site (p.expandWithin deeper? site) (p.insertFile deeper? site) b)
      (p.renderBlock site (p.expandWithin deeper? site) (p.insertFile deeper? site) b') := by
  have hfree : ∀ type g, p.registry.get? type = some g → g.LineFree :=
    fun _ _ => lineFree_of_builtin hregistry
  obtain ⟨hinner, hdirectives | ⟨hremove, hremove', hcounts⟩⟩ := h
  · exact agrees_of_alike hfree (hplaced.alike hdirectives hinner)
  · cases hany : b.directives.any p.audience.accepts with
    | true =>
      rw [renderBlock_of_counts hregistry hremove hany,
        renderBlock_of_counts hregistry hremove' (hcounts.trans hany)]
      exact comparison_agrees.refl _
    | false =>
      rw [renderBlock_of_not_counts hregistry hremove hany,
        renderBlock_of_not_counts hregistry hremove' (hcounts.trans hany),
        hplaced.content_eq hinner]
      exact comparison_agrees.bind (agrees_expandWithin hfree _ _ _)
        fun _ _ => comparison_agrees.refl _

/-- Texts that fall into restacked blocks are processed to the same. -/
theorem agrees_of_restacked_segments {text text' : Text}
    (hscan : (p.marker.scan 1 text).error? = none) (hscan' : (p.marker.scan 1 text').error? = none)
    (hbeside : List.Forall₂ (Beside (Block.Restacked p.audience)) (p.marker.scan 1 text).segments
      (p.marker.scan 1 text').segments) :
    Agrees Text (p.processAt site text) (p.processAt site text') := by
  refine comparison_agrees.bind ?_ fun _ _ => comparison_agrees.refl _
  rw [expand, expand, expandAt_eq]
  exact agrees_of_beside hscan hscan' hbeside (agrees_of_restacked hregistry)

end

/-- Stacked `remove` directives are one `remove` directive for all their environments. If the types
of blocks are the usual ones, take a top-level block of a text that is scanned without error, with a
stack of `remove` directives each of which is meant for some environments. There is a directive for
all of these. With any such directive in place of the stack, however it is spelled, the text is
processed without error if the text with the stack is, and it comes to the same. -/
theorem stacked_removes_unite (hregistry : p.registry = .builtin) {text : Text}
    (hscan : (p.marker.scan 1 text).error? = none) {b : Block}
    (hb : .block b ∈ (p.marker.scan 1 text).segments)
    (hstack : ∀ d ∈ b.directives, d.type = removeType ∧ d.targets ≠ []) :
    b.reopened b.opening = text ∧
      p.marker.Removes (b.directives.flatMap Directive.targets)
        (p.marker.removal (b.directives.flatMap Directive.targets)) ∧
      ∀ opening, p.marker.Removes (b.directives.flatMap Directive.targets) opening →
        ∀ site out, (p.processAt site text).result = .ok out ↔
          (p.processAt site (b.reopened opening)).result = .ok out := by
  refine ⟨?_, ?_, ?_⟩
  · rw [← (Marker.block_in_text hb).1, Block.reopened, Block.source]
    simp
  · refine Marker.removes_removal ?_ ?_
    · intro hnil
      have hfirst := List.flatMap_eq_nil_iff.1 hnil b.first List.mem_cons_self
      exact (hstack b.first List.mem_cons_self).2 hfirst
    · intro l hl
      obtain ⟨d, hd, hl⟩ := List.mem_flatMap.1 hl
      exact Marker.isLabel_of_mem_directives hscan hb hd l hl
  · rintro opening ⟨hcomment, d, hread, htype, htargets⟩ site out
    obtain ⟨hscan', hreopened⟩ := Marker.scan_reopened hscan hb hcomment hread
    have hbeside := hreopened.imp fun _ _ h =>
      h.imp (S := Block.Restacked p.audience) (Block.restacked_of_reopened hstack htype htargets)
    have hbeside' := hbeside.flip.imp fun _ _ h => h.symm (S := Block.Restacked p.audience)
      Block.Restacked.symm
    exact ⟨agrees_of_restacked_segments hregistry hscan hscan' hbeside out,
      agrees_of_restacked_segments hregistry hscan' hscan hbeside' out⟩

/-- Three `remove` directives in a row, of which the last one opens a block inside; `opening` is
what stands in front of it. -/
def stackedPage (opening : Text) : Text :=
  "h\n".toList ++ (opening ++
    "\n<!--build:remove(c)-->y<!--endbuild-->x\n<!--endbuild-->".toList)

/-- The block of a `stackedPage` with a stack of two directives. -/
def stackedBlock : Block where
  first := ⟨removeType, [['a']], [], "<!--build:remove(a)-->".toList, "<!--endbuild-->".toList⟩
  stacked := [⟨removeType, [['b']], [], "<!--build:remove(b)-->".toList, "<!--endbuild-->".toList⟩]
  seen := ['\n', 'h']
  opening := "<!--build:remove(a)-->\n<!--build:remove(b)-->".toList
  inner := "\n<!--build:remove(c)-->y<!--endbuild-->x\n".toList
  closing := "<!--endbuild-->".toList
  rest := []
  line := 2

theorem stacked_removes_unite_stackedPage :
    (plainProcessor.processAt ⟨none, [], []⟩ (stackedPage stackedBlock.opening)).result =
        .ok "h\nx".toList ∧
      (plainProcessor.processAt ⟨none, [], []⟩
        (stackedPage "<!-- build:remove(a,b) -->".toList)).result = .ok "h\nx".toList := by
  have hscan : plainProcessor.marker.scan 1 (stackedPage stackedBlock.opening) =
      ⟨[.literal "h\n".toList, .block stackedBlock], none⟩ := by decide +kernel
  have hresult : (plainProcessor.processAt ⟨none, [], []⟩
      (stackedPage stackedBlock.opening)).result = .ok "h\nx".toList := by decide +kernel
  have hstack : ∀ d ∈ stackedBlock.directives, d.type = removeType ∧ d.targets ≠ [] := by
    decide +kernel
  obtain ⟨-, hremoves, hall⟩ := stacked_removes_unite (p := plainProcessor) rfl (by rw [hscan])
    (b := stackedBlock) (by rw [hscan]; simp) hstack
  exact ⟨hresult, (hall _ hremoves ⟨none, [], []⟩ _).1 hresult⟩

end Processor

end PageBlocks
