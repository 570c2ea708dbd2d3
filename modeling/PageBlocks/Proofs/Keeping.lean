import PageBlocks.Proofs.Concatenation
import PageBlocks.Proofs.Denotation

/-!
# What is kept of a block that does not count

A block that stands alone and does not count leaves the lines between its directives.

    above
    <!-- build:remove(a) -->
    inner                         any lines without a directive
    <!-- endbuild -->
    below

The content of the block is `inner` without its last line break, and that line break comes back from
the line of the closing directive. One page is different: if `inner` is a single empty line, the
content is the empty text, just as if there were no line at all, and an empty block takes its lines
with it. So `above`, `inner` and `below` are kept in all cases but this one, in which the empty line
is lost (`Processor.processing_keeps`).
-/

namespace PageBlocks

namespace Marker

variable {m : Marker} {x : Text}

/-- A comment does not go on behind whole lines. -/
theorem seam_of_ended (hended : Text.Ended x) (y : Text) : m.Seam x y := by
  rcases hended with rfl | ⟨u, rfl⟩
  · intro s hs hne
    exact absurd (List.suffix_nil.1 hs) hne
  · exact seam_after_break u y

/-- Whole lines without a directive go into the first gap of what follows. -/
theorem cut_ended (hended : Text.Ended x) (hquiet : m.find? x = none) (y : Text) :
    m.cut (x ++ y) = Cut.glue x (m.cut y) := by
  rw [cut_append (seam_of_ended hended y), cut_of_none hquiet]
  rfl

end Marker

theorem Text.head?_of_ended {t : Text} (h : Ended t) : t.reverse.head?.all (· == '\n') := by
  rcases h with rfl | ⟨x, rfl⟩
  · rfl
  · simp

/-- The content of a block whose directives have their lines to themselves is what stands between
them, without the last line feed. -/
theorem Block.ownLines_ended {trail lead c : Text} (htrail : Text.blank trail)
    (hlead : Text.blank lead) (hended : Text.Ended c) (hreturn : '\r' ∉ c) :
    ownLines (trail ++ '\n' :: (c ++ lead)) = c.dropLast := by
  have hbody : Text.dropLineEnd (trail ++ '\n' :: (c ++ lead)) = c ++ lead :=
    Text.dropLineEnd_trail htrail (e := .lf) _
  have hnone : '\n' ∉ lead := fun h => (Text.ne_of_blank hlead '\n' h).2.2 rfl
  simp only [ownLines, hbody]
  rcases hended with rfl | ⟨x, rfl⟩
  · simp only [List.nil_append, Text.cutAtLastLine?_eq_none hnone, hlead, if_true,
      List.dropLast_nil]
  · have hcut : Text.cutAtLastLine? (x ++ ['\n'] ++ lead) = some (x, lead) :=
      Text.cutAtLastLine?_eq_some_iff.2 ⟨by simp, hnone⟩
    have hbefore : Text.before? ['\r'] x = none := by
      rw [Option.eq_none_iff_forall_ne_some]
      intro u hu
      rw [Text.before?_eq_some_iff.1 hu] at hreturn
      simp at hreturn
    simp only [hcut, hlead, if_true, hbefore, Option.getD_none, List.dropLast_concat]

/-- A page of whole lines with one block, whose directives have their lines to themselves. -/
structure BlockPage (m : Marker) (type : Text) where
  opener : Opener m type
  closer : Closer m
  above : Text
  inner : Text
  below : Text
  above_ended : Text.Ended above
  inner_ended : Text.Ended inner
  no_return : '\r' ∉ inner
  above_quiet : m.find? above = none
  inner_quiet : m.find? inner = none
  below_quiet : m.find? below = none

namespace BlockPage

variable {m : Marker} {type : Text} (page : BlockPage m type)

/-- The text of the page. -/
def text : Text :=
  page.above ++ (page.opener.text ++ '\n' ::
    (page.inner ++ (page.closer.text ++ '\n' :: page.below)))

/-- The page without its directives. An empty line that is all there is between them goes with
them. -/
def kept : Text :=
  page.above ++ ((if page.inner = ['\n'] then [] else page.inner) ++ page.below)

/-- The page as a document. -/
def document : Document m :=
  .text (page.above ++ page.opener.lead) (.block ⟨page.opener.opening, [], by simp, by simp⟩
    (.text (page.opener.trail ++ '\n' :: (page.inner ++ page.closer.lead)) .nil)
    ⟨page.closer.comment, page.closer.reads⟩
    (.text (page.closer.trail ++ '\n' :: page.below) .nil))

theorem print_document : page.document.print = page.text := by
  simp [document, text, Document.print, Document.Stack.print, Document.Stack.cuts, Opener.opening,
    Note.text]

/-- The block of the page. -/
def block : Block where
  first := { page.opener.directive with closing := page.closer.comment }
  stacked := []
  seen := (page.above ++ page.opener.lead).reverse
  opening := page.opener.comment
  inner := page.opener.trail ++ '\n' :: (page.inner ++ page.closer.lead)
  closing := page.closer.comment
  rest := page.closer.trail ++ '\n' :: page.below
  line := 1 + Text.lineFeeds (page.above ++ page.opener.lead)

theorem segments_document :
    page.document.segments [] 1 [] =
      Scan.literal (page.above ++ page.opener.lead) (.block page.block ::
        Scan.literal (page.closer.trail ++ '\n' :: page.below) []) := by
  simp [document, Document.segments, Document.blockOf, Document.print, Document.Stack.print,
    Document.Stack.cuts, block, Opener.opening]

/-- The directives of the page are the two that it is made with. -/
theorem cut_text : m.cut page.text = page.document.cuts [] := by
  obtain ⟨o, cl, above, inner, below, habove, hinner, -, hquiet, hinnerQuiet, hbelow⟩ := page
  have hblank : ∀ {t : Text}, Text.blank t → ∀ x ∈ t, x ≠ '<' :=
    fun ht x hx => (Text.ne_of_blank ht x hx).1
  have hbreak : ∀ {t : Text}, Text.blank t → ∀ x ∈ t ++ ['\n'], x ≠ '<' := by
    intro t ht x hx
    rcases List.mem_append.1 hx with hx | hx
    · exact hblank ht x hx
    · obtain rfl := List.mem_singleton.1 hx
      decide
  have hbehind : m.cut (cl.trail ++ '\n' :: below) = ([], cl.trail ++ '\n' :: below) := by
    have hcut := Marker.cut_front (m := m) (hbreak cl.trail_blank) below
    rw [Marker.cut_of_none hbelow] at hcut
    simpa [Cut.glue] using hcut
  have hinside : m.cut (o.trail ++ '\n' :: (inner ++ (cl.text ++ '\n' :: below))) =
      ([⟨o.trail ++ '\n' :: (inner ++ cl.lead), cl.comment⟩], cl.trail ++ '\n' :: below) := by
    have hsplit : o.trail ++ '\n' :: (inner ++ (cl.text ++ '\n' :: below)) = (o.trail ++ ['\n']) ++
        (inner ++ (cl.lead ++ (cl.comment ++ (cl.trail ++ '\n' :: below)))) := by
      simp [Note.text]
    rw [hsplit, Marker.cut_front (hbreak o.trail_blank), Marker.cut_ended hinner hinnerQuiet,
      Marker.cut_front (hblank cl.lead_blank), Marker.cut_comment cl.located, hbehind]
    simp [Cut.glue]
  have hsplit : above ++ (o.text ++ '\n' :: (inner ++ (cl.text ++ '\n' :: below))) =
      above ++ (o.lead ++ (o.comment ++
        (o.trail ++ '\n' :: (inner ++ (cl.text ++ '\n' :: below))))) := by
    simp [Note.text]
  rw [text, hsplit, Marker.cut_ended habove hquiet, Marker.cut_front (hblank o.lead_blank),
    Marker.cut_comment o.located, hinside]
  simp [document, Document.cuts, Document.Stack.cuts, Cut.glue, Opener.opening]

theorem scan_text :
    m.scan 1 page.text =
      ⟨Scan.literal (page.above ++ page.opener.lead) (.block page.block ::
        Scan.literal (page.closer.trail ++ '\n' :: page.below) []), none⟩ := by
  have hcut := page.cut_text
  have hwell : page.document.WellFormed := ⟨trivial, trivial⟩
  rw [← page.print_document] at hcut ⊢
  rw [Document.scan_of_cut hwell hcut, segments_document]

theorem indent?_block : page.block.indent? = some page.opener.lead := by
  have hunbroken : ∀ c ∈ page.closer.trail, c ≠ '\r' ∧ c ≠ '\n' :=
    fun c hc => (Text.ne_of_blank page.closer.trail_blank c hc).2
  have hrest : Text.blankToLineEnd page.block.rest = Text.blank page.closer.trail :=
    Text.blankToLineEnd_append hunbroken .lf (z := true) (fun h => by cases h)
  exact Block.indent?_eq page.opener.lead_blank (List.reverse_append ..)
    (Text.head?_of_ended page.above_ended) (hrest.trans page.closer.trail_blank)

theorem content_block : page.block.content = page.inner.dropLast := by
  rw [Block.content, indent?_block]
  exact Block.ownLines_ended page.opener.trail_blank page.closer.lead_blank page.inner_ended
    page.no_return

theorem quiet_dropLast : m.find? page.inner.dropLast = none := by
  rcases page.inner_ended with hnil | ⟨x, hx⟩
  · rw [hnil]
    rfl
  · have hquiet := page.inner_quiet
    rw [hx] at hquiet ⊢
    rw [List.dropLast_concat]
    exact Marker.find?_of_append hquiet

/-- The lines between the directives take the place of the block. -/
theorem out_addBlock :
    (((Assembly.addLiteral {} (page.above ++ page.opener.lead)).addBlock page.block
      ⟨page.inner.dropLast, false⟩).addLiteral (page.closer.trail ++ '\n' :: page.below)).out =
        page.kept := by
  have hbefore : Text.before? page.opener.lead (page.above ++ page.opener.lead) =
      some page.above := Text.before?_eq_some_iff.2 rfl
  have hblanks : Text.leadingBlanks page.block.rest = page.closer.trail :=
    Text.leadingBlanks_trail page.closer.trail_blank (e := .lf) (z := true) (fun h => by cases h)
  have hbreaks : page.block.breaksLine = true :=
    Text.breaksLine_trail page.closer.trail_blank .lf page.below
  have hend : Text.lineEnd page.block.rest = page.closer.trail ++ ['\n'] :=
    Text.lineEnd_trail page.closer.trail_blank .lf page.below
  simp only [Assembly.addBlock, Assembly.addLiteral, indent?_block, List.nil_append, List.drop_zero,
    hbefore, Option.getD_some, hblanks, hbreaks, hend, if_true, Bool.false_eq_true, if_false]
  unfold kept
  rcases page.inner_ended with hnil | ⟨x, hx⟩
  · simp [hnil]
  · rw [hx, List.dropLast_concat]
    cases x with
    | nil => simp
    | cons d x => simp

end BlockPage

/-- Kept content is kept as it is, up to one empty line. If the template leaves texts alone and the
directive of a block is of a known type and does not count, then a page with that block between
whole lines, none of which holds another directive, comes to the lines before it, inside and behind
it, and a single empty line inside is lost. -/
theorem Processor.processing_keeps {p : Processor} {type : Text}
    (htemplate : ∀ data t, (p.template.render data t).1 = t)
    (hknown : p.registry.contains type) (page : BlockPage p.marker type)
    (hother : p.audience.accepts page.opener.directive = false) :
    (∀ dir, (p.processText dir page.text).result = .ok page.kept) ∧
      ∀ path, p.read path = .ok page.text → (p.processFile path).result = .ok page.kept := by
  refine result_process htemplate fun site => result_expand fun deeper? => ?_
  obtain ⟨g, hget⟩ := Option.isSome_iff_exists.1 hknown
  rw [← page.opener.typed] at hget
  have hcontent : (p.expandWithin deeper? site page.block.contentLine page.block.content).result =
      .ok page.inner.dropLast := by
    rw [page.content_block]
    exact result_expandWithin_of_quiet page.quiet_dropLast _
  have hrender : (p.renderBlock site (p.expandWithin deeper? site) (p.insertFile deeper? site)
      page.block).result = .ok ⟨page.inner.dropLast, false⟩ := by
    have haccepts : p.audience.accepts page.block.first = false := hother
    rw [renderBlock_of_single (d := page.block.first) rfl hget, haccepts, if_neg (by simp),
      Outcome.result_bind hcontent]
    rfl
  obtain ⟨last, hlast, hout⟩ := Assembly.addAll_literal_nil
    (p.renderBlock site (p.expandWithin deeper? site) (p.insertFile deeper? site))
    (page.closer.trail ++ '\n' :: page.below)
    ((Assembly.addLiteral {} (page.above ++ page.opener.lead)).addBlock page.block
      ⟨page.inner.dropLast, false⟩)
  rw [← page.out_addBlock, ← hout]
  refine result_expandWithin page.scan_text ?_
  rw [Assembly.addAll_literal_block, Assembly.result_addAll_block hrender, hlast]
  rfl

/-- A block with some lines inside, empty ones among them. -/
def linesPage : BlockPage .build removeType where
  opener :=
    { lead := []
      comment := Document.removeA.comment
      trail := []
      lead_blank := rfl
      trail_blank := rfl
      located := Marker.comment_of_commentAt? (t := Document.removeA.comment) (r := []) (by rfl)
      directive := Document.removeA.directive
      reads := Document.removeA.reads
      typed := rfl }
  closer :=
    { lead := []
      comment := Document.endBuild.comment
      trail := []
      lead_blank := rfl
      trail_blank := rfl
      located := Marker.comment_of_commentAt? (t := Document.endBuild.comment) (r := []) (by rfl)
      reads := Document.endBuild.reads }
  above := "h\n".toList
  inner := "\n x\n\n".toList
  below := "z\n".toList
  above_ended := Or.inr ⟨['h'], rfl⟩
  inner_ended := Or.inr ⟨"\n x\n".toList, rfl⟩
  no_return := by decide
  above_quiet := by decide
  inner_quiet := by decide
  below_quiet := by decide

theorem Processor.processing_keeps_linesPage :
    (plainProcessor.processText [] linesPage.text).result = .ok "h\n\n x\n\nz\n".toList := by
  have hkept : linesPage.kept = "h\n\n x\n\nz\n".toList := by decide
  have hpage := processing_keeps (p := plainProcessor) (fun _ _ => rfl) (by rfl) linesPage (by rfl)
  rw [← hkept]
  exact hpage.1 []

/-- A block with one empty line inside. -/
def emptyLinePage : BlockPage .build removeType :=
  { linesPage with
    inner := ['\n']
    inner_ended := Or.inr ⟨[], rfl⟩
    no_return := by decide
    inner_quiet := by decide }

theorem Processor.not_processing_keeps_emptyLine :
    plainProcessor.registry.contains removeType = true ∧
      plainProcessor.audience.accepts emptyLinePage.opener.directive = false ∧
      emptyLinePage.text =
        "h\n<!-- build:remove(a) -->\n\n<!-- endbuild -->\nz\n".toList ∧
      (plainProcessor.processText [] emptyLinePage.text).result ≠
        .ok (emptyLinePage.above ++ (emptyLinePage.inner ++ emptyLinePage.below)) :=
  ⟨by decide +kernel, by decide +kernel, by decide +kernel, by decide +kernel⟩

end PageBlocks
