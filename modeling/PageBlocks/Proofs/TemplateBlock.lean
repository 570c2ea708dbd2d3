import PageBlocks.Proofs.InPlace
import PageBlocks.Proofs.Padding
import PageBlocks.Proofs.Reading

/-!
# Template blocks around one line

The content of a template block is rendered by the block's handler, and then once more with the
rest of the page:

    <!-- build:template --><%= a %><!-- endbuild -->
                           <%= b %>                     the handler fills in the value of a
                           x                            the page is filled, with the value of b

So a block around one line gives what its content gives when it is rendered twice, with the warnings
of both times, while the content alone is rendered once (`Processor.processText_templateLine`). The
two are the same only if the block does not count or if there is nothing left to render
(`Processor.templateLine_alike_iff`), as when what has been filled in holds no placeholder.
-/

namespace PageBlocks

/-- A template block around one line, and nothing else: the text has just the two comments. -/
structure Marker.TemplateLine (m : Marker) (o line e : Text) (d : Directive) : Prop where
  opens : m.classify o = .ok (.opens d)
  type : d.type = "template".toList
  closes : m.classify e = .ok .closes
  comments : m.cut (o ++ (line ++ e)) = ([⟨[], o⟩, ⟨line, e⟩], [])
  nonempty : line ≠ []
  unbroken : '\n' ∉ line
  trimmed : Text.trim line = line

/-- The block that it is scanned to. -/
def templateBlock (o line e : Text) (d : Directive) (number : Nat) : Block where
  first := { d with closing := e }
  stacked := []
  seen := []
  opening := o
  inner := line
  closing := e
  rest := []
  line := number

namespace Marker.TemplateLine

variable {m : Marker} {o line e : Text} {d : Directive}

theorem not_blank (h : m.TemplateLine o line e d) : Text.blank line = false := by
  rw [← Bool.not_eq_true]
  intro hblank
  refine h.nonempty ?_
  rw [← h.trimmed, Text.trim_of_spaces (Text.spaces_of_blank hblank)]

theorem find?_eq_none (h : m.TemplateLine o line e d) : m.find? line = none := by
  have hmem : ⟨line, e⟩ ∈ (m.cut (o ++ (line ++ e))).1 := by simp [h.comments]
  exact quiet_of_mem_cut hmem

theorem scan_eq (h : m.TemplateLine o line e d) (number : Nat) :
    m.scan number (o ++ (line ++ e)) = ⟨[.block (templateBlock o line e d number)], none⟩ := by
  let doc : Document m :=
    .block ⟨⟨o, d, h.opens⟩, [], by simp, by simp⟩ (.text line .nil) ⟨e, h.closes⟩ .nil
  have hprint : doc.print = o ++ (line ++ e) := by
    simp [doc, Document.print, Document.Stack.print, Document.Stack.cuts]
  have hwell : doc.WellFormed := ⟨trivial, trivial⟩
  have hscan := Document.scan_of_cut hwell (by rw [hprint, h.comments]; rfl) number
  rw [hprint] at hscan
  rw [hscan]
  simp [doc, Document.segments, Document.blockOf, Document.print, Document.Stack.print,
    Document.Stack.cuts, Scan.literal, templateBlock]

theorem content_eq (h : m.TemplateLine o line e d) (number : Nat) :
    (templateBlock o line e d number).content = line := by
  have hindent : (templateBlock o line e d number).indent? = some [] := rfl
  rw [Block.content, hindent]
  show Block.ownLines line = line
  rw [Block.ownLines_of_not_mem h.unbroken, h.not_blank]
  rfl

/-- There is nothing around the block, so its text is the page. -/
theorem out_addBlock (o line e : Text) (d : Directive) (number : Nat) (text : Text) :
    (Assembly.addBlock {} (templateBlock o line e d number) ⟨text, false⟩).out = text := by
  cases text <;> rfl

end Marker.TemplateLine

namespace Processor

variable {p : Processor} {o line e : Text} {d : Directive}

/-- A template block that counts is rendered by its handler, and the content of one that does not
is kept. -/
theorem renderBlock_of_template (hregistry : p.registry.get? "template".toList = some .template)
    (site : Site) {b : Block} {expandContent : Nat → Text → Outcome Text} {content : Text}
    (insert : Location → Path → Text → Outcome Text) (hb : b.directives = [d])
    (htype : d.type = "template".toList)
    (hcontent : expandContent b.contentLine b.content = pure content) :
    p.renderBlock site expandContent insert b =
      if p.audience.accepts d then do
        return ⟨← (p.context site b).render content, false⟩
      else return ⟨content, false⟩ := by
  have hget : p.registry.get? d.type = some .template := by rw [htype, hregistry]
  have hreads : Handler.template.readsContent d = true := rfl
  have hhandle : ∀ ctx, Handler.template.handle ctx d content =
      do return .edit (← ctx.render content) := fun ctx => rfl
  have hblock : p.handleBlock site expandContent insert b d .template =
      do return ⟨← (p.context site b).render content, false⟩ := by
    simp only [handleBlock, hreads, hcontent, hhandle, if_true, pure_bind, bind_assoc, settle]
  rw [renderBlock_of_single hb hget, hblock, hcontent, pure_bind]

/-- The block takes the place of the whole page. -/
theorem expand_templateLine (hregistry : p.registry.get? "template".toList = some .template)
    (h : p.marker.TemplateLine o line e d) (site : Site) :
    p.expand site (o ++ (line ++ e)) =
      if p.audience.accepts d then
        (p.context site (templateBlock o line e d 1)).render line
      else pure line := by
  rw [expand, expandAt_eq]
  generalize p.below p.options.maxIncludeDepth = deeper?
  have hcontent : p.expandWithin deeper? site (templateBlock o line e d 1).contentLine
      (templateBlock o line e d 1).content = pure line := by
    rw [h.content_eq]
    exact expandWithin_of_quiet h.find?_eq_none _
  have hrender := renderBlock_of_template hregistry site (p.insertFile deeper? site)
    (b := templateBlock o line e d 1) (d := { d with closing := e }) rfl h.type hcontent
  have haccepts : p.audience.accepts { d with closing := e } = p.audience.accepts d := rfl
  rw [expandWithin_eq, h.scan_eq]
  simp only [Assembly.addAll, hrender, haccepts]
  cases p.audience.accepts d with
  | true => simp [Marker.TemplateLine.out_addBlock]
  | false => simp [Marker.TemplateLine.out_addBlock]

/-- The content alone is rendered once; in a template block that counts it is rendered twice, with
the warnings of both times. -/
theorem processText_templateLine
    (hregistry : p.registry.get? "template".toList = some .template)
    (h : p.marker.TemplateLine o line e d) (dir : Path) :
    let once := p.template.render p.options.templateData line
    let twice := p.template.render p.options.templateData once.1
    p.processText dir line = ⟨.ok once.1, once.2.map (.page none)⟩ ∧
      p.processText dir (o ++ (line ++ e)) =
        if p.audience.accepts d then
          ⟨.ok twice.1, once.2.map (.block ⟨none, 1⟩) ++ twice.2.map (.page none)⟩
        else ⟨.ok once.1, once.2.map (.page none)⟩ := by
  intro once twice
  constructor
  · rw [processText, expand, expandAt_eq, expandWithin_of_quiet h.find?_eq_none, pure_bind]
    rfl
  · rw [processText, expand_templateLine hregistry h]
    cases p.audience.accepts d with
    | true => rfl
    | false =>
      simp only [Bool.false_eq_true, if_false, pure_bind]
      rfl

end Processor

/-! ### Rendering what is rendered -/

/-- Without a match in it, a text is left as it is, and nothing is warned about. -/
theorem Template.render_of_plain {pattern : Pattern} {text : Text}
    (h : ∀ t groups, .hit t groups ∉ pattern.pieces text) (data : Json) :
    (placeholders pattern).render data text = (text, []) := by
  have hpieces : pattern.pieces text = [.plain text] := by
    rw [Pattern.pieces, Pattern.piecesFrom] at h ⊢
    cases hnext : Pattern.next? pattern.find? false none text with
    | none => rfl
    | some hit =>
      have honward : false = true → 0 < hit.skip + hit.length ∧ text ≠ [] := by simp
      rw [hnext] at h
      dsimp only at h
      rw [dif_pos honward] at h
      exact absurd (List.mem_cons_of_mem _ List.mem_cons_self) (h _ _)
  simp [placeholders, hpieces, fillPiece, warningOf?]

theorem Template.exists_of_ofPattern {source : Text} {t : Template} (h : ofPattern source = .ok t) :
    ∃ pattern, Pattern.ofText source = .ok pattern ∧ t = placeholders pattern := by
  unfold ofPattern at h
  split at h
  · cases h
  · rename_i pattern hpattern
    split_ifs at h
    exact ⟨pattern, hpattern, (Except.ok.inj h).symm⟩

/-- A pattern that is accepted gives the template that it is accepted with. -/
theorem Template.ofPattern_of_isOk {source : Text} (h : (ofPattern source).isOk = true) :
    ofPattern source = .ok ((ofPattern source).toOption.getD .identity) := by
  cases hmade : ofPattern source with
  | error cause =>
    rw [hmade] at h
    cases h
  | ok t => rfl

/-- Two runs that give the same page, with as many warnings. -/
def Outcome.Matches (x y : Outcome Text) : Prop :=
  (∃ page, x.result = .ok page ∧ y.result = .ok page) ∧ x.notices.length = y.notices.length

namespace Processor

variable {p : Processor} {o line e : Text} {d : Directive}

theorem matches_templateLine_iff
    (hregistry : p.registry.get? "template".toList = some .template)
    (h : p.marker.TemplateLine o line e d) (dir : Path) :
    let once := p.template.render p.options.templateData line
    (p.processText dir (o ++ (line ++ e))).Matches (p.processText dir line) ↔
      p.audience.accepts d = false ∨
        p.template.render p.options.templateData once.1 = (once.1, []) := by
  intro once
  obtain ⟨halone, hblock⟩ := processText_templateLine hregistry h dir
  rw [halone, hblock]
  cases p.audience.accepts d with
  | false => exact iff_of_true ⟨⟨_, rfl, rfl⟩, rfl⟩ (.inl rfl)
  | true =>
    constructor
    · rintro ⟨⟨page, htwice, honce⟩, hlength⟩
      obtain rfl := Except.ok.inj honce
      have hnone : (p.template.render p.options.templateData once.1).2 = [] := by
        rw [← List.length_eq_zero_iff]
        simpa using hlength
      exact .inr (Prod.ext (Except.ok.inj htwice) hnone)
    · rintro (hcounts | hsame)
      · cases hcounts
      · have htext : (p.template.render p.options.templateData once.1).1 = once.1 := by rw [hsame]
        have hnone : (p.template.render p.options.templateData once.1).2 = [] := by rw [hsame]
        exact ⟨⟨once.1, congrArg Except.ok htext, rfl⟩, by simpa using hnone⟩

/-- A template block around one line and the line alone come to the same just if the block does not
count, or if rendering what has been rendered changes nothing and warns of nothing. This is so when
the rendered line holds no placeholder. -/
theorem templateLine_alike_iff {source : Text}
    (hsource : Template.ofPattern source = .ok p.template)
    (hregistry : p.registry.get? "template".toList = some .template)
    (h : p.marker.TemplateLine o line e d) (dir : Path) :
    let once := p.template.render p.options.templateData line
    ((p.processText dir (o ++ (line ++ e))).Matches (p.processText dir line) ↔
      p.audience.accepts d = false ∨
        p.template.render p.options.templateData once.1 = (once.1, [])) ∧
    ((∀ pattern, Pattern.ofText source = .ok pattern →
        ∀ t groups, .hit t groups ∉ pattern.pieces once.1) →
      (p.processText dir (o ++ (line ++ e))).Matches (p.processText dir line)) := by
  intro once
  have hiff := matches_templateLine_iff hregistry h dir
  refine ⟨hiff, fun hplain => hiff.2 (.inr ?_)⟩
  obtain ⟨pattern, hpattern, htemplate⟩ := Template.exists_of_ofPattern hsource
  have hrender := Template.render_of_plain (hplain pattern hpattern) p.options.templateData
  rwa [← htemplate] at hrender

/-- Placeholders of one word. -/
def wordPattern : Text := "<%= ([a-z]+) %>".toList

/-- A processor that fills the placeholders from this data. -/
def fillingProcessor (data : Json.Fields) : Processor where
  options := { data, interpolate := wordPattern }
  marker := .build
  registry := .builtin
  read := fun path => .error (.notFound path)
  transform := .passthrough
  template := (Template.ofPattern wordPattern).toOption.getD .identity

theorem ofPattern_wordPattern (data : Json.Fields) :
    Template.ofPattern wordPattern = .ok (fillingProcessor data).template :=
  Template.ofPattern_of_isOk (by decide +kernel)

theorem templateLine_greeting : Marker.build.TemplateLine "<!-- build:template -->".toList
    "<%= a %>".toList "<!-- endbuild -->".toList
    ⟨"template".toList, [], [], "<!-- build:template -->".toList, []⟩ where
  opens := by decide
  type := rfl
  closes := by decide
  comments := by decide +kernel
  nonempty := by decide
  unbroken := by decide
  trimmed := by decide

/-- What is filled in stays as it is written, if it holds no placeholder. -/
theorem templateLine_alike_iff_plainValue :
    ((fillingProcessor [("a".toList, .str "text_$&_text".toList)]).processText []
        "<!-- build:template --><%= a %><!-- endbuild -->".toList).Matches
      ((fillingProcessor [("a".toList, .str "text_$&_text".toList)]).processText []
        "<%= a %>".toList) := by
  have hiff := (templateLine_alike_iff
    (p := fillingProcessor [("a".toList, .str "text_$&_text".toList)])
    (ofPattern_wordPattern _) rfl templateLine_greeting []).1
  exact hiff.2 (.inr (by decide +kernel))

/-- What is filled in does not stay as it is written, if it looks like a placeholder. -/
theorem not_templateLine_alike_placeholderValue :
    let p := fillingProcessor
      [("a".toList, .str "<%= b %>".toList), ("b".toList, .str "x".toList)]
    Template.ofPattern wordPattern = .ok p.template ∧
      p.registry.get? "template".toList = some .template ∧
      p.marker.TemplateLine "<!-- build:template -->".toList "<%= a %>".toList
        "<!-- endbuild -->".toList
        ⟨"template".toList, [], [], "<!-- build:template -->".toList, []⟩ ∧
      (p.processText [] "<%= a %>".toList).result = .ok "<%= b %>".toList ∧
      (p.processText [] "<!-- build:template --><%= a %><!-- endbuild -->".toList).result =
        .ok "x".toList ∧
      ¬ (p.processText [] "<!-- build:template --><%= a %><!-- endbuild -->".toList).Matches
        (p.processText [] "<%= a %>".toList) := by
  intro p
  have halone : (p.processText [] "<%= a %>".toList).result = .ok "<%= b %>".toList := by
    decide +kernel
  have hblock : (p.processText []
      "<!-- build:template --><%= a %><!-- endbuild -->".toList).result = .ok "x".toList := by
    decide +kernel
  refine ⟨ofPattern_wordPattern _, rfl, templateLine_greeting, halone, hblock, ?_⟩
  rintro ⟨⟨page, hpage, hpage'⟩, -⟩
  rw [hblock] at hpage
  rw [halone, ← hpage] at hpage'
  revert hpage'
  decide

end Processor

end PageBlocks
