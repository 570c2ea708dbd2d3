import PageBlocks.Proofs.Deletion
import PageBlocks.Proofs.Inclusion
import PageBlocks.Proofs.Layout
import PageBlocks.Proofs.Reading
import PageBlocks.Proofs.Registration

/-!
# Pages one after the other

Two pages that end with line feeds can be processed one by one or as one page, which comes to the
same (`Processor.processing_append`). What has to be shown is that neither half sees the other:

    first page                  │ second page
    ───────────────────────── ⏎ │ ─────────────────────── ⏎
    blocks: more text behind    │ blocks: more text before,
                                │ and other line numbers

The blocks of the first half are `Block.Alike` to what they are alone, since a line feed comes
before the second half. The blocks of the second half are so as well, and their line numbers matter
as little as the handlers care for them (`Handler.LineFree`). What the second half adds to the page
goes behind the first, because the indentation that a block takes off the page is always its own.
-/

namespace PageBlocks

open Outcome (Agrees comparison_agrees)

/-! ### Line numbers -/

/-- Where a block stands does not matter to what the handler answers, if it answers. -/
def Handler.LineFree (g : Handler) : Prop :=
  ∀ ctx line d content,
    Agrees Output (g.handle ctx d content) (g.handle { ctx with line := line } d content)

theorem Handler.lineFree_builtin {g : Handler} (hg : g ∈ Registry.builtin.handlers) :
    g.LineFree := by
  intro ctx line d content out h
  rcases Processor.mem_builtin hg with rfl | rfl | ⟨kind, rfl⟩ | rfl | rfl
  · exact h
  · have hread : ctx.read ({ ctx with line := line }.resolve (unquote d.args)) =
        ctx.read (ctx.resolve (unquote d.args)) := rfl
    unfold Handler.insertFile at h ⊢
    dsimp only at h ⊢
    rw [hread]
    split_ifs at h ⊢
    · cases h
    · cases hfile : ctx.read (ctx.resolve (unquote d.args)) with
      | ok file =>
        rw [hfile] at h
        exact h
      | error e =>
        rw [hfile] at h
        cases e <;> cases h
  · have hload : ∀ target, loadAsset { ctx with line := line } kind target =
        loadAsset ctx kind target := fun _ => rfl
    unfold Handler.asset at h ⊢
    dsimp only at h ⊢
    cases hargs : afterInline? d.args with
    | none =>
      rw [hargs] at h
      dsimp only at h ⊢
      split_ifs at h ⊢ <;> exact h
    | some rest =>
      rw [hargs] at h
      dsimp only at h ⊢
      split_ifs at h ⊢
      · exact h
      · rw [hload]
        cases hasset : loadAsset ctx kind (unquote rest) with
        | ok body =>
          rw [hasset] at h
          exact h
        | error w =>
          rw [hasset] at h
          exact h
  · unfold Handler.setAttribute at h ⊢
    dsimp only at h ⊢
    cases hname : d.attribute? with
    | none =>
      rw [hname] at h
      cases h
    | some name =>
      rw [hname] at h
      dsimp only at h ⊢
      by_cases hvalue : (unquote d.args).isEmpty = true
      · rw [if_pos hvalue] at h ⊢
        exact h
      · rw [if_neg hvalue] at h ⊢
        cases hfault : AttributeUse.fault? name with
        | some cause =>
          rw [hfault] at h
          cases h
        | none =>
          rw [hfault] at h
          exact h
  · exact h

theorem Processor.lineFree_of_builtin {p : Processor} (hregistry : p.registry = .builtin)
    {type : Text} {g : Handler} (hget : p.registry.get? type = some g) : g.LineFree := by
  rw [hregistry] at hget
  exact Handler.lineFree_builtin (Registry.mem_of_get? hget)

theorem Scan.forall₂_literal {R : Segment → Segment → Prop} (hR : ∀ t, R (.literal t) (.literal t))
    (t : Text) {ss ss' : List Segment} (h : List.Forall₂ R ss ss') :
    List.Forall₂ R (literal t ss) (literal t ss') := by
  unfold literal
  split
  · exact h
  · exact .cons (hR t) h

/-- Documents on other lines have the same segments but for the lines of the blocks. -/
theorem Document.compared_segments {m : Marker} {f g : Block → Outcome Rendered}
    {doc : Document m} {seen gap : Text} {line : Nat} (line' : Nat)
    (hfg : ∀ b, .block b ∈ doc.segments seen line gap → ∀ n,
      Agrees Rendered (f b) (g { b with line := n })) :
    List.Forall₂ (Segment.Compared Agrees f g) (doc.segments seen line gap)
      (doc.segments seen line' gap) := by
  induction doc generalizing seen gap line line' with
  | nil => exact Scan.forall₂_literal .literal gap .nil
  | text t later ih => exact ih _ hfg
  | block s body c later _ ih =>
    refine Scan.forall₂_literal .literal gap (.cons (.block ?_ ?_) (ih _ fun b hb => hfg b ?_))
    · exact (Block.Alike.of_line (blockOf s body.print c.comment seen later.print line)
        line').addBlock_eq
    · exact hfg _ (Scan.block_mem_literal_iff.2 List.mem_cons_self) line'
    · exact Scan.block_mem_literal_iff.2 (List.mem_cons_of_mem _ hb)

namespace Processor

variable {p : Processor} (hfree : ∀ type g, p.registry.get? type = some g → g.LineFree)
  {deeper? : Option (Site → Text → Outcome Text)} {site : Site}

theorem agrees_insertFile (location location' : Location) (path : Path) (text : Text) :
    Agrees Text (p.insertFile deeper? site location path text)
      (p.insertFile deeper? site location' path text) := by
  unfold insertFile
  dsimp only
  split
  · exact comparison_agrees.refl _
  · split
    · exact comparison_agrees.fail _ _
    · cases deeper? with
      | none => exact comparison_agrees.fail _ _
      | some expand => exact comparison_agrees.refl _

include hfree

/-- Blocks that are alike are rendered to the same, if their content is processed to the same on
each line. -/
theorem agrees_renderBlock {b b' : Block} (h : b.Alike b')
    (hcontent : ∀ line line', Agrees Text (p.expandWithin deeper? site line b.content)
      (p.expandWithin deeper? site line' b.content)) :
    Agrees Rendered
      (p.renderBlock site (p.expandWithin deeper? site) (p.insertFile deeper? site) b)
      (p.renderBlock site (p.expandWithin deeper? site) (p.insertFile deeper? site) b') := by
  refine comparison_agrees.renderBlock rfl rfl h.directives_eq h.content_eq ?_ ?_ ?_
  · rw [h.content_eq]
    exact hcontent _ _
  · intro d handler hget content
    exact hfree d.type handler hget (p.context site b) b'.line d content
  · exact agrees_insertFile _ _

/-- The lines that a text stands on are nothing to what it comes to. -/
theorem agrees_expandWithin (line line' : Nat) (text : Text) :
    Agrees Text (p.expandWithin deeper? site line text)
      (p.expandWithin deeper? site line' text) := by
  rw [expandWithin_eq, expandWithin_eq]
  cases herror : (p.marker.scan line text).error? with
  | some e =>
    intro out hout
    obtain ⟨page, -, hfail⟩ := Outcome.ok_of_bind hout
    cases hfail
  | none =>
    obtain ⟨doc, hwell, hcut, rfl⟩ := Document.exists_of_scan herror
    rw [Document.scan_of_cut hwell hcut, Document.scan_of_cut hwell hcut]
    refine comparison_agrees.bind (comparison_agrees.addAll ?_ _) fun _ _ =>
      comparison_agrees.refl _
    refine Document.compared_segments line' fun b hb n => ?_
    have hsegment : .block b ∈ (p.marker.scan line doc.print).segments := by
      rw [Document.scan_of_cut hwell hcut]
      exact hb
    have hshorter : b.content.length < doc.print.length := Marker.length_content_lt hsegment
    exact agrees_renderBlock hfree (Block.Alike.of_line b n) fun line line' =>
      agrees_expandWithin line line' b.content
termination_by text.length

/-- Blocks that are alike are rendered to the same. -/
theorem agrees_of_alike {b b' : Block} (h : b.Alike b') :
    Agrees Rendered
      (p.renderBlock site (p.expandWithin deeper? site) (p.insertFile deeper? site) b)
      (p.renderBlock site (p.expandWithin deeper? site) (p.insertFile deeper? site) b') :=
  agrees_renderBlock hfree h fun line line' => agrees_expandWithin hfree line line' _

end Processor

/-! ### The two halves -/

namespace Document

variable {m : Marker} {f g : Block → Outcome Rendered}
  (hfg : ∀ b b' : Block, b.Alike b' → Agrees Rendered (f b) (g b'))

/-- What is read as a directive stands between the signs that start and end a comment. -/
theorem exists_of_classify {comment : Text} {k : Token} (h : m.classify comment = .ok k) :
    ∃ raw, comment = ['<', '!', '-', '-'] ++ (raw ++ ['-', '-', '>']) := by
  unfold Marker.classify at h
  cases hbody : Marker.commentBody? comment with
  | none =>
    rw [hbody] at h
    cases h
  | some raw =>
    obtain ⟨t, ht, hraw⟩ := Option.bind_eq_some_iff.1 hbody
    rw [Text.after?_eq_some_iff.1 ht, Text.before?_eq_some_iff.1 hraw]
    exact ⟨raw, rfl⟩

theorem Closing.eq_concat (c : Closing m) : ∃ x, c.comment = x ++ ['>'] := by
  obtain ⟨raw, hraw⟩ := exists_of_classify c.reads
  exact ⟨['<', '!', '-', '-'] ++ (raw ++ ['-', '-']), by simp [hraw]⟩

/-- Behind a block of a text that ends with a line feed, there is one. -/
theorem mem_of_ended {c : Closing m} {x rest : Text}
    (h : Text.Ended (x ++ (c.comment ++ rest))) : '\n' ∈ rest := by
  have hrest := h.of_append
  rcases hrest.of_append with rfl | ⟨u, rfl⟩
  · obtain ⟨y, hy⟩ := c.eq_concat
    rw [hy, List.append_nil] at hrest
    rcases hrest with hnil | ⟨z, hz⟩
    · simp at hnil
    · simpa using (List.append_inj' hz rfl).2
  · simp

include hfg

/-- The first half: with more text behind it, it is put together in the same way up to the literal
at its end. -/
theorem ok_addAll_front (later : Document m) {doc : Document m} {seen gap : Text} {line : Nat}
    {a page : Assembly} (hended : Text.Ended doc.print)
    (hskip : a.skip ≤ gap.length + doc.print.length)
    (h : (Assembly.addAll f (doc.segments seen line gap) a).result = .ok page) :
    ∃ gap' a' line', a'.skip ≤ gap'.length ∧ page.out = (a'.addLiteral gap').out ∧
      (Assembly.addAll g ((doc.append later).segments seen line gap) a).result =
        (Assembly.addAll g (later.segments (doc.print.reverse ++ seen) line' gap') a').result := by
  induction doc generalizing seen gap line a with
  | nil =>
    obtain ⟨page', hpage, hout⟩ := Assembly.addAll_literal_nil f gap a
    rw [segments, hpage] at h
    obtain rfl : page' = page := Except.ok.inj h
    exact ⟨gap, a, line, by simpa [print] using hskip, hout, rfl⟩
  | text t doc ih =>
    have hskip' : a.skip ≤ (gap ++ t).length + doc.print.length := by
      simp only [print, List.length_append] at hskip ⊢
      omega
    obtain ⟨gap', a', line', hskip', hout, hresult⟩ := ih hended.of_append hskip' h
    refine ⟨gap', a', line', hskip', hout, ?_⟩
    rw [append, segments, hresult, print, List.reverse_append, List.append_assoc]
  | block s body c doc _ ih =>
    have hmem : '\n' ∈ doc.print := by
      refine mem_of_ended (x := s.print ++ body.print) (c := c) ?_
      simpa [print] using hended
    rw [segments, Assembly.addAll_literal_block] at h
    obtain ⟨r, hr, hlater⟩ := Outcome.ok_of_bind h
    -- The block is alike to the one with more text behind it.
    have halike : (blockOf s body.print c.comment seen doc.print line).Alike
        (blockOf s body.print c.comment seen (doc.print ++ later.print) line) :=
      .of_rest (blockOf s body.print c.comment seen doc.print line) hmem later.print
    obtain ⟨u, v, hu, -⟩ := List.eq_append_cons_of_mem hmem
    have hle := Assembly.skip_addBlock_le (a := a.addLiteral gap) (u := u)
      (b := blockOf s body.print c.comment seen doc.print line) ⟨v, by simp [blockOf, hu]⟩ r
    have hlength : u.length + 1 ≤ ([] : Text).length + doc.print.length := by
      rw [hu]
      simp
    obtain ⟨gap', a', line', hskip', hout, hresult⟩ :=
      ih hended.of_append.of_append.of_append (Nat.le_trans hle hlength) hlater
    refine ⟨gap', a', line', hskip', hout, ?_⟩
    rw [append, segments, Assembly.addAll_literal_block, print_append,
      Assembly.result_addAll_block (hfg _ _ halike r hr), halike.addBlock_eq, hresult]
    simp [print]

omit hfg

/-- The part of the line that stands before a place; `seen` is all before, nearest character
first. -/
def lineSoFar (seen : Text) : Text := (seen.takeWhile (· != '\n')).reverse

theorem lineSoFar_append {v : Text} (hv : '\n' ∉ v) (s : Text) :
    lineSoFar (v.reverse ++ '\n' :: s) = v := by
  have hline := Text.restOfLine_append (u := v.reverse) (by simpa using hv) s
  rw [Text.restOfLine] at hline
  rw [lineSoFar, hline, List.reverse_reverse]

/-- Behind a block, a line is blank only if it starts there. -/
theorem exists_of_blank_lineSoFar {t s : Text}
    (h : Text.blank (lineSoFar (t.reverse ++ '>' :: s))) :
    ∃ u v, t = u ++ '\n' :: v ∧ lineSoFar (t.reverse ++ '>' :: s) = v := by
  by_cases hmem : '\n' ∈ t.reverse
  · obtain ⟨w, x, hw, hfree⟩ := List.eq_append_cons_of_mem hmem
    refine ⟨x.reverse, w.reverse, ?_, ?_⟩
    · have := congrArg List.reverse hw
      simpa using this
    · have hline := lineSoFar_append (v := w.reverse) (by simpa using hfree) (x ++ '>' :: s)
      rwa [List.reverse_reverse, ← List.cons_append, ← List.append_assoc, ← hw] at hline
  · have hne : ∀ c ∈ t.reverse, (c != '\n') = true := by
      intro c hc
      rw [bne_iff_ne]
      rintro rfl
      exact hmem hc
    have hangle : '>' ∈ lineSoFar (t.reverse ++ '>' :: s) := by
      rw [lineSoFar, List.takeWhile_append_of_pos hne]
      simp
    exact absurd (Text.blank_iff.1 h _ hangle) (by decide)

/-- Wherever the next block comes, its indentation is at the end of the page; `gap` is the literal
so far, and `rest` is still to come. -/
def Poised (seen gap rest : Text) (a : Assembly) : Prop :=
  ∀ t, t <+: rest → Text.blank (lineSoFar (t.reverse ++ seen)) →
    lineSoFar (t.reverse ++ seen) <:+ (a.addLiteral (gap ++ t)).out

theorem poised_start (rest : Text) : Poised [] [] rest {} := by
  intro t _ _
  have hsuffix := List.reverse_suffix.2 (List.takeWhile_prefix (l := t.reverse) (· != '\n'))
  rw [List.reverse_reverse] at hsuffix
  simpa [Assembly.addLiteral, lineSoFar] using hsuffix

theorem Poised.text {seen gap t rest : Text} {a : Assembly} (h : Poised seen gap (t ++ rest) a) :
    Poised (t.reverse ++ seen) (gap ++ t) rest a := by
  intro t' ht' hblank
  have hline := h (t ++ t') ((List.prefix_append_right_inj t).2 ht')
  rw [List.reverse_append, List.append_assoc, ← List.append_assoc gap] at hline
  exact hline hblank

theorem poised_block (a : Assembly) (b : Block) (r : Rendered) (seen : Text) :
    Poised ('>' :: seen) [] b.rest (a.addBlock b r) := by
  intro t ht hblank
  obtain ⟨u, v, rfl, hv⟩ := exists_of_blank_lineSoFar hblank
  have hskip : (a.addBlock b r).skip ≤ (u ++ ['\n']).length := by
    have hu : u ++ ['\n'] <+: b.rest := List.IsPrefix.trans ⟨v, by simp⟩ ht
    have := Assembly.skip_addBlock_le (a := a) hu r
    simpa using this
  rw [hv, Assembly.addLiteral, List.nil_append, ← List.singleton_append, ← List.append_assoc,
    List.drop_append_of_le_length hskip, ← List.append_assoc]
  exact List.suffix_append _ _

/-- Whatever comes next, one page stands behind `front` to the other. -/
def Trails (front gap : Text) (a : Assembly) (gap' : Text) (a' : Assembly) : Prop :=
  ∀ t, (a'.addLiteral (gap' ++ t)).out = front ++ (a.addLiteral (gap ++ t)).out

include hfg

/-- The second half: behind a line feed and other text, it adds to the page what it comes to
alone. -/
theorem ok_addAll_behind (line' : Nat) {doc : Document m} {front seen s gap gap' : Text}
    {line : Nat} {a a' page : Assembly} (hended : Text.Ended doc.print)
    (hpaired : Text.pairedReturns doc.print)
    (hpoised : Poised seen gap doc.print a) (htrails : Trails front gap a gap' a')
    (h : (Assembly.addAll f (doc.segments seen line gap) a).result = .ok page) :
    ∃ page', (Assembly.addAll g (doc.segments (seen ++ '\n' :: s) line' gap') a').result =
      .ok page' ∧ page'.out = front ++ page.out := by
  induction doc generalizing seen gap gap' line line' a a' with
  | nil =>
    obtain ⟨page₁, hpage₁, hout₁⟩ := Assembly.addAll_literal_nil f gap a
    obtain ⟨page₂, hpage₂, hout₂⟩ := Assembly.addAll_literal_nil g gap' a'
    rw [segments, hpage₁] at h
    obtain rfl : page₁ = page := Except.ok.inj h
    rw [segments, hpage₂]
    have hout := htrails []
    rw [List.append_nil, List.append_nil] at hout
    exact ⟨page₂, rfl, by rw [hout₁, hout₂, hout]⟩
  | text t doc ih =>
    rw [segments, ← List.append_assoc]
    refine ih _ hended.of_append (Text.pairedReturns_of_append hpaired) hpoised.text ?_ h
    intro t'
    rw [List.append_assoc, List.append_assoc]
    exact htrails _
  | block st body c doc _ ih =>
    have hmem : '\n' ∈ doc.print := by
      refine mem_of_ended (x := st.print ++ body.print) (c := c) ?_
      simpa [print] using hended
    have hpaired' : Text.pairedReturns doc.print := by
      refine Text.pairedReturns_of_append (s := st.print ++ (body.print ++ c.comment)) ?_
      simpa [print] using hpaired
    rw [segments, Assembly.addAll_literal_block] at h
    obtain ⟨r, hr, hlater⟩ := Outcome.ok_of_bind h
    -- The block is alike to the one behind more text.
    have halike : (blockOf st body.print c.comment seen doc.print line).Alike
        (blockOf st body.print c.comment (seen ++ '\n' :: s) doc.print line') :=
      .of_seen (blockOf st body.print c.comment seen doc.print line) s line'
    have hout : (a'.addLiteral gap').out = front ++ (a.addLiteral gap).out := by
      have := htrails []
      rwa [List.append_nil, List.append_nil] at this
    have hblock := Assembly.addBlock_behind hout
      (b := blockOf st body.print c.comment seen doc.print line) (r := r) ?_ ?_
    · rw [segments, Assembly.addAll_literal_block,
        Assembly.result_addAll_block (hfg _ _ halike r hr), halike.addBlock_eq, hblock,
        ← List.append_assoc]
      refine ih _ hended.of_append.of_append.of_append hpaired' ?_ ?_ hlater
      · obtain ⟨x, hx⟩ := c.eq_concat
        rw [hx, ← List.append_assoc, ← List.append_assoc, List.reverse_append]
        exact poised_block (a.addLiteral gap)
          (blockOf st body.print (x ++ ['>']) seen doc.print line) r _
      · intro t
        simp [Assembly.addLiteral]
    · intro indent hindent
      obtain ⟨rfl, hblank, -⟩ := Block.of_indent? hindent
      have := hpoised [] List.nil_prefix hblank
      rwa [List.append_nil] at this
    · intro hsome
      obtain ⟨indent, hindent⟩ := Option.isSome_iff_exists.1 hsome
      exact Text.breaksLine_of_blankToLineEnd hmem hpaired' (Block.of_indent? hindent).2.2

end Document

namespace Processor

variable {p : Processor} {deeper? : Option (Site → Text → Outcome Text)} {site : Site}

/-- A text that is processed without error is that of a document, whose segments make up the
page. -/
theorem exists_of_expandWithin {line : Nat} {text out : Text}
    (h : (p.expandWithin deeper? site line text).result = .ok out) :
    ∃ doc : Document p.marker, doc.WellFormed ∧ p.marker.cut doc.print = doc.cuts [] ∧
      doc.print = text ∧ ∃ page : Assembly, page.out = out ∧
        (Assembly.addAll
          (p.renderBlock site (p.expandWithin deeper? site) (p.insertFile deeper? site))
          (doc.segments [] line []) {}).result = .ok page := by
  rw [expandWithin_eq] at h
  obtain ⟨page, hpage, hout⟩ := Outcome.ok_of_bind h
  cases herror : (p.marker.scan line text).error? with
  | some e =>
    rw [herror] at hout
    cases hout
  | none =>
    rw [herror] at hout
    obtain ⟨doc, hwell, hcut, rfl⟩ := Document.exists_of_scan herror
    rw [Document.scan_of_cut hwell hcut] at hpage
    exact ⟨doc, hwell, hcut, rfl, page, Except.ok.inj hout, hpage⟩

/-- Texts that end with line feeds are processed one by one. -/
theorem result_expandWithin_append
    (hfree : ∀ type g, p.registry.get? type = some g → g.LineFree) {t t' out out' : Text}
    (hend : Text.endsWith ['\n'] t) (hend' : Text.endsWith ['\n'] t')
    (hpaired : Text.pairedReturns t')
    (h : (p.expandWithin deeper? site 1 t).result = .ok out)
    (h' : (p.expandWithin deeper? site 1 t').result = .ok out') :
    (p.expandWithin deeper? site 1 (t ++ t')).result = .ok (out ++ out') := by
  obtain ⟨x, hx⟩ := Option.isSome_iff_exists.1 hend
  obtain ⟨x', hx'⟩ := Option.isSome_iff_exists.1 hend'
  rw [Text.before?_eq_some_iff] at hx hx'
  obtain ⟨doc, hwell, hcut, rfl, page, rfl, hpage⟩ := exists_of_expandWithin h
  obtain ⟨doc', hwell', hcut', rfl, page', rfl, hpage'⟩ := exists_of_expandWithin h'
  have hfg : ∀ b b' : Block, b.Alike b' → Agrees Rendered
      (p.renderBlock site (p.expandWithin deeper? site) (p.insertFile deeper? site) b)
      (p.renderBlock site (p.expandWithin deeper? site) (p.insertFile deeper? site) b') :=
    fun _ _ halike => agrees_of_alike hfree halike
  obtain ⟨gap, a, line, hskip, hout, hfront⟩ :=
    Document.ok_addAll_front hfg doc' (Or.inr ⟨x, hx⟩) (Nat.zero_le _) hpage
  have htrails : Document.Trails page.out [] {} gap a := by
    intro t
    rw [hout]
    simp [Assembly.addLiteral, List.drop_append_of_le_length hskip]
  obtain ⟨both, hboth, hout'⟩ := Document.ok_addAll_behind hfg line (s := x.reverse)
    (Or.inr ⟨x', hx'⟩) hpaired (Document.poised_start doc'.print) htrails hpage'
  rw [← hout']
  refine result_expandWithin (Document.scan_append hwell hwell' hcut hcut' hx 1) ?_
  rw [hfront, hx, List.append_nil, List.reverse_append]
  exact hboth

/-- A text is processed and its placeholders are filled, for the file and the directory of
`site`. -/
def processAt (p : Processor) (site : Site) (text : Text) : Outcome Text := do
  p.finish site.source (← p.expand site text)

/-- If the placeholders are left alone, a page is what its blocks make of it. -/
theorem result_processAt_iff (htemplate : ∀ data t, (p.template.render data t).1 = t)
    {text out : Text} :
    (p.processAt site text).result = .ok out ↔ (p.expand site text).result = .ok out := by
  have hfinish : ∀ page, (p.finish site.source page).result = .ok page := by
    intro page
    simp [finish, htemplate]
  constructor
  · intro h
    obtain ⟨page, hpage, hout⟩ := Outcome.ok_of_bind h
    rw [hfinish] at hout
    rw [hpage, Except.ok.inj hout]
  · intro h
    rw [processAt, Outcome.result_bind h, hfinish]

/-- Processing goes through pages that are put one after the other. If the template leaves texts
alone and no handler cares for line numbers, two texts that end with line feeds, in which carriage
returns only stand before line feeds, come to the same one by one and together. -/
theorem processing_append (htemplate : ∀ data t, (p.template.render data t).1 = t)
    (hfree : ∀ type g, p.registry.get? type = some g → g.LineFree) {t t' : Text}
    (hend : Text.endsWith ['\n'] t) (hend' : Text.endsWith ['\n'] t')
    (hpaired : Text.pairedReturns t') :
    (∀ site out out', (p.processAt site t).result = .ok out →
      (p.processAt site t').result = .ok out' →
        (p.processAt site (t ++ t')).result = .ok (out ++ out')) ∧
    ∀ dir out out', (p.processText dir t).result = .ok out →
      (p.processText dir t').result = .ok out' →
        (p.processText dir (t ++ t')).result = .ok (out ++ out') := by
  have hsites : ∀ site out out', (p.processAt site t).result = .ok out →
      (p.processAt site t').result = .ok out' →
        (p.processAt site (t ++ t')).result = .ok (out ++ out') := by
    intro site out out' h h'
    rw [result_processAt_iff htemplate, expand, expandAt_eq] at h h' ⊢
    exact result_expandWithin_append hfree hend hend' hpaired h h'
  exact ⟨hsites, fun dir => hsites ⟨none, dir, []⟩⟩

/-- A page that ends with a block. -/
def firstPage : Text := "a\r\n  <!--build:js x.js-->\n <p>\n  <!--endbuild-->\r\n".toList

/-- A page that starts with an indented block, and that removes another one. -/
def secondPage : Text :=
  " <!--build:js y.js-->\nz\n <!--endbuild-->\n<!--build:remove-->\n<!--endbuild-->\nb\n".toList

theorem processing_append_pages :
    (plainProcessor.processText [] firstPage).result =
        .ok "a\r\n  <script src=\"x.js\"></script>\r\n".toList ∧
      (plainProcessor.processText [] secondPage).result =
        .ok " <script src=\"y.js\"></script>\nb\n".toList ∧
      (plainProcessor.processText [] (firstPage ++ secondPage)).result =
        .ok ("a\r\n  <script src=\"x.js\"></script>\r\n".toList ++
          " <script src=\"y.js\"></script>\nb\n".toList) := by
  have hfree : ∀ type g, plainProcessor.registry.get? type = some g → g.LineFree :=
    fun _ _ hget => Handler.lineFree_builtin (Registry.mem_of_get? hget)
  have hend : Text.endsWith ['\n'] firstPage := by decide +kernel
  have hend' : Text.endsWith ['\n'] secondPage := by decide +kernel
  have hpaired : Text.pairedReturns secondPage := by decide +kernel
  have hfirst : (plainProcessor.processText [] firstPage).result =
      .ok "a\r\n  <script src=\"x.js\"></script>\r\n".toList := by decide +kernel
  have hsecond : (plainProcessor.processText [] secondPage).result =
      .ok " <script src=\"y.js\"></script>\nb\n".toList := by decide +kernel
  have hboth := processing_append (p := plainProcessor) (fun _ _ => rfl) hfree hend hend' hpaired
  exact ⟨hfirst, hsecond, hboth.2 [] _ _ hfirst hsecond⟩

end Processor

end PageBlocks
