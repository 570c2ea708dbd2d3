import PageBlocks.Proofs.InPlace
import PageBlocks.Proofs.Keeping

/-!
# Stripping twice

With `strip`, every `remove` block is taken out, whomever it is meant for. A page of such blocks is
then to be free of comments, so that stripping it once more changes nothing. What could go wrong are
the places where a block was:

    <!-<!-- build:remove -->x<!-- endbuild -->- build:remove -->

No comment of this page goes over the block, but one comes up when the block is gone. This needs a
text that breaks off within a comment, in front of a block that shares its line. Where there is
none, no comment is left (`Processor.stripping_idempotent`): a block that has its lines to itself is
taken out behind the end of a line or in front of a carriage return, and no comment goes over these.
`Document.Clear` is what each step of putting the page together preserves.
-/

namespace PageBlocks

/-! ### Unfinished comments -/

namespace Marker

variable {m : Marker}

/-- No comment starts in `x` and goes on behind it, whatever comes there. -/
def Complete (m : Marker) (x : Text) : Prop := ∀ y, m.Seam x y

theorem complete_of_not_mem {x : Text} (h : '<' ∉ x) : m.Complete x := by
  intro y s hs hne c r hc
  have hquiet : m.Quiet x y := by
    refine quiet_of_forall_ne ?_ y
    rintro c hc rfl
    exact h hc
  rw [hquiet s hs hne] at hc
  cases hc

theorem Complete.suffix {x s : Text} (h : m.Complete x) (hs : s <:+ x) : m.Complete s :=
  fun y => (h y).suffix hs

/-- No comment goes from `x` into `y`: none is unfinished, or the line ends in between. -/
def Joins (m : Marker) (x y : Text) : Prop := m.Complete x ∨ y.head?.all (· == '\r')

theorem Joins.of_append {x y z : Text} (h : m.Joins x (y ++ z)) : m.Joins x y := by
  rcases h with h | h
  · exact Or.inl h
  · cases y with
    | nil => exact Or.inr rfl
    | cons c y => exact Or.inr h

theorem Joins.seam {x y : Text} (h : m.Joins x y) : m.Seam x y := by
  rcases h with h | h
  · exact h y
  · cases y with
    | nil =>
      intro s _ _ c r hc
      obtain ⟨-, heq⟩ := commentAt?_eq_some_iff.1 hc
      rw [List.append_nil] at heq
      simp [heq]
    | cons c y =>
      obtain rfl : c = '\r' := by simpa using h
      exact seam_before_break (Or.inl rfl) x y

theorem Joins.find?_eq_none {x y : Text} (h : m.Joins x y) (hx : m.find? x = none)
    (hy : m.find? y = none) : m.find? (x ++ y) = none := by
  have hquiet : m.Quiet x y := by
    simpa using h.seam.quiet (List.append_nil x).symm (find?_eq_none_iff.1 hx)
  rw [find?_append hquiet, hy, Option.map_none]

/-- A comment that starts in `x` does not get through `y`, and none is left unfinished there. -/
theorem Joins.complete {x y z : Text} (h : m.Joins x (y ++ '<' :: z)) (hy : m.Complete y) :
    m.Complete (x ++ y) := by
  have hback : ∀ w, m.Seam x (y ++ w) := by
    intro w
    rcases h with h | h
    · exact h _
    · cases y with
      | nil => simp at h
      | cons c y => exact Joins.seam (Or.inr h)
  rintro w s ⟨a, ha⟩ hne c r hc
  rcases List.append_eq_append_iff.1 ha with ⟨x', rfl, rfl⟩ | ⟨y', -, rfl⟩
  · -- The comment starts in `x`.
    rcases List.eq_nil_or_concat x' with rfl | ⟨_, _, rfl⟩
    · exact hy w _ (List.suffix_refl _) hne c r hc
    · rw [List.append_assoc] at hc
      have hle := hback w _ (List.suffix_append _ _) (by simp) c r hc
      rw [List.length_append]
      omega
  · exact hy w s (List.suffix_append _ _) hne c r hc

end Marker

/-! ### Behind a removed block -/

namespace Text

/-- Behind a block that has its line to itself without a line break behind it, there is nothing, or
a carriage return. -/
theorem head?_dropWhile_isBlank {r : Text} (hblank : blankToLineEnd r)
    (hbreak : breaksLine r = false) : (r.dropWhile isBlank).head?.all (· == '\r') := by
  cases hdrop : r.dropWhile isBlank with
  | nil => rfl
  | cons c w =>
    have hc : isBlank c = false := by
      have := List.head?_dropWhile_not isBlank r
      simpa [hdrop] using this
    by_contra hne
    replace hne : c ≠ '\r' := by simpa using hne
    have hfeed : c ≠ '\n' := by
      rintro rfl
      rw [breaksLine, hdrop] at hbreak
      cases hbreak
    -- The character is on the line, and no carriage return at its end.
    have hline : c ∈ restOfLine r := by
      rw [restOfLine, ← List.takeWhile_append_dropWhile (p := isBlank) (l := r), hdrop,
        List.takeWhile_append_of_pos]
      · simp [hfeed]
      · intro x hx
        simpa using (ne_of_blank (blank_leadingBlanks r) x hx).2.2
    have hmem : c ∈ dropEndWhile (· == '\r') (restOfLine r) := by
      rw [← List.mem_reverse, ← List.takeWhile_append_dropWhile (p := (· == '\r'))
        (l := (restOfLine r).reverse), List.mem_append] at hline
      rw [dropEndWhile, List.mem_reverse]
      refine hline.resolve_left fun h => ?_
      exact hne (by simpa using List.all_eq_true.1 List.all_takeWhile c h)
    rw [blank_iff.1 hblank c hmem] at hc
    cases hc

theorem drop_leadingBlanks (r : Text) : r.drop (leadingBlanks r).length = r.dropWhile isBlank :=
  calc r.drop (leadingBlanks r).length
      = (leadingBlanks r ++ r.dropWhile isBlank).drop (leadingBlanks r).length := by
        rw [leadingBlanks, List.takeWhile_append_dropWhile]
    _ = r.dropWhile isBlank := List.drop_left

theorem ne_of_mem_leadingBlanks {r : Text} {c : Char} (h : c ∈ r.take (leadingBlanks r).length) :
    c ≠ '<' := by
  have htake : leadingBlanks r = r.take (leadingBlanks r).length :=
    List.prefix_iff_eq_take.1 (List.takeWhile_prefix isBlank)
  rw [← htake] at h
  exact (ne_of_blank (blank_leadingBlanks r) c h).1

theorem ne_of_mem_take_lineEnd {r : Text} {c : Char} (h : c ∈ r.take (lineEnd r).length) :
    c ≠ '<' := by
  rw [← List.prefix_iff_eq_take.1 ⟨_, lineEnd_append_dropLineEnd r⟩] at h
  exact ne_of_mem_lineEnd h

end Text

namespace Assembly

variable {a : Assembly} {b : Block}

/-- Where nothing takes the place of a block, nothing is added to the page. -/
theorem out_addBlock_prefix (a : Assembly) (b : Block) :
    (a.addBlock b ⟨[], false⟩).out <+: a.out := by
  have hbefore : ∀ indent, (Text.before? indent a.out).getD a.out <+: a.out := by
    intro indent
    cases h : Text.before? indent a.out with
    | none => exact List.prefix_refl _
    | some o => exact ⟨_, (Text.before?_eq_some_iff.1 h).symm⟩
  unfold addBlock
  cases b.indent? with
  | none => simp
  | some indent =>
    cases b.breaksLine with
    | true => exact hbefore indent
    | false =>
      refine List.IsPrefix.trans ?_ (hbefore indent)
      simp only [List.isEmpty_nil, if_true, Bool.false_eq_true, if_false, dropLastBreak_eq]
      exact Text.dropFinalBreak_prefix _

/-- What is left behind by a block that nothing takes the place of, if its indentation starts a line
of the page. -/
theorem addBlock_nil_cases
    (hlined : ∀ indent, b.indent? = some indent → ∃ o, Text.Ended o ∧ a.out = o ++ indent) :
    (b.indent? = none ∧ a.addBlock b ⟨[], false⟩ = ⟨a.out, 0⟩) ∨
    (∃ o, Text.Ended o ∧ a.addBlock b ⟨[], false⟩ = ⟨o, (Text.lineEnd b.rest).length⟩) ∨
    ∃ o, a.addBlock b ⟨[], false⟩ = ⟨o, (Text.leadingBlanks b.rest).length⟩ ∧
      (b.rest.drop (Text.leadingBlanks b.rest).length).head?.all (· == '\r') := by
  unfold addBlock
  cases hindent : b.indent? with
  | none => exact Or.inl ⟨rfl, by simp⟩
  | some indent =>
    obtain ⟨o, hended, hout⟩ := hlined indent hindent
    have hbefore : Text.before? indent a.out = some o := Text.before?_eq_some_iff.2 hout
    right
    cases hbreaks : b.breaksLine with
    | true => exact Or.inl ⟨o, hended, by simp [hbefore]⟩
    | false =>
      refine Or.inr ⟨dropLastBreak o, by simp [hbefore], ?_⟩
      rw [Text.drop_leadingBlanks]
      exact Text.head?_dropWhile_isBlank (Block.of_indent? hindent).2.2 hbreaks

end Assembly

/-! ### Pages without comments -/

theorem Scan.suffix_literal (t : Text) (ss : List Segment) : ss <:+ literal t ss := by
  unfold literal
  split
  · exact List.suffix_refl ss
  · exact List.suffix_cons _ ss

namespace Document

variable {m : Marker}

/-- The page so far holds no comment, none goes on into the text to come, and wherever the next
block comes, its indentation starts a line of the page; `gap` is the literal so far, and `rest` is
still to come. -/
structure Clear (m : Marker) (seen gap rest : Text) (a : Assembly) : Prop where
  quiet : m.find? a.out = none
  skipped : ∀ c ∈ (gap ++ rest).take a.skip, c ≠ '<'
  joins : m.Joins a.out ((gap ++ rest).drop a.skip)
  lined : ∀ t, t <+: rest → Text.blank (lineSoFar (t.reverse ++ seen)) →
    ∃ o, Text.Ended o ∧ (a.addLiteral (gap ++ t)).out = o ++ lineSoFar (t.reverse ++ seen)

namespace Clear

theorem start (rest : Text) : Clear m [] [] rest {} where
  quiet := rfl
  skipped := by simp
  joins := Or.inl (Marker.complete_of_not_mem (by simp))
  lined := by
    intro t _ _
    refine ⟨(t.reverse.dropWhile (· != '\n')).reverse, ?_, ?_⟩
    · cases hdrop : t.reverse.dropWhile (· != '\n') with
      | nil => exact Or.inl rfl
      | cons c s =>
        have hc := List.head?_dropWhile_not (· != '\n') t.reverse
        obtain rfl : c = '\n' := by simpa [hdrop] using hc
        exact Or.inr ⟨s.reverse, by simp⟩
    · rw [lineSoFar, ← List.reverse_append, List.append_nil, List.takeWhile_append_dropWhile,
        List.reverse_reverse]
      simp [Assembly.addLiteral]

theorem text {seen gap t rest : Text} {a : Assembly} (h : Clear m seen gap (t ++ rest) a) :
    Clear m (t.reverse ++ seen) (gap ++ t) rest a where
  quiet := h.quiet
  skipped := by
    rw [List.append_assoc]
    exact h.skipped
  joins := by
    rw [List.append_assoc]
    exact h.joins
  lined := by
    intro t' ht' hblank
    have hline := h.lined (t ++ t') ((List.prefix_append_right_inj t).2 ht')
    rw [List.reverse_append, List.append_assoc, ← List.append_assoc gap] at hline
    exact hline hblank

/-- A literal without a comment brings none to the page. -/
theorem quiet_addLiteral {seen gap rest : Text} {a : Assembly} (h : Clear m seen gap rest a)
    (hgap : m.find? gap = none) : m.find? (a.addLiteral gap).out = none := by
  have hjoins := h.joins
  rw [List.drop_append] at hjoins
  refine hjoins.of_append.find?_eq_none h.quiet ?_
  rw [Marker.find?_eq_none_iff] at hgap ⊢
  exact fun s hs hne => hgap s (hs.trans (List.drop_suffix _ _)) hne

/-- Behind a block, a line that is blank so far starts a line of the page. -/
theorem lined_behind {rest x : Text} {a : Assembly}
    (hle : ∀ u, u ++ ['\n'] <+: rest → a.skip ≤ u.length + 1)
    (hended : Text.Ended a.out ∨ a.skip ≤ (Text.leadingBlanks rest).length) :
    ∀ t, t <+: rest → Text.blank (lineSoFar (t.reverse ++ '>' :: x)) → ∃ o, Text.Ended o ∧
      (a.addLiteral ([] ++ t)).out = o ++ lineSoFar (t.reverse ++ '>' :: x) := by
  intro t ht hblank
  obtain ⟨u, v, rfl, hv⟩ := exists_of_blank_lineSoFar hblank
  have hu : u ++ ['\n'] <+: rest := List.IsPrefix.trans ⟨v, by simp⟩ ht
  have hskip := hle u hu
  refine ⟨a.out ++ (u ++ ['\n']).drop a.skip, ?_, ?_⟩
  · by_cases hshort : a.skip ≤ u.length
    · rw [List.drop_append_of_le_length hshort, ← List.append_assoc]
      exact Or.inr ⟨_, rfl⟩
    · have hblanks := Text.length_leadingBlanks_le hu
      have hall : (u ++ ['\n']).length ≤ a.skip := by
        rw [List.length_append, List.length_singleton]
        omega
      rw [List.drop_eq_nil_of_le hall, List.append_nil]
      exact hended.resolve_right (by omega)
  · rw [hv, List.nil_append, Assembly.addLiteral, List.append_assoc,
      ← List.drop_append_of_le_length]
    · simp
    · simpa using hskip

/-- A block that nothing takes the place of brings no comment about, if the literal before it breaks
off within none or if the block has its lines to itself. -/
theorem block {seen gap z x : Text} {a : Assembly} {b : Block}
    (h : Clear m seen gap ('<' :: z) a) (hgap : m.find? gap = none) (hseen : b.seen = seen)
    (hparted : b.indent? = none → m.Complete gap) :
    Clear m ('>' :: x) [] b.rest ((a.addLiteral gap).addBlock b ⟨[], false⟩) := by
  have hskip : a.skip ≤ gap.length := by
    by_contra hlt
    obtain ⟨k, hk⟩ : ∃ k, a.skip - gap.length = k + 1 := ⟨a.skip - gap.length - 1, by omega⟩
    exact h.skipped '<' (by simp [List.take_append, hk]) rfl
  have hlined : ∀ indent, b.indent? = some indent →
      ∃ o, Text.Ended o ∧ (a.addLiteral gap).out = o ++ indent := by
    intro indent hindent
    obtain ⟨rfl, hblank, -⟩ := Block.of_indent? hindent
    have hline := h.lined [] List.nil_prefix
    rw [List.append_nil, ← hseen] at hline
    exact hline hblank
  have hjoins := h.joins
  rw [List.drop_append_of_le_length hskip] at hjoins
  obtain ⟨y, hy⟩ := Assembly.out_addBlock_prefix (a.addLiteral gap) b
  have hquiet : m.find? ((a.addLiteral gap).addBlock b ⟨[], false⟩).out = none := by
    refine Marker.find?_of_append (y := y) ?_
    rw [hy]
    exact h.quiet_addLiteral hgap
  have hle : ∀ u, u ++ ['\n'] <+: b.rest →
      ((a.addLiteral gap).addBlock b ⟨[], false⟩).skip ≤ u.length + 1 :=
    fun u hu => Assembly.skip_addBlock_le hu _
  rcases Assembly.addBlock_nil_cases hlined with ⟨hnone, heq⟩ | ⟨o, hended, heq⟩ | ⟨o, heq, hreturn⟩
  · rw [heq] at hquiet hle ⊢
    exact
      { quiet := hquiet
        skipped := by simp
        joins := Or.inl (hjoins.complete ((hparted hnone).suffix (List.drop_suffix _ _)))
        lined := lined_behind hle (Or.inr (Nat.zero_le _)) }
  · rw [heq] at hquiet hle ⊢
    exact
      { quiet := hquiet
        skipped := fun c => Text.ne_of_mem_take_lineEnd
        joins := Or.inl (Marker.seam_of_ended hended)
        lined := lined_behind hle (Or.inl hended) }
  · rw [heq] at hquiet hle ⊢
    exact
      { quiet := hquiet
        skipped := fun c => Text.ne_of_mem_leadingBlanks
        joins := Or.inr hreturn
        lined := lined_behind hle (Or.inr (Nat.le_refl _)) }

end Clear

section

variable {f : Block → Outcome Rendered} {doc : Document m} {seen gap : Text} {line : Nat}
  (hf : ∀ b, .block b ∈ doc.segments seen line gap → (f b).result = .ok ⟨[], false⟩)
  {a page : Assembly} (h : (Assembly.addAll f (doc.segments seen line gap) a).result = .ok page)
include hf h

/-- If nothing takes the place of any block, no comment is left, unless a literal breaks off within
one in front of a block that shares its line. -/
theorem quiet_of_addAll
    (hparted : ∀ t b, [.literal t, .block b] <:+: doc.segments seen line gap → b.indent? = none →
      m.Complete t)
    (hgaps : ∀ c ∈ (doc.cuts gap).1, m.find? c.gap = none) (htail : m.find? (doc.cuts gap).2 = none)
    (hclear : Clear m seen gap doc.print a) : m.find? page.out = none := by
  induction doc generalizing seen gap line a with
  | nil =>
    obtain ⟨page', hpage, hout⟩ := Assembly.addAll_literal_nil f gap a
    rw [segments, hpage] at h
    obtain rfl : page' = page := Except.ok.inj h
    rw [hout]
    exact hclear.quiet_addLiteral htail
  | text t later ih => exact ih hf h hparted hgaps htail hclear.text
  | block s body c later _ ih =>
    obtain ⟨raw, hraw⟩ := exists_of_classify s.first.reads
    obtain ⟨x, hx⟩ := c.eq_concat
    have hfirst := hf _ (Scan.block_mem_literal_iff.2 List.mem_cons_self)
    rw [segments, Assembly.addAll_literal_block, Assembly.result_addAll_block hfirst] at h
    have hsuffix : later.segments ((s.print ++ (body.print ++ c.comment)).reverse ++ seen)
        (line + Text.lineFeeds (s.print ++ (body.print ++ c.comment))) [] <:+
        (block s body c later).segments seen line gap :=
      (List.suffix_cons _ _).trans (Scan.suffix_literal gap _)
    refine ih (fun b hb => hf b (hsuffix.subset hb)) h
      (fun t b ht => hparted t b (ht.trans hsuffix.isInfix)) ?_ htail ?_
    · intro k hk
      exact hgaps k (by simp [cuts, hk])
    · have hstart : (block s body c later).print = '<' :: ((['!', '-', '-'] ++
          (raw ++ ['-', '-', '>'])) ++ (Cut.source s.cuts ++ (body.print ++ (c.comment ++
            later.print)))) := by
        simp [print, Stack.print, hraw]
      rw [hstart] at hclear
      have hbehind : (s.print ++ (body.print ++ c.comment)).reverse ++ seen =
          '>' :: ((s.print ++ (body.print ++ x)).reverse ++ seen) := by
        simp [hx]
      rw [hbehind]
      refine hclear.block (b := blockOf s body.print c.comment seen later.print line)
        (hgaps ⟨gap, s.first.comment⟩ (by simp [cuts])) rfl fun hindent => ?_
      cases gap with
      | nil => exact Marker.complete_of_not_mem (by simp)
      | cons g gap => exact hparted (g :: gap) _ ⟨[], _, rfl⟩ hindent

/-- Nothing is added where a block is taken out, so a page with a comment gets shorter. -/
theorem length_of_addAll :
    page.out.length ≤ a.out.length + (gap.length + doc.print.length) ∧
      ((doc.cuts gap).1 ≠ [] →
        page.out.length < a.out.length + (gap.length + doc.print.length)) := by
  have hliteral : ∀ (a : Assembly) (t : Text),
      (a.addLiteral t).out.length ≤ a.out.length + t.length := by
    intro a t
    simp [Assembly.addLiteral]
  induction doc generalizing seen gap line a with
  | nil =>
    obtain ⟨page', hpage, hout⟩ := Assembly.addAll_literal_nil f gap a
    rw [segments, hpage] at h
    obtain rfl : page' = page := Except.ok.inj h
    rw [hout]
    exact ⟨hliteral a gap, fun hne => absurd rfl hne⟩
  | text t later ih =>
    have hlater := ih hf h
    rw [List.length_append, Nat.add_assoc] at hlater
    rw [print, List.length_append]
    exact hlater
  | block s body c later _ ih =>
    have hfirst := hf _ (Scan.block_mem_literal_iff.2 List.mem_cons_self)
    rw [segments, Assembly.addAll_literal_block, Assembly.result_addAll_block hfirst] at h
    obtain ⟨hlater, -⟩ := ih (fun b hb => hf b
      (Scan.block_mem_literal_iff.2 (List.mem_cons_of_mem _ hb))) h
    have hout := (Assembly.out_addBlock_prefix (a.addLiteral gap)
      (blockOf s body.print c.comment seen later.print line)).length_le
    have hgap := hliteral a gap
    have hclosing : 0 < c.comment.length := by
      obtain ⟨x, hx⟩ := c.eq_concat
      simp [hx]
    simp only [print, List.length_append, List.length_nil] at hlater ⊢
    omega

end

/-- The directives of a top-level block are of one of the document's types. -/
theorem type_mem_of_segments {doc : Document m} {seen gap : Text} {line : Nat} {b : Block}
    (hb : .block b ∈ doc.segments seen line gap) {d : Directive} (hd : d ∈ b.directives) :
    d.type ∈ doc.types := by
  induction doc generalizing seen gap line with
  | nil => simp [segments, Scan.block_mem_literal_iff] at hb
  | text t later ih => exact ih hb
  | block s body c later _ ih =>
    rcases List.mem_cons.1 (Scan.block_mem_literal_iff.1 hb) with heq | hlater
    · obtain rfl := Segment.block.inj heq
      rw [type_of_mem_blockOf hd]
      simp [types]
    · simp [types, ih hlater]

end Document

/-- No text breaks off within a comment in front of a block that shares its line. -/
def Marker.Parted (m : Marker) (text : Text) : Prop :=
  ∀ t b, [.literal t, .block b] <:+: (m.scan 1 text).segments → b.indent? = none → m.Complete t

namespace Processor

variable {p : Processor} (hregistry : p.registry = .builtin) (hstrip : p.options.strip = true)
  {text : Text}
  (hremoves : ∀ d ∈ (marks p.marker 1 text).1.filterMap Mark.directive?, d.type = removeType)
  {deeper? : Option (Site → Text → Outcome Text)} {site : Site} {out : Text}
include hregistry hstrip hremoves

/-- A page that is stripped is that of a document, and nothing takes the place of its blocks. -/
theorem exists_of_stripping (h : (p.expandWithin deeper? site 1 text).result = .ok out) :
    ∃ (doc : Document p.marker) (f : Block → Outcome Rendered) (page : Assembly),
      doc.WellFormed ∧ p.marker.cut doc.print = doc.cuts [] ∧ doc.print = text ∧
      (∀ b, .block b ∈ doc.segments [] 1 [] → (f b).result = .ok ⟨[], false⟩) ∧
      (Assembly.addAll f (doc.segments [] 1 []) {}).result = .ok page ∧ page.out = out := by
  obtain ⟨doc, hwell, hcut, rfl, page, hout, hpage⟩ := exists_of_expandWithin h
  refine ⟨doc, _, page, hwell, hcut, rfl, fun b hb => ?_, hpage, hout⟩
  have htypes : ∀ d ∈ b.directives, d.type = removeType := fun d hd =>
    Document.types_of_marks hcut hremoves _ (Document.type_mem_of_segments hb hd)
  have hcounts : b.directives.any p.audience.accepts := by
    refine List.any_eq_true.2 ⟨b.first, List.mem_cons_self, ?_⟩
    have htype : b.first.type = "remove".toList := htypes _ List.mem_cons_self
    simp [Audience.accepts, audience, hstrip, htype]
  rw [renderBlock_of_counts hregistry htypes hcounts]
  rfl

/-- No comment is left on a page that is stripped. -/
theorem quiet_of_expandWithin (hparted : p.marker.Parted text)
    (h : (p.expandWithin deeper? site 1 text).result = .ok out) : p.marker.find? out = none := by
  obtain ⟨doc, f, page, hwell, hcut, rfl, hf, hpage, rfl⟩ :=
    exists_of_stripping hregistry hstrip hremoves h
  rw [Marker.Parted, Document.scan_of_cut hwell hcut] at hparted
  refine Document.quiet_of_addAll hf hpage hparted ?_ ?_ (.start _)
  · rw [← hcut]
    exact fun c hc => Marker.quiet_of_mem_cut hc
  · rw [← hcut]
    exact Marker.quiet_tail_cut _

/-- A page that stripping leaves as it is holds no comment. -/
theorem quiet_of_fixed (h : (p.expandWithin deeper? site 1 text).result = .ok text) :
    p.marker.find? text = none := by
  obtain ⟨doc, f, page, -, hcut, hprint, hf, hpage, hout⟩ :=
    exists_of_stripping hregistry hstrip hremoves h
  obtain ⟨-, hshorter⟩ := Document.length_of_addAll hf hpage
  cases hfind : p.marker.find? text with
  | none => rfl
  | some found =>
    have hne : (doc.cuts []).1 ≠ [] := by
      rw [← hcut, hprint, Marker.cut_of_some hfind]
      simp
    have hlt := hshorter hne
    rw [hout, hprint] at hlt
    simp at hlt

omit hregistry hstrip hremoves

/-- A text that comes to something, by itself or as a file, does so by its blocks, if the template
leaves texts alone. -/
theorem exists_expand_of_process (htemplate : ∀ data t, (p.template.render data t).1 = t)
    (h : (∃ dir, (p.processText dir text).result = .ok out) ∨
      ∃ path, p.read path = .ok text ∧ (p.processFile path).result = .ok out) :
    ∃ site, (p.expand site text).result = .ok out := by
  rcases h with ⟨dir, h⟩ | ⟨path, hread, h⟩
  · exact ⟨⟨none, dir, []⟩, (result_processAt_iff htemplate).1 h⟩
  · rw [processFile, hread] at h
    exact ⟨⟨some path, Path.directory path, [Path.normalize path]⟩,
      (result_processAt_iff htemplate).1 h⟩

/-- There is nothing left to strip from a page that was stripped, if no text breaks off within a
comment in front of a block that shares its line. In any case a page that was stripped is left as it
is if it holds no comment, and only then if all its directives are `remove` directives. -/
theorem stripping_idempotent (hregistry : p.registry = .builtin) (hstrip : p.options.strip = true)
    (htemplate : ∀ data t, (p.template.render data t).1 = t) {text out : Text}
    (hremoves : ∀ d ∈ (marks p.marker 1 text).1.filterMap Mark.directive?, d.type = removeType)
    (h : (∃ dir, (p.processText dir text).result = .ok out) ∨
      ∃ path, p.read path = .ok text ∧ (p.processFile path).result = .ok out) :
    (p.marker.Parted text → p.marker.find? out = none ∧
      (∀ dir, (p.processText dir out).result = .ok out) ∧
        ∀ path, p.read path = .ok out → (p.processFile path).result = .ok out) ∧
    ((∀ d ∈ (marks p.marker 1 out).1.filterMap Mark.directive?, d.type = removeType) →
      ∀ dir, (p.processText dir out).result = .ok out ↔ p.marker.find? out = none) := by
  have hagain : p.marker.find? out = none → (∀ dir, (p.processText dir out).result = .ok out) ∧
      ∀ path, p.read path = .ok out → (p.processFile path).result = .ok out := by
    intro hquiet
    exact result_process htemplate fun site =>
      result_expand fun _ => result_expandWithin_of_quiet hquiet 1
  constructor
  · intro hparted
    obtain ⟨site, hexpand⟩ := exists_expand_of_process htemplate h
    rw [expand, expandAt_eq] at hexpand
    have hquiet := quiet_of_expandWithin hregistry hstrip hremoves hparted hexpand
    exact ⟨hquiet, hagain hquiet⟩
  · intro hout dir
    constructor
    · intro hfixed
      obtain ⟨site, hexpand⟩ := exists_expand_of_process htemplate (Or.inl ⟨dir, hfixed⟩)
      rw [expand, expandAt_eq] at hexpand
      exact quiet_of_fixed hregistry hstrip hout hexpand
    · intro hquiet
      exact (hagain hquiet).1 dir

/-- A processor that removes every `remove` block. -/
def strippingProcessor : Processor := { plainProcessor with options := { strip := true } }

/-- A block that shares its line, one that is alone, and one at the end of the page. -/
def partedPage : Text :=
  "<p>\nx <!-- build:remove(a) -->y<!-- endbuild -->\n  <!-- build:remove -->\nz\n".toList ++
    "  <!-- endbuild -->\n</p>\n<!-- build:remove -->\n<!-- endbuild -->".toList

theorem stripping_idempotent_partedPage :
    (strippingProcessor.processText [] partedPage).result = .ok "<p>\nx \n</p>".toList ∧
      Marker.build.Parted partedPage ∧
      Marker.build.find? "<p>\nx \n</p>".toList = none ∧
      (strippingProcessor.processText [] "<p>\nx \n</p>".toList).result =
        .ok "<p>\nx \n</p>".toList := by
  have hresult : (strippingProcessor.processText [] partedPage).result =
      .ok "<p>\nx \n</p>".toList := by decide +kernel
  have hremoves : ∀ d ∈ (marks .build 1 partedPage).1.filterMap Mark.directive?,
      d.type = removeType := by decide +kernel
  have hliterals : ∀ s ∈ (Marker.build.scan 1 partedPage).segments, s = .literal s.source →
      s.source ∈ ["<p>\nx ".toList, "\n  ".toList, "\n</p>\n".toList] := by decide +kernel
  have hparted : Marker.build.Parted partedPage := by
    intro t b hnext _
    have ht := hliterals (.literal t) (hnext.subset List.mem_cons_self) rfl
    simp only [Segment.source, List.mem_cons, List.not_mem_nil, or_false] at ht
    rcases ht with rfl | rfl | rfl
    · have hlines : Marker.build.Complete "<p>\n".toList :=
        Marker.seam_of_ended (Or.inr ⟨"<p>".toList, rfl⟩)
      exact Marker.Joins.complete (y := "x ".toList) (z := []) (Or.inl hlines)
        (Marker.complete_of_not_mem (by decide))
    · exact Marker.complete_of_not_mem (by decide)
    · exact Marker.seam_of_ended (Or.inr ⟨"\n</p>".toList, rfl⟩)
  have hall := stripping_idempotent (p := strippingProcessor) rfl rfl (fun _ _ => rfl) hremoves
    (Or.inl ⟨[], hresult⟩)
  obtain ⟨hquiet, hagain, -⟩ := hall.1 hparted
  exact ⟨hresult, hparted, hquiet, hagain []⟩

/-- A comment in the middle of which a block was put. -/
def splitPage : Text := "<!-<!-- build:remove -->x<!-- endbuild -->- build:remove -->".toList

theorem not_stripping_idempotent_splitPage :
    (∀ d ∈ (marks .build 1 splitPage).1.filterMap Mark.directive?, d.type = removeType) ∧
      (strippingProcessor.processText [] splitPage).result = .ok "<!-- build:remove -->".toList ∧
      (Marker.build.find? "<!-- build:remove -->".toList).isSome ∧
      (strippingProcessor.processText [] "<!-- build:remove -->".toList).result ≠
        .ok "<!-- build:remove -->".toList :=
  ⟨by decide +kernel, by decide +kernel, by decide +kernel, by decide +kernel⟩

end Processor

end PageBlocks
