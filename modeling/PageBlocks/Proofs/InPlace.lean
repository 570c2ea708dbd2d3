import PageBlocks.Proofs.Concatenation
import PageBlocks.Proofs.Denotation

/-!
# Blocks on one line

On a page of a single line, `remove` blocks are to be taken out in their place: `Document.kept` is
the page without its directives and without the bodies of the blocks that count. Processing comes
close to that (`Processor.processing_in_place`). All that is left of the page stands in `kept`, in
that order, but some blanks can be missing. Whether a block has its line to itself is decided on the
text that it is processed in, and for a block inside another one this is only the body around it:

    x <!--build:remove(a)--> ␣ <!--build:remove(b)-->y<!--endbuild--> ␣ <!--endbuild-->
                            └── the body, in which the inner block is alone ──┘

Such a block takes the blanks beside it along, and the ones inside if there is nothing else.
`Document.spared` says when nothing is lost that way.
-/

namespace PageBlocks

namespace Document

variable {m : Marker}

/-- Does one of the directives of a stack count? -/
def Stack.counts (a : Audience) (s : Stack m) : Bool :=
  a.accepts s.first.directive || s.more.any fun x => a.accepts x.2.directive

/-- The text without the directives, the white space within stacks, and the bodies of blocks that
count. -/
def kept (a : Audience) : Document m → Text
  | nil => []
  | text t later => t ++ later.kept a
  | block s body _ later => (if s.counts a then [] else body.kept a) ++ later.kept a

/-- What becomes of a document on one line, when `seen` stands before it, nearest character first,
and `out` has become of that. A block with only blanks beside it takes them along. -/
def rendered (a : Audience) (seen out : Text) : Document m → Text
  | nil => out
  | text t later => later.rendered a (t.reverse ++ seen) (out ++ t)
  | block s body c later =>
    let inner := if s.counts a then [] else body.rendered a [] []
    if Text.blank seen && Text.blank later.print then
      if Text.blank body.print then [] else inner
    else
      later.rendered a ((s.print ++ (body.print ++ c.comment)).reverse ++ seen) (out ++ inner)

/-- A block with only blanks beside it has none of them, and does not keep blanks alone; this holds
of all blocks, but those inside of blocks that count. -/
def spared (a : Audience) (seen : Text) : Document m → Bool
  | nil => true
  | text t later => later.spared a (t.reverse ++ seen)
  | block s body c later =>
    (!(Text.blank seen && Text.blank later.print) || (seen.isEmpty && later.print.isEmpty &&
      (s.counts a || !Text.blank body.print || body.print.isEmpty))) &&
    (s.counts a || body.spared a []) &&
    later.spared a ((s.print ++ (body.print ++ c.comment)).reverse ++ seen)

/-! ### Blank documents -/

theorem Closing.not_blank (c : Closing m) : Text.blank c.comment = false := by
  obtain ⟨x, hx⟩ := c.eq_concat
  rw [hx, Text.blank_append]
  exact Bool.and_false _

theorem not_blank_block (s : Stack m) (body : Document m) (c : Closing m) (later : Document m) :
    Text.blank (block s body c later).print = false := by
  simp only [print, Text.blank_append, c.not_blank, Bool.false_and, Bool.and_false]

/-- A document of blanks has no blocks. -/
theorem segments_of_blank {doc : Document m} (h : Text.blank doc.print) (seen : Text) (line : Nat)
    (gap : Text) : doc.segments seen line gap = Scan.literal (gap ++ doc.print) [] := by
  induction doc generalizing seen line gap with
  | nil => rw [segments, print, List.append_nil]
  | text t later ih =>
    rw [print, Text.blank_append, Bool.and_eq_true] at h
    rw [segments, ih h.2, print, List.append_assoc]
  | block s body c later _ _ =>
    rw [not_blank_block] at h
    cases h

theorem kept_of_blank {doc : Document m} (h : Text.blank doc.print) (a : Audience) :
    doc.kept a = doc.print := by
  induction doc with
  | nil => rfl
  | text t later ih =>
    rw [print, Text.blank_append, Bool.and_eq_true] at h
    rw [kept, ih h.2, print]
  | block s body c later _ _ =>
    rw [not_blank_block] at h
    cases h

theorem spared_of_blank {doc : Document m} (h : Text.blank doc.print) (a : Audience) (seen : Text) :
    doc.spared a seen := by
  induction doc generalizing seen with
  | nil => rfl
  | text t later ih =>
    rw [print, Text.blank_append, Bool.and_eq_true] at h
    exact ih h.2 _
  | block s body c later _ _ =>
    rw [not_blank_block] at h
    cases h

/-! ### What is lost -/

/-- Two steps that leave things out leave out nothing together if neither does. -/
theorem eq_iff_of_sublist {s t u : Text} (hst : s.Sublist t) (htu : t.Sublist u) :
    s = u ↔ s = t ∧ t = u := by
  constructor
  · rintro rfl
    have heq := hst.antisymm htu
    exact ⟨heq, heq.symm⟩
  · rintro ⟨rfl, rfl⟩
    rfl

theorem eq_append_iff_of_sublist {r k : Text} (h : r.Sublist k) (x y : Text) :
    r = x ++ (k ++ y) ↔ (x = [] ∧ y = []) ∧ r = k := by
  constructor
  · intro heq
    have hlength := congrArg List.length heq
    have hle := h.length_le
    simp only [List.length_append] at hlength
    obtain rfl : x = [] := List.eq_nil_of_length_eq_zero (by omega)
    obtain rfl : y = [] := List.eq_nil_of_length_eq_zero (by omega)
    exact ⟨⟨rfl, rfl⟩, by simpa using heq⟩
  · rintro ⟨⟨rfl, rfl⟩, rfl⟩
    simp

/-- Processing leaves out blanks at most, and none if all blocks are spared. -/
theorem rendered_sublist (a : Audience) (doc : Document m) (seen out : Text)
    (hout : Text.blank seen → out = seen.reverse) :
    (doc.rendered a seen out).Sublist (out ++ doc.kept a) ∧
      (doc.rendered a seen out = out ++ doc.kept a ↔ doc.spared a seen) := by
  induction doc generalizing seen out with
  | nil => simp [rendered, kept, spared]
  | text t later ih =>
    have hlater := ih (t.reverse ++ seen) (out ++ t) (by
      intro hblank
      rw [Text.blank_append, Bool.and_eq_true] at hblank
      rw [hout hblank.2, List.reverse_append, List.reverse_reverse])
    rw [List.append_assoc] at hlater
    exact hlater
  | block s body c later ihb ihl =>
    obtain ⟨hbodySub, hbodyIff⟩ := ihb [] [] (fun _ => rfl)
    rw [List.nil_append] at hbodySub hbodyIff
    simp only [rendered, kept, spared]
    generalize hr : (if s.counts a then [] else body.rendered a [] []) = r
    generalize hk : (if s.counts a then [] else body.kept a) = k
    have hinner : r.Sublist k ∧ (r = k ↔ (s.counts a || body.spared a []) = true) := by
      subst hr hk
      cases s.counts a with
      | true => simp
      | false => exact ⟨hbodySub, hbodyIff⟩
    by_cases halone : (Text.blank seen && Text.blank later.print) = true
    · -- All that stands beside the block goes with it.
      rw [if_pos halone]
      obtain ⟨hseen, hlater⟩ : Text.blank seen = true ∧ Text.blank later.print = true := by
        simpa using halone
      have hempty : out = [] ↔ seen = [] := by rw [hout hseen, List.reverse_eq_nil_iff]
      have hrest : (if Text.blank body.print then [] else r).Sublist k ∧
          ((if Text.blank body.print then [] else r) = k ↔
            (s.counts a || !Text.blank body.print || body.print.isEmpty) = true ∧
              (s.counts a || body.spared a []) = true) := by
        cases hblank : Text.blank body.print with
        | true =>
          rw [if_pos rfl, spared_of_blank hblank, ← hk, kept_of_blank hblank]
          refine ⟨List.nil_sublist _, ?_⟩
          rw [eq_comm]
          cases s.counts a <;> simp
        | false => simpa using hinner
      rw [kept_of_blank hlater, spared_of_blank hlater, eq_append_iff_of_sublist hrest.1, hrest.2,
        hempty]
      refine ⟨?_, by simp [hseen, hlater, and_assoc]⟩
      exact hrest.1.trans ((List.sublist_append_left _ _).trans (List.sublist_append_right _ _))
    · rw [if_neg halone]
      obtain ⟨hsub, heq⟩ := ihl ((s.print ++ (body.print ++ c.comment)).reverse ++ seen) (out ++ r)
        (by
          intro hblank
          simp [Text.blank_append, Text.blank_reverse, c.not_blank] at hblank)
      rw [List.append_assoc] at hsub heq
      have hmore : (out ++ (r ++ later.kept a)).Sublist (out ++ (k ++ later.kept a)) :=
        (hinner.1.append (List.Sublist.refl _)).append_left out
      refine ⟨hsub.trans hmore, ?_⟩
      rw [eq_iff_of_sublist hsub hmore, heq, List.append_cancel_left_eq,
        List.append_cancel_right_eq, hinner.2]
      simp [halone, and_comm]

/-! ### Blocks of a document -/

section

variable {s : Stack m} {inner closing seen rest : Text} {line : Nat}

theorem any_accepts_blockOf (a : Audience) :
    (blockOf s inner closing seen rest line).directives.any a.accepts = s.counts a := by
  simp only [Block.directives, blockOf, List.any_cons, List.any_map]
  rfl

theorem type_of_mem_blockOf {d : Directive}
    (h : d ∈ (blockOf s inner closing seen rest line).directives) :
    d.type = s.first.directive.type := by
  rcases List.mem_cons.1 h with rfl | h
  · rfl
  · obtain ⟨x, hx, rfl⟩ := List.mem_map.1 h
    exact s.alike x hx

end

/-- The types of the blocks are those of the directives that are found. -/
theorem exists_of_mem_types {doc : Document m} {type : Text} (h : type ∈ doc.types) (gap : Text) :
    ∃ comment ∈ (doc.cuts gap).1.map Cut.comment, ∃ d, m.classify comment = .ok (.opens d) ∧
      d.type = type := by
  induction doc generalizing gap with
  | nil => cases h
  | text t later ih => exact ih h _
  | block s body c later ihb ihl =>
    simp only [types, List.mem_cons, List.mem_append] at h
    simp only [cuts, List.map_cons, List.map_append, List.mem_cons, List.mem_append]
    rcases h with rfl | h | h
    · exact ⟨s.first.comment, Or.inl rfl, s.first.directive, s.first.reads, rfl⟩
    · obtain ⟨comment, hcomment, hd⟩ := ihb h []
      exact ⟨comment, Or.inr (Or.inr (Or.inl hcomment)), hd⟩
    · obtain ⟨comment, hcomment, hd⟩ := ihl h []
      exact ⟨comment, Or.inr (Or.inr (Or.inr (Or.inr hcomment))), hd⟩

end Document

/-! ### Layout on one line -/

namespace Text

theorem ne_break_of_all {t : Text} (h : t.all fun c => c != '\r' && c != '\n') :
    ∀ c ∈ t, c ≠ '\r' ∧ c ≠ '\n' := by
  intro c hc
  simpa using List.all_eq_true.1 h c hc

theorem dropLineEnd_of_not_mem {t : Text} (h : '\n' ∉ t) : dropLineEnd t = t := by
  have hnone : dropLineBreak? (t.dropWhile isBlank) = none := by
    rw [Option.eq_none_iff_forall_ne_some]
    intro r hr
    have hmem : '\n' ∈ t.dropWhile isBlank := by
      rcases dropLineBreak?_eq_some hr with heq | heq <;> simp [heq]
    exact h ((List.dropWhile_suffix _).subset hmem)
  rw [dropLineEnd, hnone, Option.getD_none]

end Text

namespace Block

theorem ownLines_of_not_mem {inner : Text} (h : '\n' ∉ inner) :
    ownLines inner = if Text.blank inner then [] else inner := by
  simp only [ownLines, Text.dropLineEnd_of_not_mem h, Text.cutAtLastLine?_eq_none h]

/-- On one line, a block is alone if nothing but blanks is there besides. -/
theorem indent?_of_unbroken {b : Block} (hseen : '\n' ∉ b.seen)
    (hrest : ∀ c ∈ b.rest, c ≠ '\r' ∧ c ≠ '\n') :
    b.indent? = if Text.blank b.seen && Text.blank b.rest then some b.seen.reverse else none := by
  have hlead : b.lead = b.seen.reverse := by
    rw [lead, List.takeWhile_eq_self_iff.2]
    intro c hc
    rw [bne_iff_ne]
    rintro rfl
    exact hseen hc
  have hend := Text.blankToLineEnd_append hrest .lf (z := false) (x := []) (fun _ => rfl)
  rw [Text.Break.when_false, List.append_nil, List.append_nil] at hend
  rw [indent?, hlead, hend, Text.blank_reverse]

end Block

/-- A block that is alone on its line takes the place of all that stands on it. -/
theorem Assembly.addBlock_alone {a : Assembly} {b : Block} (hindent : b.indent? = some a.out)
    (hrest : Text.blank b.rest) (t : Text) : a.addBlock b ⟨t, false⟩ = ⟨t, b.rest.length⟩ := by
  have hbefore : Text.before? a.out a.out = some [] := Text.before?_eq_some_iff.2 rfl
  have hblanks : Text.leadingBlanks b.rest = b.rest :=
    List.takeWhile_eq_self_iff.2 (Text.blank_iff.1 hrest)
  have hbreaks : b.breaksLine = false := Text.breaksLine_of_blank hrest
  simp only [addBlock, hindent, hbefore, Option.getD_some, hblanks, hbreaks, Bool.false_eq_true,
    if_false, List.nil_append]
  cases t <;> rfl

/-- A block with only blanks behind it that takes the place of all before is all that is left. -/
theorem Document.ok_addAll_alone {m : Marker} {f : Block → Outcome Rendered} {a : Assembly}
    {b : Block} {later : Document m} {t : Text} (hrender : (f b).result = .ok ⟨t, false⟩)
    (hindent : b.indent? = some a.out) (hrest : b.rest = later.print)
    (hblank : Text.blank later.print) (seen : Text) (line : Nat) :
    ∃ page, (Assembly.addAll f (.block b :: later.segments seen line []) a).result = .ok page ∧
      page.out = t := by
  rw [Assembly.result_addAll_block hrender,
    Assembly.addBlock_alone hindent (by rw [hrest]; exact hblank), segments_of_blank hblank,
    List.nil_append, hrest]
  obtain ⟨page, hpage, hlast⟩ :=
    Assembly.addAll_literal_nil f later.print ⟨t, later.print.length⟩
  refine ⟨page, by rw [hpage]; rfl, ?_⟩
  rw [hlast, Assembly.addLiteral, List.drop_length, List.append_nil]

namespace Processor

variable {p : Processor} (hregistry : p.registry = .builtin)
  {deeper? : Option (Site → Text → Outcome Text)} {site : Site}

include hregistry

/-- A block on one line is rendered to nothing if it counts, or if it is alone with blanks only; and
to what its inner text comes to otherwise. -/
theorem result_renderBlock_unbroken {s : Document.Stack p.marker} {inner closing seen rest t : Text}
    {line : Nat} (htype : s.first.directive.type = removeType) (hseen : '\n' ∉ seen)
    (hinner : '\n' ∉ inner) (hrest : ∀ c ∈ rest, c ≠ '\r' ∧ c ≠ '\n')
    (hexpand : ∀ n, (p.expandWithin deeper? site n inner).result = .ok t) :
    (p.renderBlock site (p.expandWithin deeper? site) (p.insertFile deeper? site)
      (Document.blockOf s inner closing seen rest line)).result =
        .ok ⟨if s.counts p.audience then [] else
          if (Text.blank seen && Text.blank rest) && Text.blank inner then [] else t, false⟩ := by
  generalize hb : Document.blockOf s inner closing seen rest line = b
  have hindent : b.indent? =
      if Text.blank seen && Text.blank rest then some seen.reverse else none := by
    rw [← hb]
    exact Block.indent?_of_unbroken hseen hrest
  have hremove : ∀ d ∈ b.directives, d.type = removeType := by
    intro d hd
    rw [← hb] at hd
    exact (Document.type_of_mem_blockOf hd).trans htype
  have hcounts : b.directives.any p.audience.accepts = s.counts p.audience := by
    rw [← hb]
    exact Document.any_accepts_blockOf p.audience
  have hcontent : (p.expandWithin deeper? site b.contentLine b.content).result =
      .ok (if (Text.blank seen && Text.blank rest) && Text.blank inner then [] else t) := by
    cases halone : Text.blank seen && Text.blank rest with
    | false =>
      have hown : b.content = inner := by
        rw [Block.content, hindent, halone, ← hb]
        rfl
      rw [hown, Bool.false_and, if_neg (by simp)]
      exact hexpand _
    | true =>
      have hown : b.content = if Text.blank inner then [] else inner := by
        rw [Block.content, hindent, halone, if_pos rfl, ← hb]
        exact Block.ownLines_of_not_mem hinner
      rw [hown, Bool.true_and]
      split
      · exact result_expandWithin_of_quiet rfl _
      · exact hexpand _
  rw [result_renderBlock hregistry hremove hcontent, hcounts]

/-- The segments of a document on one line make up what becomes of it. -/
theorem ok_addAll_rendered (deeper? : Option (Site → Text → Outcome Text)) (site : Site)
    {doc : Document p.marker} (hwell : doc.WellFormed)
    (hcuts : ∀ body ∈ doc.bodies, p.marker.cut body.print = body.cuts [])
    (htypes : ∀ type ∈ doc.types, type = removeType) (seen : Text)
    (hunbroken : ∀ c ∈ seen.reverse ++ doc.print, c ≠ '\r' ∧ c ≠ '\n') (line : Nat)
    (gap : Text) {a : Assembly} (hskip : a.skip = 0)
    (hout : Text.blank seen → a.out ++ gap = seen.reverse) :
    ∃ page, (Assembly.addAll
        (p.renderBlock site (p.expandWithin deeper? site) (p.insertFile deeper? site))
        (doc.segments seen line gap) a).result = .ok page ∧
      page.out = doc.rendered p.audience seen (a.out ++ gap) := by
  induction doc generalizing seen line gap a with
  | nil =>
    obtain ⟨page, hpage, hlast⟩ := Assembly.addAll_literal_nil
      (p.renderBlock site (p.expandWithin deeper? site) (p.insertFile deeper? site)) gap a
    refine ⟨page, by rw [Document.segments, hpage]; rfl, ?_⟩
    rw [hlast, Assembly.addLiteral, hskip, List.drop_zero, Document.rendered]
  | text t later ih =>
    obtain ⟨page, hpage, hlast⟩ := ih hwell hcuts htypes (t.reverse ++ seen)
      (by simpa [Document.print] using hunbroken) (line + Text.lineFeeds t) (gap ++ t) hskip (by
        intro hblank
        rw [Text.blank_append, Bool.and_eq_true] at hblank
        rw [← List.append_assoc, hout hblank.2, List.reverse_append, List.reverse_reverse])
    refine ⟨page, hpage, ?_⟩
    rw [hlast, Document.rendered, List.append_assoc]
  | block s body c later ihb ihl =>
    obtain ⟨hbody, hlater⟩ := hwell
    simp only [Document.print, List.mem_append, List.mem_reverse] at hunbroken
    have hseen : '\n' ∉ seen := fun h => (hunbroken _ (Or.inl h)).2 rfl
    have hinner : '\n' ∉ body.print :=
      fun h => (hunbroken _ (Or.inr (Or.inr (Or.inl h)))).2 rfl
    have hrest : ∀ x ∈ later.print, x ≠ '\r' ∧ x ≠ '\n' :=
      fun x hx => hunbroken x (Or.inr (Or.inr (Or.inr (Or.inr hx))))
    -- The body comes to the same as a text of its own.
    have hexpand : ∀ n, (p.expandWithin deeper? site n body.print).result =
        .ok (body.rendered p.audience [] []) := by
      intro n
      obtain ⟨page, hpage, hlast⟩ := ihb hbody.wellFormed
        (fun x hx => hcuts x (by simp [Document.bodies, hx]))
        (fun x hx => htypes x (by simp [Document.types, hx])) []
        (fun x hx => hunbroken x (Or.inr (Or.inr (Or.inl hx)))) n [] (a := {}) rfl (fun _ => rfl)
      have hcut := hcuts body (by simp [Document.bodies])
      rw [result_expandWithin (Document.scan_of_cut hbody.wellFormed hcut _) hpage, hlast]
      rfl
    rw [Document.segments, Assembly.addAll_literal_block]
    generalize hb : Document.blockOf s body.print c.comment seen later.print line = b
    have hrender : (p.renderBlock site (p.expandWithin deeper? site) (p.insertFile deeper? site)
        b).result = .ok ⟨if s.counts p.audience then [] else
          if (Text.blank seen && Text.blank later.print) && Text.blank body.print then []
          else body.rendered p.audience [] [], false⟩ := by
      rw [← hb]
      exact result_renderBlock_unbroken hregistry (htypes _ (by simp [Document.types])) hseen
        hinner hrest hexpand
    have hindent : b.indent? =
        if Text.blank seen && Text.blank later.print then some seen.reverse else none := by
      rw [← hb]
      exact Block.indent?_of_unbroken hseen hrest
    have hbrest : b.rest = later.print := by
      rw [← hb]
      rfl
    have hstart : (a.addLiteral gap).out = a.out ++ gap := by
      rw [Assembly.addLiteral, hskip, List.drop_zero]
    simp only [Document.rendered]
    by_cases halone : (Text.blank seen && Text.blank later.print) = true
    · obtain ⟨hblank, hlaterBlank⟩ : Text.blank seen = true ∧ Text.blank later.print = true := by
        simpa using halone
      rw [if_pos halone, ← hout hblank, ← hstart] at hindent
      obtain ⟨page, hpage, hlast⟩ := Document.ok_addAll_alone hrender hindent hbrest hlaterBlank
        ((s.print ++ (body.print ++ c.comment)).reverse ++ seen)
        (line + Text.lineFeeds (s.print ++ (body.print ++ c.comment)))
      refine ⟨page, hpage, ?_⟩
      rw [hlast, halone, Bool.true_and, if_pos rfl]
      cases s.counts p.audience <;> simp
    · rw [if_neg halone] at hindent
      rw [Assembly.result_addAll_block hrender, Assembly.addBlock, hindent, hstart,
        Bool.eq_false_iff.2 halone, Bool.false_and, if_neg Bool.false_ne_true,
        if_neg Bool.false_ne_true]
      obtain ⟨page, hpage, hlast⟩ := ihl hlater
        (fun x hx => hcuts x (by simp [Document.bodies, hx]))
        (fun x hx => htypes x (by simp [Document.types, hx]))
        ((s.print ++ (body.print ++ c.comment)).reverse ++ seen)
        (by simpa using hunbroken)
        (line + Text.lineFeeds (s.print ++ (body.print ++ c.comment))) []
        (a := ⟨a.out ++ gap ++ if s.counts p.audience then [] else
          body.rendered p.audience [] [], 0⟩) rfl (by
          intro hsource
          simp [Text.blank_append, Text.blank_reverse, c.not_blank] at hsource)
      refine ⟨page, hpage, ?_⟩
      rw [hlast, List.append_nil]

omit hregistry

end Processor

theorem Document.located_of_cut {m : Marker} {doc : Document m}
    (h : m.cut doc.print = doc.cuts []) : doc.Located := by
  rw [Located, marks, Marker.marksFrom_eq_place, Marker.cuts_place, h]

/-- The blocks of a document have the types of the directives that are found in its text. -/
theorem Document.types_of_marks {m : Marker} {doc : Document m}
    (hcut : m.cut doc.print = doc.cuts []) {line : Nat} {type : Text}
    (h : ∀ d ∈ (marks m line doc.print).1.filterMap Mark.directive?, d.type = type) :
    ∀ t ∈ doc.types, t = type := by
  intro t ht
  obtain ⟨comment, hcomment, d, hd, rfl⟩ := exists_of_mem_types ht []
  have htoken : m.classify comment ∈ (marks m line doc.print).1.map Mark.token := by
    rw [Marker.tokens_marks, hcut]
    exact List.mem_map_of_mem hcomment
  rw [hd] at htoken
  exact h d (Mark.mem_directives htoken)

namespace Processor

variable {p : Processor}

/-- Blocks on one line are taken out in their place, up to blanks. If the template leaves texts
alone and the types of blocks are the usual ones, then a text without line breaks, all of whose
directives are `remove` directives, is processed without error if it is scanned without error. It
comes to what stands outside of the directives and of the bodies of blocks that count, with nothing
missing but blanks around or in a block that was alone in the text that it was processed in; nothing
at all is missing exactly if all blocks are spared. -/
theorem processing_in_place (hregistry : p.registry = .builtin)
    (htemplate : ∀ data t, (p.template.render data t).1 = t) {text : Text}
    (hscanned : (p.marker.scan 1 text).error? = none)
    (hremoves : ∀ d ∈ (marks p.marker 1 text).1.filterMap Mark.directive?, d.type = removeType)
    (hunbroken : ∀ c ∈ text, c ≠ '\r' ∧ c ≠ '\n') :
    (∃ doc : Document p.marker, doc.WellFormed ∧ doc.Located ∧ doc.print = text) ∧
    ∀ doc : Document p.marker, doc.WellFormed → doc.Located → doc.print = text →
      ((∀ dir, (p.processText dir text).result = .ok (doc.rendered p.audience [] [])) ∧
        ∀ path, p.read path = .ok text →
          (p.processFile path).result = .ok (doc.rendered p.audience [] [])) ∧
      (doc.rendered p.audience [] []).Sublist (doc.kept p.audience) ∧
      (doc.rendered p.audience [] [] = doc.kept p.audience ↔ doc.spared p.audience []) := by
  constructor
  · obtain ⟨doc, hwell, hcut, rfl⟩ := Document.exists_of_scan hscanned
    exact ⟨doc, hwell, Document.located_of_cut hcut, rfl⟩
  · rintro doc hwell hlocated rfl
    refine ⟨?_, Document.rendered_sublist p.audience doc [] [] fun _ => rfl⟩
    have hcut := hlocated.cut_eq
    have hall : (p.marker.cut doc.print).1 = [] ++ ((doc.cuts []).1 ++ []) := by
      rw [hcut, List.nil_append, List.append_nil]
    refine result_process htemplate fun site => result_expand fun deeper? => ?_
    obtain ⟨page, hpage, hout⟩ := ok_addAll_rendered hregistry deeper? site hwell
      (Document.cut_body hall) (Document.types_of_marks hcut hremoves) [] hunbroken 1 [] (a := {})
      rfl (fun _ => rfl)
    rw [result_expandWithin (Document.scan_of_cut hwell hcut 1) hpage, hout]
    rfl

end Processor

namespace Document

/-- A directive that counts for everyone. -/
def removeAlways : Opening .build where
  comment := "<!-- build:remove -->".toList
  directive := ⟨removeType, [], [], "<!-- build:remove -->".toList, []⟩
  reads := by rfl

/-- A block inside another one that does not count, with a letter beside it. -/
def besideLetter : Document .build :=
  .text "x ".toList (.block (single removeA) (.text "b ".toList
    (.block (single removeAlways) (.text ['y'] .nil) endBuild (.text [' '] .nil))) endBuild .nil)

/-- A block inside another one, where neither counts, with only blanks beside it. -/
def besideBlanks : Document .build :=
  .text ['x'] (.block (single removeA) (.text [' ']
    (.block (single removeB) (.text ['y'] .nil) endBuild (.text [' '] .nil))) endBuild .nil)

end Document

namespace Processor

open Document (besideLetter besideBlanks)

theorem processing_in_place_besideLetter :
    besideLetter.spared plainProcessor.audience [] = true ∧
      (plainProcessor.processText [] besideLetter.print).result =
        .ok (besideLetter.kept plainProcessor.audience) ∧
      besideLetter.kept plainProcessor.audience = "x b  ".toList := by
  have hscanned : (Marker.build.scan 1 besideLetter.print).error? = none := by decide +kernel
  have hremoves : ∀ d ∈ (marks .build 1 besideLetter.print).1.filterMap Mark.directive?,
      d.type = removeType := by decide +kernel
  have hunbroken : ∀ c ∈ besideLetter.print, c ≠ '\r' ∧ c ≠ '\n' :=
    Text.ne_break_of_all (by decide +kernel)
  have hwell : besideLetter.WellFormed := ⟨⟨rfl, trivial, trivial⟩, trivial⟩
  have hlocated : besideLetter.Located := by
    show (marks .build 1 besideLetter.print).1.map Mark.cut = _
    decide +kernel
  have hspared : besideLetter.spared plainProcessor.audience [] = true := by decide +kernel
  obtain ⟨⟨htext, -⟩, -, hiff⟩ := (processing_in_place (p := plainProcessor) rfl (fun _ _ => rfl)
    hscanned hremoves hunbroken).2 besideLetter hwell hlocated rfl
  exact ⟨hspared, (htext []).trans (congrArg Except.ok (hiff.2 hspared)), by decide +kernel⟩

theorem not_processing_in_place_besideBlanks :
    besideBlanks.print = ("x<!-- build:remove(a) --> <!-- build:remove(b) -->y".toList ++
        "<!-- endbuild --> <!-- endbuild -->".toList) ∧
      (Marker.build.scan 1 besideBlanks.print).error? = none ∧
      (∀ d ∈ (marks .build 1 besideBlanks.print).1.filterMap Mark.directive?,
        d.type = removeType) ∧
      (∀ c ∈ besideBlanks.print, c ≠ '\r' ∧ c ≠ '\n') ∧
      (∃ t, .literal t ∈ (Marker.build.scan 1 besideBlanks.print).segments ∧
        Text.blank t = false) ∧
      besideBlanks.kept plainProcessor.audience = "x y ".toList ∧
      (plainProcessor.processText [] besideBlanks.print).result ≠
        .ok (besideBlanks.kept plainProcessor.audience) :=
  ⟨by decide +kernel, by decide +kernel, by decide +kernel,
    Text.ne_break_of_all (by decide +kernel), ⟨['x'], by decide +kernel, rfl⟩, by decide +kernel,
    by decide +kernel⟩

end Processor

end PageBlocks
