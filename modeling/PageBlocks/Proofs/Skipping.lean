import Mathlib.Data.List.Induction
import PageBlocks.Proofs.Unread

/-!
# What is cut away beside a block

A block that stands alone is taken out together with what stands beside it. Both cuts go into pieces
that belong to other segments:

    … ⏎ indent   <!-- build:… --> … <!-- endbuild -->   blanks ⏎ more …
        ──┬───                                          ────┬───
    taken off the page so far                 skipped of the next literal

The indentation was written by an earlier literal, of which an earlier block may have skipped a
part, and what is to be skipped is only a number until the scan hands out the next piece.
`Assembly.Ready` is what each step keeps: the indentation of the block that comes next is at the end
of the page, and so much of the text to come is blanks and at most a line break as is to be skipped.
With it every cut is made where it was meant (`Marker.cuts_fit`). Only where the scan stops is there
no piece to cut from (`Marker.fault_where_skipped`).
-/

namespace PageBlocks

open Segment (sources)

namespace Text

/-! ### What may be skipped -/

/-- Spaces and tabs, and a line break behind them or none. -/
inductive Skippable : Text → Prop where
  | blanks {w : Text} (blank : blank w) : Skippable w
  | lineEnd {w : Text} (blank : blank w) (e : Break) : Skippable (w ++ e.text)

theorem Skippable.nil : Skippable [] := .blanks rfl

theorem Skippable.mem {w : Text} (h : Skippable w) {c : Char} (hc : c ∈ w) :
    c = ' ' ∨ c = '\t' ∨ c = '\r' ∨ c = '\n' := by
  have hblank : ∀ {w : Text}, blank w → c ∈ w → c = ' ' ∨ c = '\t' := by
    intro w hw hc
    simpa [isBlank] using blank_iff.1 hw c hc
  cases h with
  | blanks hw =>
    rcases hblank hw hc with rfl | rfl <;> simp
  | lineEnd hw e =>
    rcases List.mem_append.1 hc with hc | hc
    · rcases hblank hw hc with rfl | rfl <;> simp
    · rcases Break.eq_of_mem_when (e := e) (z := true) hc with rfl | rfl <;> simp

theorem Skippable.ne_angle {w : Text} (h : Skippable w) : '<' ∉ w := by
  intro hc
  rcases h.mem hc with h | h | h | h <;> cases h

/-- All that may be skipped takes one byte a character. -/
theorem Skippable.utf8Length_eq {w : Text} (h : Skippable w) : utf8Length w = w.length := by
  refine utf8Length_eq_length fun c hc => ?_
  rcases h.mem hc with rfl | rfl | rfl | rfl <;> rfl

theorem skippable_leadingBlanks (r : Text) : Skippable (leadingBlanks r) :=
  .blanks (blank_leadingBlanks r)

theorem lineEnd_of_not_breaksLine {r : Text} (h : breaksLine r = false) : lineEnd r = [] := by
  have hdrop : dropLineBreak? (r.dropWhile isBlank) = none := by simpa [breaksLine] using h
  rw [lineEnd, dropLineEnd, hdrop, Option.getD_none, Nat.sub_self, List.take_zero]

theorem exists_of_breaksLine {r : Text} (h : breaksLine r) :
    ∃ e : Break, lineEnd r = leadingBlanks r ++ e.text := by
  obtain ⟨x, hdrop⟩ := Option.isSome_iff_exists.1 h
  have hbreak : ∃ e : Break, r.dropWhile isBlank = e.text ++ x := by
    rcases dropLineBreak?_eq_some hdrop with hx | hx
    · exact ⟨.crlf, hx⟩
    · exact ⟨.lf, hx⟩
  obtain ⟨e, he⟩ := hbreak
  have hsplit : leadingBlanks r ++ r.dropWhile isBlank = r := List.takeWhile_append_dropWhile
  refine ⟨e, ?_⟩
  rw [he] at hsplit
  have hend := lineEnd_trail (blank_leadingBlanks r) e x
  rwa [hsplit] at hend

theorem skippable_lineEnd (r : Text) : Skippable (lineEnd r) := by
  cases hbreaks : breaksLine r with
  | false =>
    rw [lineEnd_of_not_breaksLine hbreaks]
    exact .nil
  | true =>
    obtain ⟨e, he⟩ := exists_of_breaksLine hbreaks
    rw [he]
    exact .lineEnd (blank_leadingBlanks r) e

/-- What holds no `<` ends before the first one. -/
theorem prefix_of_prefix_append {w t x : Text} (h : w <+: t ++ x) (hw : '<' ∉ w)
    (hx : x.head?.all (· == '<')) : w <+: t := by
  obtain ⟨y, hy⟩ := h
  rcases List.append_eq_append_iff.1 hy with ⟨u, rfl, -⟩ | ⟨u, rfl, rfl⟩
  · exact List.prefix_append w u
  · cases u with
    | nil => simp
    | cons c u =>
      obtain rfl : c = '<' := by simpa using hx
      simp at hw

end Text

/-- What is skipped behind a block that stands alone: an empty block takes its line end with it. -/
def Block.skipped (b : Block) (r : Rendered) : Text :=
  if r.text = [] ∧ b.breaksLine then Text.lineEnd b.rest else Text.leadingBlanks b.rest

theorem Block.skippable_skipped (b : Block) (r : Rendered) : Text.Skippable (b.skipped r) := by
  unfold skipped
  split
  · exact Text.skippable_lineEnd b.rest
  · exact Text.skippable_leadingBlanks b.rest

theorem Block.skipped_prefix (b : Block) (r : Rendered) : b.skipped r <+: b.rest := by
  unfold skipped
  split
  · exact ⟨_, Text.lineEnd_append_dropLineEnd b.rest⟩
  · exact List.takeWhile_prefix _

namespace Assembly

variable {a : Assembly} {b : Block} {render : Block → Outcome Rendered}

/-! ### One block -/

theorem addBlock_of_indent?_eq_none (h : b.indent? = none) (r : Rendered) :
    a.addBlock b r = ⟨a.out ++ r.text, 0⟩ := by
  unfold addBlock
  rw [h]

theorem skip_addBlock (h : b.indent?.isSome) (r : Rendered) :
    (a.addBlock b r).skip = (b.skipped r).length := by
  obtain ⟨indent, hindent⟩ := Option.isSome_iff_exists.1 h
  unfold addBlock Block.skipped
  rw [hindent]
  simp only [List.isEmpty_iff]
  by_cases htext : r.text = []
  · by_cases hbreaks : b.breaksLine = true <;> simp [htext, hbreaks]
  · by_cases hindented : r.indented = true <;> simp [htext, hindented]

/-- Something is skipped only behind a block that stands alone. -/
theorem indent?_of_skip {r : Rendered} (h : 0 < (a.addBlock b r).skip) : b.indent?.isSome := by
  by_contra hnone
  rw [addBlock_of_indent?_eq_none (by simpa using hnone)] at h
  exact absurd h (Nat.lt_irrefl 0)

theorem length_skipped {r : Rendered} (h : 0 < (a.addBlock b r).skip) :
    (b.skipped r).length = (a.addBlock b r).skip := (skip_addBlock (indent?_of_skip h) r).symm

/-- A block that stands alone takes its indentation off the page. An empty one goes on to the end of
the line before if no line break follows it. -/
theorem out_addBlock_of_indent {indent o : Text} (hindent : b.indent? = some indent)
    (hout : a.out = o ++ indent) (r : Rendered) :
    (a.addBlock b r).out =
      if r.text = [] then if b.breaksLine then o else dropLastBreak o
      else o ++ if r.indented then Text.indentLines indent r.text else r.text := by
  have hbefore : Text.before? indent a.out = some o := Text.before?_eq_some_iff.2 hout
  unfold addBlock
  rw [hindent]
  simp only [hbefore, Option.getD_some, List.isEmpty_iff]
  by_cases htext : r.text = []
  · by_cases hbreaks : b.breaksLine = true <;> simp [htext, hbreaks]
  · by_cases hindented : r.indented = true <;> simp [htext, hindented]

/-! ### What each step keeps -/

/-- As much of the literal as is to be skipped is there and may be skipped, and the literal can be
cut behind it. -/
structure Fits (a : Assembly) (t : Text) : Prop where
  skippable : Text.Skippable (t.take a.skip)
  length_eq : (t.take a.skip).length = a.skip
  slice_eq : t.slice? a.skip (Text.utf8Length t) = some (t.drop a.skip)

theorem fits_of_isPrefix {t w : Text} (hw : Text.Skippable w) (hpre : w <+: t)
    (hlength : w.length = a.skip) : a.Fits t := by
  obtain ⟨u, rfl⟩ := hpre
  have htake : (w ++ u).take a.skip = w := by rw [← hlength, List.take_left]
  have hdrop : (w ++ u).drop a.skip = u := by rw [← hlength, List.drop_left]
  have hbytes : Text.utf8Length w = a.skip := hw.utf8Length_eq.trans hlength
  refine ⟨by rw [htake]; exact hw, by rw [htake]; exact hlength, ?_⟩
  refine Text.slice?_eq_some_iff.2 ⟨w, [], ?_, hbytes, ?_⟩
  · rw [hdrop, List.append_nil]
  · rw [hdrop, Text.utf8Length_append, hbytes]

/-- A literal that stands behind a block starts with all that is skipped behind it. -/
theorem fits_addBlock {r : Rendered} (hskip : 0 < (a.addBlock b r).skip) {t x : Text}
    (hrest : b.rest = t ++ x) (hx : x.head?.all (· == '<')) :
    (a.addBlock b r).Fits t ∧ t.take (a.addBlock b r).skip = b.skipped r := by
  have hlength := length_skipped hskip
  have hpre : b.skipped r <+: t :=
    Text.prefix_of_prefix_append (hrest ▸ b.skipped_prefix r) (b.skippable_skipped r).ne_angle hx
  refine ⟨fits_of_isPrefix (b.skippable_skipped r) hpre hlength, ?_⟩
  rw [← hlength]
  exact (List.prefix_iff_eq_take.1 hpre).symm

/-- Where something is skipped behind a block, the text does not end there, and no comment starts
there. -/
theorem not_angle_of_skip {r : Rendered} (hskip : 0 < (a.addBlock b r).skip) :
    ¬ b.rest.head?.all (· == '<') := by
  intro hhead
  have hnil : b.skipped r = [] := List.prefix_nil.1 <| Text.prefix_of_prefix_append
    (b.skipped_prefix r) (b.skippable_skipped r).ne_angle hhead
  rw [← length_skipped hskip, hnil] at hskip
  exact absurd hskip (Nat.lt_irrefl 0)

/-- A page with the text `rest` to come; all of the text before it is `seen`, nearest character
first. Wherever the next block comes, its indentation is at the end of the page, and what is to be
skipped comes next. -/
structure Ready (seen rest : Text) (a : Assembly) : Prop where
  poised : Document.Poised seen [] rest a
  skipped : ∃ w, Text.Skippable w ∧ w <+: rest ∧ w.length = a.skip

namespace Ready

theorem start (rest : Text) : Ready [] rest {} where
  poised := Document.poised_start rest
  skipped := ⟨[], .nil, List.nil_prefix, rfl⟩

variable {seen t x : Text}

/-- The literal that comes next holds all that is to be skipped. -/
theorem fits (h : Ready seen (t ++ x) a) (hx : x.head?.all (· == '<')) : a.Fits t := by
  obtain ⟨w, hw, hpre, hlength⟩ := h.skipped
  exact fits_of_isPrefix hw (Text.prefix_of_prefix_append hpre hw.ne_angle hx) hlength

theorem literal (h : Ready seen (t ++ x) a) (hx : x.head?.all (· == '<')) :
    Ready (t.reverse ++ seen) x (a.addLiteral t) where
  poised := by
    have hle : a.skip ≤ t.length := by
      rw [← (h.fits hx).length_eq]
      exact List.length_take_le' _ _
    intro t' ht' hblank
    have hline := h.poised.text t' ht' hblank
    rw [addLiteral, List.nil_append, List.drop_append_of_le_length hle] at hline
    rw [addLiteral, addLiteral, List.nil_append, List.append_assoc]
    exact hline
  skipped := ⟨[], .nil, List.nil_prefix, rfl⟩

theorem block (a : Assembly) {b : Block} (hclosing : ∃ y, b.closing = y ++ ['>']) (seen : Text)
    (r : Rendered) : Ready (b.source.reverse ++ seen) b.rest (a.addBlock b r) where
  poised := by
    obtain ⟨y, hy⟩ := hclosing
    rw [Block.source, hy, ← List.append_assoc, List.reverse_append]
    exact Document.poised_block a b r _
  skipped := by
    cases hindent : b.indent? with
    | none =>
      rw [addBlock_of_indent?_eq_none hindent]
      exact ⟨[], .nil, List.nil_prefix, rfl⟩
    | some indent =>
      refine ⟨b.skipped r, b.skippable_skipped r, b.skipped_prefix r, ?_⟩
      rw [skip_addBlock (by rw [hindent]; rfl)]

/-- The indentation of a block that stands alone is at the end of the page. -/
theorem exists_of_indent? (h : Ready b.seen x a) {indent : Text}
    (hindent : b.indent? = some indent) : ∃ o, a.out = o ++ indent := by
  obtain ⟨rfl, hblank, -⟩ := Block.of_indent? hindent
  obtain ⟨o, ho⟩ := h.poised [] List.nil_prefix hblank
  exact ⟨o, by simpa [addLiteral, Document.lineSoFar, Block.lead] using ho.symm⟩

end Ready

theorem addAll_append (pre post : List Segment) (a : Assembly) :
    addAll render (pre ++ post) a = addAll render pre a >>= addAll render post := by
  induction pre generalizing a with
  | nil => rfl
  | cons s pre ih =>
    cases s with
    | literal t => exact ih _
    | block b =>
      rw [List.cons_append, addAll, addAll, bind_assoc]
      exact congrArg _ (funext fun r => ih _)

end Assembly

/-! ### What comes next in a text -/

/-- No fault comes behind a literal that is the last piece. -/
theorem Scan.error?_of_literal_last {ms : List Mark} {tail t : Text}
    (h : (ofMarks ms tail).segments.getLast? = some (.literal t)) :
    (ofMarks ms tail).error? = none := by
  fun_induction ofMarks ms tail with
  | case1 => rfl
  | case2 => simp [stopped] at h
  | case3 => simp [stopped] at h
  | case4 => simp [stopped] at h
  | case5 => simp [stopped] at h
  | case6 =>
    rename_i k later d hk n c hc block scan ih
    refine ih ?_
    -- The last piece comes behind the block.
    cases hlater : scan.segments with
    | nil =>
      unfold literal at h
      split at h <;> simp [hlater] at h
    | cons s later =>
      unfold literal at h
      split at h <;> simpa [hlater] using h

namespace Marker

variable {m : Marker} {line : Nat} {text : Text} {pre post : List Segment}

theorem seen_of_segments {b : Block} (hs : (m.scan line text).segments = pre ++ .block b :: post) :
    b.seen = (sources pre).reverse := by
  have hmarks : marksFrom m [] line text = ((marks m line text).1, (marks m line text).2) := rfl
  rw [scan_eq_ofMarks] at hs
  simpa using Scan.seen_of_segments hmarks hs

/-- A block stands behind the pieces before it. -/
theorem text_of_block {b : Block} (hs : (m.scan line text).segments = pre ++ .block b :: post) :
    sources pre ++ (b.source ++ b.rest) = text := by
  have hmem : .block b ∈ (m.scan line text).segments := by
    rw [hs]
    simp
  have htext := (block_in_text hmem).1
  rwa [seen_of_segments hs, List.reverse_reverse] at htext

/-- Behind a literal the text ends, or the sign of a comment comes. -/
theorem text_of_literal {t : Text} (hs : (m.scan line text).segments = pre ++ .literal t :: post) :
    ∃ x, sources pre ++ (t ++ x) = text ∧ x.head?.all (· == '<') := by
  obtain ⟨rest, htext⟩ := (sources_scan m line text).1
  rw [hs, Segment.sources_append, Segment.sources_cons, List.append_assoc, List.append_assoc]
    at htext
  refine ⟨sources post ++ rest, htext, ?_⟩
  have horderly := m.orderly_segments line text
  rw [hs] at horderly
  cases post with
  | nil =>
    have herror : (m.scan line text).error? = none := by
      rw [scan_eq_ofMarks] at hs ⊢
      exact Scan.error?_of_literal_last (by rw [hs, List.getLast?_concat])
    have hall := (sources_scan m line text).2 herror
    rw [hs, Segment.sources_append, Segment.sources_cons, ← htext] at hall
    have hrest : rest = [] := by simpa using hall
    rw [hrest]
    rfl
  | cons s post =>
    cases s with
    | literal t' => exact absurd ⟨pre, post, by simp⟩ (horderly.apart t t')
    | block b =>
      obtain ⟨x, hx⟩ := (horderly.ends b (by simp)).1
      simp [Segment.source, Block.source, hx]

/-- Behind a block comes the literal that follows it. -/
theorem rest_of_literal {b : Block} {t : Text}
    (hs : (m.scan line text).segments = pre ++ .block b :: .literal t :: post) :
    ∃ x, b.rest = t ++ x ∧ x.head?.all (· == '<') := by
  have hblock := text_of_block hs
  rw [List.append_cons] at hs
  obtain ⟨x, hx, hhead⟩ := text_of_literal hs
  refine ⟨x, ?_, hhead⟩
  rw [← hx] at hblock
  simpa [Segment.source] using hblock

/-- Behind a block comes the sign of a comment if another block follows it. -/
theorem rest_of_block {b b' : Block}
    (hs : (m.scan line text).segments = pre ++ .block b :: .block b' :: post) :
    b.rest.head?.all (· == '<') := by
  obtain ⟨y, hy⟩ := ((m.orderly_segments line text).ends b' (by rw [hs]; simp)).1
  have hblock := text_of_block hs
  rw [List.append_cons] at hs
  have hrest : b.rest = b'.source ++ b'.rest := by
    rw [← text_of_block hs] at hblock
    simpa [Segment.source] using hblock
  rw [hrest, Block.source, hy]
  rfl

variable {render : Block → Outcome Rendered} {a : Assembly}

/-- The page is ready for the pieces to come, whatever the blocks before were rendered to. -/
theorem ready_of_segments (hs : (m.scan line text).segments = pre ++ post)
    (ha : (Assembly.addAll render pre {}).result = .ok a) :
    ∃ rest, sources pre ++ rest = text ∧ a.Ready (sources pre).reverse rest := by
  induction pre using List.reverseRecOn generalizing post a with
  | nil =>
    cases ha
    exact ⟨text, rfl, .start text⟩
  | append_singleton pre s ih =>
    rw [List.append_assoc, List.singleton_append] at hs
    rw [Assembly.addAll_append] at ha
    obtain ⟨a', ha', hs'⟩ := Outcome.ok_of_bind ha
    obtain ⟨rest, htext, hready⟩ := ih hs ha'
    rw [Segment.sources_append, Segment.sources_cons, Segment.sources_nil, List.append_nil,
      List.reverse_append]
    simp only [List.append_assoc]
    cases s with
    | literal t =>
      cases hs'
      obtain ⟨x, hx, hhead⟩ := text_of_literal hs
      obtain rfl : rest = t ++ x := List.append_cancel_left (htext.trans hx.symm)
      exact ⟨x, hx, hready.literal hhead⟩
    | block b =>
      obtain ⟨r, -, hr⟩ := Outcome.ok_of_bind hs'
      cases hr
      have hclosing := (m.orderly_segments line text).ends b (by rw [hs]; simp)
      exact ⟨b.rest, text_of_block hs, .block a' hclosing.2 _ r⟩

/-- What is to be skipped was left by the block before. -/
theorem exists_of_skip (ha : (Assembly.addAll render pre {}).result = .ok a) (hskip : 0 < a.skip) :
    ∃ before b, ∃ (a' : Assembly) (r : Rendered), pre = before ++ [.block b] ∧
      a = a'.addBlock b r := by
  rcases List.eq_nil_or_concat pre with rfl | ⟨before, s, rfl⟩
  · cases ha
    exact absurd hskip (Nat.lt_irrefl 0)
  · rw [List.concat_eq_append, Assembly.addAll_append] at ha
    obtain ⟨a', -, hs⟩ := Outcome.ok_of_bind ha
    cases s with
    | literal t =>
      cases hs
      exact absurd hskip (Nat.lt_irrefl 0)
    | block b =>
      obtain ⟨r, -, hr⟩ := Outcome.ok_of_bind hs
      cases hr
      exact ⟨before, b, a', r, List.concat_eq_append, rfl⟩

/-- Nothing is cut away but what stands beside a block. Put the pieces of a text on a page as far as
the piece `s`, whatever the blocks before it were rendered to.

If `s` is a literal, as much of it as is to be skipped is blanks and at most a line break, and is
exactly what was to be skipped behind the block before, if it is anything at all.

If `s` is a block that stands alone, its indentation is at the end of the page, and no more is taken
off but the line break before an empty block that no line break follows. If something is to be
skipped behind it, then a literal comes next and starts with that, unless the scan stops with a
fault there. -/
theorem cuts_fit {s : Segment} (hs : (m.scan line text).segments = pre ++ s :: post)
    (ha : (Assembly.addAll render pre {}).result = .ok a) :
    match s with
    | .literal t =>
      a.Fits t ∧ (0 < a.skip → ∃ before b r, pre = before ++ [.block b] ∧ b.indent?.isSome ∧
        t.take a.skip = b.skipped r)
    | .block b =>
      (∀ indent, b.indent? = some indent → ∃ o, a.out = o ++ indent ∧ ∀ r,
        (a.addBlock b r).out =
          if r.text = [] then if b.breaksLine then o else Assembly.dropLastBreak o
          else o ++ if r.indented then Text.indentLines indent r.text else r.text) ∧
      ∀ r, 0 < (a.addBlock b r).skip →
        (∃ t later, post = .literal t :: later ∧ (a.addBlock b r).Fits t ∧
          t.take (a.addBlock b r).skip = b.skipped r) ∨
        (post = [] ∧ (m.scan line text).error? ≠ none) := by
  obtain ⟨rest, htext, hready⟩ := ready_of_segments hs ha
  cases s with
  | literal t =>
    obtain ⟨x, hx, hhead⟩ := text_of_literal hs
    obtain rfl : rest = t ++ x := List.append_cancel_left (htext.trans hx.symm)
    refine ⟨hready.fits hhead, fun hskip => ?_⟩
    obtain ⟨before, b, a', r, rfl, rfl⟩ := exists_of_skip ha hskip
    refine ⟨before, b, r, rfl, Assembly.indent?_of_skip hskip, ?_⟩
    rw [List.append_assoc, List.singleton_append] at hs
    obtain ⟨y, hy, hyhead⟩ := rest_of_literal hs
    exact (Assembly.fits_addBlock hskip hy hyhead).2
  | block b =>
    refine ⟨fun indent hindent => ?_, fun r hskip => ?_⟩
    · rw [← seen_of_segments hs] at hready
      obtain ⟨o, ho⟩ := hready.exists_of_indent? hindent
      exact ⟨o, ho, Assembly.out_addBlock_of_indent hindent ho⟩
    · have hnot := Assembly.not_angle_of_skip hskip
      cases post with
      | nil =>
        refine .inr ⟨rfl, fun herror => hnot ?_⟩
        rw [(place_of_segments herror hs).2]
        rfl
      | cons s later =>
        cases s with
        | literal t =>
          obtain ⟨x, hx, hhead⟩ := rest_of_literal hs
          exact .inl ⟨t, later, rfl, Assembly.fits_addBlock hskip hx hhead⟩
        | block b' => exact absurd (rest_of_block hs) hnot

/-- A block to be left out, which is alone on the first line. -/
def lastGoodBlock : Block where
  first := ⟨"remove".toList, [], [], "<!--build:remove-->".toList, "<!--endbuild-->".toList⟩
  stacked := []
  seen := []
  opening := "<!--build:remove-->".toList
  inner := ['x']
  closing := "<!--endbuild-->".toList
  rest := "\n<!--build:remove-->".toList
  line := 1

/-- The line break of a block is to be skipped, but the scan stops behind the block: the next one
has no end, and the line break is in no piece. -/
theorem fault_where_skipped :
    build.scan 1 "<!--build:remove-->x<!--endbuild-->\n<!--build:remove-->".toList =
        ⟨[.block lastGoodBlock], some (.unterminated 2 "remove".toList)⟩ ∧
      (Assembly.addBlock {} lastGoodBlock ⟨[], false⟩).skip = 1 := by
  decide +kernel

/-- A block to be left out, alone on its line. -/
def leftOutBlock : Block where
  first := ⟨"remove".toList, [], [], "<!--build:remove-->".toList, "<!--endbuild-->".toList⟩
  stacked := []
  seen := "\t\na".toList
  opening := "<!--build:remove-->".toList
  inner := ['x']
  closing := "<!--endbuild-->".toList
  rest := " \r\nb".toList
  line := 2

theorem cuts_fit_leftOut :
    (∃ o, "a\n\t".toList = o ++ ['\t'] ∧
        (Assembly.addBlock ⟨"a\n\t".toList, 0⟩ leftOutBlock ⟨[], false⟩).out = o) ∧
      " \r\nb".toList.take 3 = leftOutBlock.skipped ⟨[], false⟩ ∧
      (⟨['a', '\n'], 3⟩ : Assembly).Fits " \r\nb".toList := by
  let page := "a\n\t<!--build:remove-->x<!--endbuild--> \r\nb".toList
  let render : Block → Outcome Rendered := fun _ => pure ⟨[], false⟩
  have hscan : Marker.build.scan 1 page =
      ⟨[.literal "a\n\t".toList, .block leftOutBlock, .literal " \r\nb".toList], none⟩ := by
    decide +kernel
  have hblock : (Marker.build.scan 1 page).segments =
      [.literal "a\n\t".toList] ++ .block leftOutBlock :: [.literal " \r\nb".toList] := by
    rw [hscan]
    rfl
  have hliteral : (Marker.build.scan 1 page).segments =
      [.literal "a\n\t".toList, .block leftOutBlock] ++ .literal " \r\nb".toList :: [] := by
    rw [hscan]
    rfl
  have hbefore : (Assembly.addAll render [.literal "a\n\t".toList] {}).result =
      .ok ⟨"a\n\t".toList, 0⟩ := rfl
  have hbehind : (Assembly.addAll render [.literal "a\n\t".toList, .block leftOutBlock] {}).result =
      .ok ⟨['a', '\n'], 3⟩ := rfl
  obtain ⟨hindent, hskip⟩ := cuts_fit hblock hbefore
  refine ⟨?_, ?_, (cuts_fit hliteral hbehind).1⟩
  · obtain ⟨o, ho, hout⟩ := hindent ['\t'] rfl
    exact ⟨o, ho, hout ⟨[], false⟩⟩
  · rcases hskip ⟨[], false⟩ (by decide) with ⟨t, later, hpost, -, htake⟩ | ⟨hpost, -⟩
    · cases hpost
      exact htake
    · cases hpost

end Marker

end PageBlocks
