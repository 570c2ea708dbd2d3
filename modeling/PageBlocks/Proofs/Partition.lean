import Mathlib.Data.List.Forall2
import PageBlocks.Proofs.Offset
import PageBlocks.Proofs.Scanner

/-!
# A scan takes a text apart

The pieces of a scan are the text: put together in order they give it back, or the part of it before
a fault. `Scan.Partitions` says so in terms of places, reading every block off the text from where
it starts to where it ends.

    text     literal   block             literal  block    …
                       ├ opening  inner  closing ┤
                       openStart             closeEnd

A piece is found with all that stands before it, so each piece must be shown to start where the one
before it ended (`Scan.seen_of_segments`).
-/

namespace PageBlocks

/-! ### Marks in their places -/

section

variable {m : Marker} {seen : Text} {line : Nat} {text tail : Text}

/-- Nothing is lost when marks are listed. -/
theorem source_marksFrom (m : Marker) (seen : Text) (line : Nat) (text : Text) :
    Mark.source (marksFrom m seen line text).1 ++ (marksFrom m seen line text).2 = text := by
  rw [Marker.marksFrom_eq_place, Marker.source_place, Marker.source_cut]

/-- The text behind a mark is that of the marks behind. -/
theorem rest_of_marksFrom (before : List Mark) {k : Mark} {behind : List Mark}
    (h : marksFrom m seen line text = (before ++ k :: behind, tail)) :
    k.rest = Mark.source behind ++ tail := by
  have hbehind := source_marksFrom m (k.comment.reverse ++ k.seen)
    (k.line + Text.lineFeeds k.comment) k.rest
  rw [marksFrom_behind before h] at hbehind
  exact hbehind.symm

/-- The line of a mark is told by the line feeds before it. -/
theorem line_of_mem_marksFrom {k : Mark} (h : k ∈ (marksFrom m seen line text).1) :
    k.line + Text.lineFeeds seen = line + Text.lineFeeds k.seen := by
  fun_induction marksFrom m seen line text with
  | case1 => cases h
  | case2 seen line text f hf before here later tail hlater ih =>
    have hbefore : Text.lineFeeds before = Text.lineFeeds f.gap + Text.lineFeeds seen := by
      simp only [before, List.reverseAux_eq, Text.lineFeeds_append, Text.lineFeeds_reverse]
    rcases List.mem_cons.1 h with rfl | h
    · show line + Text.lineFeeds f.gap + Text.lineFeeds seen = line + Text.lineFeeds before
      omega
    · rw [hlater] at ih
      have hline := ih h
      rw [List.reverseAux_eq, Text.lineFeeds_append, Text.lineFeeds_reverse, hbefore] at hline
      simp only [here] at hline
      omega

/-- The first mark stands behind its gap. -/
theorem gap_of_marksFrom {k : Mark} {later : List Mark}
    (h : marksFrom m seen line text = (k :: later, tail)) :
    k.seen = k.gap.reverse ++ seen ∧ text = k.gap ++ (k.comment ++ k.rest) := by
  rw [marksFrom] at h
  split at h
  · cases h
  · rename_i f hf
    obtain ⟨rfl, -⟩ := List.cons.inj (Prod.mk.inj h).1
    refine ⟨List.reverseAux_eq, ?_⟩
    simpa using (Marker.eq_of_find? hf).1

end

/-! ### Pieces in their places -/

namespace Segment

/-- The text that pieces in a row make up. -/
def sources (ss : List Segment) : Text := ss.flatMap source

@[simp] theorem sources_nil : sources [] = [] := rfl

@[simp] theorem sources_cons (s : Segment) (ss : List Segment) :
    sources (s :: ss) = s.source ++ sources ss := rfl

@[simp] theorem sources_append (ss ts : List Segment) :
    sources (ss ++ ts) = sources ss ++ sources ts := List.flatMap_append

end Segment

open Segment (sources)

namespace Scan

theorem sources_literal (t : Text) (later : List Segment) :
    sources (literal t later) = t ++ sources later := by
  unfold literal
  split
  · rename_i h
    rw [List.isEmpty_iff.1 h, List.nil_append]
  · rfl

/-- A literal in front belongs to what stands before a block. -/
theorem exists_of_literal_eq {t : Text} {later pre post : List Segment} {b : Block}
    (h : literal t later = pre ++ .block b :: post) :
    ∃ pre', sources pre = t ++ sources pre' ∧ later = pre' ++ .block b :: post := by
  unfold literal at h
  split at h
  · rename_i hempty
    exact ⟨pre, by rw [List.isEmpty_iff.1 hempty, List.nil_append], h⟩
  · cases pre with
    | nil => cases (List.cons.inj h).1
    | cons s pre' =>
      obtain ⟨rfl, hlater⟩ := List.cons.inj h
      exact ⟨pre', rfl, hlater⟩

variable {m : Marker} {seen : Text} {line : Nat} {text tail : Text} {ms : List Mark}

/-- The text of a block that is put together from marks in a row. -/
theorem source_ofMarks (k c : Mark) (d : Directive) (stack inside : List Mark) :
    (Block.ofMarks k d stack inside c).source =
      k.comment ++ Mark.source (stack ++ (inside ++ [c])) := by
  simp [Block.source, Block.ofMarks, Mark.source]

/-- A block that starts at the first mark: it stands behind the mark's gap, and the text goes on
behind its closing mark. -/
theorem marksFrom_of_block {k c : Mark} (d : Directive) {stack inside behind : List Mark}
    (h : marksFrom m seen line text = (k :: (stack ++ (inside ++ c :: behind)), tail)) :
    text = k.gap ++ ((Block.ofMarks k d stack inside c).source ++ c.rest) ∧
      marksFrom m (c.comment.reverse ++ c.seen) (c.line + Text.lineFeeds c.comment) c.rest =
        (behind, tail) ∧
      c.comment.reverse ++ c.seen =
        (Block.ofMarks k d stack inside c).source.reverse ++ (k.gap.reverse ++ seen) := by
  have hmarks : marksFrom m seen line text = ((k :: (stack ++ inside)) ++ c :: behind, tail) := by
    simpa using h
  have htext : text = k.gap ++ ((Block.ofMarks k d stack inside c).source ++ c.rest) := by
    have hfirst : k.rest = Mark.source (stack ++ (inside ++ c :: behind)) ++ tail :=
      rest_of_marksFrom [] h
    rw [(gap_of_marksFrom h).2, hfirst, source_ofMarks, rest_of_marksFrom _ hmarks]
    simp [Mark.source]
  refine ⟨htext, marksFrom_behind _ hmarks, ?_⟩
  have hmem : c ∈ (marksFrom m seen line text).1 := by
    rw [hmarks]
    simp
  have hclosing := (seen_of_mem_marksFrom hmem).2.2
  rw [htext, ← List.append_assoc, ← List.append_assoc k.gap, ← List.append_assoc seen.reverse]
    at hclosing
  simpa using congrArg List.reverse (List.append_cancel_right hclosing)

theorem eq_of_closed {later : List Mark} {n : Nat} {c : Mark.Closed}
    (hc : Mark.toClosing 0 (later.drop n) = .ok c) :
    later = later.take n ++ (c.inside ++ c.closing :: c.behind) := by
  rw [← Mark.eq_of_toClosing hc, List.take_append_drop]

/-- The pieces of a scan are the text up to where it stops. -/
theorem sources_ofMarks (h : marksFrom m seen line text = (ms, tail)) :
    ∃ rest, sources (ofMarks ms tail).segments ++ rest = text ∧
      ((ofMarks ms tail).error? = none → rest = []) := by
  fun_induction ofMarks ms tail generalizing seen line text with
  | case1 =>
    have htext := source_marksFrom m seen line text
    rw [h] at htext
    exact ⟨[], by simpa [sources_literal, Mark.source] using htext, fun _ => rfl⟩
  | case2 => exact ⟨text, rfl, fun hnone => by cases hnone⟩
  | case3 => exact ⟨text, rfl, fun hnone => by cases hnone⟩
  | case4 => exact ⟨text, rfl, fun hnone => by cases hnone⟩
  | case5 => exact ⟨text, rfl, fun hnone => by cases hnone⟩
  | case6 =>
    rename_i k later d hk n c hc block scan ih
    rw [eq_of_closed hc] at h
    obtain ⟨htext, hbehind, -⟩ := marksFrom_of_block d h
    obtain ⟨rest, hsources, herror⟩ := ih hbehind
    refine ⟨rest, ?_, herror⟩
    rw [sources_literal, Segment.sources_cons, List.append_assoc, List.append_assoc, hsources]
    exact htext.symm

/-- Every block starts where the pieces before it end. -/
theorem seen_of_segments (h : marksFrom m seen line text = (ms, tail)) {pre post : List Segment}
    {b : Block} (hs : (ofMarks ms tail).segments = pre ++ .block b :: post) :
    b.seen = (sources pre).reverse ++ seen := by
  fun_induction ofMarks ms tail generalizing seen line text pre with
  | case1 =>
    obtain ⟨pre', -, hnil⟩ := exists_of_literal_eq hs
    simp at hnil
  | case2 => simp [stopped] at hs
  | case3 => simp [stopped] at hs
  | case4 => simp [stopped] at hs
  | case5 => simp [stopped] at hs
  | case6 =>
    rename_i k later d hk n c hc block scan ih
    rw [eq_of_closed hc] at h
    obtain ⟨-, hbehind, hend⟩ := marksFrom_of_block d h
    obtain ⟨pre', hpre, hblock⟩ := exists_of_literal_eq hs
    cases pre' with
    | nil =>
      obtain rfl : block = b := by simpa using (List.cons.inj hblock).1
      rw [hpre, Segment.sources_nil, List.append_nil]
      exact (gap_of_marksFrom h).1
    | cons s pre' =>
      obtain ⟨rfl, hrest⟩ := List.cons.inj hblock
      rw [ih hbehind hrest, hend, hpre, Segment.sources_cons]
      simp [Segment.source, block]

/-- What stands before a block, the block, and what stands behind it are the text. -/
theorem text_of_holds (h : marksFrom m seen line text = (ms, tail)) {b : Block}
    (hb : Holds ms b) :
    b.seen.reverse ++ (b.source ++ b.rest) = seen.reverse ++ text ∧
      b.line + Text.lineFeeds seen = line + Text.lineFeeds b.seen := by
  cases hb with
  | @intro before stack inside behind k c d marks_eq opens joined balanced closes =>
    have hmem : k ∈ (marksFrom m seen line text).1 := by
      rw [h, marks_eq]
      simp
    refine ⟨?_, line_of_mem_marksFrom hmem⟩
    rw [marks_eq] at h
    have hrest : k.rest = Mark.source (stack ++ (inside ++ c :: behind)) ++ tail :=
      rest_of_marksFrom before h
    have hbehind : c.rest = Mark.source behind ++ tail :=
      rest_of_marksFrom (before ++ k :: (stack ++ inside)) (by rw [h]; simp)
    have hall := (seen_of_mem_marksFrom hmem).2.2
    rw [hrest] at hall
    rw [← hall, source_ofMarks]
    simp [Block.ofMarks, hbehind, Mark.source]

end Scan

namespace Marker

variable {m : Marker} {line : Nat} {text : Text}

theorem block_in_text {b : Block} (h : .block b ∈ (m.scan line text).segments) :
    b.seen.reverse ++ (b.source ++ b.rest) = text ∧ b.line = line + Text.lineFeeds b.seen := by
  rw [scan_eq_ofMarks] at h
  simpa using Scan.text_of_holds rfl (Scan.holds_of_mem h)

/-- A block starts and ends with the signs of a comment. -/
theorem ends_of_mem_segments {b : Block} (h : .block b ∈ (m.scan line text).segments) :
    (∃ x, b.opening = '<' :: x) ∧ ∃ y, b.closing = y ++ ['>'] := by
  rw [scan_eq_ofMarks] at h
  obtain ⟨hmarks, -, -, -, -⟩ := Scan.holds_of_mem h
  rename_i before stack inside behind k c d
  have hk : k ∈ (marks m line text).1 := by rw [hmarks]; simp
  have hc : c ∈ (marks m line text).1 := by rw [hmarks]; simp
  obtain ⟨x, hx⟩ := (comment_of_mem_marks hk).eq_cons
  obtain ⟨y, hy⟩ := (comment_of_mem_marks hc).eq_concat
  exact ⟨⟨x ++ Mark.source stack, by simp [Block.ofMarks, hx]⟩, y, hy⟩

/-- The pieces of a scan are the text, or the part of it before the fault. -/
theorem sources_scan (m : Marker) (line : Nat) (text : Text) :
    sources (m.scan line text).segments <+: text ∧
      ((m.scan line text).error? = none → sources (m.scan line text).segments = text) := by
  have hmarks : marksFrom m [] line text = ((marks m line text).1, (marks m line text).2) := rfl
  obtain ⟨rest, htext, hnone⟩ := Scan.sources_ofMarks hmarks
  rw [← scan_eq_ofMarks] at htext hnone
  refine ⟨⟨rest, htext⟩, fun herror => ?_⟩
  rw [hnone herror, List.append_nil] at htext
  exact htext

/-- Each block stands behind the pieces before it and in front of those behind it. -/
theorem place_of_segments (herror : (m.scan line text).error? = none) {pre post : List Segment}
    {b : Block} (hs : (m.scan line text).segments = pre ++ .block b :: post) :
    b.seen = (sources pre).reverse ∧ b.rest = sources post := by
  have hmarks : marksFrom m [] line text = ((marks m line text).1, (marks m line text).2) := rfl
  have hseen : b.seen = (sources pre).reverse := by
    rw [scan_eq_ofMarks] at hs
    simpa using Scan.seen_of_segments hmarks hs
  refine ⟨hseen, ?_⟩
  have hmem : .block b ∈ (m.scan line text).segments := by
    rw [hs]
    simp
  have htext := (block_in_text hmem).1
  rw [← (sources_scan m line text).2 herror, hs, hseen, List.reverse_reverse,
    Segment.sources_append, Segment.sources_cons] at htext
  exact List.append_cancel_left (List.append_cancel_left htext)

/-- A literal is a gap between comments, or the text behind the last one. -/
theorem quiet_of_literal {ms : List Mark} {tail t : Text}
    (hgaps : ∀ k ∈ ms, m.find? k.gap = none) (htail : m.find? tail = none)
    (h : .literal t ∈ (Scan.ofMarks ms tail).segments) : t ≠ [] ∧ m.find? t = none := by
  have hliteral : ∀ {t' : Text} {later : List Segment}, m.find? t' = none →
      (.literal t ∈ later → t ≠ [] ∧ m.find? t = none) → .literal t ∈ Scan.literal t' later →
        t ≠ [] ∧ m.find? t = none := by
    intro t' later hquiet hlater hmem
    unfold Scan.literal at hmem
    split at hmem
    · exact hlater hmem
    · rename_i hne
      rcases List.mem_cons.1 hmem with heq | hmem
      · obtain rfl : t = t' := by simpa using heq
        exact ⟨by simpa using hne, hquiet⟩
      · exact hlater hmem
  fun_induction Scan.ofMarks ms tail with
  | case1 => exact hliteral htail (fun hnil => by cases hnil) h
  | case2 => cases h
  | case3 => cases h
  | case4 => cases h
  | case5 => cases h
  | case6 =>
    rename_i k later d hk n c hc block scan ih
    refine hliteral (hgaps k List.mem_cons_self) (fun hmem => ?_) h
    rcases List.mem_cons.1 hmem with heq | hmem
    · cases heq
    · refine ih (fun x hx => hgaps x (List.mem_cons_of_mem _ ?_)) hmem
      rw [Scan.eq_of_closed hc]
      simp [hx]

theorem quiet_of_mem_segments {t : Text} (h : .literal t ∈ (m.scan line text).segments) :
    t ≠ [] ∧ m.find? t = none := by
  rw [scan_eq_ofMarks] at h
  refine quiet_of_literal (fun k hk => ?_) ?_ h
  · rw [marks, marksFrom_eq_place] at hk
    refine quiet_of_mem_cut (t := text) (c := k.cut) ?_
    rw [← cuts_place (m := m) [] line (m.cut text).2 (m.cut text).1]
    exact List.mem_map_of_mem hk
  · rw [marks, marksFrom_eq_place]
    exact quiet_tail_cut text

end Marker

/-- Behind a literal comes a block. -/
theorem Scan.not_literal_literal {ms : List Mark} {tail t t' : Text} :
    ¬ [.literal t, .literal t'] <:+: (ofMarks ms tail).segments := by
  -- A literal is put in front of nothing or of a block.
  have hliteral : ∀ {u : Text} {later : List Segment}, later.head?.all (· matches .block _) →
      ¬ [.literal t, .literal t'] <:+: later →
        ¬ [.literal t, .literal t'] <:+: literal u later := by
    intro u later hhead hlater h
    unfold literal at h
    split at h
    · exact hlater h
    · rcases List.infix_cons_iff.1 h with hpre | h
      · obtain ⟨-, x, rfl⟩ := List.cons_prefix_cons.1 hpre
        simp at hhead
      · exact hlater h
  fun_induction ofMarks ms tail with
  | case1 => exact hliteral rfl (by simp)
  | case2 => simp [stopped]
  | case3 => simp [stopped]
  | case4 => simp [stopped]
  | case5 => simp [stopped]
  | case6 =>
    rename_i k later d hk n c hc block scan ih
    refine hliteral rfl fun h => ?_
    rcases List.infix_cons_iff.1 h with hpre | h
    · cases (List.cons_prefix_cons.1 hpre).1
    · exact ih h

/-! ### The pieces by their places -/

/-- The block as a part of `text`. -/
structure Block.Fits (text : Text) (b : Block) : Prop where
  open_lt : b.span.openStart < b.span.openEnd
  openEnd_eq : b.span.openEnd = b.span.innerStart
  inner_le : b.span.innerStart ≤ b.span.innerEnd
  innerEnd_eq : b.span.innerEnd = b.span.closeStart
  close_lt : b.span.closeStart < b.span.closeEnd
  close_le : b.span.closeEnd ≤ Text.utf8Length text
  /-- No part of the block starts or ends within a character. -/
  places : ∀ n ∈ [b.span.openStart, b.span.openEnd, b.span.innerStart, b.span.innerEnd,
    b.span.closeStart, b.span.closeEnd], text.isPlace n
  opening_eq : text.slice? b.span.openStart b.span.openEnd = some b.opening
  inner_eq : text.slice? b.span.innerStart b.span.innerEnd = some b.inner
  closing_eq : text.slice? b.span.closeStart b.span.closeEnd = some b.closing
  directives_ne : b.directives ≠ []
  /-- All directives in front of the block have one type, and the block's end is the end of each. -/
  alike : ∀ d ∈ b.directives, d.type = b.first.type ∧
    text.slice? b.span.closeStart b.span.closeEnd = some d.closing

/-- A piece as it is read off a text: a block from the place where it starts to the place where it
ends. -/
def Segment.readFrom? (text : Text) : Segment → Option Text
  | .literal t => some t
  | .block b => text.slice? b.span.openStart b.span.closeEnd

/-- A scan that takes `text` apart, as far as it got. -/
structure Scan.Partitions (m : Marker) (text : Text) (s : Scan) : Prop where
  /-- The pieces give the text back, or what stands before a fault. -/
  pieces : ∃ pieces, s.segments.Forall₂ (fun s piece => s.readFrom? text = some piece) pieces ∧
    pieces.flatten <+: text ∧ (s.error? = none → pieces.flatten = text)
  literals : ∀ t, .literal t ∈ s.segments → t ≠ [] ∧ m.find? t = none
  apart : ∀ t t', ¬ [.literal t, .literal t'] <:+: s.segments
  blocks : ∀ b, .block b ∈ s.segments → b.Fits text

/-- A block that stands in a text has places there. -/
theorem Block.fits_of_eq {text : Text} {b : Block}
    (htext : b.seen.reverse ++ (b.source ++ b.rest) = text) (hopening : b.opening ≠ [])
    (hclosing : b.closing ≠ [])
    (halike : ∀ d ∈ b.directives, d.type = b.first.type ∧ d.closing = b.closing) :
    b.Fits text := by
  have hparts : text =
      b.seen.reverse ++ (b.opening ++ (b.inner ++ (b.closing ++ b.rest))) := by
    rw [← htext, source]
    simp
  have hopenEnd : text.slice? b.span.openStart b.span.openEnd = some b.opening :=
    Text.slice?_eq_some_iff.2 ⟨b.seen.reverse, _, hparts, by simp [span], rfl⟩
  have hinner : text.slice? b.span.innerStart b.span.innerEnd = some b.inner :=
    Text.slice?_eq_some_iff.2 ⟨b.seen.reverse ++ b.opening, _, by rw [hparts, List.append_assoc],
      by simp [span], rfl⟩
  have hclose : text.slice? b.span.closeStart b.span.closeEnd = some b.closing :=
    Text.slice?_eq_some_iff.2 ⟨b.seen.reverse ++ (b.opening ++ b.inner), b.rest,
      by rw [hparts]; simp, by simp [span, Nat.add_assoc], rfl⟩
  have hplace : ∀ {first last : Nat} {s : Text}, text.slice? first last = some s →
      text.isPlace first ∧ text.isPlace last := by
    intro first last s h
    obtain ⟨front, back, rfl, rfl, rfl⟩ := Text.slice?_eq_some_iff.1 h
    exact ⟨Text.isPlace_iff.2 ⟨front, List.prefix_append _ _, rfl⟩,
      Text.isPlace_iff.2 ⟨front ++ s, ⟨back, by simp⟩, by simp⟩⟩
  have hopen := Text.utf8Length_pos hopening
  have hend := Text.utf8Length_pos hclosing
  exact {
    open_lt := Nat.lt_add_of_pos_right hopen
    openEnd_eq := rfl
    inner_le := Nat.le_add_right _ _
    innerEnd_eq := rfl
    close_lt := Nat.lt_add_of_pos_right hend
    close_le := by
      rw [hparts]
      simp only [span, Text.utf8Length_append, Text.utf8Length_reverse]
      omega
    places := by
      intro n hn
      simp only [List.mem_cons, List.not_mem_nil, or_false] at hn
      rcases hn with rfl | rfl | rfl | rfl | rfl | rfl
      · exact (hplace hopenEnd).1
      · exact (hplace hopenEnd).2
      · exact (hplace hinner).1
      · exact (hplace hinner).2
      · exact (hplace hclose).1
      · exact (hplace hclose).2
    opening_eq := hopenEnd
    inner_eq := hinner
    closing_eq := hclose
    directives_ne := List.cons_ne_nil _ _
    alike := fun d hd => ⟨(halike d hd).1, by rw [(halike d hd).2]; exact hclose⟩ }

namespace Marker

variable {m : Marker} {line : Nat} {text : Text}

/-- The directives of a block are of one type, and they end where the block does. -/
theorem directives_alike {b : Block} (h : .block b ∈ (m.scan line text).segments) :
    ∀ d ∈ b.directives, d.type = b.first.type ∧ d.closing = b.closing := by
  rw [scan_eq_ofMarks] at h
  obtain ⟨-, -, hjoined, -, -⟩ := Scan.holds_of_mem h
  intro d hd
  rcases List.mem_cons.1 hd with rfl | hd
  · exact ⟨rfl, rfl⟩
  · obtain ⟨d', hd', rfl⟩ := List.mem_map.1 hd
    obtain ⟨s, hs, hsd⟩ := List.mem_filterMap.1 hd'
    obtain ⟨d'', hopens, htype⟩ := Mark.opens_of_joins (hjoined s hs)
    rw [Mark.directive?, hopens] at hsd
    obtain rfl := Option.some.inj hsd
    exact ⟨htype, rfl⟩

theorem fits_of_mem_segments {b : Block} (h : .block b ∈ (m.scan line text).segments) :
    b.Fits text := by
  obtain ⟨⟨x, hx⟩, y, hy⟩ := ends_of_mem_segments h
  have hends : b.opening ≠ [] ∧ b.closing ≠ [] := by simp [hx, hy]
  exact Block.fits_of_eq (block_in_text h).1 hends.1 hends.2 (directives_alike h)

/-- A piece is read off the text as what it is. -/
theorem readFrom?_of_mem_segments {s : Segment} (h : s ∈ (m.scan line text).segments) :
    s.readFrom? text = some s.source := by
  cases s with
  | literal t => rfl
  | block b =>
    refine Text.slice?_eq_some_iff.2 ⟨b.seen.reverse, b.rest, (block_in_text h).1.symm, ?_, ?_⟩
    · simp [Block.span]
    · simp [Block.span, Segment.source, Block.source, Nat.add_assoc]

end Marker

/-- A fault is the last of the items of a scan. -/
theorem Scan.eq_of_items {s : Scan} {before behind : List (Except ScanError Segment)}
    {e : ScanError} (h : s.items = before ++ .error e :: behind) :
    before = s.segments.map .ok ∧ behind = [] := by
  obtain ⟨segments, error?⟩ := s
  induction segments generalizing before with
  | nil =>
    cases error? with
    | none => simp [items] at h
    | some e' =>
      cases before with
      | nil => exact ⟨rfl, (List.cons.inj h).2.symm⟩
      | cons x before => simp [items] at h
  | cons x segments ih =>
    cases before with
    | nil => cases (List.cons.inj h).1
    | cons y before =>
      obtain ⟨rfl, hlater⟩ := List.cons.inj h
      obtain ⟨rfl, hbehind⟩ := ih hlater
      exact ⟨rfl, hbehind⟩

/-- A scan takes its text apart without loss, into literals and blocks that are in order. The calls
of a scanner hand these pieces out; a fault comes last if there is one, and there are no two. -/
theorem Marker.scan_partitions (m : Marker) (line : Nat) (text : Text) :
    (m.scan line text).Partitions m text ∧
      (m.drain (text.length + 1) (.start line text)).1 = (m.scan line text).items ∧
      ∀ calls before e behind,
        (m.drain calls (.start line text)).1 = before ++ .error e :: behind →
          before = (m.scan line text).segments.map .ok ∧ behind = [] := by
  refine ⟨⟨?_, fun t ht => quiet_of_mem_segments ht, fun t t' => ?_, fun b hb =>
    fits_of_mem_segments hb⟩, (Scanner.drain_start m line text).1, ?_⟩
  · refine ⟨(m.scan line text).segments.map Segment.source, ?_, (sources_scan m line text).1,
      (sources_scan m line text).2⟩
    rw [List.forall₂_map_right_iff, List.forall₂_same]
    exact fun s hs => readFrom?_of_mem_segments hs
  · rw [scan_eq_ofMarks]
    exact Scan.not_literal_literal
  · intro calls before e behind hcalls
    have hall := Scanner.remaining_drain m calls (.start line text)
    rw [hcalls, List.append_assoc, List.cons_append] at hall
    obtain ⟨hbefore, hbehind⟩ := Scan.eq_of_items (s := m.scan line text) hall
    exact ⟨hbefore, (List.append_eq_nil_iff.1 hbehind).1⟩

end PageBlocks
