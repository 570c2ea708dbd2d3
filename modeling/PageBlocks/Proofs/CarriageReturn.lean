import Mathlib.Data.List.Induction
import PageBlocks.Proofs.Layout
import PageBlocks.Proofs.Partition

/-!
# Texts with carriage returns

`Text.crlf` writes every line break of a text with a carriage return. Whatever is cut off at a line
end is cut off in the same way then, provided that there was no carriage return before:

    t       …a ⏎ b…          dropLineEnd, ownLines, lines, …          f t
    │ crlf                                                             │ crlf
    crlf t  …a ↵⏎ b…                                              f (crlf t)

Comments hold no line breaks, so the comments of a text stay what they are, and with them its blocks
(`Marker.scan_crlf`). All that changes is the text around them.
-/

namespace PageBlocks

namespace Text

/-- Puts a carriage return before every line feed. -/
def crlf (t : Text) : Text := t.flatMap fun c => if c = '\n' then ['\r', '\n'] else [c]

@[simp] theorem crlf_nil : crlf [] = [] := rfl

@[simp] theorem crlf_append (s t : Text) : crlf (s ++ t) = crlf s ++ crlf t := List.flatMap_append

@[simp] theorem crlf_break (t : Text) : crlf ('\n' :: t) = '\r' :: '\n' :: crlf t := rfl

theorem crlf_cons {c : Char} (hc : c ≠ '\n') (t : Text) : crlf (c :: t) = c :: crlf t := by
  simp [crlf, hc]

theorem crlf_of_not_mem {t : Text} (h : '\n' ∉ t) : crlf t = t := by
  induction t with
  | nil => rfl
  | cons c t ih =>
    rw [List.mem_cons, not_or] at h
    rw [crlf_cons (Ne.symm h.1), ih h.2]

@[simp] theorem isEmpty_crlf (t : Text) : (crlf t).isEmpty = t.isEmpty := by
  cases t with
  | nil => rfl
  | cons c t => by_cases hc : c = '\n' <;> simp [crlf, hc]

@[simp] theorem lineFeeds_crlf (t : Text) : lineFeeds (crlf t) = lineFeeds t := by
  induction t with
  | nil => rfl
  | cons c t ih =>
    unfold lineFeeds at ih ⊢
    by_cases hc : c = '\n'
    · subst hc
      simp [ih]
    · rw [crlf_cons hc, List.count_cons, List.count_cons, ih]

/-- A class of characters that holds the carriage return along with the line feed. -/
theorem all_crlf {q : Char → Bool} (hq : q '\n' → q '\r') (t : Text) :
    (crlf t).all q = t.all q := by
  induction t with
  | nil => rfl
  | cons c t ih =>
    by_cases hc : c = '\n'
    · subst hc
      rw [crlf_break, List.all_cons, List.all_cons, List.all_cons, ih]
      cases hfeed : q '\n' with
      | false => simp
      | true => simp [hq hfeed]
    · rw [crlf_cons hc, List.all_cons, List.all_cons, ih]

@[simp] theorem spaces_crlf (t : Text) : spaces (crlf t) = spaces t := all_crlf (fun _ => rfl) t

/-- What starts a text with carriage returns and holds no line break starts the text without them,
too. -/
theorem exists_of_crlf_append {t c r : Text} (hc : ∀ x ∈ c, x ≠ '\r' ∧ x ≠ '\n')
    (h : crlf t = c ++ r) : ∃ r', t = c ++ r' ∧ r = crlf r' := by
  induction c generalizing t with
  | nil => exact ⟨t, rfl, h.symm⟩
  | cons x c ih =>
    cases t with
    | nil => cases h
    | cons y t =>
      by_cases hy : y = '\n'
      · subst hy
        rw [crlf_break] at h
        exact absurd (List.cons.inj h).1.symm (hc x List.mem_cons_self).1
      · rw [crlf_cons hy] at h
        obtain ⟨rfl, hlater⟩ := List.cons.inj h
        obtain ⟨r', rfl, hr⟩ := ih (fun z hz => hc z (List.mem_cons_of_mem _ hz)) hlater
        exact ⟨r', rfl, hr⟩

/-- What ends a text with carriage returns and holds no line break ends the text without them,
too. -/
theorem exists_of_crlf_concat {t r s : Text} (hs : ∀ x ∈ s, x ≠ '\r' ∧ x ≠ '\n')
    (h : crlf t = r ++ s) : ∃ r', t = r' ++ s ∧ r = crlf r' := by
  induction s using List.reverseRecOn generalizing t with
  | nil => exact ⟨t, by simp, by simpa using h.symm⟩
  | append_singleton s x ih =>
    have hx : x ≠ '\n' := (hs x (by simp)).2
    rcases List.eq_nil_or_concat t with rfl | ⟨t, y, rfl⟩
    · simp at h
    · rw [List.concat_eq_append] at h ⊢
      rw [crlf_append, ← List.append_assoc] at h
      by_cases hy : y = '\n'
      · subst hy
        have hlast := congrArg List.getLast? h
        rw [show crlf ['\n'] = ['\r'] ++ ['\n'] from rfl, ← List.append_assoc, List.getLast?_concat,
          List.getLast?_concat] at hlast
        exact absurd (Option.some.inj hlast).symm hx
      · rw [crlf_cons hy, crlf_nil] at h
        obtain ⟨hfront, hlast⟩ := List.append_inj' h rfl
        obtain ⟨r', rfl, hr⟩ := ih (fun z hz => hs z (by simp [hz])) hfront
        refine ⟨r', ?_, hr⟩
        rw [List.append_assoc, hlast]

theorem before?_crlf {s : Text} (hs : ∀ x ∈ s, x ≠ '\r' ∧ x ≠ '\n') (t : Text) :
    before? s (crlf t) = (before? s t).map crlf := by
  have hsame : crlf s = s := crlf_of_not_mem fun hmem => (hs _ hmem).2 rfl
  cases h : before? s t with
  | some r =>
    rw [Option.map_some, before?_eq_some_iff, before?_eq_some_iff.1 h, crlf_append, hsame]
  | none =>
    rw [Option.map_none, Option.eq_none_iff_forall_ne_some]
    intro r hr
    obtain ⟨r', hr', -⟩ := exists_of_crlf_concat hs (before?_eq_some_iff.1 hr)
    rw [before?_eq_some_iff.2 hr'] at h
    cases h

/-! ### Line ends -/

theorem leadingBlanks_crlf (t : Text) : leadingBlanks (crlf t) = leadingBlanks t := by
  induction t with
  | nil => rfl
  | cons c t ih =>
    by_cases hc : c = '\n'
    · subst hc
      rfl
    · rw [crlf_cons hc]
      unfold leadingBlanks at ih ⊢
      rw [List.takeWhile_cons, List.takeWhile_cons, ih]

theorem dropWhile_isBlank_crlf (t : Text) :
    (crlf t).dropWhile isBlank = crlf (t.dropWhile isBlank) := by
  induction t with
  | nil => rfl
  | cons c t ih =>
    by_cases hc : c = '\n'
    · subst hc
      rfl
    · rw [crlf_cons hc, List.dropWhile_cons, List.dropWhile_cons, ih]
      split
      · rfl
      · rw [crlf_cons hc]

/-- The text before and behind the last line feed; the carriage return stays with the former. -/
theorem cutAtLastLine?_crlf (t : Text) :
    cutAtLastLine? (crlf t) = (cutAtLastLine? t).map fun x => (crlf x.1 ++ ['\r'], x.2) := by
  cases h : cutAtLastLine? t with
  | none =>
    have hmem : '\n' ∉ t := by
      intro hmem
      obtain ⟨w, x, hw, hfree⟩ := List.eq_append_cons_of_mem (List.mem_reverse.2 hmem)
      have ht : t = x.reverse ++ '\n' :: w.reverse := by simpa using congrArg List.reverse hw
      rw [cutAtLastLine?_eq_some_iff.2 ⟨ht, by simpa using hfree⟩] at h
      cases h
    rw [crlf_of_not_mem hmem, h]
    rfl
  | some x =>
    obtain ⟨upper, last⟩ := x
    obtain ⟨rfl, hlast⟩ := cutAtLastLine?_eq_some_iff.1 h
    rw [Option.map_some, cutAtLastLine?_eq_some_iff]
    refine ⟨?_, hlast⟩
    rw [crlf_append, crlf_break, crlf_of_not_mem hlast, List.append_assoc]
    rfl

theorem lines_crlf (t : Text) : lines (crlf t) = (lines t).map crlf := by
  induction t with
  | nil => rfl
  | cons c t ih =>
    by_cases hc : c = '\n'
    · subst hc
      simp [lines, ih]
    · rw [crlf_cons hc, lines, lines, if_neg hc, if_neg hc, ih]
      cases lines t with
      | nil => simp [crlf, hc]
      | cons l ls => simp [crlf_cons hc]

theorem indentLines_crlf {indent : Text} (hindent : '\n' ∉ indent) (t : Text) :
    indentLines indent (crlf t) = crlf (indentLines indent t) := by
  unfold indentLines
  rw [lines_crlf, List.flatMap_map]
  induction lines t with
  | nil => rfl
  | cons l ls ih =>
    rw [List.flatMap_cons, List.flatMap_cons, crlf_append, ih, spaces_crlf]
    split
    · rfl
    · rw [crlf_append, crlf_of_not_mem hindent]

section

variable {t : Text} (h : '\r' ∉ t)
include h

theorem dropLineBreak?_crlf : dropLineBreak? (crlf t) = (dropLineBreak? t).map crlf := by
  cases t with
  | nil => rfl
  | cons c t =>
    have hreturn : c ≠ '\r' := by
      rintro rfl
      exact h List.mem_cons_self
    by_cases hc : c = '\n'
    · subst hc
      rfl
    · rw [crlf_cons hc]
      unfold dropLineBreak?
      split <;> simp_all

theorem dropLineEnd_crlf : dropLineEnd (crlf t) = crlf (dropLineEnd t) := by
  have hrest : '\r' ∉ t.dropWhile isBlank := fun hmem => h ((List.dropWhile_suffix _).subset hmem)
  rw [dropLineEnd, dropLineEnd, dropWhile_isBlank_crlf, dropLineBreak?_crlf hrest]
  cases dropLineBreak? (t.dropWhile isBlank) <;> rfl

theorem breaksLine_crlf : breaksLine (crlf t) = breaksLine t := by
  have hrest : '\r' ∉ t.dropWhile isBlank := fun hmem => h ((List.dropWhile_suffix _).subset hmem)
  rw [breaksLine, breaksLine, dropWhile_isBlank_crlf, dropLineBreak?_crlf hrest, Option.isSome_map]

theorem lineEnd_crlf : lineEnd (crlf t) = crlf (lineEnd t) := by
  refine lineEnd_of_eq ?_
  rw [dropLineEnd_crlf h, ← crlf_append, lineEnd_append_dropLineEnd]

theorem blankToLineEnd_crlf : blankToLineEnd (crlf t) = blankToLineEnd t := by
  by_cases hmem : '\n' ∈ t
  · obtain ⟨u, v, rfl, hu⟩ := List.eq_append_cons_of_mem hmem
    have hreturn : '\n' ∉ u ++ ['\r'] := by simpa using hu
    have hsplit : crlf (u ++ '\n' :: v) = (u ++ ['\r']) ++ '\n' :: crlf v := by
      rw [crlf_append, crlf_of_not_mem hu, crlf_break, List.append_assoc]
      rfl
    have hdrop : dropEndWhile (· == '\r') (u ++ ['\r']) = dropEndWhile (· == '\r') u := by
      simp [dropEndWhile]
    rw [blankToLineEnd, hsplit, restOfLine_append hreturn, hdrop, blankToLineEnd,
      restOfLine_append hu]
  · rw [crlf_of_not_mem hmem]

theorem dropFinalBreak_crlf : dropFinalBreak (crlf t) = crlf (dropFinalBreak t) := by
  have hnone : before? ['\r', '\n'] t = none := by
    rw [Option.eq_none_iff_forall_ne_some]
    intro r hr
    rw [before?_eq_some_iff.1 hr] at h
    simp at h
  rw [dropFinalBreak, dropFinalBreak, hnone, Option.getD_none]
  cases hfeed : before? ['\n'] t with
  | some r =>
    have hreturn : before? ['\r', '\n'] (crlf t) = some (crlf r) := by
      rw [before?_eq_some_iff, before?_eq_some_iff.1 hfeed, crlf_append]
      rfl
    rw [hreturn, Option.getD_some, Option.getD_some]
  | none =>
    -- Without a line feed at the end there is none at the end with carriage returns.
    have hend : ∀ r, crlf t ≠ r ++ ['\n'] := by
      intro r hr
      rcases List.eq_nil_or_concat t with rfl | ⟨s, c, rfl⟩
      · simp at hr
      · rw [List.concat_eq_append] at hr hfeed
        by_cases hc : c = '\n'
        · subst hc
          rw [before?_eq_some_iff.2 rfl] at hfeed
          cases hfeed
        · rw [crlf_append, crlf_cons hc, crlf_nil] at hr
          exact hc (List.cons.inj (List.append_inj' hr rfl).2).1
    have hfeed' : before? ['\n'] (crlf t) = none := by
      rw [Option.eq_none_iff_forall_ne_some]
      exact fun r hr => hend r (before?_eq_some_iff.1 hr)
    have hreturn : before? ['\r', '\n'] (crlf t) = none := by
      rw [Option.eq_none_iff_forall_ne_some]
      intro r hr
      refine hend (r ++ ['\r']) ?_
      rw [before?_eq_some_iff.1 hr, List.append_assoc]
      rfl
    rw [hreturn, hfeed', Option.getD_none, Option.getD_none, Option.getD_none]

end

end Text

/-! ### Comments and marks -/

/-- The cut with carriage returns; there is no place for them in a comment. -/
def Cut.crlf (c : Cut) : Cut := { c with gap := c.gap.crlf }

theorem Cut.source_crlf {cs : List Cut} (h : ∀ c ∈ cs, c.comment.crlf = c.comment) :
    source (cs.map crlf) = (source cs).crlf := by
  induction cs with
  | nil => rfl
  | cons c cs ih =>
    rw [List.map_cons, source_cons, source_cons, Text.crlf_append, Text.crlf_append,
      h c List.mem_cons_self, ih fun c' hc' => h c' (List.mem_cons_of_mem _ hc')]
    rfl

namespace Marker

variable {m : Marker}

theorem crlf_of_comment {c : Text} (h : m.Comment c) : c.crlf = c :=
  Text.crlf_of_not_mem fun hmem => (h.ne_break _ hmem).2 rfl

theorem commentAt?_crlf (t : Text) :
    m.commentAt? t.crlf = (m.commentAt? t).map fun x => (x.1, x.2.crlf) := by
  cases h : m.commentAt? t with
  | some x =>
    obtain ⟨hcomment, rfl⟩ := commentAt?_eq_some_iff.1 h
    rw [Option.map_some, commentAt?_eq_some_iff, Text.crlf_append, crlf_of_comment hcomment]
    exact ⟨hcomment, rfl⟩
  | none =>
    rw [Option.map_none, Option.eq_none_iff_forall_ne_some]
    rintro ⟨c, r⟩ hc
    obtain ⟨hcomment, ht⟩ := commentAt?_eq_some_iff.1 hc
    obtain ⟨r', rfl, -⟩ := Text.exists_of_crlf_append hcomment.ne_break ht
    rw [commentAt?_of_comment hcomment] at h
    cases h

theorem find?_crlf (t : Text) :
    m.find? t.crlf = (m.find? t).map fun f => ⟨f.gap.crlf, f.comment, f.rest.crlf⟩ := by
  induction t with
  | nil => rfl
  | cons c t ih =>
    by_cases hc : c = '\n'
    · subst hc
      rw [Text.crlf_break, find?, find?, find?, commentAt?_cons_of_ne (by decide),
        commentAt?_cons_of_ne (by decide), commentAt?_cons_of_ne (by decide), ih]
      cases m.find? t <;> rfl
    · have hat := commentAt?_crlf (m := m) (c :: t)
      rw [Text.crlf_cons hc] at hat ⊢
      rw [find?, find?, hat, ih]
      cases m.commentAt? (c :: t) with
      | some x => rfl
      | none => cases m.find? t <;> simp [Text.crlf_cons hc]

theorem cut_crlf (t : Text) :
    m.cut t.crlf = ((m.cut t).1.map Cut.crlf, (m.cut t).2.crlf) := by
  fun_induction cut m t with
  | case1 t h => exact cut_of_none (by rw [find?_crlf, h]; rfl)
  | case2 t f h ih =>
    have hfind : m.find? t.crlf = some ⟨f.gap.crlf, f.comment, f.rest.crlf⟩ := by
      rw [find?_crlf, h]
      rfl
    rw [cut_of_some hfind, ih]
    rfl

end Marker

/-- The text before a place with carriage returns, nearest character first. -/
def Text.crlfBack (seen : Text) : Text := (crlf seen.reverse).reverse

theorem Text.crlfBack_append (s t : Text) :
    crlfBack (s ++ t) = crlfBack s ++ crlfBack t := by
  simp [crlfBack]

namespace Mark

/-- The mark in the text with carriage returns. -/
def crlf (k : Mark) : Mark :=
  { k with seen := k.seen.crlfBack, gap := k.gap.crlf, rest := k.rest.crlf }

theorem source_crlf {ms : List Mark} (h : ∀ k ∈ ms, k.comment.crlf = k.comment) :
    source (ms.map crlf) = (source ms).crlf := by
  have hcuts : (ms.map crlf).map cut = (ms.map cut).map Cut.crlf := by
    rw [List.map_map, List.map_map]
    rfl
  rw [source_eq, source_eq, hcuts, Cut.source_crlf]
  intro c hc
  obtain ⟨k, hk, rfl⟩ := List.mem_map.1 hc
  exact h k hk

theorem joins_crlf (type : Text) (k : Mark) : joins type k.crlf = joins type k := by
  unfold joins
  rw [show k.crlf.gap = k.gap.crlf from rfl, Text.spaces_crlf]
  rfl

theorem lowestDepth_crlf (depth : Nat) (ms : List Mark) :
    lowestDepth depth (ms.map crlf) = lowestDepth depth ms := by
  induction ms generalizing depth with
  | nil => rfl
  | cons k ms ih =>
    rw [List.map_cons, lowestDepth, lowestDepth, show k.crlf.token = k.token from rfl, ih, ih]

theorem stackSize_crlf (type : Text) (ms : List Mark) :
    stackSize type (ms.map crlf) = stackSize type ms := by
  have hjoins : joins type ∘ crlf = joins type := funext (joins_crlf type)
  unfold stackSize
  rw [List.takeWhile_map, hjoins, List.length_map]
  simp only [← List.map_drop, lowestDepth_crlf]

/-- The marks of a block in the text with carriage returns. -/
def Closed.crlf (c : Closed) : Closed :=
  ⟨c.inside.map Mark.crlf, c.closing.crlf, c.behind.map Mark.crlf⟩

/-- The reason why there is no closing mark in the text with carriage returns. -/
def Unclosed.crlf : Unclosed → Unclosed
  | .unreadable k fault => .unreadable k.crlf fault
  | .ended => .ended

/-- The search for a closing mark comes to the same. -/
theorem toClosing_crlf (depth : Nat) (ms : List Mark) :
    toClosing depth (ms.map crlf) =
      match toClosing depth ms with
      | .error e => .error e.crlf
      | .ok c => .ok c.crlf := by
  fun_induction toClosing depth ms with
  | case1 depth => rw [List.map_nil, toClosing]; rfl
  | case2 depth k later fault htoken =>
    rw [List.map_cons, toClosing.eq_def]
    simp only [show k.crlf.token = k.token from rfl, htoken]
    rfl
  | case3 k later htoken =>
    rw [List.map_cons, toClosing]
    simp only [show k.crlf.token = k.token from rfl, htoken]
    rfl
  | case4 k later htoken depth e he ih =>
    rw [List.map_cons, toClosing]
    simp only [show k.crlf.token = k.token from rfl, htoken, ih, he]
  | case5 k later htoken depth c hc ih =>
    rw [List.map_cons, toClosing]
    simp only [show k.crlf.token = k.token from rfl, htoken, ih, hc]
    rfl
  | case6 =>
    rename_i depth k later d htoken n e he ih
    rw [List.map_cons, toClosing.eq_def]
    simp only [show k.crlf.token = k.token from rfl, htoken, stackSize_crlf, ← List.map_drop]
    simp only [n] at ih he
    simp only [ih, he]
  | case7 =>
    rename_i depth k later d htoken n c hc ih
    rw [List.map_cons, toClosing.eq_def]
    simp only [show k.crlf.token = k.token from rfl, htoken, stackSize_crlf, ← List.map_drop]
    simp only [n] at ih hc
    simp only [ih, hc]
    simp [Closed.crlf, n]

end Mark

/-- Cuts with carriage returns are in the places of the others. -/
theorem Marker.place_crlf {m : Marker} {cs : List Cut} (h : ∀ c ∈ cs, c.comment.crlf = c.comment)
    (seen : Text) (line : Nat) (tail : Text) :
    m.place seen.crlfBack line tail.crlf (cs.map Cut.crlf) =
      (m.place seen line tail cs).map Mark.crlf := by
  induction cs generalizing seen line with
  | nil => rfl
  | cons c cs ih =>
    have hlater : ∀ c ∈ cs, c.comment.crlf = c.comment :=
      fun c' hc' => h c' (List.mem_cons_of_mem _ hc')
    have hgap : Text.crlfBack (c.gap.reverse ++ seen) = c.gap.crlf.reverse ++ seen.crlfBack := by
      simp [Text.crlfBack]
    have hcomment : Text.crlfBack (c.comment.reverse ++ (c.gap.reverse ++ seen)) =
        c.comment.reverse ++ (c.gap.crlf.reverse ++ seen.crlfBack) := by
      rw [Text.crlfBack_append, hgap, Text.crlfBack, List.reverse_reverse, h c List.mem_cons_self]
    rw [List.map_cons, place, place, List.map_cons, ← ih hlater, hcomment]
    refine congrArg₂ List.cons ?_ ?_
    · simp only [Mark.crlf, Cut.crlf, hgap, Cut.source_crlf hlater, Text.lineFeeds_crlf,
        Text.crlf_append]
    · simp only [Cut.crlf, Text.lineFeeds_crlf]

theorem Marker.marks_crlf (m : Marker) (line : Nat) (text : Text) :
    marks m line text.crlf = ((marks m line text).1.map Mark.crlf, (marks m line text).2.crlf) := by
  have hcomments : ∀ c ∈ (m.cut text).1, c.comment.crlf = c.comment :=
    fun c hc => crlf_of_comment (comment_of_mem_cut hc)
  have hplace := place_crlf (m := m) hcomments [] line (m.cut text).2
  rw [marks, marks, marksFrom_eq_place, marksFrom_eq_place, cut_crlf]
  exact Prod.ext hplace rfl

/-! ### Scans -/

/-- The block in the text with carriage returns. -/
def Block.crlf (b : Block) : Block :=
  { b with
    seen := b.seen.crlfBack
    opening := b.opening.crlf
    inner := b.inner.crlf
    rest := b.rest.crlf }

/-- The piece of the text with carriage returns. -/
def Segment.crlf : Segment → Segment
  | .literal t => .literal t.crlf
  | .block b => .block b.crlf

namespace Scan

/-- The scan of the text with carriage returns. -/
def crlf (s : Scan) : Scan := { s with segments := s.segments.map Segment.crlf }

theorem literal_crlf (t : Text) (later : List Segment) :
    (literal t later).map Segment.crlf = literal t.crlf (later.map Segment.crlf) := by
  unfold literal
  rw [Text.isEmpty_crlf]
  split <;> rfl

/-- The block at a mark is read in the same way. -/
theorem readBlock_crlf {k : Mark} {later : List Mark}
    (h : ∀ k' ∈ k :: later, k'.comment.crlf = k'.comment) :
    readBlock k.crlf (later.map Mark.crlf) =
      match readBlock k later with
      | .error e => .error e
      | .ok (b, c) => .ok (b.crlf, c.crlf) := by
  unfold readBlock
  simp only [show k.crlf.token = k.token from rfl]
  split
  · rfl
  · rfl
  · rename_i d htoken
    rw [Mark.stackSize_crlf, ← List.map_drop, Mark.toClosing_crlf]
    cases hc : Mark.toClosing 0 (later.drop (Mark.stackSize d.type later)) with
    | error e => cases e <;> rfl
    | ok c =>
      have hlater := eq_of_closed hc
      have hstack : ∀ k' ∈ later.take (Mark.stackSize d.type later),
          k'.comment.crlf = k'.comment :=
        fun k' hk' => h k' (List.mem_cons_of_mem _ (List.mem_of_mem_take hk'))
      have hinside : ∀ k' ∈ c.inside, k'.comment.crlf = k'.comment := by
        intro k' hk'
        refine h k' (List.mem_cons_of_mem _ ?_)
        rw [hlater]
        simp [hk']
      simp only [Except.ok.injEq, Prod.mk.injEq, and_true]
      simp only [Block.ofMarks, Block.crlf, Mark.Closed.crlf, ← List.map_take,
        Mark.source_crlf hstack, Mark.source_crlf hinside, Text.crlf_append,
        h k List.mem_cons_self, List.filterMap_map]
      rfl

theorem ofMarks_crlf {ms : List Mark} (h : ∀ k ∈ ms, k.comment.crlf = k.comment) (tail : Text) :
    ofMarks (ms.map Mark.crlf) tail.crlf = (ofMarks ms tail).crlf := by
  match ms with
  | [] =>
    rw [List.map_nil, ofMarks, ofMarks, crlf, literal_crlf]
    rfl
  | k :: later =>
    rw [List.map_cons, ofMarks_cons, ofMarks_cons, readBlock_crlf h]
    cases hread : readBlock k later with
    | error e => rfl
    | ok x =>
      obtain ⟨b, c⟩ := x
      obtain ⟨-, inner, hlater⟩ := of_readBlock hread
      have hbehind : ∀ k ∈ c.behind, k.comment.crlf = k.comment := by
        intro k hk
        refine h k (List.mem_cons_of_mem _ ?_)
        rw [hlater]
        simp [hk]
      have hshorter : c.behind.length < (k :: later).length := by
        rw [hlater]
        simp only [List.length_cons, List.length_append]
        omega
      dsimp only
      rw [show c.crlf.behind = c.behind.map Mark.crlf from rfl, ofMarks_crlf hbehind tail, crlf,
        crlf, literal_crlf]
      rfl
termination_by ms.length

end Scan

/-- A text is scanned to the same pieces with carriage returns, and to the same fault. -/
theorem Marker.scan_crlf (m : Marker) (line : Nat) (text : Text) :
    m.scan line text.crlf = (m.scan line text).crlf := by
  rw [scan_eq_ofMarks, scan_eq_ofMarks, marks_crlf]
  exact Scan.ofMarks_crlf (fun k hk => crlf_of_comment (comment_of_mem_marks hk)) _

/-! ### Layout -/

namespace Block

theorem lead_crlf (b : Block) : b.crlf.lead = b.lead := by
  have htake : b.seen.crlfBack.takeWhile (· != '\n') = b.seen.takeWhile (· != '\n') := by
    by_cases hmem : '\n' ∈ b.seen
    · obtain ⟨u, v, hu, hfree⟩ := List.eq_append_cons_of_mem hmem
      have hback : b.seen.crlfBack = u ++ '\n' :: ('\r' :: Text.crlfBack v) := by
        have hsame : Text.crlf u.reverse = u.reverse :=
          Text.crlf_of_not_mem (by simpa using hfree)
        rw [hu, Text.crlfBack, Text.crlfBack]
        simp [hsame]
      rw [hback, hu]
      exact (Text.restOfLine_append hfree _).trans (Text.restOfLine_append hfree _).symm
    · rw [Text.crlfBack, Text.crlf_of_not_mem (by simpa using hmem), List.reverse_reverse]
  exact congrArg List.reverse htake

theorem indent?_crlf {b : Block} (h : '\r' ∉ b.rest) : b.crlf.indent? = b.indent? := by
  unfold indent?
  rw [lead_crlf, show b.crlf.rest = b.rest.crlf from rfl, Text.blankToLineEnd_crlf h]

theorem ownLines_crlf {inner : Text} (h : '\r' ∉ inner) :
    ownLines inner.crlf = (ownLines inner).crlf := by
  have hbody : '\r' ∉ Text.dropLineEnd inner := by
    obtain ⟨x, hx, -⟩ := Text.exists_append_dropLineEnd inner
    rw [hx] at h
    exact fun hmem => h (List.mem_append_right _ hmem)
  unfold ownLines
  rw [Text.dropLineEnd_crlf h]
  generalize Text.dropLineEnd inner = body at hbody
  dsimp only
  rw [Text.cutAtLastLine?_crlf]
  cases hcut : Text.cutAtLastLine? body with
  | some x =>
    obtain ⟨upper, last⟩ := x
    obtain ⟨rfl, -⟩ := Text.cutAtLastLine?_eq_some_iff.1 hcut
    have hupper : Text.before? ['\r'] upper = none := by
      rw [Option.eq_none_iff_forall_ne_some]
      intro r hr
      rw [Text.before?_eq_some_iff.1 hr] at hbody
      simp at hbody
    have hreturn : Text.before? ['\r'] (upper.crlf ++ ['\r']) = some upper.crlf :=
      Text.before?_eq_some_iff.2 rfl
    dsimp only [Option.map_some]
    rw [hupper, hreturn, Option.getD_none, Option.getD_some]
    split <;> rfl
  | none =>
    have hblank : Text.blank body.crlf = Text.blank body := Text.all_crlf (by decide) body
    dsimp only [Option.map_none]
    rw [hblank]
    split <;> rfl

theorem content_crlf {b : Block} (hrest : '\r' ∉ b.rest) (hinner : '\r' ∉ b.inner) :
    b.crlf.content = b.content.crlf := by
  unfold content
  rw [indent?_crlf hrest]
  cases b.indent? with
  | none => rfl
  | some indent => exact ownLines_crlf hinner

theorem contentLine_crlf {b : Block} (hrest : '\r' ∉ b.rest) (hinner : '\r' ∉ b.inner) :
    b.crlf.contentLine = b.contentLine := by
  have hskipped :
      Text.lineFeeds (Text.lineEnd b.inner.crlf) = Text.lineFeeds (Text.lineEnd b.inner) := by
    rw [Text.lineEnd_crlf hinner, Text.lineFeeds_crlf]
  unfold contentLine
  rw [indent?_crlf hrest, show b.crlf.opening = b.opening.crlf from rfl, Text.lineFeeds_crlf]
  cases b.indent? with
  | none => rfl
  | some indent => exact congrArg (b.line + Text.lineFeeds b.opening + ·) hskipped

theorem mem_of_mem_content {b : Block} {c : Char} (h : c ∈ b.content) : c ∈ b.inner := by
  unfold content at h
  split at h
  · exact h
  · rw [← Text.lineEnd_append_dropLineEnd b.inner]
    exact List.mem_append_right _ ((ownLines_prefix_dropLineEnd b.inner).subset h)

end Block

end PageBlocks
