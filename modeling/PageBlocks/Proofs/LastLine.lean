import PageBlocks.Proofs.Skipping

/-!
# The last line of a text

An empty block that stands alone takes a line break with it: the one behind it or, on the last line
of the text, the one before it. Which of them it takes is told by what stands behind the block, and
two tests look at that. The block stands alone if nothing but blanks comes up to the end of the
line, however many carriage returns the line ends with; and its line breaks if a line feed comes
behind the blanks, with one carriage return at most in front of it.

    behind the block    alone    its line breaks
    blanks      ⏎ …      yes           yes
    blanks ␍    ⏎ …      yes           yes
    blanks ␍␍   ⏎ …      yes           no
    blanks               yes           no

So the two tests agree on lines that end with one carriage return at most (`Marker.breaksLine_iff`).
In front of a line feed with more of them a block is taken for one on the last line.
-/

namespace PageBlocks

open Segment (sources)

namespace Text

/-! ### Carriage returns at the end of a line -/

/-- A line that is blank up to its end is blanks and carriage returns. -/
theorem restOfLine_of_blank {r : Text} (h : blankToLineEnd r) :
    ∃ w k, blank w ∧ restOfLine r = w ++ List.replicate k '\r' := by
  refine ⟨_, ((restOfLine r).reverse.takeWhile (· == '\r')).length, h, ?_⟩
  have hreturns : (restOfLine r).reverse.takeWhile (· == '\r') =
      List.replicate ((restOfLine r).reverse.takeWhile (· == '\r')).length '\r' := by
    refine List.eq_replicate_iff.2 ⟨rfl, fun c hc => ?_⟩
    simpa using List.all_eq_true.1 List.all_takeWhile c hc
  rw [dropEndWhile, ← List.reverse_replicate, ← hreturns, ← List.reverse_append,
    List.takeWhile_append_dropWhile, List.reverse_reverse]

theorem count_returns {w : Text} (hw : blank w) (k : Nat) :
    (w ++ List.replicate k '\r').count '\r' = k := by
  have hnone : w.count '\r' = 0 := List.count_eq_zero.2 fun hmem => (ne_of_blank hw _ hmem).2.1 rfl
  rw [List.count_append, hnone, List.count_replicate_self, Nat.zero_add]

section

variable {w : Text} (hw : blank w) (k : Nat)
include hw

/-- One carriage return belongs to the line feed behind it, two do not. -/
theorem breaksLine_returns (x : Text) :
    breaksLine (w ++ (List.replicate k '\r' ++ '\n' :: x)) = true ↔ k ≤ 1 := by
  match k with
  | 0 => exact iff_of_true (breaksLine_trail hw .lf x) (Nat.zero_le 1)
  | 1 => exact iff_of_true (breaksLine_trail hw .crlf x) (Nat.le_refl 1)
  | k + 2 =>
    have hblank : isBlank '\r' = false := rfl
    have hdrop := dropWhile_isBlank_append hw hblank ('\r' :: (List.replicate k '\r' ++ '\n' :: x))
    refine iff_of_false ?_ (by omega)
    rw [breaksLine, List.replicate_succ, List.replicate_succ, List.cons_append, List.cons_append,
      hdrop]
    exact Bool.false_ne_true

theorem breaksLine_of_no_feed : breaksLine (w ++ List.replicate k '\r') = false := by
  have hdrop : (w ++ List.replicate k '\r').dropWhile isBlank = List.replicate k '\r' := by
    cases k with
    | zero => simpa using List.dropWhile_eq_nil_iff.2 (blank_iff.1 hw)
    | succ k => exact dropWhile_isBlank_append hw rfl _
  rw [breaksLine, hdrop]
  rcases k with _ | _ | k <;> rfl

end

/-- A line that is blank up to its end breaks if a line feed comes and at most one carriage return
is in front of it. -/
theorem breaksLine_iff_of_blankToLineEnd {r : Text} (h : blankToLineEnd r) :
    breaksLine r = true ↔ '\n' ∈ r ∧ (restOfLine r).count '\r' ≤ 1 := by
  obtain ⟨w, k, hw, hline⟩ := restOfLine_of_blank h
  rw [hline, count_returns hw]
  by_cases hfeed : '\n' ∈ r
  · obtain ⟨u, x, rfl, hu⟩ := List.eq_append_cons_of_mem hfeed
    rw [restOfLine_append hu] at hline
    rw [hline, List.append_assoc, breaksLine_returns hw, and_iff_right (by simp)]
  · have hall : restOfLine r = r := by
      refine List.takeWhile_eq_self_iff.2 fun c hc => ?_
      rw [bne_iff_ne]
      rintro rfl
      exact hfeed hc
    have hbreaks := breaksLine_of_no_feed hw k
    rw [← hline, hall] at hbreaks
    simp [hbreaks, hfeed]

/-- A line breaks if it has an end to be skipped. -/
theorem lineEnd_ne_nil_iff {r : Text} : lineEnd r ≠ [] ↔ breaksLine r = true := by
  cases h : breaksLine r with
  | false => simp [lineEnd_of_not_breaksLine h]
  | true =>
    obtain ⟨e, he⟩ := exists_of_breaksLine h
    rw [he]
    cases e <;> simp [Break.text]

end Text

/-- The carriage returns on the line that a block ends on, behind the block. -/
def Block.returns (b : Block) : Nat := (Text.restOfLine b.rest).count '\r'

namespace Marker

variable {m : Marker} {line : Nat} {text : Text} {pre post : List Segment}

/-- When the line of a block that stands alone breaks. Take such a block where it stands in a text,
behind the pieces `pre` of the scan.

A line break is found behind it, and it has an end to be skipped, if a line feed comes behind it and
at most one carriage return is on its line. Whatever the blocks before were rendered to, an empty
block leaves the line before it as it is in exactly these cases. If there is none, or if there are
more carriage returns, the line break before the block is dropped. -/
theorem breaksLine_iff {b : Block} {indent : Text}
    (hs : (m.scan line text).segments = pre ++ .block b :: post)
    (hindent : b.indent? = some indent) :
    text = sources pre ++ (b.source ++ b.rest) ∧
      (b.breaksLine = true ↔ '\n' ∈ b.rest ∧ b.returns ≤ 1) ∧
      (0 < (Text.lineEnd b.rest).length ↔ '\n' ∈ b.rest ∧ b.returns ≤ 1) ∧
      ∀ (render : Block → Outcome Rendered) (a : Assembly),
        (Assembly.addAll render pre {}).result = .ok a → ∃ o, a.out = o ++ indent ∧ ∀ r : Rendered,
          r.text = [] → (a.addBlock b r).out =
            if '\n' ∈ b.rest ∧ b.returns ≤ 1 then o else Assembly.dropLastBreak o := by
  have hbreaks : b.breaksLine = true ↔ '\n' ∈ b.rest ∧ b.returns ≤ 1 :=
    Text.breaksLine_iff_of_blankToLineEnd (Block.of_indent? hindent).2.2
  refine ⟨(text_of_block hs).symm, hbreaks, ?_, ?_⟩
  · rw [List.length_pos_iff, Text.lineEnd_ne_nil_iff]
    exact hbreaks
  · intro render a ha
    obtain ⟨rest, -, hready⟩ := ready_of_segments hs ha
    rw [← seen_of_segments hs] at hready
    obtain ⟨o, ho⟩ := hready.exists_of_indent? hindent
    refine ⟨o, ho, fun r hr => ?_⟩
    rw [Assembly.out_addBlock_of_indent hindent ho, if_pos hr]
    simp only [hbreaks]

/-- A block to be left out, alone on its line, with `rest` behind it. -/
def blockBefore (rest : Text) : Block :=
  { leftOutBlock with seen := ['\n', 'a'], rest := rest }

/-- The text that `blockBefore rest` stands in. -/
def pageBefore (rest : Text) : Text := ['a', '\n'] ++ (blockBefore rest).source ++ rest

theorem breaksLine_iff_crlf :
    (blockBefore "\r\nb".toList).breaksLine = true ∧
      ∃ o, ['a', '\n'] = o ∧
        (Assembly.addBlock ⟨['a', '\n'], 0⟩ (blockBefore "\r\nb".toList) ⟨[], false⟩).out = o := by
  have hs : (Marker.build.scan 1 (pageBefore "\r\nb".toList)).segments =
      [.literal ['a', '\n']] ++ .block (blockBefore "\r\nb".toList) ::
        [.literal "\r\nb".toList] := by decide +kernel
  have hreturns : '\n' ∈ (blockBefore "\r\nb".toList).rest ∧
      (blockBefore "\r\nb".toList).returns ≤ 1 := by decide +kernel
  have hindent : (blockBefore "\r\nb".toList).indent? = some [] := rfl
  obtain ⟨-, hbreaks, -, hpage⟩ := breaksLine_iff hs hindent
  obtain ⟨o, ho, hout⟩ := hpage (fun _ => pure ⟨[], false⟩) ⟨['a', '\n'], 0⟩ rfl
  refine ⟨hbreaks.2 hreturns, o, by simpa using ho, ?_⟩
  rw [hout ⟨[], false⟩ rfl, if_pos hreturns]

/-- Two carriage returns in front of the line feed: the block stands alone, and its line does not
break. The line break before it is dropped, although it is not on the last line. -/
theorem not_breaksLine_iff_twoReturns :
    (.block (blockBefore "\r\r\nb".toList)) ∈
        (Marker.build.scan 1 (pageBefore "\r\r\nb".toList)).segments ∧
      (blockBefore "\r\r\nb".toList).indent?.isSome ∧
      '\n' ∈ (blockBefore "\r\r\nb".toList).rest ∧
      (Assembly.addBlock ⟨['a', '\n'], 0⟩ (blockBefore "\r\r\nb".toList) ⟨[], false⟩).out = ['a'] ∧
      ¬ ∀ b, .block b ∈ (Marker.build.scan 1 (pageBefore "\r\r\nb".toList)).segments →
        b.indent?.isSome → '\n' ∈ b.rest →
          b.breaksLine = true ∧ 0 < (Text.lineEnd b.rest).length := by
  have hb : .block (blockBefore "\r\r\nb".toList) ∈
      (Marker.build.scan 1 (pageBefore "\r\r\nb".toList)).segments := by decide +kernel
  refine ⟨hb, rfl, by decide, by decide +kernel, fun hall => ?_⟩
  have hbreaks := (hall _ hb rfl (by decide)).1
  revert hbreaks
  decide

end Marker

end PageBlocks
