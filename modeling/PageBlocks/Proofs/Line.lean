import Mathlib.Data.List.Basic
import PageBlocks.Text.Line

/-!
# Cuts at line ends

What the small cuts of `Text.Line` do, said as equations between a text and its parts, so that
nobody has to look into them again.
-/

namespace PageBlocks.Text

@[simp] theorem lineFeeds_nil : lineFeeds [] = 0 := rfl

@[simp] theorem lineFeeds_append (s t : Text) : lineFeeds (s ++ t) = lineFeeds s + lineFeeds t := by
  simp [lineFeeds]

@[simp] theorem lineFeeds_reverse (t : Text) : lineFeeds t.reverse = lineFeeds t :=
  List.count_reverse

theorem lineFeeds_eq_zero {t : Text} : lineFeeds t = 0 ↔ '\n' ∉ t := List.count_eq_zero

theorem blank_iff {t : Text} : blank t ↔ ∀ c ∈ t, isBlank c := by
  rw [blank, List.all_eq_true]

theorem blank_append (s t : Text) : blank (s ++ t) = (blank s && blank t) := List.all_append

theorem blank_reverse (t : Text) : blank t.reverse = blank t := List.all_reverse

theorem isBlank_ne {c : Char} (h : isBlank c) : c ≠ '<' ∧ c ≠ '\r' ∧ c ≠ '\n' := by
  refine ⟨?_, ?_, ?_⟩ <;> rintro rfl <;> revert h <;> decide

theorem ne_of_blank {t : Text} (h : blank t) : ∀ c ∈ t, c ≠ '<' ∧ c ≠ '\r' ∧ c ≠ '\n' :=
  fun c hc => isBlank_ne (blank_iff.1 h c hc)

theorem spaces_of_blank {t : Text} (h : blank t) : spaces t := by
  refine List.all_eq_true.2 fun c hc => ?_
  have hc := blank_iff.1 h c hc
  simp only [isBlank, Bool.or_eq_true, beq_iff_eq] at hc
  rcases hc with rfl | rfl <;> rfl

theorem cutAt?_eq_some_iff {p : Char → Bool} {t a b : Text} :
    cutAt? p t = some (a, b) ↔ ∃ c, t = a ++ c :: b ∧ p c ∧ ∀ x ∈ a, p x = false := by
  induction t generalizing a with
  | nil => simp [cutAt?]
  | cons d t ih =>
    rw [cutAt?]
    split
    · rename_i hd
      constructor
      · intro h
        obtain ⟨rfl, rfl⟩ : [] = a ∧ t = b := by simpa using h
        exact ⟨d, rfl, hd, by simp⟩
      · rintro ⟨c, heq, -, ha⟩
        cases a with
        | nil => simpa using (List.cons.inj heq).2
        | cons x a =>
          obtain rfl : d = x := (List.cons.inj heq).1
          simp [hd] at ha
    · rename_i hd
      rw [Option.map_eq_some_iff]
      constructor
      · rintro ⟨⟨a', b'⟩, h, heq⟩
        obtain ⟨rfl, rfl⟩ : d :: a' = a ∧ b' = b := by simpa using heq
        obtain ⟨c, rfl, hc, ha⟩ := ih.1 h
        refine ⟨c, rfl, hc, ?_⟩
        intro x hx
        rcases List.mem_cons.1 hx with rfl | hx
        · simpa using hd
        · exact ha x hx
      · rintro ⟨c, heq, hc, ha⟩
        cases a with
        | nil =>
          obtain rfl : d = c := (List.cons.inj heq).1
          exact absurd hc hd
        | cons x a =>
          obtain ⟨rfl, rfl⟩ := List.cons.inj heq
          exact ⟨(a, b), ih.2 ⟨c, rfl, hc, fun y hy => ha y (by simp [hy])⟩, rfl⟩

theorem cutAtLastLine?_eq_some_iff {t upper last : Text} :
    cutAtLastLine? t = some (upper, last) ↔ t = upper ++ '\n' :: last ∧ '\n' ∉ last := by
  rw [cutAtLastLine?, Option.map_eq_some_iff]
  constructor
  · rintro ⟨⟨a, b⟩, h, heq⟩
    obtain ⟨rfl, rfl⟩ : b.reverse = upper ∧ a.reverse = last := by simpa using heq
    obtain ⟨c, hrev, hc, ha⟩ := cutAt?_eq_some_iff.1 h
    obtain rfl : c = '\n' := by simpa using hc
    refine ⟨by simpa using congrArg List.reverse hrev, ?_⟩
    intro hmem
    simpa using ha '\n' (List.mem_reverse.1 hmem)
  · rintro ⟨rfl, hlast⟩
    refine ⟨(last.reverse, upper.reverse), ?_, by simp⟩
    refine cutAt?_eq_some_iff.2 ⟨'\n', by simp, by simp, ?_⟩
    intro x hx
    simp only [beq_eq_false_iff_ne]
    rintro rfl
    exact hlast (List.mem_reverse.1 hx)

theorem cutAtLastLine?_eq_none {t : Text} (h : '\n' ∉ t) : cutAtLastLine? t = none := by
  rw [Option.eq_none_iff_forall_ne_some]
  rintro ⟨upper, last⟩ heq
  rw [(cutAtLastLine?_eq_some_iff.1 heq).1] at h
  simp at h

theorem dropLineBreak?_eq_some {t r : Text} (h : dropLineBreak? t = some r) :
    t = '\r' :: '\n' :: r ∨ t = '\n' :: r := by
  unfold dropLineBreak? at h
  split at h
  · obtain rfl := Option.some.inj h
    exact Or.inl rfl
  · obtain rfl := Option.some.inj h
    exact Or.inr rfl
  · simp at h

/-- What is dropped in front is blanks and a line break. -/
theorem exists_append_dropLineEnd (t : Text) :
    ∃ x, t = x ++ dropLineEnd t ∧ ∀ c ∈ x, c ≠ '<' := by
  have hblanks : ∀ c ∈ t.takeWhile isBlank, c ≠ '<' :=
    fun c hc => (isBlank_ne (List.all_eq_true.1 List.all_takeWhile c hc)).1
  cases h : dropLineBreak? (t.dropWhile isBlank) with
  | none => exact ⟨[], by simp [dropLineEnd, h], by simp⟩
  | some r =>
    have hsplit : t.takeWhile isBlank ++ t.dropWhile isBlank = t :=
      List.takeWhile_append_dropWhile
    rcases dropLineBreak?_eq_some h with hr | hr
    · refine ⟨t.takeWhile isBlank ++ ['\r', '\n'], ?_, ?_⟩
      · simp only [dropLineEnd, h, Option.getD_some]
        simpa [hr] using hsplit.symm
      · intro c hc
        simp only [List.mem_append, List.mem_cons, List.not_mem_nil, or_false] at hc
        rcases hc with hc | rfl | rfl
        · exact hblanks c hc
        · decide
        · decide
    · refine ⟨t.takeWhile isBlank ++ ['\n'], ?_, ?_⟩
      · simp only [dropLineEnd, h, Option.getD_some]
        simpa [hr] using hsplit.symm
      · intro c hc
        simp only [List.mem_append, List.mem_singleton] at hc
        rcases hc with hc | rfl
        · exact hblanks c hc
        · decide

theorem lineEnd_of_eq {t x : Text} (h : t = x ++ dropLineEnd t) : lineEnd t = x := by
  have hlength := congrArg List.length h
  rw [List.length_append] at hlength
  rw [lineEnd, show t.length - (dropLineEnd t).length = x.length by omega]
  conv_lhs => rw [h]
  exact List.take_left

theorem lineEnd_append_dropLineEnd (t : Text) : lineEnd t ++ dropLineEnd t = t := by
  obtain ⟨x, hx, -⟩ := exists_append_dropLineEnd t
  rw [lineEnd_of_eq hx, ← hx]

theorem ne_of_mem_lineEnd {t : Text} {c : Char} (h : c ∈ lineEnd t) : c ≠ '<' := by
  obtain ⟨x, hx, hne⟩ := exists_append_dropLineEnd t
  rw [lineEnd_of_eq hx] at h
  exact hne c h

theorem dropFinalBreak_prefix (t : Text) : dropFinalBreak t <+: t := by
  unfold dropFinalBreak
  cases hcrlf : before? ['\r', '\n'] t with
  | some u => exact ⟨_, (before?_eq_some_iff.1 hcrlf).symm⟩
  | none =>
    cases hlf : before? ['\n'] t with
    | some u => exact ⟨_, (before?_eq_some_iff.1 hlf).symm⟩
    | none => exact List.prefix_refl t

end PageBlocks.Text
