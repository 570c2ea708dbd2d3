import Mathlib.Data.List.Induction
import PageBlocks.Text.Basic

/-!
# White space around a text

To trim a text is to take the white space off its ends and nothing else: what comes out is what was
padded (`trim_eq_iff`). What stands inside is out of reach, so behind a character that is no white
space only the rest of the text is trimmed.

    ␣ ␣ a b ␣ c ␣ ␣
        ├─────┤
         trim
-/

namespace PageBlocks.Text

theorem spaces_iff {t : Text} : spaces t ↔ ∀ c ∈ t, isSpace c = true := by
  rw [spaces, List.all_eq_true]

theorem isSpace_of_head? {t : Text} (h : spaces t) {c : Char} (hc : c ∈ t.head?) :
    isSpace c = true := spaces_iff.1 h c (List.mem_of_mem_head? hc)

/-- A run of characters of one kind ends where a character of another kind follows. -/
theorem takeWhile_run {p : Char → Bool} {s r : Text} (hs : ∀ c ∈ s, p c = true)
    (hr : ∀ c ∈ r.head?, p c = false) : (s ++ r).takeWhile p = s ∧ (s ++ r).dropWhile p = r := by
  rw [List.takeWhile_append_of_pos hs, List.dropWhile_append_of_pos hs]
  cases r with
  | nil => simp
  | cons c r =>
    have hc := hr c rfl
    simp [hc]

/-- What is left when a run is dropped starts with the first character of another kind. -/
theorem dropWhile_eq_cons_iff {p : Char → Bool} {t u : Text} {c : Char} :
    t.dropWhile p = c :: u ↔ p c = false ∧ ∃ run, (∀ x ∈ run, p x = true) ∧ t = run ++ c :: u := by
  constructor
  · intro h
    refine ⟨?_, t.takeWhile p, List.all_eq_true.1 List.all_takeWhile, ?_⟩
    · have hhead := List.head?_dropWhile_not p t
      rw [h] at hhead
      simpa using hhead
    · rw [← h, List.takeWhile_append_dropWhile]
  · rintro ⟨hc, run, hrun, rfl⟩
    exact (takeWhile_run hrun (by simpa using hc)).2

/-! ### Trimming one end -/

theorem trimStart_append {front : Text} (h : spaces front) (t : Text) :
    trimStart (front ++ t) = trimStart t :=
  List.dropWhile_append_of_pos fun c hc => spaces_iff.1 h c hc

theorem trimStart_cons_of_space {c : Char} (h : isSpace c = true) (t : Text) :
    trimStart (c :: t) = trimStart t := List.dropWhile_cons_of_pos h

theorem trimStart_cons {c : Char} (h : isSpace c = false) (t : Text) :
    trimStart (c :: t) = c :: t := List.dropWhile_cons_of_neg (by simp [h])

@[simp] theorem trimEnd_nil : trimEnd [] = [] := rfl

/-- The last character goes first. -/
theorem trimEnd_concat (t : Text) (c : Char) :
    trimEnd (t ++ [c]) = if isSpace c then trimEnd t else t ++ [c] := by
  simp only [trimEnd, dropEndWhile, List.reverse_append, List.reverse_singleton,
    List.singleton_append, List.dropWhile_cons]
  split
  · rfl
  · simp

/-- A character in front is in the way of trimming the end, unless all is white space. -/
theorem trimEnd_cons (c : Char) (t : Text) :
    trimEnd (c :: t) = if trimEnd t = [] ∧ isSpace c then [] else c :: trimEnd t := by
  induction t using List.reverseRecOn with
  | nil =>
    have h := trimEnd_concat [] c
    simp only [List.nil_append, trimEnd_nil] at h
    simpa using h
  | append_singleton t d ih =>
    rw [← List.cons_append, trimEnd_concat, trimEnd_concat, ih]
    by_cases hd : isSpace d
    · simp [hd]
    · simp [hd]

theorem trimEnd_cons_of_not_space {c : Char} (h : isSpace c = false) (t : Text) :
    trimEnd (c :: t) = c :: trimEnd t := by
  rw [trimEnd_cons, h]
  simp

theorem trimEnd_of_spaces {t : Text} (h : spaces t) : trimEnd t = [] := by
  induction t with
  | nil => rfl
  | cons c t ih =>
    have hct := spaces_iff.1 h
    have ht : trimEnd t = [] := ih (spaces_iff.2 fun x hx => hct x (List.mem_cons_of_mem _ hx))
    rw [trimEnd_cons, ht, if_pos ⟨rfl, hct c List.mem_cons_self⟩]

/-- What stands in front is out of reach when it does not end in white space. -/
theorem trimEnd_append {s : Text} (h : ∀ c ∈ s.getLast?, isSpace c = false) (t : Text) :
    trimEnd (s ++ t) = s ++ trimEnd t := by
  induction s with
  | nil => rfl
  | cons c s ih =>
    cases s with
    | nil => exact trimEnd_cons_of_not_space (h c rfl) t
    | cons d s =>
      have htail : trimEnd (d :: s ++ t) = d :: s ++ trimEnd t := ih (by simpa using h)
      rw [List.cons_append, trimEnd_cons, htail]
      simp

theorem trimEnd_append_spaces (t : Text) {back : Text} (h : spaces back) :
    trimEnd (t ++ back) = trimEnd t := by
  induction t with
  | nil => exact trimEnd_of_spaces h
  | cons c t ih => rw [List.cons_append, trimEnd_cons, trimEnd_cons, ih]

theorem exists_append_trimEnd (t : Text) : ∃ back, spaces back ∧ t = trimEnd t ++ back := by
  induction t with
  | nil => exact ⟨[], rfl, rfl⟩
  | cons c t ih =>
    obtain ⟨back, hback, ht⟩ := ih
    rw [trimEnd_cons]
    split
    · rename_i h
      refine ⟨c :: t, ?_, rfl⟩
      rw [h.1, List.nil_append] at ht
      rw [ht, spaces, List.all_cons, h.2]
      exact hback
    · exact ⟨back, hback, congrArg (c :: ·) ht⟩

theorem trimEnd_trimEnd (t : Text) : trimEnd (trimEnd t) = trimEnd t := by
  obtain ⟨back, hback, ht⟩ := exists_append_trimEnd t
  conv_rhs => rw [ht, trimEnd_append_spaces _ hback]

theorem trimStart_trimEnd (t : Text) : trimStart (trimEnd t) = trimEnd (trimStart t) := by
  induction t with
  | nil => rfl
  | cons c t ih =>
    by_cases hc : isSpace c
    · rw [trimStart_cons_of_space hc, trimEnd_cons, ← ih]
      split
      · rename_i h
        rw [h.1]
      · exact trimStart_cons_of_space hc _
    · rw [Bool.not_eq_true] at hc
      rw [trimStart_cons hc, trimEnd_cons_of_not_space hc, trimStart_cons hc]

/-! ### Trimming both ends -/

theorem trim_trimEnd (t : Text) : trim (trimEnd t) = trim t := by
  rw [trim, trimStart_trimEnd, trimEnd_trimEnd]
  rfl

theorem trim_of_spaces {t : Text} (h : spaces t) : trim t = [] := by
  have hstart := trimStart_append h []
  rw [List.append_nil] at hstart
  rw [trim, hstart]
  rfl

/-- White space in front of a text that starts with something else. -/
theorem trim_append_cons {front : Text} (hfront : spaces front) {c : Char}
    (hc : isSpace c = false) (t : Text) : trim (front ++ c :: t) = c :: trimEnd t := by
  rw [trim, trimStart_append hfront, trimStart_cons hc, trimEnd_cons_of_not_space hc]

/-- The text `s`, perhaps with white space on either side. -/
def Padded (s t : Text) : Prop :=
  ∃ front back, spaces front ∧ spaces back ∧ t = front ++ (s ++ back)

theorem Padded.refl (s : Text) : Padded s s := ⟨[], [], rfl, rfl, by simp⟩

theorem padded_trim (t : Text) : Padded (trim t) t := by
  obtain ⟨back, hback, ht⟩ := exists_append_trimEnd (trimStart t)
  refine ⟨t.takeWhile isSpace, back, List.all_takeWhile, hback, ?_⟩
  rw [trim, ← ht]
  exact List.takeWhile_append_dropWhile.symm

/-- A text without white space is what is left of it when it is padded and trimmed. -/
theorem trim_eq_iff {s t : Text} (h : ∀ c ∈ s, isSpace c = false) :
    trim t = s ↔ Padded s t := by
  constructor
  · rintro rfl
    exact padded_trim t
  · rintro ⟨front, back, hfront, hback, rfl⟩
    cases s with
    | nil =>
      refine trim_of_spaces ?_
      rw [spaces, List.all_append, Bool.and_eq_true]
      exact ⟨hfront, hback⟩
    | cons c s =>
      have hlast : ∀ x ∈ (c :: s).getLast?, isSpace x = false :=
        fun x hx => h x (List.mem_of_getLast? hx)
      have htrim := trimEnd_append hlast back
      rw [trimEnd_of_spaces hback, List.append_nil] at htrim
      rw [trim, trimStart_append hfront, List.cons_append,
        trimStart_cons (h c List.mem_cons_self), ← List.cons_append, htrim]

end PageBlocks.Text
