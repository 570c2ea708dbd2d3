import Mathlib.Data.List.Basic
import PageBlocks.Text.Basic

/-!
# Pieces between separators

A text is split at a separator into pieces that do not hold it, and the pieces joined with the
separator between them are the text again. So splitting is the way to tell what was joined.
-/

namespace PageBlocks.Text

variable {sep : Char}

theorem splitOn_ne_nil (sep : Char) (t : Text) : splitOn sep t ≠ [] := by
  cases t with
  | nil => exact List.cons_ne_nil _ _
  | cons c t =>
    rw [splitOn]
    split
    · exact List.cons_ne_nil _ _
    · split <;> exact List.cons_ne_nil _ _

theorem splitOn_cons_self (t : Text) : splitOn sep (sep :: t) = [] :: splitOn sep t := by
  rw [splitOn]
  cases h : splitOn sep t with
  | nil => exact absurd h (splitOn_ne_nil sep t)
  | cons part parts => exact if_pos rfl

theorem splitOn_cons_of_ne {c : Char} (hc : c ≠ sep) {t part : Text} {parts : List Text}
    (h : splitOn sep t = part :: parts) : splitOn sep (c :: t) = (c :: part) :: parts := by
  rw [splitOn, h]
  exact if_neg hc

theorem splitOn_append_cons (s t : Text) :
    splitOn sep (s ++ sep :: t) = splitOn sep s ++ splitOn sep t := by
  induction s with
  | nil => exact splitOn_cons_self t
  | cons c s ih =>
    rw [List.cons_append]
    by_cases hc : c = sep
    · rw [hc, splitOn_cons_self, splitOn_cons_self, ih]
      rfl
    · obtain ⟨part, parts, hs⟩ := List.exists_cons_of_ne_nil (splitOn_ne_nil sep s)
      rw [hs, List.cons_append] at ih
      rw [splitOn_cons_of_ne hc hs, splitOn_cons_of_ne hc ih]
      rfl

theorem splitOn_of_notMem {t : Text} (h : sep ∉ t) : splitOn sep t = [t] := by
  induction t with
  | nil => rfl
  | cons c t ih =>
    rw [List.mem_cons, not_or] at h
    exact splitOn_cons_of_ne (Ne.symm h.1) (ih h.2)

theorem notMem_of_mem_splitOn {t piece : Text} (h : piece ∈ splitOn sep t) : sep ∉ piece := by
  induction t generalizing piece with
  | nil =>
    rw [splitOn, List.mem_singleton] at h
    rw [h]
    exact List.not_mem_nil
  | cons c t ih =>
    by_cases hc : c = sep
    · rw [hc, splitOn_cons_self, List.mem_cons] at h
      obtain rfl | h := h
      · exact List.not_mem_nil
      · exact ih h
    · obtain ⟨part, parts, ht⟩ := List.exists_cons_of_ne_nil (splitOn_ne_nil sep t)
      rw [splitOn_cons_of_ne hc ht, List.mem_cons] at h
      rw [ht] at ih
      obtain rfl | h := h
      · rw [List.mem_cons, not_or]
        exact ⟨Ne.symm hc, ih List.mem_cons_self⟩
      · exact ih (List.mem_cons_of_mem _ h)

/-- What is joined in front of more. -/
theorem join_cons {parts : List Text} (h : parts ≠ []) (sep part : Text) :
    join sep (part :: parts) = part ++ sep ++ join sep parts := by
  obtain ⟨p, ps, rfl⟩ := List.exists_cons_of_ne_nil h
  rfl

/-- Nothing is joined but the parts and what stands between them. -/
theorem forall_mem_join {sep : Text} {parts : List Text} {P : Char → Prop}
    (hsep : ∀ c ∈ sep, P c) (hparts : ∀ part ∈ parts, ∀ c ∈ part, P c) :
    ∀ c ∈ join sep parts, P c := by
  induction parts with
  | nil => simp [join]
  | cons part parts ih =>
    cases parts with
    | nil => exact hparts part List.mem_cons_self
    | cons p ps =>
      rw [join_cons (List.cons_ne_nil p ps), List.append_assoc]
      intro c hc
      rcases List.mem_append.1 hc with hc | hc
      · exact hparts part List.mem_cons_self c hc
      · rcases List.mem_append.1 hc with hc | hc
        · exact hsep c hc
        · exact ih (fun x hx => hparts x (List.mem_cons_of_mem _ hx)) c hc

theorem mem_join_of_mem {sep part : Text} {parts : List Text} {c : Char} (hpart : part ∈ parts)
    (hc : c ∈ part) : c ∈ join sep parts := by
  induction parts with
  | nil => cases hpart
  | cons first parts ih =>
    cases parts with
    | nil =>
      obtain rfl := List.mem_singleton.1 hpart
      exact hc
    | cons p ps =>
      rw [join_cons (List.cons_ne_nil p ps), List.mem_append]
      rcases List.mem_cons.1 hpart with rfl | hpart
      · exact Or.inl (List.mem_append_left _ hc)
      · exact Or.inr (ih hpart)

/-- The pieces of a text make it up. -/
theorem join_splitOn (sep : Char) (t : Text) : join [sep] (splitOn sep t) = t := by
  induction t with
  | nil => rfl
  | cons c t ih =>
    have hne := splitOn_ne_nil sep t
    by_cases hc : c = sep
    · rw [hc, splitOn_cons_self, join_cons hne, ih]
      rfl
    · obtain ⟨part, parts, ht⟩ := List.exists_cons_of_ne_nil hne
      rw [splitOn_cons_of_ne hc ht]
      rw [ht] at ih
      cases parts with
      | nil => exact congrArg (c :: ·) ih
      | cons p ps => exact congrArg (c :: ·) ih

/-- Pieces that do not hold the separator can be told from the text that they make up. -/
theorem splitOn_join {pieces : List Text} (hne : pieces ≠ []) (h : ∀ piece ∈ pieces, sep ∉ piece) :
    splitOn sep (join [sep] pieces) = pieces := by
  induction pieces with
  | nil => exact absurd rfl hne
  | cons piece pieces ih =>
    have hpiece : splitOn sep piece = [piece] := splitOn_of_notMem (h piece List.mem_cons_self)
    cases pieces with
    | nil => exact hpiece
    | cons p ps =>
      have hlater := ih (List.cons_ne_nil p ps) fun x hx => h x (List.mem_cons_of_mem _ hx)
      rw [join_cons (List.cons_ne_nil p ps), List.append_assoc, List.singleton_append,
        splitOn_append_cons, hpiece, hlater]
      rfl

end PageBlocks.Text
