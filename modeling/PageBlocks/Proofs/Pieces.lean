import Mathlib.Data.List.Basic
import PageBlocks.Text.Recognise

/-!
# What is picked out of a text

`Text.recognise` keeps count of the characters that are taken already. `Text.Picks` says what comes
of it without any count: a piece that is found is passed over as a whole, and where nothing is found
a single character is. What is proved about pieces goes by induction on this.

    a b ┌─found─┐ c ┌─found─┐
    │ │           │
    char          char
-/

namespace PageBlocks.Text

variable {α : Type} {at? : Text → Option (Nat × α)}

/-- These are the pieces of the text, from left to right. -/
inductive Picks (at? : Text → Option (Nat × α)) : Text → List (Piece α) → Prop where
  | nil : Picks at? [] []
  | char {c : Char} {t : Text} {later : List (Piece α)} (free : at? (c :: t) = none)
      (picks : Picks at? t later) : Picks at? (c :: t) (.char c :: later)
  | found {source t : Text} {a : α} {later : List (Piece α)} (nonempty : source ≠ [])
      (starts : at? (source ++ t) = some (source.length, a)) (picks : Picks at? t later) :
      Picks at? (source ++ t) (.found source a :: later)

/-- Characters that are taken are passed over. -/
theorem recogniseFrom_eq_drop (busy : Nat) (t : Text) :
    recogniseFrom at? busy t = recognise at? (t.drop busy) := by
  induction t generalizing busy with
  | nil => cases busy <;> rfl
  | cons c t ih =>
    cases busy with
    | zero => rfl
    | succ busy => exact ih busy

theorem recognise_cons_of_none {c : Char} {t : Text} (h : at? (c :: t) = none) :
    recognise at? (c :: t) = .char c :: recognise at? t := by
  rw [recognise, recogniseFrom, h]
  rfl

theorem recognise_append_of_some {source t : Text} {a : α} (hne : source ≠ [])
    (h : at? (source ++ t) = some (source.length, a)) :
    recognise at? (source ++ t) = .found source a :: recognise at? t := by
  obtain ⟨c, source, rfl⟩ := List.exists_cons_of_ne_nil hne
  rw [List.cons_append] at h ⊢
  rw [recognise, recogniseFrom, h]
  simp [recogniseFrom_eq_drop]

/-- There is only one way to take a text apart. -/
theorem Picks.eq_recognise {t : Text} {ps : List (Piece α)} (h : Picks at? t ps) :
    ps = recognise at? t := by
  induction h with
  | nil => rfl
  | char free picks ih => rw [recognise_cons_of_none free, ih]
  | found nonempty starts picks ih => rw [recognise_append_of_some nonempty starts, ih]

/-- A recogniser that takes at least one character, and none that is not there, picks the pieces. -/
theorem picks_recognise (hat : ∀ t n a, at? t = some (n, a) → 0 < n ∧ n ≤ t.length) (t : Text) :
    Picks at? t (recognise at? t) := by
  induction hn : t.length using Nat.strongRecOn generalizing t with
  | ind n ih =>
    cases t with
    | nil => exact .nil
    | cons c t =>
      rw [recognise, recogniseFrom]
      split
      · rename_i hfree
        exact .char hfree (ih _ (by simp [← hn]) t rfl)
      · rename_i k a hfound
        obtain ⟨hpos, hle⟩ := hat _ _ _ hfound
        obtain ⟨k, rfl⟩ : ∃ i, k = i + 1 := ⟨k - 1, by omega⟩
        have hlength : (c :: t.take k).length = k + 1 := by
          rw [List.length_cons, List.length_take_of_le (by simpa using hle)]
        have hsplit : c :: t = (c :: t.take k) ++ t.drop k := by simp
        rw [hsplit, ← hlength] at hfound
        have hshorter : (t.drop k).length < n := by
          rw [← hn, List.length_drop, List.length_cons]
          omega
        rw [recogniseFrom_eq_drop, Nat.add_sub_cancel]
        conv => arg 2; rw [hsplit]
        exact .found (List.cons_ne_nil _ _) hfound (ih _ hshorter _ rfl)

end PageBlocks.Text
