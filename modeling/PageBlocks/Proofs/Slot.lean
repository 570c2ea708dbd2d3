import Mathlib.Data.List.Infix
import PageBlocks.Handler.Declared
import PageBlocks.Proofs.Pieces

/-!
# Slots

The text of a `replace` block is filled at once. A slot cuts it into what stands before and what
stands behind, and neither sees the other, nor what the slot is filled with:

    {cont   {content}   ent}
    filled  content     filled

For the word of a slot has a brace at its start and nowhere else, so no slot that starts in the text
before can reach into this one. `Slot.recognise_append` says so, and all about filling follows from
it.
-/

namespace PageBlocks

namespace Slot

/-- What stands behind the brace that the word of a slot starts with. -/
theorem exists_text (s : Slot) : ∃ w, s.text = '\x7b' :: w ∧ '\x7b' ∉ w := by
  cases s <;> exact ⟨_, rfl, by decide⟩

/-- No text starts with the words of two slots. -/
theorem eq_of_append {s s' : Slot} {t t' : Text} (h : s.text ++ t = s'.text ++ t') : s = s' := by
  have hletters : s.text.take 2 = s'.text.take 2 := by
    have htake : ∀ (s : Slot) (t : Text), (s.text ++ t).take 2 = s.text.take 2 := by
      intro s t
      cases s <;> rfl
    rw [← htake s t, h, htake]
  revert hletters
  cases s <;> cases s' <;> decide

theorem at?_eq_some_iff {t : Text} {n : Nat} {s : Slot} :
    at? t = some (n, s) ↔ n = s.text.length ∧ ∃ u, t = s.text ++ u := by
  have hword : ∀ {s' : Slot} {found : Nat × Slot},
      (if Text.startsWith s'.text t then some (s'.text.length, s') else none) = some found ↔
        found = (s'.text.length, s') ∧ ∃ u, t = s'.text ++ u := by
    intro s' found
    rw [Option.ite_none_right_eq_some, Text.startsWith_iff, Option.some.injEq, eq_comm, and_comm]
  constructor
  · intro h
    obtain ⟨s', -, hs'⟩ := List.exists_of_findSome?_eq_some h
    obtain ⟨hfound, hstarts⟩ := hword.1 hs'
    obtain ⟨rfl, rfl⟩ := Prod.mk.inj hfound
    exact ⟨rfl, hstarts⟩
  · rintro ⟨rfl, u, hu⟩
    have hsome : (at? t).isSome = true := by
      refine List.findSome?_isSome_iff.2 ⟨s, by cases s <;> simp, ?_⟩
      rw [hword.2 ⟨rfl, u, hu⟩]
      rfl
    obtain ⟨found, hfound⟩ := Option.isSome_iff_exists.1 hsome
    obtain ⟨s', -, hs'⟩ := List.exists_of_findSome?_eq_some hfound
    obtain ⟨rfl, u', hu'⟩ := hword.1 hs'
    rw [hfound, eq_of_append (hu.symm.trans hu')]

theorem at?_append (s : Slot) (t : Text) : at? (s.text ++ t) = some (s.text.length, s) :=
  at?_eq_some_iff.2 ⟨rfl, t, rfl⟩

theorem text_ne_nil (s : Slot) : s.text ≠ [] := by
  obtain ⟨w, hw, -⟩ := s.exists_text
  rw [hw]
  exact List.cons_ne_nil _ _

theorem picks_recognise (t : Text) : Text.Picks at? t (Text.recognise at? t) := by
  refine Text.picks_recognise (fun t n s h => ?_) t
  obtain ⟨rfl, u, rfl⟩ := at?_eq_some_iff.1 h
  exact ⟨List.length_pos_iff.2 s.text_ne_nil, by simp⟩

/-- A slot that does not start in a text does not start in it either when another slot follows. -/
theorem at?_append_eq_none {c : Char} {t : Text} (h : at? (c :: t) = none) (s : Slot) (u : Text) :
    at? (c :: (t ++ (s.text ++ u))) = none := by
  rw [Option.eq_none_iff_forall_ne_some] at h ⊢
  rintro ⟨n, s'⟩ hfound
  obtain ⟨-, v, hv⟩ := at?_eq_some_iff.1 hfound
  rw [← List.cons_append] at hv
  rcases List.append_eq_append_iff.1 hv with ⟨inside, hs', hinside⟩ | ⟨behind, ht, -⟩
  · cases inside with
    | nil => exact h _ (at?_eq_some_iff.2 ⟨rfl, [], by simpa using hs'.symm⟩)
    | cons d inside =>
      -- the word of `s'` would have to go on with the brace of `s`
      obtain ⟨w, hw, -⟩ := s.exists_text
      obtain ⟨w', hw', hbrace⟩ := s'.exists_text
      obtain rfl : '\x7b' = d := by
        rw [hw] at hinside
        exact (List.cons.inj hinside).1
      rw [hw'] at hs'
      rw [(List.cons.inj hs').2] at hbrace
      simp at hbrace
  · exact h _ (at?_eq_some_iff.2 ⟨rfl, behind, ht⟩)

/-- The pieces of a text with a slot in it are those of the text before, the slot, and those of the
text behind. -/
theorem recognise_append (t₁ : Text) (s : Slot) (t₂ : Text) :
    Text.recognise at? (t₁ ++ (s.text ++ t₂)) =
      Text.recognise at? t₁ ++ .found s.text s :: Text.recognise at? t₂ := by
  have hpicks := picks_recognise t₁
  generalize Text.recognise at? t₁ = ps at hpicks ⊢
  induction hpicks with
  | nil => exact Text.recognise_append_of_some s.text_ne_nil (at?_append s t₂)
  | @char c t later free picks ih =>
    rw [List.cons_append, Text.recognise_cons_of_none (at?_append_eq_none free s t₂), ih]
    rfl
  | @found source t s' later nonempty starts picks ih =>
    obtain ⟨hlength, u, hu⟩ := at?_eq_some_iff.1 starts
    obtain ⟨rfl, rfl⟩ := List.append_inj hu hlength
    rw [List.append_assoc, Text.recognise_append_of_some nonempty (at?_append s' _), ih]
    rfl

end Slot

namespace Handler

variable (ctx : Context) (d : Directive) (content : Text)

/-- A slot is filled, and what stands before and behind it is filled on its own. -/
theorem fillSlots_append (t₁ : Text) (s : Slot) (t₂ : Text) :
    fillSlots ctx d content (t₁ ++ s.text ++ t₂) =
      fillSlots ctx d content t₁ ++ s.value ctx d content ++ fillSlots ctx d content t₂ := by
  rw [fillSlots, List.append_assoc, Slot.recognise_append, List.flatMap_append,
    List.flatMap_cons, ← List.append_assoc]
  rfl

/-- A text without slots stays as it is. -/
theorem fillSlots_of_no_slot {t : Text} (h : ∀ s : Slot, ¬ s.text <:+: t) :
    fillSlots ctx d content t = t := by
  rw [fillSlots]
  have hpicks := Slot.picks_recognise t
  generalize Text.recognise Slot.at? t = ps at hpicks ⊢
  induction hpicks with
  | nil => rfl
  | @char c t later free picks ih =>
    rw [List.flatMap_cons, ih fun s hs => h s (hs.trans (List.suffix_cons c t).isInfix)]
    rfl
  | @found source t s later nonempty starts picks ih =>
    obtain ⟨-, u, hu⟩ := Slot.at?_eq_some_iff.1 starts
    exact absurd (List.prefix_append s.text u).isInfix (hu ▸ h s)

/-- A `replace` block fills its text in one pass: a text without slots stays as it is, and a slot
anywhere is filled with its value, whatever stands around it and whatever it is filled with. -/
theorem replace_fills_at_once (name : Text) :
    (∀ text, (replace name text).handle ctx d content =
      ⟨.ok (.replace (fillSlots ctx d content text)), []⟩) ∧
    (∀ t, ¬ "\x7bcontent\x7d".toList <:+: t → ¬ "\x7bargs\x7d".toList <:+: t →
      ¬ "\x7btype\x7d".toList <:+: t → ¬ "\x7benvironment\x7d".toList <:+: t →
      fillSlots ctx d content t = t) ∧
    ∀ t₁ t₂,
      let fill := fillSlots ctx d content
      fill (t₁ ++ "\x7bcontent\x7d".toList ++ t₂) = fill t₁ ++ content ++ fill t₂ ∧
      fill (t₁ ++ "\x7bargs\x7d".toList ++ t₂) = fill t₁ ++ d.args ++ fill t₂ ∧
      fill (t₁ ++ "\x7btype\x7d".toList ++ t₂) = fill t₁ ++ d.type ++ fill t₂ ∧
      fill (t₁ ++ "\x7benvironment\x7d".toList ++ t₂) =
        fill t₁ ++ ctx.environment.getD [] ++ fill t₂ := by
  refine ⟨fun text => rfl, fun t hcontent hargs htype henvironment => ?_, fun t₁ t₂ => ?_⟩
  · refine fillSlots_of_no_slot ctx d content fun s => ?_
    cases s with
    | content => exact hcontent
    | args => exact hargs
    | type => exact htype
    | environment => exact henvironment
  · exact ⟨fillSlots_append ctx d content t₁ .content t₂,
      fillSlots_append ctx d content t₁ .args t₂,
      fillSlots_append ctx d content t₁ .type t₂,
      fillSlots_append ctx d content t₁ .environment t₂⟩

/-- Half slots on both sides do not come together, and neither does the slot that is filled in. -/
theorem replace_fills_at_once_halfSlots :
    fillSlots ctx d "\x7bargs\x7d".toList "\x7bcont\x7bcontent\x7dent\x7d".toList =
      "\x7bcont\x7bargs\x7dent\x7d".toList := by
  obtain ⟨-, hplain, hfilled⟩ := replace_fills_at_once ctx d "\x7bargs\x7d".toList []
  have hbefore := hplain "\x7bcont".toList (by decide) (by decide) (by decide) (by decide)
  have hbehind := hplain "ent\x7d".toList (by decide) (by decide) (by decide) (by decide)
  have hslot := (hfilled "\x7bcont".toList "ent\x7d".toList).1
  rw [hbefore, hbehind] at hslot
  exact hslot

end Handler

end PageBlocks
