import Mathlib.Data.List.Forall2
import PageBlocks.Directive.Reader
import PageBlocks.Proofs.Comment
import PageBlocks.Proofs.Line
import PageBlocks.Proofs.Padding
import PageBlocks.Proofs.Separator

/-!
# The bodies of directives

What stands behind the word and the colon of an opening directive is said here without a word about
how it is read:

    remove  ( dev , test )   args
    type    list             rest
            labels: dev, test

Each step of the reader comes with a pair of lemmas: what the grammar allows is read to its parts,
and what is read is what the grammar allows (`readBody_append`, `of_readBody`).
-/

namespace PageBlocks

/-! ### One reader behind another -/

section Bind

variable {ε α β : Type} {x : Except ε α} {f : α → Except ε β}

theorem ok_bind_iff {b : β} : x >>= f = .ok b ↔ ∃ a, x = .ok a ∧ f a = .ok b := by
  cases x <;> simp [bind, Except.bind]

theorem error_bind_iff {e : ε} :
    x >>= f = .error e ↔ x = .error e ∨ ∃ a, x = .ok a ∧ f a = .error e := by
  cases x <;> simp [bind, Except.bind]

end Bind

/-! ### The characters of names -/

theorem isAttributeChar_of_isNameChar {c : Char} (h : isNameChar c = true) :
    isAttributeChar c = true := by simp [isAttributeChar, h]

theorem isAttributeChar_of_isLabelChar {c : Char} (h : isLabelChar c = true) :
    isAttributeChar c = true := by
  simp only [isLabelChar, Bool.or_eq_true] at h
  rcases h with h | h
  · exact isAttributeChar_of_isNameChar h
  · simp [isAttributeChar, h]

theorem letter_range {c : Char} (h : c.isAlpha = true) :
    65 ≤ c.toNat ∧ c.toNat ≤ 90 ∨ 97 ≤ c.toNat ∧ c.toNat ≤ 122 := by
  change (c.isUpper || c.isLower) = true at h
  rw [Bool.or_eq_true] at h
  rcases h with h | h
  · exact Or.inl (of_decide_eq_true h)
  · obtain ⟨hfrom, hto⟩ := Bool.and_eq_true_iff.1 h
    exact Or.inr ⟨of_decide_eq_true hfrom, of_decide_eq_true hto⟩

/-- The characters of a name are ASCII characters behind most of the signs. -/
theorem range_of_isAttributeChar {c : Char} (h : isAttributeChar c = true) :
    45 ≤ c.toNat ∧ c.toNat ≤ 122 := by
  simp only [isAttributeChar, isNameChar, Char.isAlphanum, Char.isDigit, Bool.or_eq_true,
    Bool.and_eq_true, decide_eq_true_eq, beq_iff_eq] at h
  rcases h with (((((h | h) | h) | h) | h) | h)
  · have hletter := letter_range h
    omega
  · change 48 ≤ c.toNat ∧ c.toNat ≤ 57 at h
    omega
  all_goals subst h; decide

/-- No part of a directive that has a name in it holds white space or what sets the parts apart. -/
theorem of_isAttributeChar {c : Char} (h : isAttributeChar c = true) :
    Text.isSpace c = false ∧ c ≠ ',' ∧ c ≠ '(' ∧ c ≠ ')' ∧ c ≠ '[' ∧ c ≠ ']' := by
  refine ⟨?_, ?_, ?_, ?_, ?_, ?_⟩
  · have hrange := range_of_isAttributeChar h
    simp only [Text.isSpace, Bool.or_eq_false_iff, Bool.and_eq_false_iff, decide_eq_false_iff_not,
      beq_eq_false_iff_ne]
    omega
  all_goals rintro rfl; revert h; decide

theorem not_space_of_isNameChar {c : Char} (h : isNameChar c = true) : Text.isSpace c = false :=
  (of_isAttributeChar (isAttributeChar_of_isNameChar h)).1

namespace Directive

/-! ### The parts -/

/-- A block type: a name, or the name of an attribute between square brackets. -/
inductive IsType : Text → Prop where
  | name {t : Text} (nonempty : t ≠ []) (chars : ∀ c ∈ t, isNameChar c = true) : IsType t
  | bracketed {a : Text} (nonempty : a ≠ []) (chars : ∀ c ∈ a, isAttributeChar c = true) :
      IsType ('[' :: (a ++ [']']))

/-- The label of an environment. -/
structure IsLabel (label : Text) : Prop where
  nonempty : label ≠ []
  chars : ∀ c ∈ label, isLabelChar c = true

/-- A label, perhaps with white space around it. -/
def Labels (label piece : Text) : Prop := IsLabel label ∧ Text.Padded label piece

/-- What stands behind the type, and the environments that are meant by it: nothing, or parentheses
with nothing but white space in them, for none; labels with commas between them, in parentheses
with white space wherever one likes, or behind a colon without any. -/
inductive Targets : (list : Text) → (labels : List Text) → Prop where
  | absent : Targets [] []
  | blank {inside : Text} (spaces : Text.spaces inside) : Targets ('(' :: (inside ++ [')'])) []
  | inParentheses {labels pieces : List Text} (nonempty : labels ≠ [])
      (padded : List.Forall₂ Labels labels pieces) :
      Targets ('(' :: (Text.join [','] pieces ++ [')'])) labels
  | behindColon {labels : List Text} (nonempty : labels ≠ []) (usable : ∀ l ∈ labels, IsLabel l) :
      Targets (':' :: Text.join [','] labels) labels

/-- What stands behind the targets: nothing, or white space and anything. -/
def IsRest (rest : Text) : Prop := ∀ c ∈ rest.head?, Text.isSpace c = true

/-! ### Types -/

theorem IsType.ne_nil {type : Text} (h : IsType type) : type ≠ [] := by
  cases h with
  | name nonempty chars => exact nonempty
  | bracketed nonempty chars => exact List.cons_ne_nil _ _

theorem bracketed?_eq_some_iff {name a : Text} :
    bracketed? name = some a ↔ name = '[' :: (a ++ [']']) := by
  unfold bracketed?
  split
  · rename_i rest
    rw [Text.before?_eq_some_iff, List.cons.injEq]
    simp
  · rename_i hname
    constructor
    · intro h
      cases h
    · intro h
      exact absurd h (hname _)

theorem isBlockType_iff {type : Text} : isBlockType type = true ↔ IsType type := by
  unfold isBlockType
  split
  · rename_i a ha
    rw [bracketed?_eq_some_iff] at ha
    subst ha
    simp only [Bool.and_eq_true, Bool.not_eq_true', List.isEmpty_eq_false_iff, List.all_eq_true]
    constructor
    · rintro ⟨hne, hchars⟩
      exact .bracketed hne hchars
    · intro h
      generalize ht : '[' :: (a ++ [']']) = t at h
      cases h with
      | name nonempty chars =>
        have hbracket := chars '[' (by simp [← ht])
        exact absurd hbracket (by decide)
      | bracketed nonempty chars =>
        obtain ⟨rfl, -⟩ := List.append_inj' (List.cons.inj ht).2 rfl
        exact ⟨nonempty, chars⟩
  · rename_i hnone
    simp only [Bool.and_eq_true, Bool.not_eq_true', List.isEmpty_eq_false_iff, List.all_eq_true]
    constructor
    · rintro ⟨hne, hchars⟩
      exact .name hne hchars
    · intro h
      cases h with
      | name nonempty chars => exact ⟨nonempty, chars⟩
      | bracketed nonempty chars =>
        rw [bracketed?_eq_some_iff.2 rfl] at hnone
        cases hnone

/-- A type is read up to its end. -/
theorem readType_append {type r : Text} (h : IsType type)
    (hr : ∀ c ∈ r.head?, isNameChar c = false) : readType (type ++ r) = .ok (type, r) := by
  cases h with
  | name nonempty chars =>
    obtain ⟨c, cs, rfl⟩ := List.exists_cons_of_ne_nil nonempty
    obtain ⟨htake, hdrop⟩ := Text.takeWhile_run chars hr
    unfold readType
    split
    · rename_i hbracket
      rw [List.cons_append, List.cons.injEq] at hbracket
      have hc := chars c List.mem_cons_self
      rw [hbracket.1] at hc
      exact absurd hc (by decide)
    · rw [htake, hdrop]
  | @bracketed a nonempty chars =>
    have hcut : Text.cutAt? (· == ']') ('[' :: (a ++ [']']) ++ r) = some ('[' :: a, r) := by
      refine Text.cutAt?_eq_some_iff.2 ⟨']', by simp, rfl, ?_⟩
      intro c hc
      rcases List.mem_cons.1 hc with rfl | hc
      · rfl
      · simpa using (of_isAttributeChar (chars c hc)).2.2.2.2.2
    rw [List.cons_append] at hcut ⊢
    simp only [readType, hcut, List.cons_append]

theorem of_readType {body type r : Text} (h : readType body = .ok (type, r)) :
    body = type ++ r := by
  unfold readType at h
  split at h
  · split at h
    · cases h
    · rename_i name rest hcut
      cases h
      obtain ⟨c, hbody, hc, -⟩ := Text.cutAt?_eq_some_iff.1 hcut
      rw [beq_iff_eq] at hc
      rw [hbody, hc]
      simp
  · cases h
    exact List.takeWhile_append_dropWhile.symm

/-! ### Targets -/

theorem IsLabel.not_space {label : Text} (h : IsLabel label) :
    ∀ c ∈ label, Text.isSpace c = false ∧ c ≠ ',' ∧ c ≠ ')' := by
  intro c hc
  have hchar := of_isAttributeChar (isAttributeChar_of_isLabelChar (h.chars c hc))
  exact ⟨hchar.1, hchar.2.1, hchar.2.2.2.1⟩

theorem readLabel_eq_ok_iff {piece label : Text} :
    readLabel piece = .ok label ↔ Labels label piece := by
  unfold readLabel
  dsimp only
  constructor
  · intro h
    split at h
    · cases h
    · rename_i hempty
      split at h
      · rename_i hchars
        cases h
        exact ⟨⟨by simpa using hempty, List.all_eq_true.1 hchars⟩, Text.padded_trim piece⟩
      · cases h
  · rintro ⟨hlabel, hpadded⟩
    rw [(Text.trim_eq_iff fun c hc => (hlabel.not_space c hc).1).2 hpadded,
      if_neg (by simpa using hlabel.nonempty), if_pos (List.all_eq_true.2 hlabel.chars)]

/-- Pieces that are padded labels hold neither a comma nor a parenthesis. -/
theorem ne_of_labels {labels pieces : List Text} (h : List.Forall₂ Labels labels pieces) :
    ∀ piece ∈ pieces, ∀ c ∈ piece, c ≠ ',' ∧ c ≠ ')' := by
  have hspaces : ∀ {t : Text}, Text.spaces t → ∀ c ∈ t, c ≠ ',' ∧ c ≠ ')' := by
    intro t ht c hc
    have hc := Text.spaces_iff.1 ht c hc
    constructor <;> rintro rfl <;> revert hc <;> decide
  induction h with
  | nil => simp
  | @cons label piece labels pieces hpiece _ ih =>
    obtain ⟨hlabel, front, back, hfront, hback, rfl⟩ := hpiece
    intro x hx c hc
    rcases List.mem_cons.1 hx with rfl | hx
    · rcases List.mem_append.1 hc with hc | hc
      · exact hspaces hfront c hc
      · rcases List.mem_append.1 hc with hc | hc
        · exact (hlabel.not_space c hc).2
        · exact hspaces hback c hc
    · exact ih x hx c hc

/-- Something other than white space is in every list that is not empty. -/
theorem not_spaces_of_labels {labels pieces : List Text} (hne : labels ≠ [])
    (h : List.Forall₂ Labels labels pieces) : ¬ Text.spaces (Text.join [','] pieces) := by
  intro hspaces
  cases h with
  | nil => exact hne rfl
  | @cons label piece labels pieces hpiece _ =>
    obtain ⟨hlabel, front, back, -, -, rfl⟩ := hpiece
    obtain ⟨c, cs, rfl⟩ := List.exists_cons_of_ne_nil hlabel.nonempty
    have hmem : c ∈ Text.join [','] ((front ++ (c :: cs ++ back)) :: pieces) :=
      Text.mem_join_of_mem List.mem_cons_self (by simp)
    have hspace := Text.spaces_iff.1 hspaces c hmem
    rw [(hlabel.not_space c List.mem_cons_self).1] at hspace
    cases hspace

theorem not_space_of_mem_join {labels : List Text} (h : ∀ l ∈ labels, IsLabel l) :
    ∀ c ∈ Text.join [','] labels, Text.isSpace c = false :=
  Text.forall_mem_join (List.forall_mem_singleton.2 rfl) fun label hlabel c hc =>
    ((h label hlabel).not_space c hc).1

theorem labels_self {labels : List Text} (h : ∀ l ∈ labels, IsLabel l) :
    List.Forall₂ Labels labels labels :=
  List.forall₂_same.2 fun l hl => ⟨h l hl, .refl l⟩

/-- Without white space there is nothing around the labels. -/
theorem eq_of_labels {labels pieces : List Text} (h : List.Forall₂ Labels labels pieces)
    (hnone : ∀ piece ∈ pieces, ∀ c ∈ piece, Text.isSpace c = false) :
    pieces = labels ∧ ∀ l ∈ labels, IsLabel l := by
  have hnil : ∀ {t : Text}, Text.spaces t → (∀ c ∈ t, Text.isSpace c = false) → t = [] := by
    intro t ht hnot
    cases t with
    | nil => rfl
    | cons c t =>
      have hc := Text.spaces_iff.1 ht c List.mem_cons_self
      rw [hnot c List.mem_cons_self] at hc
      cases hc
  induction h with
  | nil => simp
  | @cons label piece labels pieces hpiece _ ih =>
    obtain ⟨hlabel, front, back, hfront, hback, rfl⟩ := hpiece
    obtain ⟨rfl, husable⟩ := ih fun x hx => hnone x (List.mem_cons_of_mem _ hx)
    have hchars := hnone _ List.mem_cons_self
    obtain rfl := hnil hfront fun c hc => hchars c (by simp [hc])
    obtain rfl := hnil hback fun c hc => hchars c (by simp [hc])
    refine ⟨by simp, ?_⟩
    intro l hl
    rcases List.mem_cons.1 hl with rfl | hl
    · exact hlabel
    · exact husable l hl

theorem mapM_eq_ok_iff {α β : Type} {f : α → Except Fault β} {as : List α} {bs : List β} :
    as.mapM f = .ok bs ↔ List.Forall₂ (fun b a => f a = .ok b) bs as := by
  induction as generalizing bs with
  | nil => cases bs <;> simp [pure, Except.pure]
  | cons a as ih =>
    simp only [List.mapM_cons, ok_bind_iff, ih, List.forall₂_cons_right_iff]
    constructor
    · rintro ⟨b, hb, later, hlater, h⟩
      exact ⟨b, later, hb, hlater, (Except.ok.inj h).symm⟩
    · rintro ⟨b, later, hb, hlater, rfl⟩
      exact ⟨b, hb, later, hlater, rfl⟩

/-- Labels are read from the padded pieces between the commas. -/
theorem readLabels_eq_ok_iff {list : Text} {labels : List Text} :
    readLabels list = .ok labels ↔
      ∃ pieces, list = Text.join [','] pieces ∧ labels ≠ [] ∧
        List.Forall₂ Labels labels pieces := by
  rw [readLabels, mapM_eq_ok_iff]
  simp only [readLabel_eq_ok_iff]
  constructor
  · intro h
    refine ⟨_, (Text.join_splitOn ',' list).symm, ?_, h⟩
    rintro rfl
    cases hsplit : Text.splitOn ',' list with
    | nil => exact Text.splitOn_ne_nil ',' list hsplit
    | cons piece pieces =>
      rw [hsplit] at h
      cases h
  · rintro ⟨pieces, rfl, hne, h⟩
    have hpieces : pieces ≠ [] := by
      rintro rfl
      cases h
      exact hne rfl
    rw [Text.splitOn_join hpieces fun piece hpiece hcomma =>
      (ne_of_labels h piece hpiece ',' hcomma).1 rfl]
    exact h

/-- Targets are read up to their end. -/
theorem readTargets_append {list rest : Text} {labels : List Text} (h : Targets list labels)
    (hrest : IsRest rest) : readTargets (list ++ rest) = .ok (labels, rest) := by
  have hcut : ∀ {inside : Text}, (∀ c ∈ inside, c ≠ ')') →
      Text.cutAt? (· == ')') (inside ++ [')'] ++ rest) = some (inside, rest) := by
    intro inside hinside
    refine Text.cutAt?_eq_some_iff.2 ⟨')', by simp, rfl, ?_⟩
    intro c hc
    simpa using hinside c hc
  cases h with
  | absent =>
    rw [List.nil_append]
    unfold readTargets
    split
    · exact absurd (hrest '(' rfl) (by decide)
    · exact absurd (hrest ':' rfl) (by decide)
    · rfl
  | @blank inside spaces =>
    have hinside : ∀ c ∈ inside, c ≠ ')' := by
      rintro c hc rfl
      exact absurd (Text.spaces_iff.1 spaces _ hc) (by decide)
    rw [List.cons_append]
    simp only [readTargets, hcut hinside, spaces, if_true]
  | @inParentheses _ pieces nonempty padded =>
    have hinside : ∀ c ∈ Text.join [','] pieces, c ≠ ')' :=
      Text.forall_mem_join (by simp) fun piece hpiece c hc =>
        (ne_of_labels padded piece hpiece c hc).2
    rw [List.cons_append]
    simp only [readTargets, hcut hinside, not_spaces_of_labels nonempty padded,
      readLabels_eq_ok_iff.2 ⟨pieces, rfl, nonempty, padded⟩]
    rfl
  | behindColon nonempty usable =>
    have hinside : ∀ c ∈ Text.join [','] labels, (!Text.isSpace c) = true := by
      intro c hc
      simp [not_space_of_mem_join usable c hc]
    have hend : ∀ c ∈ rest.head?, (!Text.isSpace c) = false := by
      intro c hc
      simp [hrest c hc]
    obtain ⟨htake, hdrop⟩ := Text.takeWhile_run hinside hend
    rw [List.cons_append]
    simp only [readTargets, htake, hdrop, not_spaces_of_labels nonempty (labels_self usable),
      readLabels_eq_ok_iff.2 ⟨labels, rfl, nonempty, labels_self usable⟩]
    rfl

/-- What is read as targets is a list of them, and stands in front of the rest. -/
theorem of_readTargets {r rest : Text} {labels : List Text}
    (h : readTargets r = .ok (labels, rest)) : ∃ list, r = list ++ rest ∧ Targets list labels := by
  unfold readTargets at h
  split at h
  · split at h
    · cases h
    · rename_i inside behind hcut
      obtain ⟨c, rfl, hc, -⟩ := Text.cutAt?_eq_some_iff.1 hcut
      obtain rfl : c = ')' := by simpa using hc
      split at h
      · rename_i hspaces
        cases h
        exact ⟨_, by simp, .blank hspaces⟩
      · obtain ⟨_, hlabels, hsame⟩ := ok_bind_iff.1 h
        cases hsame
        obtain ⟨pieces, rfl, hne, hpadded⟩ := readLabels_eq_ok_iff.1 hlabels
        exact ⟨_, by simp, .inParentheses hne hpadded⟩
  · dsimp only at h
    split at h
    · cases h
    · obtain ⟨_, hlabels, hsame⟩ := ok_bind_iff.1 h
      cases hsame
      obtain ⟨pieces, hpieces, hne, hpadded⟩ := readLabels_eq_ok_iff.1 hlabels
      obtain ⟨rfl, husable⟩ := eq_of_labels hpadded fun piece hpiece c hc => by
        have hmem : c ∈ Text.join [','] pieces := Text.mem_join_of_mem hpiece hc
        rw [← hpieces] at hmem
        simpa using List.all_eq_true.1 List.all_takeWhile c hmem
      refine ⟨_, ?_, .behindColon hne husable⟩
      rw [← hpieces, List.cons_append, List.takeWhile_append_dropWhile]
  · cases h
    exact ⟨[], rfl, .absent⟩

theorem IsType.not_space_getLast? {type : Text} (h : IsType type) :
    ∀ c ∈ type.getLast?, Text.isSpace c = false := by
  cases h with
  | name nonempty chars =>
    intro c hc
    exact not_space_of_isNameChar (chars c (List.mem_of_getLast? hc))
  | bracketed nonempty chars =>
    intro c hc
    obtain rfl : ']' = c := by simpa [List.getLast?_cons] using hc
    decide

theorem Targets.not_space_getLast? {list : Text} {labels : List Text} (h : Targets list labels) :
    ∀ c ∈ list.getLast?, Text.isSpace c = false := by
  have hclose : ∀ {inside : Text}, ∀ c ∈ ('(' :: (inside ++ [')'])).getLast?,
      Text.isSpace c = false := by
    intro inside c hc
    obtain rfl : ')' = c := by simpa [List.getLast?_cons] using hc
    decide
  cases h with
  | absent => simp
  | blank spaces => exact hclose
  | inParentheses nonempty padded => exact hclose
  | behindColon nonempty usable =>
    intro c hc
    rcases List.mem_cons.1 (List.mem_of_getLast? hc) with rfl | hc
    · decide
    · exact not_space_of_mem_join usable c hc

theorem IsRest.trimEnd {rest : Text} (h : IsRest rest) : IsRest (Text.trimEnd rest) := by
  cases rest with
  | nil => exact h
  | cons c rest =>
    rw [Text.trimEnd_cons]
    split
    · simp [IsRest]
    · intro x hx
      exact h x hx

/-! ### Bodies -/

/-- A name of a type does not go on behind the type. -/
theorem isNameChar_of_head? {list rest : Text} {labels : List Text} (h : Targets list labels)
    (hrest : IsRest rest) : ∀ c ∈ (list ++ rest).head?, isNameChar c = false := by
  have hparts : ∀ {l : Text} {c : Char}, c = '(' ∨ c = ':' →
      ∀ x ∈ (c :: l ++ rest).head?, isNameChar x = false := by
    intro l c hc x hx
    obtain rfl : c = x := by simpa using hx
    rcases hc with rfl | rfl <;> decide
  cases h with
  | absent =>
    intro c hc
    rw [List.nil_append] at hc
    cases hname : isNameChar c with
    | false => rfl
    | true =>
      have hspace := not_space_of_isNameChar hname
      rw [hrest c hc] at hspace
      cases hspace
  | blank spaces => exact hparts (Or.inl rfl)
  | inParentheses nonempty padded => exact hparts (Or.inl rfl)
  | behindColon nonempty usable => exact hparts (Or.inr rfl)

theorem readBody_append {type list rest : Text} {labels : List Text} (htype : IsType type)
    (hlist : Targets list labels) (hrest : IsRest rest) :
    readBody (type ++ (list ++ rest)) = .ok (type, labels, Text.trim rest) := by
  rw [readBody, readType_append htype (isNameChar_of_head? hlist hrest)]
  simp only [bind, Except.bind, List.isEmpty_eq_false_iff.2 htype.ne_nil, isBlockType_iff.2 htype,
    readTargets_append hlist hrest, Bool.false_eq_true, if_false, Bool.not_true]
  cases rest with
  | nil => rfl
  | cons c rest =>
    have hc : Text.isSpace c = true := hrest c rfl
    simp only [hc, if_true]
    rfl

theorem of_readBody {body type args : Text} {labels : List Text}
    (h : readBody body = .ok (type, labels, args)) :
    ∃ list rest, body = type ++ (list ++ rest) ∧ IsType type ∧ Targets list labels ∧ IsRest rest ∧
      args = Text.trim rest := by
  unfold readBody at h
  obtain ⟨⟨type', r⟩, htype, h'⟩ := ok_bind_iff.1 h
  obtain rfl := of_readType htype
  dsimp only at h'
  split at h'
  · cases h'
  · split at h'
    · cases h'
    · rename_i husable
      have htype' : IsType type' := isBlockType_iff.1 (by simpa using husable)
      obtain ⟨⟨labels', rest⟩, htargets, hend⟩ := ok_bind_iff.1 h'
      obtain ⟨list, rfl, hlist⟩ := of_readTargets htargets
      cases rest with
      | nil =>
        cases hend
        exact ⟨list, [], rfl, htype', hlist, by simp [IsRest], rfl⟩
      | cons c rest =>
        dsimp only at hend
        split at hend
        · rename_i hspace
          cases hend
          exact ⟨list, c :: rest, rfl, htype', hlist, by simpa [IsRest] using hspace, rfl⟩
        · cases hend

end Directive

end PageBlocks
