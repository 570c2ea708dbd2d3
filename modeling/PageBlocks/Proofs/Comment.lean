import Mathlib.Data.List.Basic
import PageBlocks.Directive.Locator
import PageBlocks.Proofs.Line

/-!
# Directive comments as a grammar

`Marker.Comment` says what a directive comment is, and `commentAt?_eq_some_iff` that the locator
looks for exactly that. The grammar speaks of the comment alone, so what stands behind a comment
has no say in whether it is one. No comment goes over the end of a line; this is why texts can be
put together at line ends, and cut there, without a comment coming up or getting lost. Nor does it
matter which comment stands behind a text when one is looked for in it (`Marker.Quiet.of_comment`).
-/

namespace PageBlocks

namespace Text

theorem after?_append_self (p r : Text) : after? p (p ++ r) = some r := after?_eq_some_iff.2 rfl

theorem after?_append_of_length {p t : Text} (h : p.length ≤ t.length) (r : Text) :
    after? p (t ++ r) = (after? p t).map (· ++ r) := by
  induction p generalizing t with
  | nil => simp [after?]
  | cons c p ih =>
    cases t with
    | nil => simp at h
    | cons d t =>
      by_cases hc : c = d
      · simp [after?, hc, ih (by simpa using h)]
      · simp [after?, hc]

/-- A sign that `a` does not hold comes behind `a`. -/
theorem exists_of_append_cons {a b s w : Text} {c : Char} (h : a ++ b = s ++ c :: w)
    (hc : c ∉ a) : ∃ u, s = a ++ u ∧ b = u ++ c :: w := by
  rcases List.append_eq_append_iff.1 h with ⟨u, rfl, hu⟩ | ⟨u, rfl, hu⟩
  · exact ⟨u, rfl, hu⟩
  · cases u with
    | nil => exact ⟨[], by simp, by simpa using hu.symm⟩
    | cons d u =>
      obtain ⟨rfl, -⟩ := List.cons.inj hu
      simp at hc

/-- What stands behind an arrow does not matter for the search for the first one. -/
theorem toArrow?_append (b r : Text) :
    toArrow? (b ++ ['-', '-', '>'] ++ r) =
      (toArrow? (b ++ ['-', '-', '>'])).map fun x => (x.1, x.2 ++ r) := by
  induction b with
  | nil => simp [toArrow?, after?]
  | cons c b ih =>
    have hlen : ['-', '-', '>'].length ≤ (c :: (b ++ ['-', '-', '>'])).length := by simp
    simp only [List.cons_append] at *
    rw [toArrow?, toArrow?, ← List.cons_append, after?_append_of_length hlen r]
    cases after? ['-', '-', '>'] (c :: (b ++ ['-', '-', '>'])) with
    | some x => simp
    | none =>
      simp only [Option.map_none, ih]
      split
      · simp
      · simp [Option.map_map, Function.comp_def]

/-- Without a `>` in front of it, an arrow is the first one. -/
theorem toArrow?_of_forall_ne {b : Text} (h : ∀ c ∈ b, c ≠ '>' ∧ c ≠ '\r' ∧ c ≠ '\n') :
    toArrow? (b ++ ['-', '-', '>']) = some (b, []) := by
  induction b with
  | nil => rfl
  | cons c b ih =>
    obtain ⟨hc, hb⟩ := List.forall_mem_cons.1 h
    have harrow : after? ['-', '-', '>'] (c :: (b ++ ['-', '-', '>'])) = none := by
      rw [Option.eq_none_iff_forall_ne_some]
      intro r hr
      have hat := after?_eq_some_iff.1 hr
      rcases b with _ | ⟨d, _ | ⟨e, b⟩⟩
      · simp at hat
      · simp at hat
      · simp only [List.cons_append, List.nil_append, List.cons.injEq] at hat
        exact (hb e (by simp)).1 hat.2.2.1
    rw [List.cons_append, toArrow?, harrow, ih hb]
    simp [hc.2]

/-- The first arrow is the first one also when nothing follows it. -/
theorem toArrow?_self {t b r : Text} (h : toArrow? t = some (b, r)) :
    toArrow? (b ++ ['-', '-', '>']) = some (b, []) := by
  have ht := eq_of_toArrow? h
  rw [ht, toArrow?_append] at h
  obtain ⟨⟨b', r'⟩, hb', hr'⟩ := Option.map_eq_some_iff.1 h
  obtain ⟨rfl, hnil⟩ : b' = b ∧ r' ++ r = r := by simpa using hr'
  obtain rfl : r' = [] := by simpa using hnil
  exact hb'

/-- A line with an arrow on it has a first one. -/
theorem exists_toArrow? {t : Text} (h : ∀ c ∈ t, c ≠ '\r' ∧ c ≠ '\n') (r : Text) :
    ∃ b z, toArrow? (t ++ '-' :: '-' :: '>' :: r) = some (b, z) := by
  induction t with
  | nil => exact ⟨[], r, rfl⟩
  | cons c t ih =>
    obtain ⟨hc, ht⟩ := List.forall_mem_cons.1 h
    obtain ⟨b, z, hb⟩ := ih ht
    rw [List.cons_append, toArrow?]
    cases after? ['-', '-', '>'] (c :: (t ++ '-' :: '-' :: '>' :: r)) with
    | some x => exact ⟨[], x, rfl⟩
    | none => exact ⟨c :: b, z, by simp [hb, hc]⟩

/-- The text in front of the first arrow is on one line. -/
theorem ne_break_of_toArrow? {t b r : Text} (h : toArrow? t = some (b, r)) :
    ∀ c ∈ b, c ≠ '\r' ∧ c ≠ '\n' := by
  induction t generalizing b with
  | nil => simp [toArrow?] at h
  | cons d t ih =>
    rw [toArrow?] at h
    split at h
    · obtain ⟨rfl, -⟩ : [] = b ∧ _ := by simpa using h
      simp
    · split at h
      · simp at h
      · rename_i hd
        obtain ⟨⟨b', r'⟩, hb, hr⟩ := Option.map_eq_some_iff.1 h
        obtain ⟨rfl, rfl⟩ : d :: b' = b ∧ r' = r := by simpa using hr
        intro c hc
        rcases List.mem_cons.1 hc with rfl | hc
        · simpa using hd
        · exact ih hb c hc

theorem dropWhile_isBlank_append {b : Text} (hb : blank b) {c : Char} (hc : isBlank c = false)
    (t : Text) : (b ++ c :: t).dropWhile isBlank = c :: t := by
  rw [blank, List.all_eq_true] at hb
  rw [List.dropWhile_append_of_pos hb, List.dropWhile_cons_of_neg (by simp [hc])]

theorem leadingBlanks_append {b : Text} (hb : blank b) {c : Char} (hc : isBlank c = false)
    (t : Text) : leadingBlanks (b ++ c :: t) = b := by
  rw [blank, List.all_eq_true] at hb
  rw [leadingBlanks, List.takeWhile_append_of_pos hb, List.takeWhile_cons_of_neg (by simp [hc]),
    List.append_nil]

theorem blank_leadingBlanks (t : Text) : blank (leadingBlanks t) := by
  exact List.all_takeWhile

end Text

/-- A name holds none of the characters that set a directive's parts apart. -/
theorem isNameChar_ne {c : Char} (h : isNameChar c = true) :
    c ≠ ' ' ∧ c ≠ '\t' ∧ c ≠ '\r' ∧ c ≠ '\n' ∧ c ≠ ':' ∧ c ≠ '/' ∧ c ≠ '<' ∧ c ≠ '>' := by
  refine ⟨?_, ?_, ?_, ?_, ?_, ?_, ?_, ?_⟩ <;> rintro rfl <;> revert h <;> decide

namespace Marker

variable {m : Marker}

/-- The marker of a page whose author has not chosen another. -/
def build : Marker := ⟨"build".toList, by decide, by decide⟩

/-- The directive comments of a page with marker `m`. -/
inductive Comment (m : Marker) : Text → Prop where
  /-- `<!-- endbuild -->` or `<!-- /build -->`. -/
  | closing (front back keyword : Text) (front_blank : Text.blank front)
      (back_blank : Text.blank back)
      (spelled : keyword = 'e' :: 'n' :: 'd' :: m.word ∨ keyword = '/' :: m.word) :
      Comment m (['<', '!', '-', '-'] ++ front ++ (keyword ++ back ++ ['-', '-', '>']))
  /-- `<!-- build:… -->`, where the arrow is the first one of its line. -/
  | opening (front body : Text) (front_blank : Text.blank front)
      (first_arrow : Text.toArrow? (body ++ ['-', '-', '>']) = some (body, [])) :
      Comment m (['<', '!', '-', '-'] ++ front ++ (m.word ++ [':'] ++ body ++ ['-', '-', '>']))

theorem isNameChar_of_mem_word {c : Char} (h : c ∈ m.word) : isNameChar c = true :=
  List.all_eq_true.1 m.chars c h

theorem word_eq_cons (m : Marker) : ∃ c w, m.word = c :: w ∧ Text.isBlank c = false := by
  obtain ⟨c, w, hw⟩ := List.exists_cons_of_ne_nil m.nonempty
  have hc := isNameChar_ne (m.isNameChar_of_mem_word (c := c) (by simp [hw]))
  exact ⟨c, w, hw, by simp [Text.isBlank, hc.1, hc.2.1]⟩

/-- A closing keyword in front of a text is one of the two spellings. -/
theorem afterClosing?_eq_some {t keyword r : Text} (h : m.afterClosing? t = some (keyword, r)) :
    t = keyword ++ r ∧
      (keyword = 'e' :: 'n' :: 'd' :: m.word ∨ keyword = '/' :: m.word) := by
  unfold afterClosing? at h
  simp only at h
  split at h
  · rename_i r' hr
    obtain ⟨rfl, rfl⟩ : 'e' :: 'n' :: 'd' :: m.word = keyword ∧ r' = r := by simpa using h
    exact ⟨Text.after?_eq_some_iff.1 hr, Or.inl rfl⟩
  · obtain ⟨b, hb, hr⟩ := Option.map_eq_some_iff.1 h
    obtain ⟨rfl, rfl⟩ : '/' :: m.word = keyword ∧ b = r := by simpa using hr
    exact ⟨Text.after?_eq_some_iff.1 hb, Or.inr rfl⟩

theorem afterClosing?_append {keyword : Text}
    (h : keyword = 'e' :: 'n' :: 'd' :: m.word ∨ keyword = '/' :: m.word) (r : Text) :
    m.afterClosing? (keyword ++ r) = some (keyword, r) := by
  unfold afterClosing?
  rcases h with rfl | rfl
  · simp only [Text.after?_append_self]
  · have hend : Text.after? ('e' :: 'n' :: 'd' :: m.word) ('/' :: m.word ++ r) = none := by
      simp [Text.after?]
    simp only [hend, Text.after?_append_self, Option.map_some]

/-- The colon of an opening directive keeps it from being read as a closing one. -/
theorem afterClosing?_opening (m : Marker) (r : Text) :
    m.afterClosing? (m.word ++ ':' :: r) = none := by
  rw [Option.eq_none_iff_forall_ne_some]
  rintro ⟨keyword, x⟩ h
  obtain ⟨heq, hk⟩ := afterClosing?_eq_some h
  have hcolon : ':' ∈ keyword := by
    have hlen : m.word.length < keyword.length := by
      rcases hk with rfl | rfl
      · simp only [List.length_cons]; omega
      · simp
    have hat := congrArg (fun l => l[m.word.length]?) heq
    simp only [List.getElem?_append_right (Nat.le_refl _), Nat.sub_self,
      List.getElem?_append_left hlen] at hat
    exact List.mem_of_getElem? hat.symm
  rcases hk with rfl | rfl
  · have hw : ':' ∈ m.word := by simpa using hcolon
    exact absurd (m.isNameChar_of_mem_word hw) (by decide)
  · have hw : ':' ∈ m.word := by simpa using hcolon
    exact absurd (m.isNameChar_of_mem_word hw) (by decide)

theorem commentAt?_of_comment {c : Text} (h : m.Comment c) (r : Text) :
    m.commentAt? (c ++ r) = some (c, r) := by
  cases h with
  | closing front back keyword hf hb hk =>
    have hkey : ∃ k ks, keyword = k :: ks ∧ Text.isBlank k = false := by
      rcases hk with rfl | rfl
      · exact ⟨'e', _, rfl, by decide⟩
      · exact ⟨'/', _, rfl, by decide⟩
    obtain ⟨k, ks, hks, hblank⟩ := hkey
    have hstart : keyword ++ back ++ ['-', '-', '>'] ++ r =
        k :: (ks ++ back ++ ['-', '-', '>'] ++ r) := by simp [hks]
    have htail : m.closingTail? (keyword ++ back ++ ['-', '-', '>'] ++ r) =
        some (keyword ++ back ++ ['-', '-', '>'], r) := by
      have hdash : Text.isBlank '-' = false := by decide
      have hsplit : keyword ++ back ++ ['-', '-', '>'] ++ r =
          keyword ++ (back ++ '-' :: ('-' :: '>' :: r)) := by simp
      rw [closingTail?, hsplit, afterClosing?_append hk]
      simp only [Text.leadingBlanks_append hb hdash, Text.dropWhile_isBlank_append hb hdash]
      rfl
    rw [commentAt?, List.append_assoc, List.append_assoc, Text.after?_append_self]
    simp only [hstart, Text.leadingBlanks_append hf hblank,
      Text.dropWhile_isBlank_append hf hblank]
    rw [← hstart, htail]
    simp
  | opening front body hf harrow =>
    obtain ⟨k, ks, hks, hblank⟩ := m.word_eq_cons
    have hstart : m.word ++ [':'] ++ body ++ ['-', '-', '>'] ++ r =
        k :: (ks ++ [':'] ++ body ++ ['-', '-', '>'] ++ r) := by simp [hks]
    have hclosing : m.closingTail? (m.word ++ [':'] ++ body ++ ['-', '-', '>'] ++ r) = none := by
      have hsplit : m.word ++ [':'] ++ body ++ ['-', '-', '>'] ++ r =
          m.word ++ ':' :: (body ++ ['-', '-', '>'] ++ r) := by simp
      rw [closingTail?, hsplit, afterClosing?_opening]
    have hopening : m.openingTail? (m.word ++ [':'] ++ body ++ ['-', '-', '>'] ++ r) =
        some (m.word ++ [':'] ++ body ++ ['-', '-', '>'], r) := by
      have hsplit : m.word ++ [':'] ++ body ++ ['-', '-', '>'] ++ r =
          (m.word ++ [':']) ++ (body ++ ['-', '-', '>'] ++ r) := by simp
      rw [openingTail?, hsplit, Text.after?_append_self]
      simp only [Text.toArrow?_append, harrow]
      simp
    rw [commentAt?, List.append_assoc, List.append_assoc, Text.after?_append_self]
    simp only [hstart, Text.leadingBlanks_append hf hblank,
      Text.dropWhile_isBlank_append hf hblank]
    rw [← hstart, hclosing, hopening]
    simp

theorem comment_of_commentAt? {t c r : Text} (h : m.commentAt? t = some (c, r)) : m.Comment c := by
  unfold commentAt? at h
  split at h
  · simp at h
  · rename_i x _
    obtain ⟨⟨tail, a⟩, ht, ha⟩ := Option.map_eq_some_iff.1 h
    obtain ⟨rfl, rfl⟩ :
        ['<', '!', '-', '-'] ++ Text.leadingBlanks x ++ tail = c ∧ a = r := by simpa using ha
    rcases Option.or_eq_some_iff.1 ht with hc | ⟨_, ho⟩
    · unfold closingTail? at hc
      split at hc
      · simp at hc
      · rename_i keyword y hk
        obtain ⟨z, hz, hr⟩ := Option.map_eq_some_iff.1 hc
        obtain ⟨rfl, rfl⟩ :
            keyword ++ Text.leadingBlanks y ++ ['-', '-', '>'] = tail ∧ z = a := by
          simpa using hr
        exact .closing _ _ _ (Text.blank_leadingBlanks x) (Text.blank_leadingBlanks y)
          (afterClosing?_eq_some hk).2
    · unfold openingTail? at ho
      split at ho
      · simp at ho
      · rename_i y _
        obtain ⟨⟨body, z⟩, hb, hr⟩ := Option.map_eq_some_iff.1 ho
        obtain ⟨rfl, rfl⟩ : m.word ++ [':'] ++ body ++ ['-', '-', '>'] = tail ∧ z = a := by
          simpa using hr
        exact .opening _ _ (Text.blank_leadingBlanks x) (Text.toArrow?_self hb)

/-- A text starts with a directive comment exactly when it is such a comment and something more. -/
theorem commentAt?_eq_some_iff {t c r : Text} :
    m.commentAt? t = some (c, r) ↔ m.Comment c ∧ t = c ++ r := by
  constructor
  · intro h
    exact ⟨comment_of_commentAt? h, (eq_of_commentAt? h).1⟩
  · rintro ⟨hc, rfl⟩
    exact commentAt?_of_comment hc r

theorem Comment.eq_cons {c : Text} (h : m.Comment c) : ∃ t, c = '<' :: t := by
  cases h with
  | closing => exact ⟨_, rfl⟩
  | opening => exact ⟨_, rfl⟩

/-- A comment ends with an arrow. -/
theorem Comment.eq_append_arrow {c : Text} (h : m.Comment c) : ∃ t, c = t ++ ['-', '-', '>'] := by
  cases h with
  | closing front back keyword =>
    exact ⟨['<', '!', '-', '-'] ++ front ++ (keyword ++ back), by simp⟩
  | opening front body =>
    exact ⟨['<', '!', '-', '-'] ++ front ++ (m.word ++ [':'] ++ body), by simp⟩

theorem Comment.eq_concat {c : Text} (h : m.Comment c) : ∃ t, c = t ++ ['>'] := by
  obtain ⟨t, rfl⟩ := h.eq_append_arrow
  exact ⟨t ++ ['-', '-'], by simp⟩

/-- A directive comment is on one line. -/
theorem Comment.ne_break {c : Text} (h : m.Comment c) : ∀ x ∈ c, x ≠ '\r' ∧ x ≠ '\n' := by
  have hblank : ∀ {b : Text}, Text.blank b → ∀ x ∈ b, x ≠ '\r' ∧ x ≠ '\n' :=
    fun hb x hx => (Text.ne_of_blank hb x hx).2
  have hword : ∀ x ∈ m.word, x ≠ '\r' ∧ x ≠ '\n' := by
    intro x hx
    have := isNameChar_ne (m.isNameChar_of_mem_word hx)
    exact ⟨this.2.2.1, this.2.2.2.1⟩
  intro x hx
  cases h with
  | closing front back keyword hf hb hk =>
    have hkey : ∀ x ∈ keyword, x ≠ '\r' ∧ x ≠ '\n' := by
      rcases hk with rfl | rfl <;> simpa using hword
    simp only [List.mem_append, List.mem_cons, List.not_mem_nil, or_false] at hx
    rcases hx with (hx | hx) | (hx | hx) | hx
    · rcases hx with rfl | rfl | rfl | rfl <;> decide
    · exact hblank hf x hx
    · exact hkey x hx
    · exact hblank hb x hx
    · rcases hx with rfl | rfl | rfl <;> decide
  | opening front body hf harrow =>
    simp only [List.mem_append, List.mem_cons, List.not_mem_nil, or_false] at hx
    rcases hx with (hx | hx) | ((hx | rfl) | hx) | hx
    · rcases hx with rfl | rfl | rfl | rfl <;> decide
    · exact hblank hf x hx
    · exact hword x hx
    · decide
    · exact Text.ne_break_of_toArrow? harrow x hx
    · rcases hx with rfl | rfl | rfl <;> decide

theorem commentAt?_cons_of_ne {c : Char} (h : c ≠ '<') (t : Text) :
    m.commentAt? (c :: t) = none := by
  rw [commentAt?]
  simp [Text.after?, Ne.symm h]

/-- A comment at the start of a text is still there when more text follows. -/
theorem commentAt?_of_append {s y : Text} (h : m.commentAt? (s ++ y) = none) :
    m.commentAt? s = none := by
  rw [Option.eq_none_iff_forall_ne_some] at h ⊢
  rintro ⟨c, r⟩ hs
  obtain ⟨hc, rfl⟩ := commentAt?_eq_some_iff.1 hs
  exact h (c, r ++ y) (commentAt?_eq_some_iff.2 ⟨hc, by simp⟩)

/-- A comment that ends within `s` is one of `s`. -/
theorem commentAt?_append_of_length {s y c r : Text} (h : m.commentAt? (s ++ y) = some (c, r))
    (hlen : c.length ≤ s.length) : ∃ r', s = c ++ r' ∧ m.commentAt? s = some (c, r') := by
  obtain ⟨hc, heq⟩ := commentAt?_eq_some_iff.1 h
  obtain ⟨r', rfl⟩ : c <+: s := List.prefix_of_prefix_length_le ⟨r, heq.symm⟩ ⟨y, rfl⟩ hlen
  exact ⟨r', rfl, commentAt?_eq_some_iff.2 ⟨hc, rfl⟩⟩

/-! ### The first comment of a text -/

/-- No directive comment starts within `g`, when `x` follows. -/
def Quiet (m : Marker) (g x : Text) : Prop :=
  ∀ s, s <:+ g → s ≠ [] → m.commentAt? (s ++ x) = none

theorem quiet_cons_iff {c : Char} {g x : Text} :
    m.Quiet (c :: g) x ↔ m.commentAt? (c :: g ++ x) = none ∧ m.Quiet g x := by
  constructor
  · intro h
    exact ⟨h _ (List.suffix_refl _) (by simp),
      fun s hs hne => h s (hs.trans (List.suffix_cons c g)) hne⟩
  · rintro ⟨hc, hg⟩ s hs hne
    rcases List.suffix_cons_iff.1 hs with rfl | hs
    · exact hc
    · exact hg s hs hne

theorem quiet_of_forall_ne {g : Text} (h : ∀ c ∈ g, c ≠ '<') (x : Text) : m.Quiet g x := by
  intro s hs hne
  obtain ⟨c, t, rfl⟩ := List.exists_cons_of_ne_nil hne
  exact commentAt?_cons_of_ne (h c (hs.subset (by simp))) _

theorem find?_append {g x : Text} (h : m.Quiet g x) :
    m.find? (g ++ x) = (m.find? x).map fun f => ⟨g ++ f.gap, f.comment, f.rest⟩ := by
  induction g with
  | nil => simp
  | cons c g ih =>
    obtain ⟨hc, hg⟩ := quiet_cons_iff.1 h
    rw [List.cons_append, find?, ← List.cons_append, hc, ih hg]
    simp [Option.map_map, Function.comp_def]

theorem find?_eq_none_iff {t : Text} : m.find? t = none ↔ m.Quiet t [] := by
  induction t with
  | nil => simp [find?, Quiet]
  | cons c t ih =>
    rw [quiet_cons_iff, ← ih, find?, List.append_nil]
    cases m.commentAt? (c :: t) with
    | none => simp
    | some x => simp

/-- What stands at the front of a text without a comment holds none. -/
theorem find?_of_append {x y : Text} (h : m.find? (x ++ y) = none) : m.find? x = none := by
  rw [find?_eq_none_iff] at h ⊢
  rintro s ⟨a, rfl⟩ hne
  have hs := h (s ++ y) ⟨a, by simp⟩ (by simp [hne])
  rw [List.append_nil] at hs ⊢
  exact commentAt?_of_append hs

theorem quiet_of_find? {t : Text} {f : Found} (h : m.find? t = some f) :
    m.Quiet f.gap (f.comment ++ f.rest) := by
  induction t generalizing f with
  | nil => simp [find?] at h
  | cons c t ih =>
    rw [find?] at h
    split at h
    · rename_i comment rest _
      obtain rfl : (⟨[], comment, rest⟩ : Found) = f := by simpa using h
      intro s hs hne
      exact absurd (List.suffix_nil.1 hs) hne
    · rename_i hnone
      obtain ⟨g, hg, rfl⟩ := Option.map_eq_some_iff.1 h
      refine quiet_cons_iff.2 ⟨?_, ih hg⟩
      rw [(eq_of_find? hg).1] at hnone
      simpa using hnone

theorem comment_of_find? {t : Text} {f : Found} (h : m.find? t = some f) : m.Comment f.comment := by
  induction t generalizing f with
  | nil => simp [find?] at h
  | cons c t ih =>
    rw [find?] at h
    split at h
    · rename_i comment rest hc
      obtain rfl : (⟨[], comment, rest⟩ : Found) = f := by simpa using h
      exact comment_of_commentAt? hc
    · obtain ⟨g, hg, rfl⟩ := Option.map_eq_some_iff.1 h
      exact ih (f := g) hg

/-- The first directive comment is a comment with none before it. -/
theorem find?_eq_some_iff {t : Text} {f : Found} :
    m.find? t = some f ↔
      m.Comment f.comment ∧ m.Quiet f.gap (f.comment ++ f.rest) ∧
        t = f.gap ++ (f.comment ++ f.rest) := by
  constructor
  · intro h
    exact ⟨comment_of_find? h, quiet_of_find? h, by simpa using (eq_of_find? h).1⟩
  · rintro ⟨hc, hq, rfl⟩
    obtain ⟨c, hcons⟩ := hc.eq_cons
    have hfirst : m.find? (f.comment ++ f.rest) = some ⟨[], f.comment, f.rest⟩ := by
      have hat := commentAt?_of_comment hc f.rest
      rw [hcons, List.cons_append] at hat ⊢
      rw [find?, hat]
    rw [find?_append hq, hfirst]
    simp

/-! ### A gap and the comment behind it -/

theorem angle_notMem_word (m : Marker) : '<' ∉ m.word :=
  fun h => absurd (m.isNameChar_of_mem_word h) (by decide)

/-- A comment in which another one could start is an opening one, and the start is in its body. -/
theorem Comment.exists_of_angle {c s w : Text} (hc : m.Comment c) (h : c = s ++ '<' :: w)
    (hs : s ≠ []) : ∃ front u, Text.blank front ∧ (∀ x ∈ u, x ≠ '\r' ∧ x ≠ '\n') ∧
      s = ['<', '!', '-', '-'] ++ front ++ (m.word ++ [':'] ++ u) := by
  obtain ⟨a, s, rfl⟩ := List.exists_cons_of_ne_nil hs
  have hline := hc.ne_break
  have hangle : ∀ {b : Text}, Text.blank b → '<' ∉ b :=
    fun hb hmem => (Text.ne_of_blank hb _ hmem).1 rfl
  cases hc with
  | closing front back keyword hfront hback hkeyword =>
    have htail : ['!', '-', '-'] ++ front ++ (keyword ++ back ++ ['-', '-', '>']) =
        s ++ '<' :: w := (List.cons.inj h).2
    have hkey : '<' ∉ keyword := by
      rcases hkeyword with rfl | rfl <;> simpa using m.angle_notMem_word
    have hmem : '<' ∈ ['!', '-', '-'] ++ front ++ (keyword ++ back ++ ['-', '-', '>']) := by
      rw [htail]
      simp
    simp [hangle hfront, hangle hback, hkey] at hmem
  | opening front body hfront harrow =>
    have htail : ['!', '-', '-'] ++ front ++ (m.word ++ [':']) ++ (body ++ ['-', '-', '>']) =
        s ++ '<' :: w := by
      have := (List.cons.inj h).2
      simpa using this
    obtain ⟨u, rfl, hu⟩ := Text.exists_of_append_cons htail
      (by simp [hangle hfront, m.angle_notMem_word])
    obtain rfl : '<' = a := (List.cons.inj h).1
    refine ⟨front, u, hfront, fun x hx => hline x ?_, by simp⟩
    rw [h]
    simp [hx]

/-- Whether a comment starts within a gap does not depend on the comment behind the gap. -/
theorem Quiet.of_comment {g k k' r r' : Text} (hk : m.Comment k) (hk' : m.Comment k')
    (h : m.Quiet g (k ++ r)) : m.Quiet g (k' ++ r') := by
  intro s hs hne
  have hquiet := h s hs hne
  rw [Option.eq_none_iff_forall_ne_some] at hquiet ⊢
  rintro ⟨c, z⟩ hc
  obtain ⟨hcomment, heq⟩ := commentAt?_eq_some_iff.1 hc
  by_cases hlen : c.length ≤ s.length
  · -- The comment ends within the gap.
    obtain ⟨s', rfl, -⟩ := commentAt?_append_of_length hc hlen
    exact hquiet (c, s' ++ (k ++ r)) (commentAt?_eq_some_iff.2 ⟨hcomment, by simp⟩)
  · -- The comment would end at the first arrow of `k'`, or before, and so it does with `k`.
    obtain ⟨x, rfl⟩ := hk'.eq_cons
    obtain ⟨w, rfl⟩ : ∃ w, c = s ++ '<' :: w := by
      rcases List.append_eq_append_iff.1 heq with ⟨_ | ⟨a, w⟩, rfl, hw⟩ | ⟨u, rfl, -⟩
      · simp at hlen
      · obtain ⟨rfl, -⟩ := List.cons.inj hw
        exact ⟨w, rfl⟩
      · simp at hlen
    obtain ⟨front, u, hfront, hu, rfl⟩ := hcomment.exists_of_angle rfl hne
    obtain ⟨t, rfl⟩ := hk.eq_append_arrow
    have hline : ∀ c ∈ u ++ t, c ≠ '\r' ∧ c ≠ '\n' := by
      intro c hc
      rcases List.mem_append.1 hc with hc | hc
      · exact hu c hc
      · exact hk.ne_break c (by simp [hc])
    obtain ⟨b, z', hb⟩ := Text.exists_toArrow? hline r
    have hbehind := Text.eq_of_toArrow? hb
    refine hquiet (_, z') (commentAt?_eq_some_iff.2 ⟨.opening front b hfront
      (Text.toArrow?_self hb), ?_⟩)
    simp only [List.append_assoc, List.cons_append, List.nil_append] at hbehind ⊢
    rw [hbehind]

end Marker

end PageBlocks
