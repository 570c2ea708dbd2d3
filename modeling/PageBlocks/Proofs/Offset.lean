import Mathlib.Data.List.Basic
import PageBlocks.Proofs.Line

/-!
# Places in a text

A place in a text is given by the number of bytes before it, and only places between two characters
count. `Text.slice?` reads what stands between two places.

    a   ü     b
    0   1     3   4        there is no place 2

A `LineCounter` tells the lines of places. It remembers the place that it was asked for last and
counts on from there, or from the start if that place is too far on. What it answers does not depend
on what it was asked before (`linesAt?_start`).
-/

namespace PageBlocks

namespace Text

theorem utf8Length_cons (c : Char) (t : Text) :
    utf8Length (c :: t) = c.utf8Size + utf8Length t := by
  have hshift : ∀ (t : Text) (n : Nat),
      t.foldl (fun n c => n + c.utf8Size) n = n + t.foldl (fun n c => n + c.utf8Size) 0 := by
    intro t
    induction t with
    | nil => simp
    | cons d t ih =>
      intro n
      simp only [List.foldl_cons]
      rw [ih (n + d.utf8Size), ih (0 + d.utf8Size)]
      omega
  rw [utf8Length, List.foldl_cons, hshift, utf8Length]
  omega

@[simp] theorem utf8Length_nil : utf8Length [] = 0 := rfl

@[simp] theorem utf8Length_append (s t : Text) :
    utf8Length (s ++ t) = utf8Length s + utf8Length t := by
  induction s with
  | nil => simp
  | cons c s ih => rw [List.cons_append, utf8Length_cons, ih, utf8Length_cons, Nat.add_assoc]

@[simp] theorem utf8Length_reverse (t : Text) : utf8Length t.reverse = utf8Length t := by
  induction t with
  | nil => rfl
  | cons c t ih =>
    rw [List.reverse_cons, utf8Length_append, ih, utf8Length_cons, utf8Length_cons, utf8Length_nil]
    omega

theorem utf8Length_eq_length {t : Text} (h : ∀ c ∈ t, c.utf8Size = 1) :
    utf8Length t = t.length := by
  induction t with
  | nil => rfl
  | cons c t ih =>
    rw [utf8Length_cons, h c List.mem_cons_self, ih fun x hx => h x (List.mem_cons_of_mem _ hx),
      List.length_cons, Nat.add_comm]

theorem utf8Length_pos {t : Text} (h : t ≠ []) : 0 < utf8Length t := by
  obtain ⟨c, s, rfl⟩ := List.exists_cons_of_ne_nil h
  have hc := c.utf8Size_pos
  rw [utf8Length_cons]
  omega

/-- The text before a place and the text behind it. There is none within a character and none past
the end. -/
def cutAtByte? : (place : Nat) → Text → Option (Text × Text)
  | 0, t => some ([], t)
  | _ + 1, [] => none
  | n + 1, c :: t =>
    if c.utf8Size ≤ n + 1 then
      (cutAtByte? (n + 1 - c.utf8Size) t).map fun (front, back) => (c :: front, back)
    else none

theorem eq_nil_of_utf8Length {t : Text} (h : utf8Length t = 0) : t = [] := by
  by_contra hne
  have := utf8Length_pos hne
  omega

theorem cutAtByte?_eq_some_iff {n : Nat} {t front back : Text} :
    cutAtByte? n t = some (front, back) ↔ t = front ++ back ∧ utf8Length front = n := by
  fun_induction cutAtByte? n t generalizing front with
  | case1 t =>
    constructor
    · intro h
      obtain ⟨rfl, rfl⟩ := Prod.mk.inj (Option.some.inj h)
      exact ⟨rfl, rfl⟩
    · rintro ⟨rfl, hlength⟩
      rw [eq_nil_of_utf8Length hlength, List.nil_append]
  | case2 n =>
    constructor
    · intro h
      cases h
    · rintro ⟨h, hlength⟩
      obtain ⟨rfl, rfl⟩ := List.append_eq_nil_iff.1 h.symm
      cases hlength
  | case3 n c t hfits ih =>
    rw [Option.map_eq_some_iff]
    constructor
    · rintro ⟨⟨f, b⟩, hcut, heq⟩
      obtain ⟨rfl, rfl⟩ := Prod.mk.inj heq
      obtain ⟨rfl, hlength⟩ := ih.1 hcut
      refine ⟨rfl, ?_⟩
      rw [utf8Length_cons]
      omega
    · rintro ⟨h, hlength⟩
      cases front with
      | nil => cases hlength
      | cons d f =>
        obtain ⟨rfl, rfl⟩ := List.cons.inj h
        rw [utf8Length_cons] at hlength
        exact ⟨(f, back), ih.2 ⟨rfl, by omega⟩, rfl⟩
  | case4 n c t hlong =>
    constructor
    · intro h
      cases h
    · rintro ⟨h, hlength⟩
      cases front with
      | nil => cases hlength
      | cons d f =>
        obtain ⟨rfl, -⟩ := List.cons.inj h
        rw [utf8Length_cons] at hlength
        omega

/-- Of two places, the one with fewer bytes before it comes first. -/
theorem prefix_of_utf8Length_le {s u t : Text} (hs : s <+: t) (hu : u <+: t)
    (h : utf8Length s ≤ utf8Length u) : s <+: u := by
  rcases List.prefix_or_prefix_of_prefix hs hu with hsu | ⟨x, rfl⟩
  · exact hsu
  · rw [utf8Length_append] at h
    have hx : x = [] := eq_nil_of_utf8Length (by omega)
    simp [hx]

/-- Is there such a place? -/
def isPlace (t : Text) (n : Nat) : Bool := (cutAtByte? n t).isSome

theorem isPlace_iff {t : Text} {n : Nat} :
    t.isPlace n ↔ ∃ front, front <+: t ∧ utf8Length front = n := by
  rw [isPlace, Option.isSome_iff_exists]
  constructor
  · rintro ⟨⟨front, back⟩, h⟩
    obtain ⟨rfl, hlength⟩ := cutAtByte?_eq_some_iff.1 h
    exact ⟨front, List.prefix_append _ _, hlength⟩
  · rintro ⟨front, ⟨back, rfl⟩, hlength⟩
    exact ⟨(front, back), cutAtByte?_eq_some_iff.2 ⟨rfl, hlength⟩⟩

/-- What stands between two places. -/
def slice? (t : Text) (first last : Nat) : Option Text :=
  (cutAtByte? last t).bind fun x => (cutAtByte? first x.1).map Prod.snd

theorem slice?_eq_some_iff {t s : Text} {first last : Nat} :
    t.slice? first last = some s ↔
      ∃ front back, t = front ++ (s ++ back) ∧ utf8Length front = first ∧
        first + utf8Length s = last := by
  rw [slice?, Option.bind_eq_some_iff]
  constructor
  · rintro ⟨⟨x, back⟩, hx, h⟩
    obtain ⟨⟨front, s'⟩, hfront, rfl⟩ := Option.map_eq_some_iff.1 h
    obtain ⟨rfl, rfl⟩ := cutAtByte?_eq_some_iff.1 hx
    obtain ⟨rfl, rfl⟩ := cutAtByte?_eq_some_iff.1 hfront
    exact ⟨front, back, by simp, rfl, by simp⟩
  · rintro ⟨front, back, rfl, rfl, rfl⟩
    refine ⟨(front ++ s, back), cutAtByte?_eq_some_iff.2 ⟨by simp, by simp⟩, ?_⟩
    rw [cutAtByte?_eq_some_iff.2 ⟨rfl, rfl⟩]
    rfl

end Text

/-- A count of lines that remembers how far it has come. -/
structure LineCounter where
  /-- The line that the text starts on. -/
  firstLine : Nat
  /-- The place that was asked for last. -/
  offset : Nat
  /-- The line of that place. -/
  line : Nat
  deriving DecidableEq, Repr

namespace LineCounter

/-- The counter at the start of a text. -/
def start (firstLine : Nat) : LineCounter := ⟨firstLine, 0, firstLine⟩

/-- The line of a place of `text`, and the counter behind the question. -/
def lineAt? (c : LineCounter) (text : Text) (offset : Nat) : Option (Nat × LineCounter) :=
  let base := if offset < c.offset then start c.firstLine else c
  (text.slice? base.offset offset).map fun passed =>
    let line := base.line + Text.lineFeeds passed
    (line, { c with offset, line })

/-- The lines of places that are asked for one after the other. -/
def linesAt? (c : LineCounter) (text : Text) : List Nat → Option (List Nat)
  | [] => some []
  | offset :: later =>
    (c.lineAt? text offset).bind fun x => (x.2.linesAt? text later).map (x.1 :: ·)

/-- The counter has counted right so far. -/
structure Right (text : Text) (c : LineCounter) : Prop where
  counted : ∃ front, front <+: text ∧ Text.utf8Length front = c.offset ∧
    c.line = c.firstLine + Text.lineFeeds front

theorem right_start (text : Text) (firstLine : Nat) : (start firstLine).Right text :=
  ⟨[], List.nil_prefix, rfl, rfl⟩

/-- A question is answered right, and the counter stays right. -/
theorem Right.lineAt? {text front : Text} {c : LineCounter} (h : c.Right text)
    (hfront : front <+: text) :
    ∃ c', c.lineAt? text (Text.utf8Length front) =
        some (c.firstLine + Text.lineFeeds front, c') ∧
      c'.firstLine = c.firstLine ∧ c'.Right text := by
  -- From a place that is not too far on, the count goes over what stands between.
  have hcount : ∀ c' : LineCounter, c'.Right text → c'.offset ≤ Text.utf8Length front →
      ∃ passed, text.slice? c'.offset (Text.utf8Length front) = some passed ∧
        c'.line + Text.lineFeeds passed = c'.firstLine + Text.lineFeeds front := by
    rintro c' ⟨done, hdone, hoffset, hline⟩ hle
    rw [← hoffset] at hle
    obtain ⟨passed, rfl⟩ := Text.prefix_of_utf8Length_le hdone hfront hle
    obtain ⟨back, rfl⟩ := hfront
    refine ⟨passed, Text.slice?_eq_some_iff.2 ⟨done, back, by simp, hoffset, by simp [hoffset]⟩, ?_⟩
    rw [hline, Text.lineFeeds_append]
    omega
  have hright : ∀ c' : LineCounter, c'.offset = Text.utf8Length front →
      c'.line = c'.firstLine + Text.lineFeeds front → c'.Right text :=
    fun c' hoffset hline => ⟨front, hfront, hoffset.symm, hline⟩
  unfold LineCounter.lineAt?
  dsimp only
  split
  · obtain ⟨passed, hslice, hline⟩ :=
      hcount (start c.firstLine) (right_start text c.firstLine) (Nat.zero_le _)
    rw [hslice]
    refine ⟨{ c with offset := Text.utf8Length front, line := c.firstLine + Text.lineFeeds front },
      ?_, rfl, hright _ rfl rfl⟩
    rw [Option.map_some, hline]
    rfl
  · rename_i hlt
    obtain ⟨passed, hslice, hline⟩ := hcount c h (by omega)
    rw [hslice]
    refine ⟨{ c with offset := Text.utf8Length front, line := c.firstLine + Text.lineFeeds front },
      ?_, rfl, hright _ rfl rfl⟩
    rw [Option.map_some, hline]

/-- Whatever was asked before, the line of a place is the first line and one more for each line feed
before it. -/
theorem Right.linesAt? {text : Text} {c : LineCounter} (h : c.Right text) {fronts : List Text}
    (hfronts : ∀ front ∈ fronts, front <+: text) :
    c.linesAt? text (fronts.map Text.utf8Length) =
      some (fronts.map fun front => c.firstLine + Text.lineFeeds front) := by
  induction fronts generalizing c with
  | nil => rfl
  | cons front fronts ih =>
    obtain ⟨c', hanswer, hfirst, hright⟩ := h.lineAt? (hfronts front List.mem_cons_self)
    have hlater := ih hright fun x hx => hfronts x (List.mem_cons_of_mem _ hx)
    rw [List.map_cons, LineCounter.linesAt?, hanswer, Option.bind_some, hlater, hfirst]
    rfl

theorem linesAt?_start (firstLine : Nat) {text : Text} {fronts : List Text}
    (hfronts : ∀ front ∈ fronts, front <+: text) :
    (start firstLine).linesAt? text (fronts.map Text.utf8Length) =
      some (fronts.map fun front => firstLine + Text.lineFeeds front) :=
  (right_start text firstLine).linesAt? hfronts

end LineCounter

end PageBlocks
