import PageBlocks.Block.Mark
import PageBlocks.Proofs.Comment

/-!
# Texts cut at their comments

A text is a sequence of gaps and directive comments, and a tail behind the last comment.
`Marker.cut` lists them without saying where they stand, and `Marker.place` puts them in their
places; together they are `marksFrom`. What is said about cuts holds wherever the text stands.

    text = gap₁ comment₁ gap₂ comment₂ … tail

Two texts can be cut one by one when no comment lies across the seam between them
(`cut_append`). A line break behind the seam is enough for that.

Cuts are the cuts of a text just if each comment stands behind its own gap (`cut_source_iff`). So a
text may be broken off at a comment, and comments may be exchanged.
-/

namespace PageBlocks

/-- A directive comment, and the text between it and the comment before. -/
structure Cut where
  gap : Text
  comment : Text
  deriving DecidableEq, Repr

namespace Cut

/-- The text that a list of cuts covers. -/
def source (cs : List Cut) : Text := cs.flatMap fun c => c.gap ++ c.comment

@[simp] theorem source_nil : source [] = [] := rfl

@[simp] theorem source_cons (c : Cut) (cs : List Cut) :
    source (c :: cs) = c.gap ++ (c.comment ++ source cs) := by simp [source]

@[simp] theorem source_append (cs ds : List Cut) : source (cs ++ ds) = source cs ++ source ds := by
  simp [source]

/-- The cuts of a text that has `front` put before it. -/
def glue (front : Text) : List Cut × Text → List Cut × Text
  | ([], tail) => ([], front ++ tail)
  | (c :: cs, tail) => (⟨front ++ c.gap, c.comment⟩ :: cs, tail)

@[simp] theorem glue_nil (x : List Cut × Text) : glue [] x = x := by
  rcases x with ⟨_ | _, _⟩ <;> rfl

theorem glue_glue (a b : Text) (x : List Cut × Text) : glue a (glue b x) = glue (a ++ b) x := by
  rcases x with ⟨_ | _, _⟩ <;> simp [glue]

theorem comments_glue (front : Text) (x : List Cut × Text) :
    (glue front x).1.map comment = x.1.map comment := by
  rcases x with ⟨_ | _, _⟩ <;> rfl

end Cut

/-- A mark without its place. -/
def Mark.cut (k : Mark) : Cut := ⟨k.gap, k.comment⟩

theorem Mark.source_eq (ms : List Mark) : Mark.source ms = Cut.source (ms.map Mark.cut) := by
  simp [Mark.source, Cut.source, Mark.cut, List.flatMap_map]

/-- A comment that stands in a text with the gap before it, wherever that is. -/
structure Cut.Stands (m : Marker) (c : Cut) : Prop where
  comment : m.Comment c.comment
  quiet : m.Quiet c.gap c.comment

namespace Marker

variable {m : Marker}

/-- The comments of a text, and the text behind the last one. -/
def cut (m : Marker) (text : Text) : List Cut × Text :=
  match _found : m.find? text with
  | none => ([], text)
  | some f => (⟨f.gap, f.comment⟩ :: (m.cut f.rest).1, (m.cut f.rest).2)
termination_by text.length
decreasing_by all_goals exact length_rest_of_find? _found

theorem cut_of_none {t : Text} (h : m.find? t = none) : m.cut t = ([], t) := by
  rw [cut]
  split
  · rfl
  · simp_all

theorem cut_of_some {t : Text} {f : Found} (h : m.find? t = some f) :
    m.cut t = (⟨f.gap, f.comment⟩ :: (m.cut f.rest).1, (m.cut f.rest).2) := by
  rw [cut]
  split
  · simp_all
  · rename_i f' hf'
    obtain rfl : f = f' := by simpa [h] using hf'
    rfl

/-- Nothing is lost when a text is cut. -/
theorem source_cut (m : Marker) (t : Text) : Cut.source (m.cut t).1 ++ (m.cut t).2 = t := by
  fun_induction cut m t with
  | case1 => simp
  | case2 t f h ih =>
    rw [Cut.source_cons, List.append_assoc, List.append_assoc, ih]
    simpa using (eq_of_find? h).1.symm

/-! ### Cuts in their places -/

/-- The marks of a text that is cut into `cs` and `tail`. The characters `seen`, nearest first,
stand before the text, which starts on line `line`. -/
def place (m : Marker) (seen : Text) (line : Nat) (tail : Text) : List Cut → List Mark
  | [] => []
  | c :: cs =>
    { seen := c.gap.reverse ++ seen
      gap := c.gap
      comment := c.comment
      rest := Cut.source cs ++ tail
      line := line + Text.lineFeeds c.gap
      token := m.classify c.comment } ::
    m.place (c.comment.reverse ++ (c.gap.reverse ++ seen))
      (line + Text.lineFeeds c.gap + Text.lineFeeds c.comment) tail cs

theorem marksFrom_eq_place (m : Marker) (seen : Text) (line : Nat) (text : Text) :
    marksFrom m seen line text =
      (m.place seen line (m.cut text).2 (m.cut text).1, (m.cut text).2) := by
  fun_induction marksFrom m seen line text with
  | case1 seen line text h => simp [cut_of_none h, place]
  | case2 seen line text f h before here later tail hrest ih =>
    rw [hrest, Prod.mk.injEq] at ih
    rw [cut_of_some h, place, source_cut, ih.1, ih.2]
    simp only [before, here, List.reverseAux_eq]

@[simp] theorem length_place (seen : Text) (line : Nat) (tail : Text) (cs : List Cut) :
    (m.place seen line tail cs).length = cs.length := by
  induction cs generalizing seen line with
  | nil => rfl
  | cons c cs ih => simp [place, ih]

theorem place_append (seen : Text) (line : Nat) (tail : Text) (cs ds : List Cut) :
    m.place seen line tail (cs ++ ds) =
      m.place seen line (Cut.source ds ++ tail) cs ++
        m.place ((Cut.source cs).reverse ++ seen) (line + Text.lineFeeds (Cut.source cs)) tail
          ds := by
  induction cs generalizing seen line with
  | nil => simp [place, Text.lineFeeds]
  | cons c cs ih => simp [place, ih, Text.lineFeeds, Nat.add_assoc]

@[simp] theorem source_place (seen : Text) (line : Nat) (tail : Text) (cs : List Cut) :
    Mark.source (m.place seen line tail cs) = Cut.source cs := by
  induction cs generalizing seen line with
  | nil => rfl
  | cons c cs ih =>
    have := ih (c.comment.reverse ++ (c.gap.reverse ++ seen))
      (line + Text.lineFeeds c.gap + Text.lineFeeds c.comment)
    simp only [Mark.source] at this
    simp [Mark.source, place, this]

/-- What the marks say depends on the comments alone. -/
theorem tokens_place (seen : Text) (line : Nat) (tail : Text) (cs : List Cut) :
    (m.place seen line tail cs).map Mark.token = (cs.map Cut.comment).map m.classify := by
  induction cs generalizing seen line with
  | nil => rfl
  | cons c cs ih => simpa [place] using ih _ _

theorem cuts_place (seen : Text) (line : Nat) (tail : Text) (cs : List Cut) :
    (m.place seen line tail cs).map Mark.cut = cs := by
  induction cs generalizing seen line with
  | nil => rfl
  | cons c cs ih => simp [place, Mark.cut, ih]

theorem token_of_mem_place {seen : Text} {line : Nat} {tail : Text} {cs : List Cut} {k : Mark}
    (h : k ∈ m.place seen line tail cs) : k.token = m.classify k.cut.comment := by
  induction cs generalizing seen line with
  | nil => simp [place] at h
  | cons c cs ih =>
    rcases List.mem_cons.1 h with rfl | h
    · rfl
    · exact ih h

/-! ### Cutting at a seam -/

/-- Comments that start in `x` end there, also when `y` follows. -/
def Seam (m : Marker) (x y : Text) : Prop :=
  ∀ s, s <:+ x → s ≠ [] → ∀ c r, m.commentAt? (s ++ y) = some (c, r) → c.length ≤ s.length

theorem Seam.suffix {x y s : Text} (h : m.Seam x y) (hs : s <:+ x) : m.Seam s y :=
  fun s' hs' => h s' (hs'.trans hs)

theorem Seam.quiet {x y g r : Text} (h : m.Seam x y) (hx : x = g ++ r) (hq : m.Quiet g r) :
    m.Quiet g (r ++ y) := by
  intro s hs hne
  rw [Option.eq_none_iff_forall_ne_some]
  rintro ⟨c, z⟩ hc
  have hsx : s ++ r <:+ x := by
    obtain ⟨p, rfl⟩ := hs
    exact ⟨p, by simp [hx]⟩
  rw [← List.append_assoc] at hc
  obtain ⟨r', -, hs'⟩ := commentAt?_append_of_length hc (h (s ++ r) hsx (by simp [hne]) c z hc)
  rw [hq s hs hne] at hs'
  simp at hs'

/-- Texts with no comment across the seam are cut one by one. -/
theorem cut_append {x y : Text} (h : m.Seam x y) :
    m.cut (x ++ y) =
      ((m.cut x).1 ++ (Cut.glue (m.cut x).2 (m.cut y)).1, (Cut.glue (m.cut x).2 (m.cut y)).2) := by
  fun_induction cut m x with
  | case1 x hx =>
    have hq : m.Quiet x y := by
      simpa using h.quiet (List.append_nil x).symm (find?_eq_none_iff.1 hx)
    have hfind := find?_append hq
    cases hy : m.find? y with
    | none =>
      rw [hy] at hfind
      rw [cut_of_none hfind, cut_of_none hy]
      simp [Cut.glue]
    | some f =>
      rw [hy] at hfind
      rw [cut_of_some hfind, cut_of_some hy]
      simp [Cut.glue]
  | case2 x f hx ih =>
    obtain ⟨hc, hq, heq⟩ := find?_eq_some_iff.1 hx
    have hfind : m.find? (x ++ y) = some ⟨f.gap, f.comment, f.rest ++ y⟩ := by
      refine find?_eq_some_iff.2 ⟨hc, ?_, by simp [heq]⟩
      simpa using h.quiet heq hq
    have hrest : f.rest <:+ x := ⟨f.gap ++ f.comment, by simp [heq]⟩
    rw [cut_of_some hfind, ih (h.suffix hrest)]
    simp

/-- A comment ends before the first line break. -/
theorem Comment.length_le {k r a b : Text} {c : Char} (hk : m.Comment k)
    (hc : c = '\r' ∨ c = '\n') (h : k ++ r = a ++ c :: b) : k.length ≤ a.length := by
  by_contra hlt
  have hac : a ++ [c] <+: k ++ r := ⟨b, by simp [h]⟩
  have hpre : a ++ [c] <+: k := by
    refine List.prefix_of_prefix_length_le hac (List.prefix_append k r) ?_
    simp only [List.length_append, List.length_singleton]
    omega
  have hmem : c ∈ k := hpre.subset (by simp)
  have := hk.ne_break c hmem
  rcases hc with rfl | rfl
  · exact this.1 rfl
  · exact this.2 rfl

theorem seam_before_break {c : Char} (hc : c = '\r' ∨ c = '\n') (x y : Text) :
    m.Seam x (c :: y) := by
  intro s _ _ k r h
  obtain ⟨hk, heq⟩ := commentAt?_eq_some_iff.1 h
  exact hk.length_le hc heq.symm

/-! ### Cutting a part of a text -/

theorem Quiet.of_append {g x y : Text} (h : m.Quiet g (x ++ y)) : m.Quiet g x := by
  intro s hs hne
  refine commentAt?_of_append (y := y) ?_
  rw [List.append_assoc]
  exact h s hs hne

/-- In a gap, no comment is found. -/
theorem find?_gap_of_stands {c : Cut} (h : c.Stands m) : m.find? c.gap = none :=
  find?_eq_none_iff.2 (Quiet.of_append (x := []) h.quiet)

/-- Where a comment stands, any other one does, whatever follows. -/
theorem quiet_of_stands {c : Cut} (h : c.Stands m) {k : Text} (hk : m.Comment k) (r : Text) :
    m.Quiet c.gap (k ++ r) := by
  refine Quiet.of_comment (r := []) h.comment hk ?_
  rw [List.append_nil]
  exact h.quiet

/-- The cuts of a text are comments that stand in it one after the other, with none behind. -/
theorem cut_source_iff {cs : List Cut} {tail : Text} :
    m.cut (Cut.source cs ++ tail) = (cs, tail) ↔
      (∀ c ∈ cs, c.Stands m) ∧ m.find? tail = none := by
  induction cs with
  | nil =>
    cases hfind : m.find? tail with
    | none => simp [cut_of_none hfind]
    | some f => simp [cut_of_some hfind]
  | cons c cs ih =>
    rw [List.forall_mem_cons, and_assoc, ← ih, Cut.source_cons]
    simp only [List.append_assoc]
    constructor
    · intro h
      cases hfind : m.find? (c.gap ++ (c.comment ++ (Cut.source cs ++ tail))) with
      | none => simp [cut_of_none hfind] at h
      | some f =>
        rw [cut_of_some hfind, Prod.mk.injEq, List.cons.injEq] at h
        obtain ⟨⟨rfl, hlater⟩, htail⟩ := h
        obtain ⟨hcomment, hquiet, htext⟩ := find?_eq_some_iff.1 hfind
        have hrest : Cut.source cs ++ tail = f.rest :=
          List.append_cancel_left (List.append_cancel_left htext)
        refine ⟨⟨hcomment, hquiet.of_append⟩, ?_⟩
        rw [hrest, ← hlater, ← htail]
    · rintro ⟨hc, hlater⟩
      have hfind : m.find? (c.gap ++ (c.comment ++ (Cut.source cs ++ tail))) =
          some ⟨c.gap, c.comment, Cut.source cs ++ tail⟩ :=
        find?_eq_some_iff.2 ⟨hc.comment, quiet_of_stands hc hc.comment _, rfl⟩
      rw [cut_of_some hfind, hlater]

theorem cut_eq_iff {t tail : Text} {cs : List Cut} :
    m.cut t = (cs, tail) ↔
      t = Cut.source cs ++ tail ∧ (∀ c ∈ cs, c.Stands m) ∧ m.find? tail = none := by
  rw [← cut_source_iff]
  constructor
  · intro h
    have hsource := m.source_cut t
    rw [h] at hsource
    exact ⟨hsource.symm, by rw [hsource, h]⟩
  · rintro ⟨rfl, h⟩
    exact h

theorem stands_of_mem_cut {t : Text} {c : Cut} (h : c ∈ (m.cut t).1) : c.Stands m :=
  (cut_eq_iff.1 (Eq.refl (m.cut t))).2.1 c h

theorem comment_of_mem_cut {t : Text} {c : Cut} (h : c ∈ (m.cut t).1) : m.Comment c.comment :=
  (stands_of_mem_cut h).comment

theorem quiet_of_mem_cut {t : Text} {c : Cut} (h : c ∈ (m.cut t).1) : m.find? c.gap = none :=
  find?_gap_of_stands (stands_of_mem_cut h)

theorem quiet_tail_cut (t : Text) : m.find? (m.cut t).2 = none :=
  (cut_eq_iff.1 (Eq.refl (m.cut t))).2.2

/-- A text that is broken off before one of its comments keeps the comments before. -/
theorem cut_take {t : Text} {cs ds : List Cut} {c : Cut} (h : (m.cut t).1 = cs ++ c :: ds) :
    m.cut (Cut.source cs ++ c.gap) = (cs, c.gap) := by
  have hstands : ∀ x ∈ cs ++ c :: ds, x.Stands m := fun x hx => stands_of_mem_cut (h ▸ hx)
  rw [List.forall_mem_append, List.forall_mem_cons] at hstands
  exact cut_source_iff.2 ⟨hstands.1, find?_gap_of_stands hstands.2.1⟩

/-- A text that starts behind one of its comments keeps the comments after. -/
theorem cut_drop {t : Text} {cs ds : List Cut} (h : (m.cut t).1 = cs ++ ds) :
    m.cut (Cut.source ds ++ (m.cut t).2) = (ds, (m.cut t).2) := by
  have hstands : ∀ x ∈ ds, x.Stands m := by
    intro x hx
    refine stands_of_mem_cut (t := t) ?_
    simp [h, hx]
  exact cut_source_iff.2 ⟨hstands, quiet_tail_cut t⟩

/-- A comment in place of others and what is between them leaves all other comments alone. -/
theorem cut_replace {t tail k : Text} {cs run ds : List Cut} {c : Cut}
    (h : m.cut t = (cs ++ c :: (run ++ ds), tail)) (hk : m.Comment k) :
    m.cut (Cut.source (cs ++ ⟨c.gap, k⟩ :: ds) ++ tail) = (cs ++ ⟨c.gap, k⟩ :: ds, tail) := by
  obtain ⟨-, hstands, htail⟩ := cut_eq_iff.1 h
  simp only [List.forall_mem_append, List.forall_mem_cons] at hstands
  obtain ⟨hcs, hc, -, hds⟩ := hstands
  have hquiet : m.Quiet c.gap k := by
    have := quiet_of_stands hc hk []
    rwa [List.append_nil] at this
  refine cut_source_iff.2 ⟨?_, htail⟩
  simp only [List.forall_mem_append, List.forall_mem_cons]
  exact ⟨hcs, ⟨hk, hquiet⟩, hds⟩

/-- Text without a comment in front goes into the first gap. -/
theorem cut_front {x : Text} (h : ∀ c ∈ x, c ≠ '<') (y : Text) :
    m.cut (x ++ y) = Cut.glue x (m.cut y) := by
  have hfind := find?_append (quiet_of_forall_ne (m := m) h y)
  cases hy : m.find? y with
  | none => rw [hy] at hfind; simp [cut_of_none hfind, cut_of_none hy, Cut.glue]
  | some f => rw [hy] at hfind; simp [cut_of_some hfind, cut_of_some hy, Cut.glue]

theorem cut_plain {x : Text} (h : ∀ c ∈ x, c ≠ '<') : m.cut x = ([], x) := by
  have hcut := cut_front h (m := m) []
  rw [List.append_nil, cut_of_none (t := []) rfl] at hcut
  simpa [Cut.glue] using hcut

/-- A comment in front is the first one, with nothing before it. -/
theorem cut_comment {c : Text} (hc : m.Comment c) (rest : Text) :
    m.cut (c ++ rest) = (⟨[], c⟩ :: (m.cut rest).1, (m.cut rest).2) := by
  have hfind : m.find? (c ++ rest) = some ⟨[], c, rest⟩ :=
    find?_eq_some_iff.2 ⟨hc, fun s hs hne => absurd (List.suffix_nil.1 hs) hne, rfl⟩
  exact cut_of_some hfind

end Marker

end PageBlocks
