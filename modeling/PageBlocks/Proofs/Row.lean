import Mathlib.Data.List.TakeWhile
import PageBlocks.Proofs.Content

/-!
# Texts made of rows

A text in which every directive has a line to itself is a list of rows: plain ones, and notes that
hold one directive comment. All rows end with the same line break, except that the last one may
have none.

    plain   text                                  e
    note    lead  <!-- build:… -->  trail         e
    plain   text

`Row.cuts` reads the comments off the rows, and `cut_unlines` says that a search for comments in the
text comes to the same. The cuts that blocks make at line ends fall between rows
(`ownLines_unlines`, `lineEnd_trail`).
-/

namespace PageBlocks

namespace Text

/-- The two line breaks. -/
inductive Break where
  | lf
  | crlf
  deriving DecidableEq, Repr

namespace Break

def text : Break → Text
  | lf => ['\n']
  | crlf => ['\r', '\n']

/-- The line break, if there is to be one. -/
def when (e : Break) : Bool → Text
  | true => e.text
  | false => []

@[simp] theorem when_true (e : Break) : e.when true = e.text := rfl

@[simp] theorem when_false (e : Break) : e.when false = [] := rfl

theorem eq_concat (e : Break) : ∃ x, e.text = x ++ ['\n'] ∧ '\n' ∉ x := by
  cases e with
  | lf => exact ⟨[], rfl, by simp⟩
  | crlf => exact ⟨['\r'], rfl, by simp⟩

theorem eq_cons (e : Break) : ∃ c x, e.text = c :: x ∧ (c = '\r' ∨ c = '\n') := by
  cases e with
  | lf => exact ⟨'\n', [], rfl, Or.inr rfl⟩
  | crlf => exact ⟨'\r', ['\n'], rfl, Or.inl rfl⟩

theorem ne_angle (e : Break) : ∀ c ∈ e.text, c ≠ '<' := by cases e <;> simp [text]

theorem eq_of_mem_when {e : Break} {z : Bool} {c : Char} (h : c ∈ e.when z) :
    c = '\r' ∨ c = '\n' := by
  cases z with
  | true => cases e <;> simp_all [text]
  | false => cases h

theorem lineFeeds_text (e : Break) : lineFeeds e.text = 1 := by cases e <;> rfl

theorem spaces_when (e : Break) (z : Bool) : spaces (e.when z) := by
  cases e <;> cases z <;> rfl

/-- The line ends with the line break, if with any, and holds no other carriage return. -/
def unbroken (e : Break) (l : Text) : Bool :=
  ((before? e.text l).getD l).all fun c => c != '\r' && c != '\n'

theorem exists_of_unbroken {e : Break} {l : Text} (h : e.unbroken l) :
    ∃ u z, l = u ++ e.when z ∧ ∀ c ∈ u, c ≠ '\r' ∧ c ≠ '\n' := by
  rw [unbroken, List.all_eq_true] at h
  cases hu : before? e.text l with
  | none => exact ⟨l, false, by simp, by simpa [hu] using h⟩
  | some u => exact ⟨u, true, before?_eq_some_iff.1 hu, by simpa [hu] using h⟩

end Break

/-- Does a line break come between a row and the rows behind it? At the end only if `z` says
so. -/
def follows {α : Type} (z : Bool) : List α → Bool
  | [] => z
  | _ :: _ => true

section

variable {α β : Type} (z : Bool)

@[simp] theorem follows_nil : follows z ([] : List α) = z := rfl

@[simp] theorem follows_cons (r : α) (rs : List α) : follows z (r :: rs) = true := rfl

@[simp] theorem follows_map (f : α → β) (rs : List α) : follows z (rs.map f) = follows z rs := by
  cases rs <;> rfl

theorem follows_append (rs ss : List α) : follows z (rs ++ ss) = follows (follows z ss) rs := by
  cases rs <;> rfl

@[simp] theorem follows_true (rs : List α) : follows true rs = true := by cases rs <;> rfl

end

/-- The lines of a text that is made of rows. -/
def withBreaks (e : Break) (z : Bool) : List Text → List Text
  | [] => []
  | r :: rs => (r ++ e.when (follows z rs)) :: withBreaks e z rs

/-- The text that is made of rows. -/
def unlines (e : Break) (z : Bool) : List Text → Text
  | [] => []
  | r :: rs => r ++ (e.when (follows z rs) ++ unlines e z rs)

theorem flatten_withBreaks (e : Break) (z : Bool) (rs : List Text) :
    (withBreaks e z rs).flatten = unlines e z rs := by
  induction rs with
  | nil => rfl
  | cons r rs ih => simp [withBreaks, unlines, ih]

theorem withBreaks_append (e : Break) (z : Bool) (rs ss : List Text) :
    withBreaks e z (rs ++ ss) = withBreaks e (follows z ss) rs ++ withBreaks e z ss := by
  induction rs with
  | nil => rfl
  | cons r rs ih => simp [withBreaks, ih, follows_append]

theorem withBreaks_concat (e : Break) (z : Bool) (rs : List Text) (r : Text) :
    withBreaks e z (rs ++ [r]) = withBreaks e true rs ++ [r ++ e.when z] := by
  rw [withBreaks_append]
  rfl

@[simp] theorem length_withBreaks (e : Break) (z : Bool) (rs : List Text) :
    (withBreaks e z rs).length = rs.length := by
  induction rs with
  | nil => rfl
  | cons r rs ih => simp [withBreaks, ih]

theorem exists_of_mem_withBreaks {e : Break} {z : Bool} {rs : List Text} {l : Text}
    (h : l ∈ withBreaks e z rs) : ∃ r ∈ rs, ∃ w, l = r ++ e.when w := by
  induction rs with
  | nil => cases h
  | cons r rs ih =>
    rcases List.mem_cons.1 h with rfl | h
    · exact ⟨r, by simp, _, rfl⟩
    · obtain ⟨s, hs, w, rfl⟩ := ih h
      exact ⟨s, by simp [hs], w, rfl⟩

theorem unlines_append (e : Break) (z : Bool) (rs ss : List Text) :
    unlines e z (rs ++ ss) = unlines e (follows z ss) rs ++ unlines e z ss := by
  induction rs with
  | nil => rfl
  | cons r rs ih => simp [unlines, ih, follows_append]

theorem unlines_concat (e : Break) (z : Bool) (rs : List Text) (r : Text) :
    unlines e z (rs ++ [r]) = unlines e true rs ++ (r ++ e.when z) := by
  rw [unlines_append]
  simp [unlines]

/-- The final line break goes behind everything. -/
theorem unlines_true (e : Break) {rs : List Text} (h : rs ≠ []) :
    unlines e true rs = unlines e false rs ++ e.text := by
  rcases List.eq_nil_or_concat rs with rfl | ⟨ss, r, rfl⟩
  · exact absurd rfl h
  · rw [List.concat_eq_append, unlines_concat, unlines_concat]
    simp

/-- Something, but no more than one line of it. -/
structure OneLine (t : Text) : Prop where
  nonempty : t ≠ []
  unbroken : ∀ c ∈ t, c ≠ '\r' ∧ c ≠ '\n'

theorem unlines_eq_nil_iff {e : Break} {rs : List Text} (h : ∀ r ∈ rs, OneLine r) :
    unlines e false rs = [] ↔ rs = [] := by
  cases rs with
  | nil => simp [unlines]
  | cons r rs => simp [unlines, (h r (by simp)).nonempty]

/-- A text made of rows has no carriage return at its end. -/
theorem before?_unlines {e : Break} {rs : List Text} (h : ∀ r ∈ rs, OneLine r) :
    before? ['\r'] (unlines e false rs) = none := by
  rw [Option.eq_none_iff_forall_ne_some]
  intro u hu
  have hend := before?_eq_some_iff.1 hu
  rcases List.eq_nil_or_concat rs with rfl | ⟨ss, r, rfl⟩
  · simp [unlines] at hend
  · rw [List.concat_eq_append] at h hend
    have hr := h r (by simp)
    obtain ⟨s, c, rfl⟩ := (List.eq_nil_or_concat r).resolve_left hr.nonempty
    rw [unlines_concat, Break.when_false, List.append_nil, List.concat_eq_append,
      ← List.append_assoc] at hend
    obtain rfl : c = '\r' := by simpa using (List.append_inj' hend rfl).2
    exact (hr.unbroken '\r' (by simp)).1 rfl

/-! ### The cuts that blocks make -/

section

variable {t : Text} (ht : blank t) (e : Break)
include ht

theorem dropWhile_trail (x : Text) : (t ++ (e.text ++ x)).dropWhile isBlank = e.text ++ x := by
  obtain ⟨c, y, hy, hc⟩ := e.eq_cons
  have hblank : isBlank c = false := by rcases hc with rfl | rfl <;> rfl
  rw [hy, List.cons_append]
  exact dropWhile_isBlank_append ht hblank _

theorem dropLineBreak?_trail (x : Text) :
    dropLineBreak? ((t ++ (e.text ++ x)).dropWhile isBlank) = some x := by
  rw [dropWhile_trail ht]
  cases e <;> rfl

theorem dropLineEnd_trail (x : Text) : dropLineEnd (t ++ (e.text ++ x)) = x := by
  rw [dropLineEnd, dropLineBreak?_trail ht, Option.getD_some]

theorem lineEnd_trail (x : Text) : lineEnd (t ++ (e.text ++ x)) = t ++ e.text := by
  have hlength : (t ++ (e.text ++ x)).length - x.length = (t ++ e.text).length := by
    simp only [List.length_append]
    omega
  rw [lineEnd, dropLineEnd_trail ht, hlength, ← List.append_assoc, List.take_left]

theorem breaksLine_trail (x : Text) : breaksLine (t ++ (e.text ++ x)) = true := by
  rw [breaksLine, dropLineBreak?_trail ht]
  rfl

omit e in
theorem breaksLine_of_blank : breaksLine t = false := by
  have hnil : t.dropWhile isBlank = [] := List.dropWhile_eq_nil_iff.2 (blank_iff.1 ht)
  rw [breaksLine, hnil]
  rfl

/-- Behind a directive that has its line to itself, blanks go up to the end of the line. -/
theorem leadingBlanks_trail {z : Bool} {x : Text} (hx : z = false → x = []) :
    leadingBlanks (t ++ (e.when z ++ x)) = t := by
  cases z with
  | true =>
    obtain ⟨c, y, hy, hc⟩ := e.eq_cons
    have hblank : isBlank c = false := by rcases hc with rfl | rfl <;> rfl
    rw [Break.when_true, hy, List.cons_append]
    exact leadingBlanks_append ht hblank _
  | false =>
    rw [hx rfl, Break.when_false, List.append_nil, List.append_nil]
    exact List.takeWhile_eq_self_iff.2 (blank_iff.1 ht)

end

/-- Whether a directive's line is blank behind it depends on the rest of that line alone. -/
theorem blankToLineEnd_append {t : Text} (ht : ∀ c ∈ t, c ≠ '\r' ∧ c ≠ '\n') (e : Break) {z : Bool}
    {x : Text} (hx : z = false → x = []) : blankToLineEnd (t ++ (e.when z ++ x)) = blank t := by
  have hline : ∀ c ∈ t, (c != '\n') = true := fun c hc => by simpa using (ht c hc).2
  have hself : t.reverse.dropWhile (· == '\r') = t.reverse := by
    cases hrev : t.reverse with
    | nil => rfl
    | cons c s =>
      have hmem : c ∈ t := by
        rw [← List.mem_reverse, hrev]
        exact List.mem_cons_self
      rw [List.dropWhile_cons_of_neg (by simpa using (ht c hmem).1)]
  have hrest : ∃ r, restOfLine (t ++ (e.when z ++ x)) = t ++ r ∧ (r = [] ∨ r = ['\r']) := by
    rw [restOfLine, List.takeWhile_append_of_pos hline]
    cases z with
    | true => cases e with
      | lf => exact ⟨[], rfl, Or.inl rfl⟩
      | crlf => exact ⟨['\r'], rfl, Or.inr rfl⟩
    | false =>
      rw [hx rfl]
      exact ⟨[], rfl, Or.inl rfl⟩
  obtain ⟨r, hr, hcr⟩ := hrest
  rw [blankToLineEnd, hr, dropEndWhile]
  rcases hcr with rfl | rfl
  · rw [List.append_nil, hself, List.reverse_reverse]
  · rw [List.reverse_append, List.reverse_singleton, List.singleton_append,
      List.dropWhile_cons_of_pos (by rfl), hself, List.reverse_reverse]

/-! ### The lines of a text -/

theorem lines_append_break {t : Text} (ht : '\n' ∉ t) (x : Text) :
    lines (t ++ '\n' :: x) = (t ++ ['\n']) :: lines x := by
  induction t with
  | nil => rfl
  | cons c t ih =>
    obtain ⟨hc, ht⟩ := not_or.1 (mt List.mem_cons.2 ht)
    rw [List.cons_append, lines, if_neg (Ne.symm hc), ih ht]
    rfl

theorem lines_of_not_mem {t : Text} (ht : '\n' ∉ t) (hne : t ≠ []) : lines t = [t] := by
  induction t with
  | nil => exact absurd rfl hne
  | cons c t ih =>
    obtain ⟨hc, ht⟩ := not_or.1 (mt List.mem_cons.2 ht)
    rw [lines, if_neg (Ne.symm hc)]
    cases t with
    | nil => rfl
    | cons d t => rw [ih ht (by simp)]

/-- The lines of a text made of rows are the rows, with their line breaks. -/
theorem lines_unlines (e : Break) (z : Bool) {rs : List Text} (h : ∀ r ∈ rs, OneLine r) :
    lines (unlines e z rs) = withBreaks e z rs := by
  induction rs with
  | nil => rfl
  | cons r rs ih =>
    have hr := h r (by simp)
    have hnone : '\n' ∉ r := fun hmem => (hr.unbroken '\n' hmem).2 rfl
    have hlater := ih fun s hs => h s (by simp [hs])
    rw [unlines, withBreaks]
    cases hz : follows z rs with
    | true =>
      obtain ⟨x, hx, hxn⟩ := e.eq_concat
      have hsplit : r ++ (e.when true ++ unlines e z rs) =
          (r ++ x) ++ '\n' :: unlines e z rs := by simp [hx]
      have hnone' : '\n' ∉ r ++ x := by simp [hnone, hxn]
      rw [hsplit, lines_append_break hnone', hlater]
      simp [hx]
    | false =>
      cases rs with
      | cons s rs => cases hz
      | nil =>
        simp only [Break.when_false, unlines, List.append_nil, withBreaks]
        exact lines_of_not_mem hnone hr.nonempty

end Text

/-- The content of a block whose directives have their lines to themselves is the rows between
them, without the last line break. -/
theorem Block.ownLines_unlines {trail lead : Text} (htrail : Text.blank trail)
    (hlead : Text.blank lead) (e : Text.Break) {rs : List Text} (hrs : ∀ r ∈ rs, Text.OneLine r) :
    ownLines (trail ++ (e.text ++ (Text.unlines e true rs ++ lead))) = Text.unlines e false rs := by
  have hnone : '\n' ∉ lead := fun h => (Text.ne_of_blank hlead '\n' h).2.2 rfl
  simp only [ownLines, Text.dropLineEnd_trail htrail]
  by_cases hnil : rs = []
  · subst hnil
    simp only [Text.unlines, List.nil_append, Text.cutAtLastLine?_eq_none hnone, hlead, if_true]
  · have hcut : ∀ x, e.text = x ++ ['\n'] →
        Text.cutAtLastLine? (Text.unlines e true rs ++ lead) =
          some (Text.unlines e false rs ++ x, lead) := by
      intro x hx
      refine Text.cutAtLastLine?_eq_some_iff.2 ⟨?_, hnone⟩
      rw [Text.unlines_true e hnil, hx]
      simp
    cases e with
    | lf =>
      simp only [hcut [] rfl, hlead, if_true]
      rw [List.append_nil, Text.before?_unlines hrs, Option.getD_none]
    | crlf =>
      simp only [hcut ['\r'] rfl, hlead, if_true]
      rw [Text.before?_eq_some_iff.2 rfl, Option.getD_some]

/-- A block with nothing but blanks before it on its line, and behind it on the line that it ends
on, is indented by those blanks. -/
theorem Block.indent?_eq {b : Block} {lead seen : Text} (hlead : Text.blank lead)
    (hseen : b.seen = lead.reverse ++ seen) (hstart : seen.head?.all (· == '\n'))
    (hrest : Text.blankToLineEnd b.rest) : b.indent? = some lead := by
  have hline : ∀ c ∈ lead.reverse, (c != '\n') = true := by
    intro c hc
    simpa using (Text.ne_of_blank hlead c (List.mem_reverse.1 hc)).2.2
  have hstop : seen.takeWhile (· != '\n') = [] := by
    cases seen with
    | nil => rfl
    | cons c s =>
      obtain rfl : c = '\n' := by simpa using hstart
      rfl
  have hb : b.lead = lead := by
    rw [Block.lead, hseen, List.takeWhile_append_of_pos hline, hstop, List.append_nil,
      List.reverse_reverse]
  rw [Block.indent?, hb, hlead, hrest]
  rfl

/-- A row without a directive. -/
structure Plain (m : Marker) where
  text : Text
  oneLine : Text.OneLine text
  quiet : m.find? text = none
  filled : Text.spaces text = false

/-- A row with one directive comment, and blanks around it. -/
structure Note (m : Marker) where
  lead : Text
  comment : Text
  trail : Text
  lead_blank : Text.blank lead
  trail_blank : Text.blank trail
  located : m.Comment comment

/-- A row of a text. -/
inductive Row (m : Marker) where
  | plain (p : Plain m)
  | note (n : Note m)

variable {m : Marker}

/-- The text of a note. -/
def Note.text (n : Note m) : Text := n.lead ++ (n.comment ++ n.trail)

theorem Note.oneLine (n : Note m) : Text.OneLine n.text where
  nonempty := by
    obtain ⟨t, ht⟩ := n.located.eq_cons
    simp [text, ht]
  unbroken := by
    intro c hc
    simp only [text, List.mem_append] at hc
    rcases hc with hc | hc | hc
    · exact (Text.ne_of_blank n.lead_blank c hc).2
    · exact n.located.ne_break c hc
    · exact (Text.ne_of_blank n.trail_blank c hc).2

namespace Row

/-- The text of a row. -/
def text : Row m → Text
  | plain p => p.text
  | note n => n.text

theorem oneLine (r : Row m) : Text.OneLine r.text := by
  cases r with
  | plain p => exact p.oneLine
  | note n => exact n.oneLine

theorem oneLine_of_mem {rows : List (Row m)} : ∀ t ∈ rows.map text, Text.OneLine t := by
  intro t ht
  obtain ⟨r, -, rfl⟩ := List.mem_map.1 ht
  exact r.oneLine

/-- The comments of a text that is made of rows, and the text behind the last one; `gap` is the
text since the last comment before. -/
def cuts (e : Text.Break) (z : Bool) (gap : Text) : List (Row m) → List Cut × Text
  | [] => ([], gap)
  | plain p :: later => cuts e z (gap ++ (p.text ++ e.when (Text.follows z later))) later
  | note n :: later =>
    let rest := cuts e z (n.trail ++ e.when (Text.follows z later)) later
    (⟨gap ++ n.lead, n.comment⟩ :: rest.1, rest.2)

theorem cuts_append (e : Text.Break) (z : Bool) (gap : Text) (rows later : List (Row m)) :
    cuts e z gap (rows ++ later) =
      ((cuts e (Text.follows z later) gap rows).1 ++
        (cuts e z (cuts e (Text.follows z later) gap rows).2 later).1,
        (cuts e z (cuts e (Text.follows z later) gap rows).2 later).2) := by
  induction rows generalizing gap with
  | nil => rfl
  | cons r rows ih =>
    cases r with
    | plain p => simp only [List.cons_append, cuts, Text.follows_append, ih]
    | note n => simp only [List.cons_append, cuts, Text.follows_append, ih]

/-- What the comment of a row says, if there is one. -/
def token? : Row m → Option (Except Fault Token)
  | plain _ => none
  | note n => some (m.classify n.comment)

theorem tokens_cuts (e : Text.Break) (z : Bool) (gap : Text) (rows : List (Row m)) :
    ((cuts e z gap rows).1.map Cut.comment).map m.classify = rows.filterMap token? := by
  induction rows generalizing gap with
  | nil => rfl
  | cons r rows ih =>
    cases r with
    | plain p => exact ih _
    | note n =>
      rw [cuts, List.map_cons, List.map_cons, ih]
      rfl

/-- Rows can be split wherever their comments can. -/
theorem split_of_tokens {rows : List (Row m)} {xs ys : List (Except Fault Token)}
    {t : Except Fault Token} (h : rows.filterMap token? = xs ++ t :: ys) :
    ∃ before n later, rows = before ++ note n :: later ∧ m.classify n.comment = t ∧
      before.filterMap token? = xs ∧ later.filterMap token? = ys := by
  obtain ⟨before, rest, rfl, hbefore, hrest⟩ := List.filterMap_eq_append_iff.1 h
  obtain ⟨plains, r, later, rfl, hplains, hr, hlater⟩ := List.filterMap_eq_cons_iff.1 hrest
  cases r with
  | plain p => simp [token?] at hr
  | note n =>
    refine ⟨before ++ plains, n, later, by simp, Option.some.inj hr, ?_, hlater⟩
    rw [List.filterMap_append, hbefore, List.filterMap_eq_nil_iff.2 hplains, List.append_nil]

/-- A search for comments finds those of the notes. A text `x` may follow the last line break. -/
theorem cut_unlines (e : Text.Break) {z : Bool} {x : Text} (hx : z = false → x = [])
    (gap : Text) (rows : List (Row m)) :
    Cut.glue gap (m.cut (Text.unlines e z (rows.map text) ++ x)) =
      ((cuts e z gap rows).1 ++ (Cut.glue (cuts e z gap rows).2 (m.cut x)).1,
        (Cut.glue (cuts e z gap rows).2 (m.cut x)).2) := by
  induction rows generalizing gap with
  | nil => rfl
  | cons r rows ih =>
    generalize hrest : Text.unlines e z (rows.map text) ++ x = rest at ih
    cases r with
    | plain p =>
      have hplain : m.cut p.text = ([], p.text) := Marker.cut_of_none p.quiet
      have hcut : m.cut (p.text ++ (e.when (Text.follows z rows) ++ rest)) =
          Cut.glue (p.text ++ e.when (Text.follows z rows)) (m.cut rest) := by
        cases hz : Text.follows z rows with
        | true =>
          obtain ⟨c, y, hy, hc⟩ := e.eq_cons
          have hseam : m.Seam p.text (e.text ++ rest) := by
            rw [hy]
            exact Marker.seam_before_break hc p.text _
          rw [Text.Break.when_true, Marker.cut_append hseam, hplain,
            Marker.cut_front e.ne_angle, Cut.glue_glue]
          rfl
        | false =>
          -- The row is the last one, and nothing follows.
          cases rows with
          | cons r rows => cases hz
          | nil =>
            obtain rfl : [] = rest := by rw [← hrest, hx hz]; rfl
            rw [Text.Break.when_false, List.append_nil, List.append_nil, hplain,
              Marker.cut_plain (by simp)]
            simp [Cut.glue]
      rw [List.map_cons, Text.unlines, Text.follows_map, List.append_assoc, List.append_assoc,
        hrest, text, hcut, Cut.glue_glue, ih]
      rfl
    | note n =>
      have htrail : ∀ c ∈ n.trail ++ e.when (Text.follows z rows), c ≠ '<' := by
        intro c hc
        rcases List.mem_append.1 hc with hc | hc
        · exact (Text.ne_of_blank n.trail_blank c hc).1
        · cases hz : Text.follows z rows with
          | true => exact e.ne_angle c (by rwa [hz] at hc)
          | false => simp [hz] at hc
      have hlead : ∀ c ∈ n.lead, c ≠ '<' := fun c hc => (Text.ne_of_blank n.lead_blank c hc).1
      have hsplit : Text.unlines e z ((note n :: rows).map text) ++ x =
          n.lead ++ (n.comment ++ (n.trail ++ e.when (Text.follows z rows) ++ rest)) := by
        rw [← hrest]
        simp [Text.unlines, text, Note.text]
      rw [hsplit, Marker.cut_front hlead, Marker.cut_comment n.located, Marker.cut_front htrail, ih,
        Cut.glue_glue]
      simp [Cut.glue, cuts]

/-- The comments of whole rows are those of the text. -/
theorem cut_text (e : Text.Break) (z : Bool) (rows : List (Row m)) :
    m.cut (Text.unlines e z (rows.map text)) = cuts e z [] rows := by
  have hnil : m.cut [] = ([], []) := Marker.cut_plain (by simp)
  have hcut := cut_unlines e (z := z) (x := []) (fun _ => rfl) [] rows
  rw [Cut.glue_nil, List.append_nil, hnil] at hcut
  rw [hcut]
  simp [Cut.glue]

/-- A line holds a comment exactly if its row does. -/
theorem isSome_find? (r : Row m) (e : Text.Break) (z : Bool) :
    (m.find? (r.text ++ e.when z)).isSome = r.token?.isSome := by
  have hcut := cut_text e z [r]
  rw [List.map_singleton, Text.unlines, Text.follows_nil, Text.unlines, List.append_nil] at hcut
  cases hfind : m.find? (r.text ++ e.when z) with
  | none =>
    rw [Marker.cut_of_none hfind] at hcut
    cases r with
    | plain p => rfl
    | note n => simp [cuts] at hcut
  | some f =>
    rw [Marker.cut_of_some hfind] at hcut
    cases r with
    | plain p => simp [cuts] at hcut
    | note n => rfl

end Row

/-- A directive comment on this line, if there is one, has the line to itself. -/
def Marker.aloneOn (m : Marker) (l : Text) : Bool :=
  match m.find? l with
  | none => true
  | some f => Text.blank f.gap && Text.blankToLineEnd f.rest

namespace Row

theorem exists_of_line {e : Text.Break} {l : Text} (hbroken : e.unbroken l)
    (hfilled : Text.spaces l = false) (halone : m.aloneOn l) :
    ∃ (r : Row m) (z : Bool), l = r.text ++ e.when z := by
  obtain ⟨u, z, rfl, hu⟩ := Text.Break.exists_of_unbroken hbroken
  have hspaces : Text.spaces u = false := by
    have hbreak := e.spaces_when z
    rw [Text.spaces] at hfilled hbreak ⊢
    rwa [List.all_append, hbreak, Bool.and_true] at hfilled
  have hne : u ≠ [] := by
    rintro rfl
    simp [Text.spaces] at hspaces
  rw [Marker.aloneOn] at halone
  cases hfind : m.find? (u ++ e.when z) with
  | none =>
    have hquiet : m.find? u = none := Marker.find?_of_append hfind
    exact ⟨.plain ⟨u, ⟨hne, hu⟩, hquiet, hspaces⟩, z, rfl⟩
  | some f =>
    rw [hfind, Bool.and_eq_true] at halone
    obtain ⟨hgap, hrest⟩ := halone
    obtain ⟨hc, -, heq⟩ := Marker.find?_eq_some_iff.1 hfind
    have hsplit : ∃ t, u = f.gap ++ f.comment ++ t ∧ f.rest = t ++ e.when z := by
      rw [← List.append_assoc] at heq
      rcases List.append_eq_append_iff.1 heq with ⟨t, ht, hwhen⟩ | ⟨t, ht, hr⟩
      · -- No part of the line break belongs to the comment.
        cases t with
        | nil => exact ⟨[], by simpa using ht.symm, by simpa using hwhen.symm⟩
        | cons c t =>
          have hbreak : c = '\r' ∨ c = '\n' := Text.Break.eq_of_mem_when (by rw [hwhen]; simp)
          have hmem : c ∈ f.gap ++ f.comment := by rw [ht]; simp
          have hno : c ≠ '\r' ∧ c ≠ '\n' := by
            rcases List.mem_append.1 hmem with hmem | hmem
            · exact (Text.ne_of_blank hgap c hmem).2
            · exact hc.ne_break c hmem
          rcases hbreak with rfl | rfl
          · exact absurd rfl hno.1
          · exact absurd rfl hno.2
      · exact ⟨t, ht, hr⟩
    obtain ⟨t, rfl, ht⟩ := hsplit
    have htrail : Text.blank t := by
      have hunbroken : ∀ c ∈ t, c ≠ '\r' ∧ c ≠ '\n' := fun c hmem => hu c (by simp [hmem])
      rw [← Text.blankToLineEnd_append hunbroken e (z := z) (x := []) (fun _ => rfl),
        List.append_nil, ← ht]
      exact hrest
    exact ⟨.note ⟨f.gap, f.comment, t, hgap, htrail, hc⟩, z, by simp [text, Note.text]⟩

/-- A text whose lines are filled, and whose directives have their lines to themselves, is made of
rows. -/
theorem exists_unlines {e : Text.Break} {t : Text}
    (hbroken : ∀ l ∈ Text.lines t, e.unbroken l)
    (hfilled : ∀ l ∈ Text.lines t, Text.spaces l = false)
    (halone : ∀ l ∈ Text.lines t, m.aloneOn l) :
    ∃ z, ∃ rows : List (Row m), t = Text.unlines e z (rows.map text) := by
  by_cases hmem : '\n' ∈ t
  · obtain ⟨b, rest, ht, hb⟩ := List.eq_append_cons_of_mem hmem
    have hlines : Text.lines t = (b ++ ['\n']) :: Text.lines rest := by
      rw [ht, Text.lines_append_break hb]
    have hshort : rest.length < t.length := by
      rw [ht, List.length_append, List.length_cons]
      omega
    rw [hlines] at hbroken hfilled halone
    rw [List.forall_mem_cons] at hbroken hfilled halone
    obtain ⟨r, z, hline⟩ := exists_of_line hbroken.1 hfilled.1 halone.1
    have hz : z = true := by
      cases z with
      | true => rfl
      | false =>
        have hin : '\n' ∈ r.text := by
          rw [← List.append_nil r.text, ← e.when_false, ← hline]
          simp
        exact absurd rfl (r.oneLine.unbroken '\n' hin).2
    have htext : t = r.text ++ (e.text ++ rest) := by
      rw [ht, ← List.append_assoc, ← e.when_true, ← hz, ← hline]
      simp
    obtain ⟨z', rows, hrest⟩ := exists_unlines hbroken.2 hfilled.2 halone.2
    cases rows with
    | nil =>
      obtain rfl : rest = [] := hrest
      exact ⟨true, [r], by simp [htext, Text.unlines]⟩
    | cons s rows =>
      refine ⟨z', r :: s :: rows, ?_⟩
      rw [List.map_cons, Text.unlines, ← hrest, htext]
      rfl
  · cases t with
    | nil => exact ⟨true, [], rfl⟩
    | cons c t =>
      rw [Text.lines_of_not_mem hmem (by simp)] at hbroken hfilled halone
      rw [List.forall_mem_singleton] at hbroken hfilled halone
      obtain ⟨r, z, hline⟩ := exists_of_line hbroken hfilled halone
      refine ⟨z, [r], ?_⟩
      rw [hline]
      simp [Text.unlines]
termination_by t.length

end Row

end PageBlocks
