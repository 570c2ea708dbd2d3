import PageBlocks.Proofs.Document
import PageBlocks.Proofs.Row

/-!
# Outlines

An outline is a document of whole rows: plain rows, and blocks of one type whose directives have
their rows to themselves.

    row
    note    <!-- build:remove(a) -->    ┐ stack
    note    <!-- build:remove(b) -->    ┘
    row                                 ┐ body, an outline again
    row                                 ┘
    note    <!-- endbuild -->
    row

`scan_framed` says how the text of an outline is scanned, also with other text around it on its
first and last line. `exists_outline` says that every text that is made of rows and scanned without
error has an outline.
-/

namespace PageBlocks

open Token (depthAfter?)

variable {m : Marker} {type : Text}

/-- A row with a directive that opens a block of type `type`. -/
structure Opener (m : Marker) (type : Text) extends Note m where
  directive : Directive
  reads : m.classify comment = .ok (.opens directive)
  typed : directive.type = type

/-- A row with a directive that closes a block. -/
structure Closer (m : Marker) extends Note m where
  reads : m.classify comment = .ok .closes

/-- Rows and blocks in their order, each with what comes later. -/
inductive Outline (m : Marker) (type : Text) where
  | done
  | line (p : Plain m) (later : Outline m type)
  | block (first : Opener m type) (stack : List (Opener m type)) (body : Outline m type)
      (closing : Closer m) (later : Outline m type)

/-- The directive of a row, without the blanks around it. -/
def Opener.opening (o : Opener m type) : Document.Opening m := ⟨o.comment, o.directive, o.reads⟩

/-- The row as such. -/
def Opener.row (o : Opener m type) : Row m := .note o.toNote

namespace Outline

/-- The rows of an outline. -/
def rows : Outline m type → List (Row m)
  | done => []
  | line p later => .plain p :: later.rows
  | block first stack body closing later =>
    first.row :: (stack.map Opener.row ++ (body.rows ++ .note closing.toNote :: later.rows))

/-- All blocks, at any depth, have a stack of one directive. -/
def Single : Outline m type → Prop
  | done => True
  | line _ later => later.Single
  | block _ stack body _ later => stack = [] ∧ body.Single ∧ later.Single

/-- Stacks of several directives occur at the top only. -/
def WellFormed : Outline m type → Prop
  | done => True
  | line _ later => later.WellFormed
  | block _ _ body _ later => body.Single ∧ later.WellFormed

/-! ### Outlines as documents -/

/-- The directives that are stacked behind the first one, each with the text before it; `trail` is
what stands behind the directive before on its row. -/
def stackMore (e : Text.Break) (trail : Text) :
    List (Opener m type) → List (Text × Document.Opening m)
  | [] => []
  | o :: os => (trail ++ (e.text ++ o.lead), o.opening) :: stackMore e o.trail os

/-- What stands behind the last directive of a stack on its row. -/
def lastTrail (trail : Text) : List (Opener m type) → Text
  | [] => trail
  | o :: os => lastTrail o.trail os

theorem blank_lastTrail {trail : Text} (h : Text.blank trail) (os : List (Opener m type)) :
    Text.blank (lastTrail trail os) := by
  induction os generalizing trail with
  | nil => exact h
  | cons o os ih => exact ih o.trail_blank

theorem spaced_stackMore (e : Text.Break) {trail : Text} (h : Text.blank trail)
    (os : List (Opener m type)) : ∀ x ∈ stackMore e trail os, Text.spaces x.1 := by
  induction os generalizing trail with
  | nil => simp [stackMore]
  | cons o os ih =>
    intro x hx
    rcases List.mem_cons.1 hx with rfl | hx
    · have hbreak := e.spaces_when true
      have hleft := Text.spaces_of_blank h
      have hright := Text.spaces_of_blank o.lead_blank
      simp only [Text.spaces, Text.Break.when_true, List.all_append] at *
      rw [hleft, hbreak, hright]
      rfl
    · exact ih o.trail_blank x hx

theorem typed_stackMore (e : Text.Break) (trail : Text) (os : List (Opener m type)) :
    ∀ x ∈ stackMore e trail os, x.2.directive.type = type := by
  induction os generalizing trail with
  | nil => simp [stackMore]
  | cons o os ih =>
    intro x hx
    rcases List.mem_cons.1 hx with rfl | hx
    · exact o.typed
    · exact ih o.trail x hx

/-- The stack of directives in front of a block. -/
def stackOf (e : Text.Break) (first : Opener m type) (os : List (Opener m type)) :
    Document.Stack m where
  first := first.opening
  more := stackMore e first.trail os
  spaced := spaced_stackMore e first.trail_blank os
  alike := fun x hx => (typed_stackMore e first.trail os x hx).trans first.typed.symm

/-- The document with these rows, and the text `y` behind the last line break. -/
def toDocument (e : Text.Break) (z : Bool) (y : Text) : Outline m type → Document m
  | done => .text y .nil
  | line p later =>
    .text (p.text ++ e.when (Text.follows z later.rows)) (later.toDocument e z y)
  | block first stack body closing later =>
    .text first.lead (.block (stackOf e first stack)
      (.text (lastTrail first.trail stack ++ e.text) (body.toDocument e true closing.lead))
      ⟨closing.comment, closing.reads⟩
      (.text (closing.trail ++ e.when (Text.follows z later.rows)) (later.toDocument e z y)))

theorem single_toDocument {o : Outline m type} (h : o.Single) (e : Text.Break) (z : Bool)
    (y : Text) : (o.toDocument e z y).Single := by
  induction o generalizing z y with
  | done => trivial
  | line p later ih => exact ih h z y
  | block first stack body closing later ihb ihl =>
    obtain ⟨rfl, hb, hl⟩ := h
    exact ⟨rfl, ihb hb true _, ihl hl z y⟩

theorem wellFormed_toDocument {o : Outline m type} (h : o.WellFormed) (e : Text.Break) (z : Bool)
    (y : Text) : (o.toDocument e z y).WellFormed := by
  induction o with
  | done => trivial
  | line p later ih => exact ih h
  | block first stack body closing later _ ihl =>
    exact ⟨single_toDocument h.1 e true _, ihl h.2⟩

theorem source_stackMore (e : Text.Break) (trail : Text) (os : List (Opener m type)) :
    Cut.source ((stackMore e trail os).map fun x => ⟨x.1, x.2.comment⟩) ++
        (lastTrail trail os ++ e.text) =
      trail ++ (e.text ++ Text.unlines e true (os.map fun o => o.row.text)) := by
  induction os generalizing trail with
  | nil => simp [stackMore, lastTrail, Text.unlines]
  | cons o os ih =>
    have hrest := ih o.trail
    simp only [stackMore, lastTrail, List.map_cons, Cut.source_cons, List.append_assoc, hrest,
      Text.unlines, Text.follows_true, Text.Break.when_true, Opener.opening]
    simp only [Opener.row, Row.text, Note.text, List.append_assoc]

theorem print_toDocument (o : Outline m type) (e : Text.Break) (z : Bool) (y : Text) :
    (o.toDocument e z y).print = Text.unlines e z (o.rows.map Row.text) ++ y := by
  induction o generalizing z y with
  | done => simp [toDocument, Document.print, rows, Text.unlines]
  | line p later ih => simp [toDocument, Document.print, rows, Text.unlines, Row.text, ih]
  | block first stack body closing later ihb ihl =>
    have hstack := source_stackMore e first.trail stack
    have hrows : Text.unlines e z ((block first stack body closing later).rows.map Row.text) =
        first.lead ++ (first.comment ++ ((first.trail ++ (e.text ++
          Text.unlines e true (stack.map fun o => o.row.text))) ++
          (Text.unlines e true (body.rows.map Row.text) ++ (closing.lead ++ (closing.comment ++
            (closing.trail ++ (e.when (Text.follows z later.rows) ++
              Text.unlines e z (later.rows.map Row.text)))))))) := by
      simp [rows, Text.unlines, Text.unlines_append, Text.follows_append, Row.text, Note.text,
        Opener.row, Function.comp_def]
    rw [hrows, ← hstack]
    simp only [toDocument, Document.print, Document.Stack.print, Document.Stack.cuts, stackOf,
      Opener.opening, ihb, ihl, List.append_assoc]

theorem cuts_stackMore (e : Text.Break) (trail : Text) (os : List (Opener m type)) :
    Row.cuts e true (trail ++ e.text) (os.map Opener.row) =
      ((stackMore e trail os).map fun x => ⟨x.1, x.2.comment⟩, lastTrail trail os ++ e.text) := by
  induction os generalizing trail with
  | nil => rfl
  | cons o os ih =>
    rw [List.map_cons, Opener.row, Row.cuts, Text.follows_true, Text.Break.when_true, ih]
    simp [stackMore, lastTrail, Opener.opening]

/-- The comments of the document are those of the rows. -/
theorem cuts_toDocument (o : Outline m type) (e : Text.Break) (z : Bool) (y gap : Text) :
    (o.toDocument e z y).cuts gap =
      ((Row.cuts e z gap o.rows).1, (Row.cuts e z gap o.rows).2 ++ y) := by
  induction o generalizing z y gap with
  | done => rfl
  | line p later ih => exact ih z y _
  | block first stack body closing later ihb ihl =>
    have hstack := cuts_stackMore e first.trail stack
    simp only [toDocument, Document.cuts, List.nil_append, ihb, ihl, rows, Opener.row, Row.cuts,
      Row.cuts_append, Text.follows_cons, Text.follows_append, Text.follows_true,
      Text.Break.when_true, hstack]
    rfl

/-- The text of an outline is scanned as its document says, also when `x` stands before it and `y`
behind it. -/
theorem scan_framed {o : Outline m type} (hwell : o.WellFormed) (e : Text.Break) {z : Bool}
    {x y : Text} (hx : ∀ c ∈ x, c ≠ '<') (hy : ∀ c ∈ y, c ≠ '<') (hz : z = false → y = [])
    (line : Nat) :
    m.scan line (x ++ (Text.unlines e z (o.rows.map Row.text) ++ y)) =
      ⟨(o.toDocument e z y).segments x.reverse (line + Text.lineFeeds x) x, none⟩ := by
  have hprint : (Document.text x (o.toDocument e z y)).print =
      x ++ (Text.unlines e z (o.rows.map Row.text) ++ y) := by
    rw [Document.print, print_toDocument]
  have hcut : m.cut (Document.text x (o.toDocument e z y)).print =
      (Document.text x (o.toDocument e z y)).cuts [] := by
    rw [hprint, Marker.cut_front hx, Row.cut_unlines e hz, Marker.cut_plain hy, Document.cuts,
      List.nil_append, cuts_toDocument]
    simp [Cut.glue]
  have hdoc : (Document.text x (o.toDocument e z y)).WellFormed := wellFormed_toDocument hwell e z y
  rw [← hprint, Document.scan_of_cut hdoc hcut]
  simp [Document.segments]

theorem scan_text {o : Outline m type} (hwell : o.WellFormed) (e : Text.Break) (z : Bool)
    (line : Nat) :
    m.scan line (Text.unlines e z (o.rows.map Row.text)) =
      ⟨(o.toDocument e z []).segments [] line [], none⟩ := by
  have hscan := scan_framed hwell e (z := z) (x := []) (y := []) (by simp) (by simp)
    (fun _ => rfl) line
  rwa [List.nil_append, List.append_nil] at hscan

/-! ### Every text made of rows has an outline -/

/-- All directives that open blocks have type `type`. -/
def Typed (type : Text) (rows : List (Row m)) : Prop :=
  ∀ t ∈ rows.filterMap Row.token?, ∀ d, t = .ok (.opens d) → d.type = type

theorem Typed.append {r s : List (Row m)} (h : Typed type (r ++ s)) :
    Typed type r ∧ Typed type s := by
  unfold Typed at *
  rw [List.filterMap_append] at h
  exact ⟨fun t ht => h t (List.mem_append_left _ ht), fun t ht => h t (List.mem_append_right _ ht)⟩

/-- Rows that close all they open are those of an outline without stacks. -/
theorem exists_single {rows : List (Row m)} (htyped : Typed type rows)
    (h : depthAfter? 0 (rows.filterMap Row.token?) = some 0) :
    ∃ o : Outline m type, o.rows = rows ∧ o.Single := by
  match rows with
  | [] => exact ⟨done, rfl, trivial⟩
  | .plain p :: rows =>
    have hrows : Typed type rows := htyped
    obtain ⟨o, rfl, hsingle⟩ := exists_single hrows h
    exact ⟨line p o, rfl, hsingle⟩
  | .note n :: rows =>
    have htokens : (Row.note n :: rows).filterMap Row.token? =
        m.classify n.comment :: rows.filterMap Row.token? := rfl
    rw [htokens] at h
    cases hn : m.classify n.comment with
    | error fault => simp [hn, depthAfter?] at h
    | ok t =>
      cases t with
      | closes => simp [hn, depthAfter?] at h
      | opens d =>
        rw [hn] at h
        obtain ⟨xs, ys, hsplit, hxs, hys⟩ := Token.exists_closing (a := 0) h
        obtain ⟨inside, c, later, hrows, hc, rfl, rfl⟩ := Row.split_of_tokens hsplit
        have hlength : rows.length = inside.length + (later.length + 1) := by
          rw [hrows, List.length_append, List.length_cons]
        have hd : d.type = type := htyped _ (by rw [htokens, hn]; simp) d rfl
        have hinner := (Typed.append (r := [.note n]) htyped).2
        rw [hrows] at hinner
        have hlater := (Typed.append (r := [.note c]) hinner.append.2).2
        obtain ⟨body, hbody, hsingle⟩ := exists_single hinner.append.1 hxs
        obtain ⟨rest, hrest, hsingle'⟩ := exists_single hlater hys
        refine ⟨block ⟨n, d, hn, hd⟩ [] body ⟨c, hc⟩ rest, ?_, rfl, hsingle, hsingle'⟩
        rw [hrows, ← hbody, ← hrest]
        rfl
termination_by rows.length
decreasing_by all_goals simp; try omega

/-- The marks are those of the rows; `gap` is the text between the first row and the comment
before. -/
structure Reads (e : Text.Break) (z : Bool) (gap : Text) (rows : List (Row m)) (ms : List Mark) :
    Prop where
  cuts : ms.map Mark.cut = (Row.cuts e z gap rows).1
  tokens : ms.map Mark.token = rows.filterMap Row.token?

section

variable {e : Text.Break} {z : Bool} {gap : Text}

theorem length_cuts (e : Text.Break) (z : Bool) (gap : Text) (rows : List (Row m)) :
    (Row.cuts e z gap rows).1.length = (rows.filterMap Row.token?).length := by
  rw [← Row.tokens_cuts e z gap, List.length_map, List.length_map]

/-- Marks behind one of the rows are those of the rows behind. -/
theorem Reads.behind {before later : List (Row m)} {n : Note m} {ms ks : List Mark} {k : Mark}
    (h : Reads e z gap (before ++ .note n :: later) (ms ++ k :: ks))
    (hms : ms.map Mark.token = before.filterMap Row.token?) :
    Reads e z (n.trail ++ e.when (Text.follows z later)) later ks := by
  obtain ⟨hcuts, htokens⟩ := h
  constructor
  · rw [Row.cuts_append, List.map_append] at hcuts
    have hlength : (ms.map Mark.cut).length =
        (Row.cuts e (Text.follows z (Row.note n :: later)) gap before).1.length := by
      rw [length_cuts, ← hms, List.length_map, List.length_map]
    exact (List.cons.inj (List.append_inj hcuts hlength).2).2
  · rw [List.map_append, List.filterMap_append, hms] at htokens
    exact (List.cons.inj (List.append_cancel_left htokens)).2

/-- The first gap holds all plain rows before the first comment. -/
theorem prefix_gap {r : List (Row m)} {c : Cut} {cs : List Cut}
    (h : (Row.cuts e z gap r).1 = c :: cs) : gap <+: c.gap := by
  induction r generalizing gap with
  | nil => simp [Row.cuts] at h
  | cons r rows ih =>
    cases r with
    | plain p => exact (List.prefix_append _ _).trans (ih h)
    | note n =>
      obtain rfl : _ = c := (List.cons.inj h).1
      exact List.prefix_append _ _

/-- Stacked directives follow each other row by row: a plain row between them is not white
space. -/
theorem exists_stack {rows : List (Row m)} {stack ks : List Mark}
    (hreads : Reads e z gap rows (stack ++ ks)) (hjoins : ∀ s ∈ stack, Mark.joins type s) :
    ∃ (os : List (Opener m type)) (later : List (Row m)) (gap' : Text),
      rows = os.map Opener.row ++ later ∧ Reads e z gap' later ks := by
  induction stack generalizing rows gap with
  | nil => exact ⟨[], rows, gap, rfl, hreads⟩
  | cons s stack ih =>
    have hs := hjoins s List.mem_cons_self
    have hstack : ∀ x ∈ stack, Mark.joins type x := fun x hx => hjoins x (List.mem_cons_of_mem _ hx)
    cases rows with
    | nil => cases hreads.tokens
    | cons r rows =>
      cases r with
      | plain p =>
        have hgap : gap ++ (p.text ++ e.when (Text.follows z rows)) <+: s.cut.gap :=
          prefix_gap (r := rows) hreads.cuts.symm
        have hspaces : Text.spaces s.gap := (Bool.and_eq_true_iff.1 hs).1
        have hsub : ∀ c ∈ p.text, Text.isSpace c := by
          intro c hc
          have hmem : c ∈ gap ++ (p.text ++ e.when (Text.follows z rows)) :=
            List.mem_append_right _ (List.mem_append_left _ hc)
          exact List.all_eq_true.1 hspaces c (hgap.subset hmem)
        have hfull : Text.spaces p.text = true := List.all_eq_true.2 hsub
        rw [p.filled] at hfull
        cases hfull
      | note n =>
        obtain ⟨d, hd, htype⟩ := Mark.opens_of_joins hs
        have htokens := hreads.tokens
        rw [List.cons_append, List.map_cons, hd] at htokens
        have hn : m.classify n.comment = .ok (.opens d) := (List.cons.inj htokens).1.symm
        have hfirst : Reads e z gap ([] ++ .note n :: rows) ([] ++ s :: (stack ++ ks)) := hreads
        have hlater := hfirst.behind rfl
        obtain ⟨os, later, gap', rfl, hreads'⟩ := ih hlater hstack
        exact ⟨⟨n, d, hn, htype⟩ :: os, later, gap', rfl, hreads'⟩

/-- Plain rows may come before an outline. -/
theorem exists_plains {plains : List (Row m)} (h : plains.filterMap Row.token? = [])
    {o : Outline m type} (hwell : o.WellFormed) :
    ∃ o' : Outline m type, o'.rows = plains ++ o.rows ∧ o'.WellFormed := by
  induction plains with
  | nil => exact ⟨o, rfl, hwell⟩
  | cons r plains ih =>
    cases r with
    | plain p =>
      obtain ⟨o', hrows, hwell'⟩ := ih h
      exact ⟨line p o', by rw [rows, hrows]; rfl, hwell'⟩
    | note n => simp [Row.token?] at h

theorem exists_wellFormed {rows : List (Row m)} {ms : List Mark} {tail : Text}
    (hreads : Reads e z gap rows ms) (htyped : Typed type rows)
    (herror : (Scan.ofMarks ms tail).error? = none) :
    ∃ o : Outline m type, o.rows = rows ∧ o.WellFormed := by
  fun_induction Scan.ofMarks ms tail generalizing rows gap with
  | case1 =>
    obtain ⟨o, ho, hwell⟩ := exists_plains hreads.tokens.symm (o := (done : Outline m type)) trivial
    exact ⟨o, by rw [ho, Outline.rows, List.append_nil], hwell⟩
  | case2 => simp [Scan.stopped] at herror
  | case3 => simp [Scan.stopped] at herror
  | case4 => simp [Scan.stopped] at herror
  | case5 => simp [Scan.stopped] at herror
  | case6 =>
    rename_i k later d hk n c hc block scan ih
    have hlater : later = later.take n ++ (c.inside ++ c.closing :: c.behind) := by
      rw [← Mark.eq_of_toClosing hc, List.take_append_drop]
    have hbalanced := Mark.toClosing_balanced hc
    -- The opening directive, behind plain rows.
    have hfirst : rows.filterMap Row.token? = [] ++ .ok (.opens d) :: later.map Mark.token := by
      rw [← hreads.tokens, List.map_cons, hk]
      rfl
    obtain ⟨plains, f, rows', rfl, hf, hplains, -⟩ := Row.split_of_tokens hfirst
    have hd : d.type = type := htyped _ (by rw [hfirst]; simp) d rfl
    have hall : Reads e z gap (plains ++ .note f :: rows') ([] ++ k :: later) := hreads
    -- Its stack.
    have hreads' := hall.behind hplains.symm
    rw [hlater] at hreads'
    have hjoins : ∀ s ∈ later.take n, Mark.joins type s := by
      rw [← hd]
      exact Mark.joins_of_mem_stack
    obtain ⟨os, rows'', gap', rfl, hstack⟩ := exists_stack hreads' hjoins
    -- Its body, the closing directive, and what is behind.
    have hsplit := hstack.tokens
    rw [List.map_append, List.map_cons, hbalanced.2] at hsplit
    obtain ⟨inside, cl, behind, rfl, hcl, hinside, hbehind⟩ := Row.split_of_tokens hsplit.symm
    have htyped' := (Typed.append (r := [.note f]) htyped.append.2).2.append.2
    have hlast := (Typed.append (r := [.note cl]) htyped'.append.2).2
    obtain ⟨body, rfl, hbody⟩ := exists_single htyped'.append.1 (by rw [hinside]; exact hbalanced.1)
    obtain ⟨rest, rfl, hrest⟩ := ih (hstack.behind hinside.symm) hlast herror
    exact exists_plains hplains
      (o := Outline.block ⟨f, d, hf, hd⟩ os body ⟨cl, hcl⟩ rest) ⟨hbody, hrest⟩

/-- A text that is made of rows and scanned without error has an outline. -/
theorem exists_outline {rows : List (Row m)} {n : Nat} (htyped : Typed type rows)
    (h : (m.scan n (Text.unlines e z (rows.map Row.text))).error? = none) :
    ∃ o : Outline m type, o.rows = rows ∧ o.WellFormed := by
  rw [Marker.scan_eq_ofMarks] at h
  have hreads : Reads e z [] rows (marks m n (Text.unlines e z (rows.map Row.text))).1 := by
    constructor
    · rw [marks, Marker.marksFrom_eq_place, Marker.cuts_place, Row.cut_text]
    · rw [Marker.tokens_marks, Row.cut_text, Row.tokens_cuts]
  exact exists_wellFormed hreads htyped h

end

end Outline

end PageBlocks
