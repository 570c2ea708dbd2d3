import PageBlocks.Proofs.Removal

/-!
# `remove` blocks delete lines

What processing does to a page of `remove` blocks, said in terms of the numbered lines of the page
alone: lines with a directive go, lines inside a block that is removed go, and all other lines stay
as they are (`processing_deletes_lines`). Blocks are told by a scan of the text, and the blocks
inside a block by a scan of its inner text. Where the lines of a page are cut, and what is put
together again, is no part of it.

    1  head                          stays
    2  <!-- build:remove(a) -->      goes
    3    text                        goes if `a` counts
    4    <!-- build:remove(b) -->    goes
    5    text                        goes if `a` or `b` counts
    6    <!-- endbuild -->           goes
    7  <!-- endbuild -->             goes
    8  tail                          stays
-/

namespace PageBlocks

/-! ### Lines that are deleted -/

/-- Does the line lie between the directives of the block? -/
def Block.covers (b : Block) (i : Nat) : Bool :=
  let opened := b.line + Text.lineFeeds b.opening
  opened < i && i < opened + Text.lineFeeds b.inner

namespace Marker

/-- Does the line lie in a block, at any depth, one of whose directives counts? The text starts on
line `line`. -/
def hides (m : Marker) (a : Audience) (line : Nat) (text : Text) (i : Nat) : Bool :=
  (m.scan line text).segments.attach.any fun
    | ⟨.literal _, _⟩ => false
    | ⟨.block b, _mem⟩ =>
      (b.directives.any a.accepts && b.covers i) ||
        m.hides a (b.line + Text.lineFeeds b.opening) b.inner i
termination_by text.length
decreasing_by exact length_inner_lt _mem

/-- The lines that hold no directive and are not hidden; the first one has number `n`. -/
def shown (m : Marker) (hidden : Nat → Bool) (n : Nat) (ls : List Text) : List Text :=
  ((ls.zipIdx n).filter fun x => (m.find? x.1).isNone && !hidden x.2).map Prod.fst

/-- Is the last line one with a directive, and without a line break? -/
def endsInDirective (m : Marker) (text : Text) : Bool :=
  (Text.lines text).getLast?.any fun l => (m.find? l).isSome && !Text.endsWith ['\n'] l

/-- The text without its directives and without what is hidden. The line break before a directive
at the very end goes with it. -/
def deleteLines (m : Marker) (a : Audience) (text : Text) : Text :=
  let page := (m.shown (m.hides a 1 text) 1 (Text.lines text)).flatten
  if m.endsInDirective text then Text.dropFinalBreak page else page

variable {m : Marker} {a : Audience}

theorem hides_iff {line : Nat} {text : Text} {i : Nat} :
    m.hides a line text i ↔ ∃ b, .block b ∈ (m.scan line text).segments ∧
      (b.directives.any a.accepts ∧ b.covers i ∨
        m.hides a (b.line + Text.lineFeeds b.opening) b.inner i) := by
  rw [hides, List.any_eq_true]
  constructor
  · rintro ⟨⟨s, hs⟩, -, hany⟩
    cases s with
    | literal t => simp at hany
    | block b => exact ⟨b, hs, by simpa using hany⟩
  · rintro ⟨b, hb, hany⟩
    exact ⟨⟨.block b, hb⟩, List.mem_attach _ _, by simpa using hany⟩

/-! ### Lines that stay -/

variable {hidden : Nat → Bool} {n : Nat}

theorem shown_append (ls ks : List Text) :
    m.shown hidden n (ls ++ ks) = m.shown hidden n ls ++ m.shown hidden (n + ls.length) ks := by
  rw [shown, List.zipIdx_append, List.filter_append, List.map_append, Nat.add_comm]
  rfl

theorem shown_directives {ls : List Text} (h : ∀ l ∈ ls, (m.find? l).isSome) :
    m.shown hidden n ls = [] := by
  rw [shown, List.map_eq_nil_iff, List.filter_eq_nil_iff]
  intro x hx
  have hl := h x.1 (List.fst_mem_of_mem_zipIdx hx)
  rw [← Option.not_isNone, Bool.not_eq_true'] at hl
  simp [hl]

theorem shown_hidden {ls : List Text} (h : ∀ i, n ≤ i → i < n + ls.length → hidden i = true) :
    m.shown hidden n ls = [] := by
  rw [shown, List.map_eq_nil_iff, List.filter_eq_nil_iff]
  intro x hx
  have hlt := List.snd_lt_of_mem_zipIdx hx
  rw [Nat.add_comm] at hlt
  simp [h x.2 (List.le_snd_of_mem_zipIdx hx) hlt]

theorem shown_plain {l : Text} (hl : m.find? l = none) (hn : hidden n = false) :
    m.shown hidden n [l] = [l] := by
  simp [shown, hl, hn]

end Marker

namespace Text

theorem lineFeeds_of_unbroken {t : Text} (h : ∀ c ∈ t, c ≠ '\r' ∧ c ≠ '\n') : lineFeeds t = 0 :=
  lineFeeds_eq_zero.2 fun hmem => (h '\n' hmem).2 rfl

theorem lineFeeds_of_blank {t : Text} (h : blank t) : lineFeeds t = 0 :=
  lineFeeds_of_unbroken fun c hc => (ne_of_blank h c hc).2

theorem lineFeeds_unlines (e : Break) {rs : List Text} (h : ∀ r ∈ rs, OneLine r) :
    lineFeeds (unlines e true rs) = rs.length := by
  induction rs with
  | nil => rfl
  | cons r rs ih =>
    rw [unlines, follows_true, Break.when_true, lineFeeds_append, lineFeeds_append,
      lineFeeds_of_unbroken (h r (by simp)).unbroken, e.lineFeeds_text,
      ih fun s hs => h s (by simp [hs]), List.length_cons]
    omega

end Text

namespace Outline

variable {m : Marker} {type : Text} {a : Audience} {e : Text.Break} {z : Bool}

/-- Does row number `i` lie in a block one of whose directives counts? The outline starts with row
number `n`. -/
def hidden (a : Audience) (n i : Nat) : Outline m type → Bool
  | done => false
  | line _ later => later.hidden a (n + 1) i
  | block first stack body _ later =>
    let opened := n + stack.length
    let closed := opened + (1 + body.rows.length)
    (counts a first stack && (opened < i && i < closed)) || body.hidden a (opened + 1) i ||
      later.hidden a (closed + 1) i

theorem lineFeeds_stackMore (e : Text.Break) {trail : Text} (ht : Text.blank trail)
    (os : List (Opener m type)) :
    Text.lineFeeds (Cut.source ((stackMore e trail os).map fun x => ⟨x.1, x.2.comment⟩)) =
      os.length := by
  induction os generalizing trail with
  | nil => rfl
  | cons o os ih =>
    have hcomment : Text.lineFeeds o.opening.comment = 0 :=
      Text.lineFeeds_of_unbroken o.located.ne_break
    simp only [stackMore, List.map_cons, Cut.source_cons, Text.lineFeeds_append,
      ih o.trail_blank, Text.lineFeeds_of_blank ht, Text.lineFeeds_of_blank o.lead_blank,
      e.lineFeeds_text, hcomment, List.length_cons]
    omega

section

variable {y seen : Text} {n : Nat} {first : Opener m type} {stack : List (Opener m type)}
  {body : Outline m type} {closing : Closer m} {later : Outline m type}

theorem lineFeeds_opening_blockOf :
    Text.lineFeeds (blockOf e z y first stack body closing later seen n).opening =
      stack.length := by
  show Text.lineFeeds (first.comment ++ Cut.source _) = _
  rw [Text.lineFeeds_append, Text.lineFeeds_of_unbroken first.located.ne_break, Nat.zero_add]
  exact lineFeeds_stackMore e first.trail_blank stack

theorem lineFeeds_inner_blockOf :
    Text.lineFeeds (blockOf e z y first stack body closing later seen n).inner =
      1 + body.rows.length := by
  show Text.lineFeeds (lastTrail first.trail stack ++ (e.text ++ (Text.unlines e true _ ++ _))) = _
  rw [Text.lineFeeds_append, Text.lineFeeds_append, Text.lineFeeds_append,
    Text.lineFeeds_of_blank (blank_lastTrail first.trail_blank stack), e.lineFeeds_text,
    Text.lineFeeds_unlines e Row.oneLine_of_mem, Text.lineFeeds_of_blank closing.lead_blank,
    List.length_map]
  omega

theorem lineFeeds_source_blockOf :
    Text.lineFeeds (blockOf e z y first stack body closing later seen n).source =
      stack.length + (1 + body.rows.length) := by
  rw [Block.source, Text.lineFeeds_append, Text.lineFeeds_append, lineFeeds_opening_blockOf,
    lineFeeds_inner_blockOf]
  show _ + Text.lineFeeds closing.comment = _
  rw [Text.lineFeeds_of_unbroken closing.located.ne_break, Nat.add_zero]

end

theorem hidden_next (a : Audience) (e : Text.Break) (z : Bool) {t : Text}
    (ht : Text.lineFeeds t = 0) (o : Outline m type) (n i : Nat) :
    o.hidden a (n + Text.lineFeeds (t ++ e.when (Text.follows z o.rows))) i =
      o.hidden a (n + 1) i := by
  cases o with
  | done => rfl
  | line q later => rw [Text.lineFeeds_append, ht, rows, Text.follows_cons, Text.Break.when_true,
      e.lineFeeds_text]
  | block first stack body closing later => rw [Text.lineFeeds_append, ht, rows, Text.follows_cons,
      Text.Break.when_true, e.lineFeeds_text]

/-- The block hides the line, or a block inside it does. -/
def Hides (m : Marker) (a : Audience) (i : Nat) (b : Block) : Prop :=
  b.directives.any a.accepts ∧ b.covers i ∨
    m.hides a (b.line + Text.lineFeeds b.opening) b.inner i

/-- A block hides the rows of its body if one of its directives counts, and otherwise what its body
hides. -/
theorem hides_blockOf {y seen : Text} {n i : Nat} {first : Opener m type}
    {stack : List (Opener m type)} {body : Outline m type} {closing : Closer m}
    {later : Outline m type} {b : Block}
    (hb : b = blockOf e z y first stack body closing later seen n) (hbody : body.WellFormed)
    (hinside : ∀ seen gap, (∃ b', .block b' ∈ (body.toDocument e true closing.lead).segments seen
      (n + stack.length + 1) gap ∧ Hides m a i b') ↔
        body.hidden a (n + stack.length + 1) i = true) :
    Hides m a i b ↔
      counts a first stack = true ∧
          (n + stack.length < i ∧ i < n + stack.length + (1 + body.rows.length)) ∨
        body.hidden a (n + stack.length + 1) i = true := by
  have hline : b.line = n := by rw [hb]; rfl
  have hopening : Text.lineFeeds b.opening = stack.length := by rw [hb, lineFeeds_opening_blockOf]
  have hinner : Text.lineFeeds b.inner = 1 + body.rows.length := by
    rw [hb, lineFeeds_inner_blockOf]
  have hcounts : b.directives.any a.accepts = counts a first stack := by
    rw [hb, any_directives_blockOf]
  have htrail := blank_lastTrail first.trail_blank stack
  have hfront : ∀ c ∈ lastTrail first.trail stack ++ e.text, c ≠ '<' := by
    intro c hc
    rcases List.mem_append.1 hc with hc | hc
    · exact (Text.ne_of_blank htrail c hc).1
    · exact e.ne_angle c hc
  have hback : ∀ c ∈ closing.lead, c ≠ '<' :=
    fun c hc => (Text.ne_of_blank closing.lead_blank c hc).1
  have hone : Text.lineFeeds (lastTrail first.trail stack ++ e.text) = 1 := by
    rw [Text.lineFeeds_append, e.lineFeeds_text, Text.lineFeeds_of_blank htrail]
  have htext : b.inner = lastTrail first.trail stack ++ e.text ++
      (Text.unlines e true (body.rows.map Row.text) ++ closing.lead) := by
    rw [hb, List.append_assoc]
    rfl
  -- The inner text starts on the row of the last opening directive.
  have hscanned : m.hides a (n + stack.length) b.inner i ↔
      body.hidden a (n + stack.length + 1) i = true := by
    rw [htext, Marker.hides_iff, scan_framed hbody e hfront hback (by simp), hone]
    exact hinside _ _
  rw [Hides, hline, hopening, hscanned, hcounts, Block.covers, hline, hopening, hinner]
  simp

/-- What an outline hides is what the blocks of its document hide. -/
theorem exists_hides_iff {o : Outline m type} (hwell : o.WellFormed) {y : Text}
    (hy : Text.blank y) (hz : z = false → y = []) (seen gap : Text) (n i : Nat) :
    (∃ b, .block b ∈ (o.toDocument e z y).segments seen n gap ∧ Hides m a i b) ↔
      o.hidden a n i = true := by
  induction o generalizing z y seen gap n with
  | done => simp [toDocument, Document.segments, Scan.block_mem_literal_iff, hidden]
  | line q later ih =>
    have hq := Text.lineFeeds_of_unbroken q.oneLine.unbroken
    rw [hidden, ← hidden_next a e z hq]
    exact ih hwell hy hz _ _ _
  | block first stack body closing later ihb ihl =>
    obtain ⟨hbody, hlater⟩ := hwell
    have hlead : n + Text.lineFeeds first.lead = n := by
      rw [Text.lineFeeds_of_blank first.lead_blank, Nat.add_zero]
    generalize hb : blockOf e z y first stack body closing later (first.lead.reverse ++ seen) n = b
    have hline : b.line = n := by rw [← hb]; rfl
    have hsource : Text.lineFeeds b.source = stack.length + (1 + body.rows.length) := by
      rw [← hb, lineFeeds_source_blockOf]
    have hthis := hides_blockOf (a := a) (i := i) hb.symm hbody.wellFormed fun seen gap =>
      ihb hbody.wellFormed closing.lead_blank (by simp) seen gap _
    have hrest := ihl hlater hy hz
      ((closing.trail ++ e.when (Text.follows z later.rows)).reverse ++
        (b.source.reverse ++ b.seen))
      (closing.trail ++ e.when (Text.follows z later.rows))
      (n + (stack.length + (1 + body.rows.length)) +
        Text.lineFeeds (closing.trail ++ e.when (Text.follows z later.rows)))
    rw [hidden_next a e z (Text.lineFeeds_of_blank closing.trail_blank), ← Nat.add_assoc n] at hrest
    rw [← hlead] at hb
    rw [segments_block hb.symm rfl, hline, hsource, ← Nat.add_assoc n]
    simp only [Scan.block_mem_literal_iff, List.mem_cons, Segment.block.injEq, or_and_right,
      exists_or, exists_eq_left, hidden, Bool.or_eq_true, Bool.and_eq_true, decide_eq_true_eq]
    rw [hthis, hrest]

theorem hidden_range {o : Outline m type} {n i : Nat} (h : o.hidden a n i = true) :
    n ≤ i ∧ i < n + o.rows.length := by
  induction o generalizing n with
  | done => cases h
  | line q later ih =>
    have := ih h
    rw [rows, List.length_cons]
    omega
  | block first stack body closing later ihb ihl =>
    simp only [hidden, Bool.or_eq_true, Bool.and_eq_true, decide_eq_true_eq] at h
    simp only [rows, List.length_cons, List.length_append, List.length_map]
    rcases h with (⟨-, h⟩ | h) | h
    · omega
    · have := ihb h
      omega
    · have := ihl h
      omega

section

variable {first : Opener m type} {stack : List (Opener m type)} {body : Outline m type}
  {closing : Closer m} {later : Outline m type} {n i : Nat}

theorem hidden_body (hopen : n + stack.length < i)
    (hclose : i < n + stack.length + (1 + body.rows.length)) :
    (block first stack body closing later).hidden a n i =
      (counts a first stack || body.hidden a (n + stack.length + 1) i) := by
  have hlater : later.hidden a (n + stack.length + (1 + body.rows.length) + 1) i = false := by
    rw [Bool.eq_false_iff]
    intro h
    have := hidden_range h
    omega
  rw [hidden, hlater, Bool.or_false]
  simp [hopen, hclose]

theorem hidden_later (h : n + stack.length + (1 + body.rows.length) < i) :
    (block first stack body closing later).hidden a n i =
      later.hidden a (n + stack.length + (1 + body.rows.length) + 1) i := by
  have hbody : body.hidden a (n + stack.length + 1) i = false := by
    rw [Bool.eq_false_iff]
    intro hb
    have := hidden_range hb
    omega
  have hover : ¬ i < n + stack.length + (1 + body.rows.length) := by omega
  rw [hidden, hbody, Bool.or_false]
  simp [hover]

end

end Outline

namespace Row

variable {m : Marker}

/-- Does the last plain row have a line break? It has one if a note comes behind it; `w` is the
answer when there are no rows. -/
def ends (z w : Bool) : List (Row m) → Bool
  | [] => w
  | plain _ :: rows => ends z z rows
  | note _ :: rows => ends z true rows

theorem ends_append (z w : Bool) (rs ss : List (Row m)) :
    ends z w (rs ++ ss) = ends z (ends z w rs) ss := by
  induction rs generalizing w with
  | nil => rfl
  | cons r rs ih =>
    cases r with
    | plain p => exact ih z
    | note n => exact ih true

theorem ends_follows (z : Bool) (rows : List (Row m)) :
    ends z (Text.follows z rows) rows = ends z z rows := by
  cases rows with
  | nil => rfl
  | cons r rows => cases r <;> rfl

theorem ends_true (rows : List (Row m)) : ends true true rows = true := by
  induction rows with
  | nil => rfl
  | cons r rows ih => cases r <;> exact ih

end Row

namespace Outline

variable {m : Marker} {type : Text} {a : Audience} {e : Text.Break} {z : Bool}

/-- Notes are not shown. -/
theorem shown_notes {hidden : Nat → Bool} {n : Nat} {rs : List (Row m)}
    (h : ∀ r ∈ rs, r.token?.isSome) (z : Bool) :
    m.shown hidden n (Text.withBreaks e z (rs.map Row.text)) = [] := by
  refine Marker.shown_directives fun l hl => ?_
  obtain ⟨t, ht, w, rfl⟩ := Text.exists_of_mem_withBreaks hl
  obtain ⟨r, hr, rfl⟩ := List.mem_map.1 ht
  rw [r.isSome_find?]
  exact h r hr

theorem follows_of_ne_nil (z : Bool) {rs : List (Row m)} (h : rs ≠ []) :
    Text.follows z rs = true := by
  cases rs with
  | nil => exact absurd rfl h
  | cons r rs => rfl

/-- A plain row at the top is shown. -/
theorem shown_line {shows : Nat → Bool} {n : Nat} {q : Plain m} {later : Outline m type}
    (hshows : shows n = (line q later).hidden a n n) :
    m.shown shows n (Text.withBreaks e z ((line q later).rows.map Row.text)) =
      [q.text ++ e.when (Text.follows z later.rows)] ++
        m.shown shows (n + 1) (Text.withBreaks e z (later.rows.map Row.text)) := by
  have hn : shows n = false := by
    rw [hshows, hidden, Bool.eq_false_iff]
    intro h
    have := hidden_range h
    omega
  have hq : m.find? (q.text ++ e.when (Text.follows z later.rows)) = none := by
    have := (Row.plain q).isSome_find? e (Text.follows z later.rows)
    simpa [Row.token?, Row.text] using this
  rw [rows, List.map_cons, Row.text, Text.withBreaks, Text.follows_map, ← List.singleton_append,
    Marker.shown_append, Marker.shown_plain hq hn]
  rfl

/-- Of a block, lines of the body are shown at most. -/
theorem shown_block {shows : Nat → Bool} {n : Nat} {first : Opener m type}
    {stack : List (Opener m type)} {body : Outline m type} {closing : Closer m}
    {later : Outline m type} :
    m.shown shows n (Text.withBreaks e z
        ((block first stack body closing later).rows.map Row.text)) =
      m.shown shows (n + stack.length + 1) (Text.withBreaks e true (body.rows.map Row.text)) ++
        m.shown shows (n + stack.length + (1 + body.rows.length) + 1)
          (Text.withBreaks e z (later.rows.map Row.text)) := by
  have hrows : (block first stack body closing later).rows =
      (first.row :: stack.map Opener.row) ++
        (body.rows ++ ([.note closing.toNote] ++ later.rows)) := rfl
  have hopen : ∀ r ∈ first.row :: stack.map Opener.row, r.token?.isSome := by
    intro r hr
    rcases List.mem_cons.1 hr with rfl | hr
    · rfl
    · obtain ⟨o, -, rfl⟩ := List.mem_map.1 hr
      rfl
  have hclose : ∀ r ∈ [Row.note closing.toNote], r.token?.isSome := by simp [Row.token?]
  rw [hrows, List.map_append, Text.withBreaks_append, Marker.shown_append, shown_notes hopen,
    List.nil_append, List.map_append, Text.withBreaks_append, Marker.shown_append,
    List.map_append, Text.withBreaks_append, Marker.shown_append, shown_notes hclose,
    List.nil_append]
  simp only [Text.length_withBreaks, List.length_map, List.length_cons, List.length_nil,
    List.map_cons, List.map_nil, List.cons_append, List.nil_append, Text.follows_cons]
  congr 2
  omega

/-- The lines that are shown are the rows that are kept. -/
theorem shown_rows {o : Outline m type} {shows : Nat → Bool} {n : Nat}
    (hshows : ∀ i, n ≤ i → i < n + o.rows.length → shows i = o.hidden a n i)
    {w : Bool} (hw : o.rows ≠ [] → w = true) (ps : List (Plain m)) :
    Text.withBreaks e w (ps.map Plain.text) ++
        m.shown shows n (Text.withBreaks e z (o.rows.map Row.text)) =
      Text.withBreaks e (Row.ends z w o.rows) ((ps ++ o.kept a).map Plain.text) := by
  induction o generalizing z n w ps with
  | done => simp [rows, kept, Text.withBreaks, Marker.shown, Row.ends]
  | line q later ih =>
    obtain rfl : w = true := hw (by simp [rows])
    have hlength : (line q later).rows.length = later.rows.length + 1 := rfl
    have hlater : ∀ i, n + 1 ≤ i → i < n + 1 + later.rows.length →
        shows i = later.hidden a (n + 1) i :=
      fun i hge hlt => hshows i (by omega) (by omega)
    have hrest := ih (z := z) hlater (follows_of_ne_nil z) (ps ++ [q])
    rw [Row.ends_follows, List.map_append, List.map_singleton, Text.withBreaks_concat,
      List.append_assoc, List.append_assoc] at hrest
    rw [shown_line (hshows n (Nat.le_refl n) (by omega))]
    exact hrest
  | block first stack body closing later ihb ihl =>
    obtain rfl : w = true := hw (by simp [rows])
    have hrows : (block first stack body closing later).rows =
        (first.row :: stack.map Opener.row) ++
          (body.rows ++ ([.note closing.toNote] ++ later.rows)) := rfl
    have hlength : (block first stack body closing later).rows.length =
        stack.length + (1 + body.rows.length) + (later.rows.length + 1) := by
      simp only [rows, List.length_cons, List.length_append, List.length_map]
      omega
    generalize hqs : (if counts a first stack then [] else body.kept a) = qs
    -- The body shows nothing, or what it keeps.
    have hbody : Text.withBreaks e true (ps.map Plain.text) ++
        m.shown shows (n + stack.length + 1) (Text.withBreaks e true (body.rows.map Row.text)) =
          Text.withBreaks e true ((ps ++ qs).map Plain.text) := by
      cases hcounts : counts a first stack with
      | true =>
        rw [hcounts, if_pos rfl] at hqs
        rw [Marker.shown_hidden, List.append_nil, ← hqs, List.append_nil]
        intro i hge hlt
        rw [Text.length_withBreaks, List.length_map] at hlt
        rw [hshows i (by omega) (by omega), hidden_body (by omega) (by omega), hcounts,
          Bool.true_or]
      | false =>
        rw [hcounts, if_neg (by simp)] at hqs
        have hinside : ∀ i, n + stack.length + 1 ≤ i →
            i < n + stack.length + 1 + body.rows.length →
              shows i = body.hidden a (n + stack.length + 1) i := by
          intro i hge hlt
          rw [hshows i (by omega) (by omega), hidden_body (by omega) (by omega), hcounts,
            Bool.false_or]
        rw [ihb hinside (fun _ => rfl) ps, Row.ends_true, hqs]
    have hlater : ∀ i, n + stack.length + (1 + body.rows.length) + 1 ≤ i →
        i < n + stack.length + (1 + body.rows.length) + 1 + later.rows.length →
          shows i = later.hidden a (n + stack.length + (1 + body.rows.length) + 1) i := by
      intro i hge hlt
      rw [hshows i (by omega) (by omega), hidden_later (by omega)]
    have hends : Row.ends z true (block first stack body closing later).rows =
        Row.ends z true later.rows := by
      rw [hrows, Row.ends_append, Row.ends_append]
      rfl
    rw [shown_block, hends, ← List.append_assoc, hbody, ihl hlater (fun _ => rfl) (ps ++ qs), kept,
      hqs, List.append_assoc]

end Outline

/-- The last line is a directive's without a line break if the last row is a note without one. -/
theorem Row.endsInDirective_text {m : Marker} (e : Text.Break) (z : Bool) (rows : List (Row m)) :
    m.endsInDirective (Text.unlines e z (rows.map text)) = (!z && ends false false rows) := by
  rw [Marker.endsInDirective, Text.lines_unlines e z oneLine_of_mem]
  rcases List.eq_nil_or_concat rows with rfl | ⟨rs, r, rfl⟩
  · simp [Text.withBreaks, ends]
  · have hlast : Text.endsWith ['\n'] (r.text ++ e.when z) = z := by
      cases z with
      | true =>
        obtain ⟨x, hx, -⟩ := e.eq_concat
        rw [Text.endsWith, Text.Break.when_true, hx, ← List.append_assoc,
          Text.before?_eq_some_iff.2 rfl]
        rfl
      | false =>
        rw [Text.Break.when_false, List.append_nil, Text.endsWith, Bool.eq_false_iff]
        intro h
        obtain ⟨u, hu⟩ := Option.isSome_iff_exists.1 h
        have hmem : '\n' ∈ r.text := by
          rw [Text.before?_eq_some_iff.1 hu]
          simp
        exact (r.oneLine.unbroken '\n' hmem).2 rfl
    rw [List.concat_eq_append, List.map_append, List.map_singleton, Text.withBreaks_concat,
      List.getLast?_concat, Option.any_some, r.isSome_find?, hlast, ends_append, Bool.and_comm]
    cases r <;> rfl

namespace Outline

variable {m : Marker} {type : Text} {a : Audience}

/-- The numbered lines say the same as the outline. -/
theorem deleteLines_text {o : Outline m type} (hwell : o.WellFormed) (e : Text.Break) (z : Bool) :
    m.deleteLines a (Text.unlines e z (o.rows.map Row.text)) = Plain.page e z (o.kept a) := by
  have hhides : ∀ i, m.hides a 1 (Text.unlines e z (o.rows.map Row.text)) i = o.hidden a 1 i := by
    intro i
    rw [Bool.eq_iff_iff, Marker.hides_iff, scan_text hwell]
    exact exists_hides_iff hwell rfl (fun _ => rfl) _ _ _ _
  have hshown := shown_rows (e := e) (z := z) (n := 1) (fun i _ _ => hhides i)
    (follows_of_ne_nil z) []
  rw [Row.ends_follows, List.map_nil, Text.withBreaks, List.nil_append, List.nil_append] at hshown
  rw [Marker.deleteLines, Text.lines_unlines e z Row.oneLine_of_mem, hshown,
    Text.flatten_withBreaks, Row.endsInDirective_text]
  cases z with
  | true => rw [Row.ends_true]; rfl
  | false =>
    cases Row.ends false false o.rows with
    | true =>
      rw [← Assembly.dropLastBreak_eq]
      exact Plain.dropLastBreak_page e _
    | false => rfl

/-- Plain rows only. -/
def ofPlains : List (Plain m) → Outline m type
  | [] => done
  | p :: ps => line p (ofPlains ps)

theorem rows_ofPlains (ps : List (Plain m)) :
    (ofPlains ps : Outline m type).rows.map Row.text = ps.map Plain.text := by
  induction ps with
  | nil => rfl
  | cons p ps ih => rw [ofPlains, rows, List.map_cons, ih]; rfl

theorem wellFormed_ofPlains (ps : List (Plain m)) : (ofPlains ps : Outline m type).WellFormed := by
  induction ps with
  | nil => trivial
  | cons p ps ih => exact ih

theorem kept_ofPlains (ps : List (Plain m)) : (ofPlains ps : Outline m type).kept a = ps := by
  induction ps with
  | nil => rfl
  | cons p ps ih => rw [ofPlains, kept, ih]

end Outline

/-! ### Pages of `remove` blocks -/

/-- A page that is scanned without error, all of whose directives are `remove` directives with a
line to themselves, in which no line is empty, and with one kind of line breaks. -/
structure Marker.RemovePage (m : Marker) (text : Text) : Prop where
  scanned : (m.scan 1 text).error? = none
  removes : ∀ d ∈ (marks m 1 text).1.filterMap Mark.directive?, d.type = removeType
  alone : ∀ l ∈ Text.lines text, m.aloneOn l
  filled : ∀ l ∈ Text.lines text, Text.spaces l = false
  broken : ∃ e : Text.Break, ∀ l ∈ Text.lines text, e.unbroken l

theorem Marker.RemovePage.exists_outline {m : Marker} {text : Text} (h : m.RemovePage text) :
    ∃ (o : Outline m removeType) (e : Text.Break) (z : Bool),
      o.WellFormed ∧ text = Text.unlines e z (o.rows.map Row.text) := by
  obtain ⟨e, hbroken⟩ := h.broken
  obtain ⟨z, rows, rfl⟩ := Row.exists_unlines hbroken h.filled h.alone
  have htyped : Outline.Typed removeType rows := by
    intro t ht d hd
    have htokens := m.tokens_marks 1 (Text.unlines e z (rows.map Row.text))
    rw [Row.cut_text, Row.tokens_cuts] at htokens
    rw [← htokens, hd] at ht
    exact h.removes d (Mark.mem_directives ht)
  obtain ⟨o, rfl, hwell⟩ := Outline.exists_outline htyped h.scanned
  exact ⟨o, e, z, hwell, rfl⟩

namespace Processor

variable {p : Processor}

theorem result_finish (htemplate : ∀ data t, (p.template.render data t).1 = t)
    {site : Site} {text out : Text} (h : (p.expand site text).result = .ok out)
    (source : Option Path) : (p.expand site text >>= p.finish source).result = .ok out := by
  rw [Outcome.result_bind h]
  exact congrArg Except.ok (htemplate p.options.templateData out)

/-- What a text comes to wherever it stands, it comes to by itself and as a file. -/
theorem result_process (htemplate : ∀ data t, (p.template.render data t).1 = t) {text out : Text}
    (h : ∀ site, (p.expand site text).result = .ok out) :
    (∀ dir, (p.processText dir text).result = .ok out) ∧
      ∀ path, p.read path = .ok text → (p.processFile path).result = .ok out := by
  refine ⟨fun dir => result_finish htemplate (h _) none, fun path hread => ?_⟩
  rw [processFile, hread]
  exact result_finish htemplate (h _) (some path)

/-- Processing a page of `remove` blocks deletes lines and changes nothing else, and there is
nothing left to delete. -/
theorem processing_deletes_lines (hregistry : p.registry = .builtin)
    (htemplate : ∀ data t, (p.template.render data t).1 = t) {text : Text}
    (hpage : p.marker.RemovePage text) :
    (∀ dir, (p.processText dir text).result = .ok (p.marker.deleteLines p.audience text)) ∧
      (∀ path, p.read path = .ok text →
        (p.processFile path).result = .ok (p.marker.deleteLines p.audience text)) ∧
      ∀ dir, (p.processText dir (p.marker.deleteLines p.audience text)).result =
        .ok (p.marker.deleteLines p.audience text) := by
  obtain ⟨o, e, z, hwell, rfl⟩ := hpage.exists_outline
  have hexpand : ∀ site,
      (p.expand site (Text.unlines e z (o.rows.map Row.text))).result =
        .ok (Plain.page e z (o.kept p.audience)) := by
    intro site
    refine result_expand fun deeper? => ?_
    exact Outline.result_expandWithin hregistry hwell e z deeper? site 1
  have hagain : ∀ site, (p.expand site (Plain.page e z (o.kept p.audience))).result =
      .ok (Plain.page e z (o.kept p.audience)) := by
    intro site
    have hplains := fun deeper? => Outline.result_expandWithin hregistry
      (Outline.wellFormed_ofPlains (o.kept p.audience)) e z deeper? site 1
    rw [Outline.rows_ofPlains, Outline.kept_ofPlains] at hplains
    exact result_expand hplains
  rw [Outline.deleteLines_text hwell]
  refine ⟨fun dir => ?_, fun path hread => ?_, fun dir => ?_⟩
  · exact result_finish htemplate (hexpand _) none
  · rw [processFile, hread]
    exact result_finish htemplate (hexpand _) (some path)
  · exact result_finish htemplate (hagain _) none

/-- A processor for the environment `c` that fills no placeholders. -/
def plainProcessor : Processor where
  options := { environment := some ['c'] }
  marker := .build
  registry := .builtin
  read := fun path => .error (.notFound path)
  transform := .passthrough
  template := .identity

/-- A stack with a block inside, at the end of the page. -/
def removalPage : Text :=
  "h\n<!--build:remove(a)-->\n<!--build:remove(b)-->\n x\n<!--build:remove(c)-->\n".toList ++
    "y\n <!--endbuild-->\n<!--endbuild-->".toList

theorem processing_deletes_lines_removalPage :
    Marker.build.RemovePage removalPage ∧
      (plainProcessor.processText [] removalPage).result =
        .ok (Marker.build.deleteLines plainProcessor.audience removalPage) ∧
      Marker.build.deleteLines plainProcessor.audience removalPage = "h\n x".toList := by
  have hpage : Marker.build.RemovePage removalPage :=
    { scanned := by decide +kernel
      removes := by decide +kernel
      alone := by decide +kernel
      filled := by decide +kernel
      broken := ⟨.lf, by decide +kernel⟩ }
  have hresult := processing_deletes_lines (p := plainProcessor) rfl (fun _ _ => rfl) hpage
  exact ⟨hpage, hresult.1 [], by decide +kernel⟩

end Processor

end PageBlocks
