import PageBlocks.Proofs.Enclosing
import PageBlocks.Proofs.Inclusion
import PageBlocks.Proofs.Partition
import PageBlocks.Proofs.Registration

/-!
# Every report is in its place

An error or a warning that comes with a location names a file and a line. The file is the one whose
text holds the directive in question, and the line is found by counting the line feeds before that
directive in the text of the file (`Processor.positions_true`).

Which directive is in question is told by the run. `Processor.Reaches` says what texts a run comes
to, and with which files open, and `Processor.Given` what the handler of a block is given there. So
a warning is about the block whose handler gives it, and about no other.

The content of a block is processed as a text of its own, which starts on the block's `contentLine`:

    text    before ┆ <!-- build:… --> ⏎ ┆ content ┆ …
                   ┆ ├─── opening ───┤  ┆
                   b.line               b.contentLine

`Marker.Part` says where such a text stands in its file, so that lines counted in the one are lines
of the other. Files that are included start over with line 1 and a name of their own.
-/

namespace PageBlocks

open Segment (sources)

/-! ### Texts inside texts -/

namespace Block

/-- What the inner text starts with that is not part of the content. -/
def contentStart (b : Block) : Text :=
  match b.indent? with
  | none => []
  | some _ => Text.lineEnd b.inner

theorem contentLine_eq (b : Block) :
    b.contentLine = b.line + Text.lineFeeds (b.opening ++ b.contentStart) := by
  rw [Text.lineFeeds_append, ← Nat.add_assoc]
  rfl

theorem exists_inner_eq (b : Block) :
    ∃ after, b.inner = b.contentStart ++ (b.content ++ after) := by
  unfold contentStart content
  cases b.indent? with
  | none => exact ⟨[], by simp⟩
  | some indent =>
    obtain ⟨after, hafter⟩ := ownLines_prefix_dropLineEnd b.inner
    refine ⟨after, ?_⟩
    dsimp only
    rw [hafter, Text.lineEnd_append_dropLineEnd]

end Block

namespace Marker

/-- The text `part` stands behind `before` in `text`: it is all of it, or the content of a block
that is found in such a part. -/
inductive Part (m : Marker) (text : Text) : (before part : Text) → Prop where
  | whole : Part m text [] text
  | content {before part : Text} {b : Block} (outer : Part m text before part)
      (found : .block b ∈ (m.scan (1 + Text.lineFeeds before) part).segments) :
      Part m text (before ++ (b.seen.reverse ++ (b.opening ++ b.contentStart))) b.content

/-- The block is found in `text` behind `before`, at whatever depth. -/
def Finds (m : Marker) (text before : Text) (b : Block) : Prop :=
  ∃ front part, m.Part text front part ∧
    .block b ∈ (m.scan (1 + Text.lineFeeds front) part).segments ∧
    before = front ++ b.seen.reverse

variable {m : Marker} {text before part : Text} {b : Block}

theorem Part.exists_eq (h : m.Part text before part) :
    ∃ after, text = before ++ (part ++ after) := by
  induction h with
  | whole => exact ⟨[], by simp⟩
  | @content before part b _ hfound ih =>
    obtain ⟨after, hafter⟩ := ih
    obtain ⟨after', hafter'⟩ := b.exists_inner_eq
    refine ⟨after' ++ (b.closing ++ (b.rest ++ after)), ?_⟩
    rw [hafter, ← (block_in_text hfound).1, Block.source, hafter']
    simp

/-- Where the content of a block stands is where the count of lines says. -/
theorem Part.contentLine_eq
    (hb : .block b ∈ (m.scan (1 + Text.lineFeeds before) part).segments) :
    b.contentLine =
      1 + Text.lineFeeds (before ++ (b.seen.reverse ++ (b.opening ++ b.contentStart))) := by
  rw [Block.contentLine_eq, (block_in_text hb).2]
  simp only [Text.lineFeeds_append, Text.lineFeeds_reverse]
  omega

/-- What a comment says is kept together with the comment. -/
theorem opening_of_classify {comment : Text} {d : Directive}
    (h : m.classify comment = .ok (.opens d)) : d.opening = comment := by
  unfold classify at h
  split at h
  · cases h
  · dsimp only at h
    split at h
    · cases h
    · split at h
      · cases h
      · rename_i body hbody
        cases hread : Directive.readBody body with
        | error fault =>
          rw [hread] at h
          cases h
        | ok x =>
          rw [hread] at h
          cases h
          rfl

/-- A block starts with its first directive. -/
theorem opening_prefix {line : Nat} (hb : .block b ∈ (m.scan line text).segments) :
    b.first.opening <+: b.opening := by
  rw [scan_eq_ofMarks] at hb
  obtain ⟨hmarks, hopens, -, -, -⟩ := Scan.holds_of_mem hb
  rename_i front stack inside behind k c d
  have hk : k ∈ (marks m line text).1 := by
    rw [hmarks]
    simp
  rw [marks, marksFrom_eq_place] at hk
  rw [token_of_mem_place hk] at hopens
  have hopening : d.opening = k.comment := opening_of_classify hopens
  exact ⟨Mark.source stack, congrArg (· ++ Mark.source stack) hopening⟩

/-- A block that is found stands there, with its first directive first, on the line it says. -/
theorem Finds.place (h : m.Finds text before b) :
    (∃ after, text = before ++ (b.first.opening ++ after)) ∧
      b.line = 1 + Text.lineFeeds before := by
  obtain ⟨front, part, hpart, hfound, rfl⟩ := h
  obtain ⟨after, hafter⟩ := hpart.exists_eq
  obtain ⟨more, hmore⟩ := opening_prefix hfound
  constructor
  · refine ⟨more ++ (b.inner ++ (b.closing ++ (b.rest ++ after))), ?_⟩
    rw [hafter, ← (block_in_text hfound).1, Block.source, ← hmore]
    simp
  · rw [(block_in_text hfound).2, Text.lineFeeds_append, Text.lineFeeds_reverse, Nat.add_assoc]

/-- The content of a block is in order, so it is scanned to its end. -/
theorem error?_content {line : Nat} (hb : .block b ∈ (m.scan line text).segments) (n : Nat) :
    (m.scan n b.content).error? = none := by
  rw [scan_eq_ofMarks] at hb ⊢
  obtain ⟨hmarks, -, -, hbalanced, -⟩ := Scan.holds_of_mem hb
  refine (Scan.ofMarks_balanced ?_ _).1
  rw [tokens_marks, comments_content, ← hbalanced]
  exact congrArg _ (tokens_inner hmarks)

end Marker

/-! ### Where a scan stops -/

/-- A mark stands behind the marks before it and its gap. -/
theorem seen_of_marks {m : Marker} {line : Nat} {text : Text} {before later : List Mark} {k : Mark}
    (h : (marks m line text).1 = before ++ k :: later) :
    k.seen.reverse = Mark.source before ++ k.gap := by
  have hmarks : marksFrom m [] line text = (before ++ k :: later, (marks m line text).2) := by
    rw [← h]
    rfl
  have hmem : k ∈ (marksFrom m [] line text).1 := by
    rw [hmarks]
    simp
  have hplace := (seen_of_mem_marksFrom hmem).2.2
  have hsource := source_marksFrom m [] line text
  rw [hmarks] at hsource
  rw [← hsource, rest_of_marksFrom before hmarks] at hplace
  have hsame : k.seen.reverse ++ (k.comment ++ (Mark.source later ++ (marks m line text).2)) =
      (Mark.source before ++ k.gap) ++
        (k.comment ++ (Mark.source later ++ (marks m line text).2)) := by
    simpa [Mark.source] using hplace
  exact List.append_cancel_right hsame

/-- The line of a mark is what a counter of lines says about its place. -/
theorem LineCounter.linesAt?_marks {m : Marker} {firstLine : Nat} {text : Text} {ks : List Mark}
    (h : ∀ k ∈ ks, k ∈ (marks m firstLine text).1) :
    (start firstLine).linesAt? text (ks.map fun k => Text.utf8Length k.seen) =
      some (ks.map Mark.line) := by
  have hfronts : ∀ front ∈ ks.map fun k => k.seen.reverse, front <+: text := by
    intro front hfront
    obtain ⟨k, hk, rfl⟩ := List.mem_map.1 hfront
    exact ⟨_, (seen_of_mem_marksFrom (h k hk)).2.2⟩
  have hlines : ∀ k ∈ ks, firstLine + Text.lineFeeds k.seen.reverse = k.line := by
    intro k hk
    have hline := line_of_mem_marksFrom (h k hk)
    rw [Text.lineFeeds_reverse]
    simpa using hline.symm
  have hanswers := linesAt?_start firstLine hfronts
  simp only [List.map_map, Function.comp_def, Text.utf8Length_reverse] at hanswers
  rw [hanswers, List.map_congr_left hlines]

/-- A scan stops at a mark behind the pieces that it yields, for want of a block there. -/
theorem Scan.exists_of_error {ms : List Mark} {tail : Text} {e : ScanError}
    (h : (ofMarks ms tail).error? = some e) :
    ∃ before k later, ms = before ++ k :: later ∧ readBlock k later = .error e ∧
      sources (ofMarks ms tail).segments = Mark.source before := by
  fun_induction ofMarks ms tail with
  | case1 => cases h
  | case2 =>
    rename_i k later fault hk
    refine ⟨[], k, later, rfl, ?_, rfl⟩
    cases h
    rw [readBlock, hk]
  | case3 =>
    rename_i k later hk
    refine ⟨[], k, later, rfl, ?_, rfl⟩
    cases h
    rw [readBlock, hk]
  | case4 =>
    rename_i k later d hk n bad fault hclosed
    refine ⟨[], k, later, rfl, ?_, rfl⟩
    cases h
    simp only [n] at hclosed
    simp only [readBlock, hk, hclosed]
  | case5 =>
    rename_i k later d hk n hclosed
    refine ⟨[], k, later, rfl, ?_, rfl⟩
    cases h
    simp only [n] at hclosed
    simp only [readBlock, hk, hclosed]
  | case6 =>
    rename_i k later d hk n c hc block scan ih
    obtain ⟨before, k', later', hbehind, hread, hsources⟩ := ih h
    have hlater := eq_of_closed hc
    refine ⟨k :: (later.take n ++ (c.inside ++ c.closing :: before)), k', later', ?_, hread, ?_⟩
    · have hall : k :: later = k :: (later.take n ++ (c.inside ++ c.closing :: c.behind)) :=
        congrArg (k :: ·) hlater
      rw [hall, hbehind]
      simp
    · rw [sources_literal, Segment.sources_cons, hsources]
      simp only [Segment.source, block, source_ofMarks]
      simp [Mark.source]

/-! ### What is reported -/

namespace Outcome

variable {α β : Type} {E : ProcessError → Prop} {N : Notice → Prop}

/-- The error, if there is one, and all that was noted are as they should be. -/
structure Reports (E : ProcessError → Prop) (N : Notice → Prop) (x : Outcome α) : Prop where
  error : ∀ e, x.result = .error e → E e
  notices : ∀ n ∈ x.notices, N n

theorem Reports.pure (a : α) : Reports E N (pure a) where
  error := fun _ h => by cases h
  notices := fun _ h => by cases h

theorem Reports.fail {e : ProcessError} (h : E e) : Reports E N (.fail e : Outcome α) where
  error := fun _ h' => by cases h'; exact h
  notices := fun _ h => by cases h

/-- A run reports what its steps report. -/
theorem Reports.bind {x : Outcome α} {f : α → Outcome β} (hx : Reports E N x)
    (hf : ∀ a, x.result = .ok a → Reports E N (f a)) : Reports E N (x >>= f) := by
  cases hresult : x.result with
  | error e =>
    rw [bind_of_error hresult]
    refine ⟨fun e' he => ?_, hx.notices⟩
    cases he
    exact hx.error e hresult
  | ok a =>
    rw [bind_of_ok hresult]
    refine ⟨(hf a hresult).error, fun n hn => ?_⟩
    rcases List.mem_append.1 hn with hn | hn
    · exact hx.notices n hn
    · exact (hf a hresult).notices n hn

theorem reports_addAll {render : Block → Outcome Rendered} {ss : List Segment}
    (h : ∀ b, .block b ∈ ss → Reports E N (render b)) (a : Assembly) :
    Reports E N (Assembly.addAll render ss a) := by
  induction ss generalizing a with
  | nil => exact .pure a
  | cons s ss ih =>
    have hlater : ∀ b, .block b ∈ ss → Reports E N (render b) :=
      fun b hb => h b (List.mem_cons_of_mem _ hb)
    cases s with
    | literal t => exact ih hlater _
    | block b => exact (h b List.mem_cons_self).bind fun _ _ => ih hlater _

end Outcome

/-- What a handler may say about the block that it is given: it answers, with warnings about this
block and with no file but what is read, or it refuses this block. -/
inductive Handler.Speaks (ctx : Context) : Outcome Output → Prop where
  | answer (out : Output) (ws : List Warning)
      (file : ∀ path text, out = .insertFile path text → ctx.read path = .ok text) :
      Speaks ctx ⟨.ok out, ws.map ctx.warn⟩
  | refusal (e : ProcessError) (here : e.location? = some ctx.location) : Speaks ctx (.fail e)

theorem Handler.speaks_builtin {g : Handler} (hg : g ∈ Registry.builtin.handlers) (ctx : Context)
    (d : Directive) (content : Text) : Speaks ctx (g.handle ctx d content) := by
  have hanswer : ∀ (out : Output) (ws : List Warning), (∀ path text, out ≠ .insertFile path text) →
      Speaks ctx ⟨.ok out, ws.map ctx.warn⟩ :=
    fun out ws hout => .answer out ws fun path text h => absurd h (hout path text)
  rcases Processor.mem_builtin hg with rfl | rfl | ⟨kind, rfl⟩ | rfl | rfl
  · exact hanswer .drop [] (by simp)
  · unfold Handler.insertFile
    dsimp only
    split
    · exact .refusal _ rfl
    · split
      · rename_i text hread
        refine .answer _ [] fun path' text' h => ?_
        cases h
        exact hread
      · exact .refusal _ rfl
      · exact .refusal _ rfl
  · unfold Handler.asset
    dsimp only
    split
    · split
      · exact hanswer _ [_] (by simp)
      · exact hanswer _ [] (by simp)
    · split
      · exact hanswer _ _ (by simp)
      · split
        · exact hanswer _ [] (by simp)
        · exact hanswer _ [_] (by simp)
  · unfold Handler.setAttribute
    dsimp only
    split
    · exact .refusal _ rfl
    · split
      · exact hanswer _ [_] (by simp)
      · split
        · exact .refusal _ rfl
        · split
          · exact hanswer _ [] (by simp)
          · exact hanswer _ [_] (by simp)
  · have hrender := hanswer (.edit (ctx.template.render ctx.data content).1)
      (ctx.template.render ctx.data content).2 (by simp)
    rwa [← List.append_nil (List.map _ _)] at hrender

namespace Handler.Speaks

variable {ctx : Context} {x : Outcome Output} (h : Speaks ctx x)
include h

theorem read_eq {path : Path} {file : Text} (hx : x.result = .ok (.insertFile path file)) :
    ctx.read path = .ok file := by
  cases h with
  | answer out ws hfile => exact hfile path file (Except.ok.inj hx)
  | refusal => cases hx

theorem location?_eq {e : ProcessError} (he : x.result = .error e) :
    e.location? = some ctx.location := by
  cases h with
  | answer => cases he
  | refusal e' hhere =>
    cases he
    exact hhere

theorem location_eq {l : Location} {w : Warning} (hn : .block l w ∈ x.notices) :
    l = ctx.location := by
  cases h with
  | answer out ws =>
    obtain ⟨w', -, hw⟩ := List.mem_map.1 hn
    cases hw
    rfl
  | refusal => cases hn

end Handler.Speaks

/-! ### Locations -/

namespace Processor

/-- A text that is processed from its start on: where it comes from, how many include levels are
left, and what it says. -/
structure Opened where
  site : Site
  levels : Nat
  text : Text

/-- The handler `g` is in charge of the block, by its directive `d`. -/
structure Chosen (p : Processor) (b : Block) (d : Directive) (g : Handler) : Prop where
  known : ∀ d' ∈ b.directives, p.registry.contains d'.type = true
  selected : p.audience.select? b.directives = some d
  handler : p.registry.get? d.type = some g

/-- The handler `g` is given `content` for a block of `o`: what the content of the block comes to
if the handler wants to see that, and else the content as it is written. -/
structure Given (p : Processor) (o : Opened) (b : Block) (d : Directive) (g : Handler)
    (content : Text) : Prop extends p.Chosen b d g where
  content_eq : if g.readsContent d then
      (p.expandAt o.levels o.site b.contentLine b.content).result = .ok content
    else content = b.content

/-- The content of a block of `o` is processed: the block is for nobody, or its handler wants to see
what it comes to, or its handler leaves it as it is. -/
inductive Enters (p : Processor) (o : Opened) (b : Block) : Prop where
  | unselected (known : ∀ d ∈ b.directives, p.registry.contains d.type = true)
      (none : p.audience.select? b.directives = none)
  | read {d : Directive} {g : Handler} (chosen : p.Chosen b d g) (reads : g.readsContent d = true)
  | kept {d : Directive} {g : Handler} {content : Text} (given : p.Given o b d g content)
      (answers : (g.handle (p.context o.site b) d content).result = .ok .keep)

/-- A run that starts with `home` processes the text `part`, which stands behind `before` in the
text of `o`. -/
inductive Reaches (p : Processor) (home : Opened) : Opened → (before part : Text) → Prop where
  | start : Reaches p home home [] home.text
  | content {o : Opened} {before part : Text} {b : Block} (outer : Reaches p home o before part)
      (found : .block b ∈ (p.marker.scan (1 + Text.lineFeeds before) part).segments)
      (enters : p.Enters o b) :
      Reaches p home o (before ++ (b.seen.reverse ++ (b.opening ++ b.contentStart))) b.content
  | file {o : Opened} {before part content file : Text} {b : Block} {d : Directive} {g : Handler}
      {path : Path} {levels : Nat} (outer : Reaches p home o before part)
      (found : .block b ∈ (p.marker.scan (1 + Text.lineFeeds before) part).segments)
      (given : p.Given o b d g content)
      (answers : (g.handle (p.context o.site b) d content).result = .ok (.insertFile path file))
      (recursive : p.options.recursive = true) (shut : Path.normalize path ∉ o.site.chain)
      (left : o.levels = levels + 1) :
      Reaches p home
        ⟨⟨some path, Path.directory path, o.site.chain ++ [Path.normalize path]⟩, levels, file⟩
        [] file

/-- The run comes across the block, which stands behind `before` in the text of `o`. -/
def Meets (p : Processor) (home o : Opened) (before : Text) (b : Block) : Prop :=
  ∃ front part, p.Reaches home o front part ∧
    .block b ∈ (p.marker.scan (1 + Text.lineFeeds front) part).segments ∧
    before = front ++ b.seen.reverse

/-- The text that a location without or with a file is about. The text that the run starts with may
come from no file. -/
def TextOf (p : Processor) (home : Opened) : Option Path → Text → Prop
  | none, text => home.site.source = none ∧ home.text = text
  | some path, text => p.read path = .ok text

/-- The location is that of `comment`: its file, which the run opens, holds `comment` behind
`before`, and its line is counted off `before`. -/
def Locates (p : Processor) (home : Opened) (l : Location)
    (about : Opened → (before comment : Text) → Prop) : Prop :=
  ∃ o before comment after, p.Reaches home o [] o.text ∧ l.file? = o.site.source ∧
    p.TextOf home l.file? o.text ∧ o.text = before ++ (comment ++ after) ∧
    l.line = 1 + Text.lineFeeds before ∧ about o before comment

/-- The error is about the comment that stands behind `before` in the text of `o`. -/
inductive Blames (p : Processor) (home o : Opened) :
    (before comment : Text) → ProcessError → Prop where
  /-- The comment cannot be read. -/
  | unreadable {k : Mark} {fault : Fault} (l : Location) (found : k ∈ (marks p.marker 1 o.text).1)
      (token : k.token = .error fault) :
      Blames p home o k.seen.reverse k.comment (.malformed l k.comment fault)
  /-- The comment closes a block, but all blocks before it are closed. -/
  | stray {k : Mark} (l : Location) (found : k ∈ (marks p.marker 1 o.text).1)
      (token : k.token = .ok .closes)
      (behind : k.seen.reverse = sources (p.marker.scan 1 o.text).segments ++ k.gap) :
      Blames p home o k.seen.reverse k.comment (.malformed l k.comment .strayClosing)
  /-- The comment opens a block behind others that are closed, and the text ends first. -/
  | unterminated {k : Mark} {before later : List Mark} {d : Directive} (l : Location)
      (found : (marks p.marker 1 o.text).1 = before ++ k :: later)
      (token : k.token = .ok (.opens d))
      (behind : k.seen.reverse = sources (p.marker.scan 1 o.text).segments ++ k.gap)
      (ended : Mark.toClosing 0 (later.drop (Mark.stackSize d.type later)) = .error .ended) :
      Blames p home o k.seen.reverse k.comment (.unterminated l d.type)
  /-- The comment is the first of a block, one of whose directives has no handler. -/
  | unknown {before : Text} {b : Block} {d : Directive} (l : Location)
      (met : p.Meets home o before b) (mem : d ∈ b.directives)
      (missing : p.registry.contains d.type = false) :
      Blames p home o before b.first.opening (.unknownType l d.type)
  /-- The comment is the first of a block that its handler refuses. -/
  | refused {before content : Text} {b : Block} {d : Directive} {g : Handler} {e : ProcessError}
      (met : p.Meets home o before b) (given : p.Given o b d g content)
      (refuses : (g.handle (p.context o.site b) d content).result = .error e) :
      Blames p home o before b.first.opening e
  /-- The comment is the first of a block that is to be replaced by a file that cannot be opened: it
  is open already, or no level is left. -/
  | cycle {before content file : Text} {path : Path} {b : Block} {d : Directive} {g : Handler}
      (l : Location) (met : p.Meets home o before b) (given : p.Given o b d g content)
      (answers : (g.handle (p.context o.site b) d content).result = .ok (.insertFile path file))
      (refused : Path.normalize path ∈ o.site.chain ∨ o.levels = 0) :
      Blames p home o before b.first.opening
        (.includeCycle l (o.site.chain ++ [Path.normalize path]))

/-- The warning is about the block whose first comment stands behind `before` in the text of `o`:
its handler gives it. -/
def Warns (p : Processor) (home : Opened) (n : Notice) (o : Opened) (before comment : Text) :
    Prop :=
  ∃ b d g content, p.Meets home o before b ∧ comment = b.first.opening ∧ p.Given o b d g content ∧
    n ∈ (g.handle (p.context o.site b) d content).notices

/-- An error that comes with a location comes with that of the comment it is about. -/
def BlamesRightly (p : Processor) (home : Opened) (e : ProcessError) : Prop :=
  ∀ l, e.location? = some l →
    p.Locates home l fun o before comment => p.Blames home o before comment e

/-- A warning about a block comes with the location of its first comment. -/
def WarnsRightly (p : Processor) (home : Opened) (n : Notice) : Prop :=
  ∀ l w, n = .block l w → p.Locates home l (p.Warns home n)

/-- All that is reported on the way is about the place that it names. -/
abbrev ReportsRightly (p : Processor) (home : Opened) {α : Type} (x : Outcome α) : Prop :=
  x.Reports (p.BlamesRightly home) (p.WarnsRightly home)

variable {p : Processor} {home o : Opened} {before part : Text} {b : Block}

/-- What a run reaches in a text stands there. -/
theorem Reaches.isPart (h : p.Reaches home o before part) : p.marker.Part o.text before part := by
  induction h with
  | start => exact .whole
  | content _ hfound _ ih => exact .content ih hfound
  | file => exact .whole

/-- A text of which something is reached is opened. -/
theorem Reaches.opened (h : p.Reaches home o before part) : p.Reaches home o [] o.text := by
  induction h with
  | start => exact .start
  | content _ _ _ ih => exact ih
  | file houter hfound hgiven hanswers hrecursive hshut hleft =>
    exact .file houter hfound hgiven hanswers hrecursive hshut hleft

theorem Meets.finds (h : p.Meets home o before b) : p.marker.Finds o.text before b := by
  obtain ⟨front, part, hreaches, hfound, hbefore⟩ := h
  exact ⟨front, part, hreaches.isPart, hfound, hbefore⟩

theorem Meets.opened (h : p.Meets home o before b) : p.Reaches home o [] o.text := by
  obtain ⟨front, part, hreaches, -, -⟩ := h
  exact hreaches.opened

/-- The place of a mark. -/
theorem locates_of_mark {k : Mark} (hopened : p.Reaches home o [] o.text)
    (htext : p.TextOf home o.site.source o.text) (hk : k ∈ (marks p.marker 1 o.text).1)
    {about : Opened → (before comment : Text) → Prop} (habout : about o k.seen.reverse k.comment) :
    p.Locates home ⟨o.site.source, k.line⟩ about := by
  have hline := line_of_mem_marksFrom hk
  have hplace := (seen_of_mem_marksFrom hk).2.2
  refine ⟨o, k.seen.reverse, k.comment, k.rest, hopened, rfl, htext, ?_, ?_, habout⟩
  · simpa using hplace.symm
  · simpa using hline

/-- The place of a block. -/
theorem locates_of_block (htext : p.TextOf home o.site.source o.text)
    (hmeets : p.Meets home o before b) {about : Opened → (before comment : Text) → Prop}
    (habout : about o before b.first.opening) : p.Locates home ⟨o.site.source, b.line⟩ about := by
  obtain ⟨⟨after, hafter⟩, hline⟩ := hmeets.finds.place
  exact ⟨o, before, b.first.opening, after, hmeets.opened, rfl, htext, hafter, hline, habout⟩

/-- The fault that stops a scan of a whole text is where it says. -/
theorem blamesRightly_of_scan (hopened : p.Reaches home o [] o.text)
    (htext : p.TextOf home o.site.source o.text) {e : ScanError}
    (h : (p.marker.scan 1 o.text).error? = some e) :
    p.BlamesRightly home (.ofScan o.site.source e) := by
  rw [Marker.scan_eq_ofMarks] at h
  obtain ⟨before, k, later, hmarks, hread, hsources⟩ := Scan.exists_of_error h
  rw [← Marker.scan_eq_ofMarks] at hsources
  have hmem : ∀ k' ∈ k :: later, k' ∈ (marks p.marker 1 o.text).1 := by
    intro k' hk'
    rw [hmarks]
    exact List.mem_append_right _ hk'
  have hbehind : k.seen.reverse = sources (p.marker.scan 1 o.text).segments ++ k.gap := by
    rw [hsources, seen_of_marks hmarks]
  intro l hl
  unfold Scan.readBlock at hread
  split at hread
  · rename_i fault htoken
    cases hread
    cases hl
    exact locates_of_mark hopened htext (hmem k List.mem_cons_self)
      (.unreadable _ (hmem k List.mem_cons_self) htoken)
  · rename_i htoken
    cases hread
    cases hl
    exact locates_of_mark hopened htext (hmem k List.mem_cons_self)
      (.stray _ (hmem k List.mem_cons_self) htoken hbehind)
  · rename_i d htoken
    dsimp only at hread
    split at hread
    · rename_i bad fault hclosing
      cases hread
      cases hl
      obtain ⟨hbad, hfault⟩ := Mark.unreadable_of_toClosing hclosing
      have hbad := hmem bad (List.mem_cons_of_mem _ (List.mem_of_mem_drop hbad))
      exact locates_of_mark hopened htext hbad (.unreadable _ hbad hfault)
    · rename_i hclosing
      cases hread
      cases hl
      exact locates_of_mark hopened htext (hmem k List.mem_cons_self)
        (.unterminated _ hmarks htoken hbehind hclosing)
    · cases hread

variable (hbuiltin : ∀ g ∈ p.registry.handlers, g ∈ Registry.builtin.handlers)
  (htext : p.TextOf home o.site.source o.text)
include hbuiltin htext

/-- What a handler reports is about the block that it is given. -/
theorem reports_handle (hmeets : p.Meets home o before b) {d : Directive} {g : Handler}
    {content : Text} (hgiven : p.Given o b d g content) :
    p.ReportsRightly home (g.handle (p.context o.site b) d content) := by
  have hspeaks := Handler.speaks_builtin (hbuiltin g (Registry.mem_of_get? hgiven.handler))
    (p.context o.site b) d content
  constructor
  · intro e he l hl
    rw [hspeaks.location?_eq he] at hl
    cases hl
    exact locates_of_block htext hmeets (.refused hmeets hgiven he)
  · rintro n hn l w rfl
    obtain rfl := hspeaks.location_eq hn
    exact locates_of_block htext hmeets ⟨b, d, g, content, hmeets, rfl, hgiven, hn⟩

/-- Texts one level down, if there is one, are reported on rightly. -/
def Below (p : Processor) (home : Opened) (levels : Nat) : Prop :=
  ∀ o, levels = o.levels + 1 → p.Reaches home o [] o.text →
    p.TextOf home o.site.source o.text →
      p.ReportsRightly home (p.expandAt o.levels o.site 1 o.text)

variable (hbelow : p.Below home o.levels)
include hbelow

/-- A file in the place of the block was read, and it is refused in the name of the block. -/
theorem reports_insertFile (hmeets : p.Meets home o before b) {d : Directive} {g : Handler}
    {content file : Text} {path : Path} (hgiven : p.Given o b d g content)
    (hanswers : (g.handle (p.context o.site b) d content).result = .ok (.insertFile path file)) :
    p.ReportsRightly home
      (p.insertFile (p.below o.levels) o.site ⟨o.site.source, b.line⟩ path file) := by
  have hread : p.read path = .ok file :=
    (Handler.speaks_builtin (hbuiltin g (Registry.mem_of_get? hgiven.handler)) (p.context o.site b)
      d content).read_eq hanswers
  have hcycle (hrefused : Path.normalize path ∈ o.site.chain ∨ o.levels = 0) : p.BlamesRightly home
      (.includeCycle ⟨o.site.source, b.line⟩ (o.site.chain ++ [Path.normalize path])) := by
    intro l hl
    cases hl
    exact locates_of_block htext hmeets (.cycle _ hmeets hgiven hanswers hrefused)
  unfold insertFile
  dsimp only
  split
  · exact .pure file
  · rename_i hrecursive
    split
    · rename_i hopen
      exact .fail (hcycle (Or.inl (by simpa using hopen)))
    · rename_i hshut
      cases hlevels : o.levels with
      | zero => exact .fail (hcycle (Or.inr hlevels))
      | succ levels =>
        obtain ⟨front, part, hreaches, hfound, -⟩ := hmeets
        exact hbelow _ hlevels (.file hreaches hfound hgiven hanswers (by simpa using hrecursive)
          (by simpa using hshut) hlevels) hread

/-- What is reported about an answer is about the block, if what is reported about its content
is. -/
theorem reports_settle (hmeets : p.Meets home o before b) {d : Directive} {g : Handler}
    {content : Text} {out : Output} (hgiven : p.Given o b d g content) {kept : Outcome Text}
    (hout : (g.handle (p.context o.site b) d content).result = .ok out)
    (hkept : out = .keep → p.ReportsRightly home kept) : p.ReportsRightly home
      (settle (p.insertFile (p.below o.levels) o.site ⟨o.site.source, b.line⟩) kept out) := by
  cases out with
  | keep => exact (hkept rfl).bind fun _ _ => .pure _
  | drop => exact .pure _
  | edit t => exact .pure _
  | replace t => exact .pure _
  | insertFile path file =>
    exact (reports_insertFile hbuiltin htext hbelow hmeets hgiven hout).bind fun _ _ => .pure _

/-- What is reported about a block is about that block. -/
theorem reports_renderBlock (hmeets : p.Meets home o before b)
    (hexpand : p.Enters o b →
      p.ReportsRightly home (p.expandAt o.levels o.site b.contentLine b.content)) :
    p.ReportsRightly home (p.renderBlock o.site (p.expandAt o.levels o.site)
      (p.insertFile (p.below o.levels) o.site) b) := by
  have hunknown : ∀ d ∈ b.directives, p.registry.contains d.type = false →
      p.BlamesRightly home (.unknownType ⟨o.site.source, b.line⟩ d.type) := by
    intro d hd hmissing l hl
    cases hl
    exact locates_of_block htext hmeets (.unknown _ hmeets hd hmissing)
  rw [renderBlock_eq]
  split
  · rename_i d hd
    exact .fail (hunknown d (List.mem_of_find?_eq_some hd) (by simpa using List.find?_some hd))
  · rename_i hnone
    have hknown : ∀ d ∈ b.directives, p.registry.contains d.type = true := by
      simpa using hnone
    split
    · rename_i hselect
      exact (hexpand (.unselected hknown hselect)).bind fun _ _ => .pure _
    · rename_i d hselect
      split
      · rename_i hget
        refine .fail (hunknown d (List.mem_of_find?_eq_some hselect) ?_)
        rw [Registry.contains, hget]
        rfl
      · rename_i g hget
        have hchosen : p.Chosen b d g := ⟨hknown, hselect, hget⟩
        unfold handleBlock
        dsimp only
        split
        · rename_i hreads
          refine (hexpand (.read hchosen hreads)).bind fun content hcontent => ?_
          have hgiven : p.Given o b d g content := ⟨hchosen, by rwa [if_pos hreads]⟩
          refine (reports_handle hbuiltin htext hmeets hgiven).bind fun out hout => ?_
          exact reports_settle hbuiltin htext hbelow hmeets hgiven hout fun _ => .pure content
        · rename_i hreads
          have hgiven : p.Given o b d g b.content := ⟨hchosen, by rw [if_neg hreads]⟩
          refine (reports_handle hbuiltin htext hmeets hgiven).bind fun out hout => ?_
          refine reports_settle hbuiltin htext hbelow hmeets hgiven hout fun hkeep => ?_
          exact hexpand (.kept hgiven (by rw [hout, hkeep]))

/-- What is reported about a part of a text is about its place in the whole text. -/
theorem reports_expandWithin {before part : Text} (hreaches : p.Reaches home o before part) :
    p.ReportsRightly home (p.expandAt o.levels o.site (1 + Text.lineFeeds before) part) := by
  rw [expandAt_eq, expandWithin_eq, ← expandAt_eq]
  refine (Outcome.reports_addAll (fun b hb => ?_) _).bind fun page _ => ?_
  · have hshorter : b.content.length < part.length := Marker.length_content_lt hb
    refine reports_renderBlock hbuiltin htext hbelow ⟨before, part, hreaches, hb, rfl⟩ ?_
    rw [Marker.Part.contentLine_eq hb]
    exact fun henters => reports_expandWithin (.content hreaches hb henters)
  · cases hreaches.isPart with
    | whole =>
      cases herror : (p.marker.scan (1 + Text.lineFeeds []) o.text).error? with
      | none => exact .pure _
      | some e => exact .fail (blamesRightly_of_scan hreaches htext herror)
    | content _ hb =>
      rw [Marker.error?_content hb]
      exact .pure _
termination_by part.length

omit hbelow

theorem reports_expandAt (hopened : p.Reaches home o [] o.text) :
    p.ReportsRightly home (p.expandAt o.levels o.site 1 o.text) := by
  obtain ⟨site, levels, text⟩ := o
  induction levels generalizing site text with
  | zero => exact reports_expandWithin hbuiltin htext (fun _ h => by cases h) hopened
  | succ levels ih =>
    refine reports_expandWithin hbuiltin htext ?_ hopened
    rintro ⟨site', levels', text'⟩ hlevels hopened' htext'
    cases hlevels
    exact ih site' text' htext' hopened'

omit hbuiltin htext

theorem reports_finish (source : Option Path) (page : Text) :
    p.ReportsRightly home (p.finish source page) := by
  constructor
  · intro e he
    cases he
  · intro n hn l w hw
    obtain ⟨w', -, rfl⟩ := List.mem_map.1 hn
    cases hw

/-- The text that a run of `processText` starts with. -/
def openedText (p : Processor) (dir : Path) (text : Text) : Opened :=
  ⟨⟨none, dir, []⟩, p.options.maxIncludeDepth, text⟩

/-- The text that a run of `processFile` starts with. -/
def openedFile (p : Processor) (path : Path) (text : Text) : Opened :=
  ⟨⟨some path, Path.directory path, [Path.normalize path]⟩, p.options.maxIncludeDepth, text⟩

/-- Everything that is reported with a location is about the directive at that location. If there
are none but built-in handlers, an error that comes with a location and a warning about a block name
the file that holds the comment in question, or no file for a text that came from none, and the line
that this comment is on: the first comment of the block, or the comment that cannot be read or that
closes nothing. The run has come across the block, and it is the handler of this block, given what
the block holds, that refuses it or warns of it. A counter of lines that only goes on from where it
was asked last is right at every place that it is asked for, in any order; so it is at the marks of
a text. -/
theorem positions_true (hbuiltin : ∀ g ∈ p.registry.handlers, g ∈ Registry.builtin.handlers) :
    (∀ dir text, p.ReportsRightly (p.openedText dir text) (p.processText dir text)) ∧
      (∀ path text, p.read path = .ok text →
        p.ReportsRightly (p.openedFile path text) (p.processFile path)) ∧
      (∀ path, (∀ text, p.read path ≠ .ok text) →
        ∃ e, p.processFile path = .fail e ∧ e.location? = none) ∧
      (∀ (firstLine : Nat) (text : Text) (fronts : List Text), (∀ front ∈ fronts, front <+: text) →
        (LineCounter.start firstLine).linesAt? text (fronts.map Text.utf8Length) =
          some (fronts.map fun front => firstLine + Text.lineFeeds front)) ∧
      ∀ (firstLine : Nat) (text : Text) (ks : List Mark),
        (∀ k ∈ ks, k ∈ (marks p.marker firstLine text).1) →
          (LineCounter.start firstLine).linesAt? text (ks.map fun k => Text.utf8Length k.seen) =
            some (ks.map Mark.line) := by
  refine ⟨?_, ?_, ?_, fun firstLine text fronts h => LineCounter.linesAt?_start firstLine h,
    fun firstLine text ks h => LineCounter.linesAt?_marks h⟩
  · intro dir text
    have hexpand : p.ReportsRightly (p.openedText dir text) (p.expand ⟨none, dir, []⟩ text) :=
      reports_expandAt (o := p.openedText dir text) hbuiltin ⟨rfl, rfl⟩ .start
    exact hexpand.bind fun page _ => reports_finish none page
  · intro path text hread
    have hexpand : p.ReportsRightly (p.openedFile path text)
        (p.expand ⟨some path, Path.directory path, [Path.normalize path]⟩ text) :=
      reports_expandAt (o := p.openedFile path text) hbuiltin hread .start
    unfold processFile
    rw [hread]
    exact hexpand.bind fun page _ => reports_finish (some path) page
  · intro path hread
    unfold processFile
    split
    · exact ⟨_, rfl, rfl⟩
    · exact ⟨_, rfl, rfl⟩
    · rename_i text h
      exact absurd h (hread text)

/-- A file with a block of no known type inside a block that is not for the environment. -/
def faultyFile : Text :=
  "x\n<!--build:remove(a)-->\n\n  <!--build:foo-->\n<!--endbuild-->\n<!--endbuild-->".toList

/-- A processor for one file `a`, which is faulty. -/
def faultyProcessor : Processor :=
  { includingProcessor with
    options := { environment := some ['c'], recursive := true }
    read := fun path => if path = ['a'] then .ok faultyFile else .error (.notFound path) }

/-- A page with a block that lacks its value on line 2, and that includes `a`. -/
def faultyPage : Text :=
  "\n<!--build:[src]--><!--endbuild-->\n<!--build:include a--><!--endbuild-->".toList

theorem positions_true_faultyPage :
    let home := faultyProcessor.openedText [] faultyPage
    let e : ProcessError := .unknownType ⟨some ['a'], 4⟩ "foo".toList
    let n : Notice := .block ⟨none, 2⟩ (.attributeWithoutValue "src".toList)
    (faultyProcessor.processText [] faultyPage).result = .error e ∧
      (faultyProcessor.processText [] faultyPage).notices = [n] ∧
      faultyProcessor.Locates home ⟨some ['a'], 4⟩
        (fun o before comment => faultyProcessor.Blames home o before comment e) ∧
      faultyProcessor.Locates home ⟨none, 2⟩ (faultyProcessor.Warns home n) ∧
      (LineCounter.start 7).linesAt? "ü\n\n".toList [3, 0, 4, 2] = some [8, 7, 9, 7] := by
  intro home e n
  have hresult : (faultyProcessor.processText [] faultyPage).result = .error e := by
    decide +kernel
  have hnotices : (faultyProcessor.processText [] faultyPage).notices = [n] := by decide +kernel
  obtain ⟨htexts, -, -, hlines, -⟩ := positions_true (p := faultyProcessor) fun _ hg => hg
  have hreports := htexts [] faultyPage
  refine ⟨hresult, hnotices, hreports.error _ hresult _ rfl,
    hreports.notices _ (by rw [hnotices]; exact List.mem_cons_self) _ _ rfl, ?_⟩
  exact hlines 7 "ü\n\n".toList ["ü\n".toList, [], "ü\n\n".toList, ['ü']] (by decide)

end Processor

end PageBlocks
