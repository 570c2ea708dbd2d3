import PageBlocks.Proofs.Cut
import PageBlocks.Proofs.Nesting

/-!
# Documents and their texts

A document is what an author has in mind: literals and blocks, a block being a stack of opening
directives, a body and a closing directive, and a body being a document again. `Document.print`
writes it down. `scan_print` says that a scan of the text gives the document back: the literals
between the top-level blocks, and these blocks, each with its own stack and with its body as inner
text.

    stack      body                                    closing
    ─────      ────                                    ───────
    a  b       ┌ c  …  end ┐  text  ┌ d  …  end ┐      end

The hard case is a body that starts with blocks of the type of the stack, as above when `c` has
the type of `a` and `b`. The three opening directives follow each other without a break, and only
the closing directives behind tell the stack from the block.
-/

namespace PageBlocks

namespace Document

/-- A comment that opens a block. -/
structure Opening (m : Marker) where
  comment : Text
  directive : Directive
  reads : m.classify comment = .ok (.opens directive)

/-- A comment that closes a block. -/
structure Closing (m : Marker) where
  comment : Text
  reads : m.classify comment = .ok .closes

/-- One or more opening directives of one type, with nothing but white space between them. -/
structure Stack (m : Marker) where
  first : Opening m
  /-- The others, each with the white space before it. -/
  more : List (Text × Opening m)
  spaced : ∀ x ∈ more, Text.spaces x.1
  alike : ∀ x ∈ more, x.2.directive.type = first.directive.type

end Document

/-- Literals and blocks in a row, each with what comes later. -/
inductive Document (m : Marker) where
  | nil
  | text (t : Text) (later : Document m)
  | block (stack : Document.Stack m) (body : Document m) (closing : Document.Closing m)
      (later : Document m)

namespace Document

variable {m : Marker}

/-- The comments of a stack behind the first one. -/
def Stack.cuts (s : Stack m) : List Cut := s.more.map fun x => ⟨x.1, x.2.comment⟩

/-- The text of a stack. -/
def Stack.print (s : Stack m) : Text := s.first.comment ++ Cut.source s.cuts

/-- The text of a document. -/
def print : Document m → Text
  | nil => []
  | text t later => t ++ later.print
  | block s body c later => s.print ++ (body.print ++ (c.comment ++ later.print))

/-- All blocks, at any depth, have a stack of one directive. -/
def Single : Document m → Prop
  | nil => True
  | text _ later => later.Single
  | block s body _ later => s.more = [] ∧ body.Single ∧ later.Single

/-- Stacks of several directives occur at the top only. -/
def WellFormed : Document m → Prop
  | nil => True
  | text _ later => later.WellFormed
  | block _ body _ later => body.Single ∧ later.WellFormed

/-- The printed comments in their order, each with the text between it and the one before, and the
text behind the last; `gap` is the text since the last comment before the document. -/
def cuts (gap : Text) : Document m → List Cut × Text
  | nil => ([], gap)
  | text t later => later.cuts (gap ++ t)
  | block s body c later =>
    (⟨gap, s.first.comment⟩ :: (s.cuts ++ ((body.cuts []).1 ++
      ⟨(body.cuts []).2, c.comment⟩ :: (later.cuts []).1)), (later.cuts []).2)

/-- The directive comments of the printed text are the printed ones: no literal holds one, and
none comes up where two pieces meet. -/
def Located (doc : Document m) : Prop :=
  (marks m 1 doc.print).1.map Mark.cut = (doc.cuts []).1

/-- The block with this stack, body and closing comment. -/
def blockOf (s : Stack m) (inner closing seen rest : Text) (line : Nat) : Block where
  first := { s.first.directive with closing }
  stacked := s.more.map fun x => { x.2.directive with closing }
  seen := seen
  opening := s.print
  inner := inner
  closing := closing
  rest := rest
  line := line

/-- What a scan is to yield: adjacent literals as one, no empty literals, and the top-level blocks.
The characters `seen`, nearest first, stand before the document, which starts on line `line`, and
`gap` is the literal so far. -/
def segments (seen : Text) (line : Nat) (gap : Text) : Document m → List Segment
  | nil => Scan.literal gap []
  | text t later => later.segments (t.reverse ++ seen) (line + Text.lineFeeds t) (gap ++ t)
  | block s body c later =>
    let source := s.print ++ (body.print ++ c.comment)
    Scan.literal gap
      (.block (blockOf s body.print c.comment seen later.print line) ::
        later.segments (source.reverse ++ seen) (line + Text.lineFeeds source) [])

theorem source_cuts (doc : Document m) (gap : Text) :
    Cut.source (doc.cuts gap).1 ++ (doc.cuts gap).2 = gap ++ doc.print := by
  induction doc generalizing gap with
  | nil => simp [cuts, print]
  | text t later ih => simp [cuts, print, ih]
  | block s body c later ihb ihl =>
    have hbody := ihb []
    have hlater := ihl []
    simp only [List.nil_append] at hbody hlater
    simp only [cuts, print, Stack.print, Cut.source_cons, Cut.source_append, List.append_assoc]
    rw [hlater, ← List.append_assoc (Cut.source (body.cuts []).1), hbody]

/-- A body closes what it opens. -/
theorem depthAfter?_cuts {doc : Document m} (h : doc.Single) (gap : Text) :
    Token.depthAfter? 0 (((doc.cuts gap).1.map Cut.comment).map m.classify) = some 0 := by
  induction doc generalizing gap with
  | nil => rfl
  | text t later ih => exact ih h (gap ++ t)
  | block s body c later ihb ihl =>
    obtain ⟨hs, hb, hl⟩ := h
    have hbody := Token.depthAfter?_add (ihb hb []) 1
    simp only [cuts, Stack.cuts, hs, List.map_nil, List.nil_append, List.map_cons, List.map_append,
      s.first.reads, c.reads, Token.depthAfter?, Token.depthAfter?_append]
    rw [Nat.zero_add] at hbody ⊢
    rw [hbody]
    exact ihl hl []

theorem joins_place (s : Stack m) (seen : Text) (line : Nat) (tail : Text) :
    ∀ k ∈ m.place seen line tail s.cuts, Mark.joins s.first.directive.type k := by
  obtain ⟨first, more, spaced, alike⟩ := s
  induction more generalizing seen line with
  | nil => simp [Stack.cuts, Marker.place]
  | cons x more ih =>
    intro k hk
    simp only [Stack.cuts, List.map_cons, Marker.place, List.mem_cons] at hk
    rcases hk with rfl | hk
    · simp [Mark.joins, Mark.directive?, x.2.reads, spaced x (by simp), alike x (by simp)]
    · exact ih _ _ (fun y hy => spaced y (by simp [hy])) (fun y hy => alike y (by simp [hy])) k hk

theorem opens_place (s : Stack m) (seen : Text) (line : Nat) (tail : Text) :
    ∀ k ∈ m.place seen line tail s.cuts, ∃ d, k.token = .ok (.opens d) := by
  intro k hk
  obtain ⟨d, hd, -⟩ := Mark.opens_of_joins (joins_place s seen line tail k hk)
  exact ⟨d, hd⟩

theorem directives_place (s : Stack m) (seen : Text) (line : Nat) (tail : Text) :
    (m.place seen line tail s.cuts).filterMap Mark.directive? =
      s.more.map fun x => x.2.directive := by
  obtain ⟨first, more, spaced, alike⟩ := s
  induction more generalizing seen line with
  | nil => rfl
  | cons x more ih =>
    have := ih (x.2.comment.reverse ++ (x.1.reverse ++ seen))
      (line + Text.lineFeeds x.1 + Text.lineFeeds x.2.comment)
      (fun y hy => spaced y (by simp [hy])) (fun y hy => alike y (by simp [hy]))
    simp only [Stack.cuts] at this
    simp [Stack.cuts, Marker.place, Mark.directive?, x.2.reads, this]

/-- A document never closes more blocks than it has opened, so the search ahead finds nothing in
it. -/
theorem lowestDepth_place {doc : Document m} (h : doc.WellFormed) (depth : Nat) (gap seen : Text)
    (line : Nat) (tail : Text) :
    Mark.lowestDepth depth (m.place seen line tail (doc.cuts gap).1) = depth := by
  induction doc generalizing depth gap seen line with
  | nil => rfl
  | text t later ih => exact ih h _ _ _ _
  | block s body c later ihb ihl =>
    obtain ⟨hb, hl⟩ := h
    simp only [cuts, Marker.place, Marker.place_append]
    rw [Mark.lowestDepth_opens s.first.reads, Mark.lowestDepth_run (opens_place s _ _ _),
      Mark.lowestDepth_balanced (by rw [Marker.tokens_place]; exact depthAfter?_cuts hb []),
      Marker.length_place, Nat.add_right_comm, Mark.lowestDepth_closes c.reads, ihl hl]
    omega

theorem ofMarks_cuts {doc : Document m} (h : doc.WellFormed) (gap seen : Text) (line : Nat) :
    Scan.ofMarks (m.place seen line (doc.cuts gap).2 (doc.cuts gap).1) (doc.cuts gap).2 =
      ⟨doc.segments (gap.reverse ++ seen) (line + Text.lineFeeds gap) gap, none⟩ := by
  induction doc generalizing gap seen line with
  | nil => simp [cuts, Marker.place, Scan.ofMarks, segments]
  | text t later ih =>
    rw [cuts, ih h, segments]
    simp [Text.lineFeeds, Nat.add_assoc]
  | block s body c later _ ihl =>
    obtain ⟨hb, hl⟩ := h
    have hbody := source_cuts body []
    have hlater := source_cuts later []
    rw [List.nil_append] at hbody hlater
    simp only [cuts, Marker.place, Marker.place_append, segments]
    rw [Scan.ofMarks_block s.first.reads (joins_place s _ _ _)
      (by rw [Marker.tokens_place]; exact depthAfter?_cuts hb []) c.reads
      (lowestDepth_place hl _ [] _ _ _), ihl hl]
    simp only [Block.ofMarks, blockOf, directives_place, Marker.source_place, hbody, hlater]
    rw [← hbody]
    simp [Stack.print, Text.lineFeeds, Function.comp_def, Nat.add_assoc]

theorem scan_of_cut {doc : Document m} (hwell : doc.WellFormed)
    (hcut : m.cut doc.print = doc.cuts []) (line : Nat) :
    m.scan line doc.print = ⟨doc.segments [] line [], none⟩ := by
  have hmarks := m.marksFrom_eq_place [] line doc.print
  rw [hcut] at hmarks
  rw [Marker.scan, marks, hmarks]
  simpa [Text.lineFeeds] using ofMarks_cuts hwell [] [] line

/-- Scanning inverts printing. -/
theorem scan_print {doc : Document m} (hwell : doc.WellFormed) (hlocated : doc.Located)
    (line : Nat) : m.scan line doc.print = ⟨doc.segments [] line [], none⟩ := by
  refine scan_of_cut hwell ?_ line
  rw [Located, marks, Marker.marksFrom_eq_place, Marker.cuts_place] at hlocated
  have htail := source_cuts doc []
  rw [List.nil_append, ← m.source_cut doc.print, ← hlocated] at htail
  exact Prod.ext hlocated (List.append_cancel_left htail).symm

/-- A directive with which blocks are removed for one environment. -/
def removal (label : Text) : Directive where
  type := "remove".toList
  targets := [label]
  args := []
  opening := "<!-- build:remove(".toList ++ label ++ ") -->".toList
  closing := []

def removeA : Opening .build := ⟨(removal ['a']).opening, removal ['a'], by rfl⟩

def removeB : Opening .build := ⟨(removal ['b']).opening, removal ['b'], by rfl⟩

def endBuild : Closing .build := ⟨"<!-- endbuild -->".toList, by rfl⟩

def single (o : Opening .build) : Stack .build := ⟨o, [], by simp, by simp⟩

def double : Stack .build := ⟨removeA, [(['\n'], removeB)], by decide, by decide⟩

/-- Two blocks with a stack each. The body of the first one starts with blocks of the same type. -/
def sample : Document .build :=
  .text ['t'] (.block double
    (.text ['\n'] (.block (single removeB) (.text ['x'] .nil) endBuild
      (.block (single removeA) .nil endBuild (.text ['y'] .nil)))) endBuild
    (.text [] (.text ['z'] (.block double .nil endBuild .nil))))

theorem scan_print_sample :
    sample.WellFormed ∧ sample.Located ∧
      Marker.build.scan 1 sample.print = ⟨sample.segments [] 1 [], none⟩ := by
  have hwell : sample.WellFormed := ⟨⟨rfl, trivial, rfl, trivial, trivial⟩, trivial, trivial⟩
  have hlocated : sample.Located := by
    show (marks .build 1 sample.print).1.map Mark.cut = _
    decide +kernel
  exact ⟨hwell, hlocated, scan_print hwell hlocated 1⟩

end Document

end PageBlocks
