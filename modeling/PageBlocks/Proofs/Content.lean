import PageBlocks.Proofs.Cut
import PageBlocks.Proofs.Line
import PageBlocks.Proofs.Nesting

/-!
# The content of a block

A block that a scan has yielded is in order inside. Its inner text holds usable directives only,
which open and close in pairs, and the content that is made of it is scanned without error, into
blocks that have one directive each. Faults of structure are therefore faults of a whole text.

The scan of the text and the scan of the content look ahead into different texts, up to the end of
the file and up to the end of the block. They agree because either way the search ahead comes to a
point where everything is closed.
-/

namespace PageBlocks

open Token (depthAfter?)

namespace Mark

/-- Does the mark open a block? -/
def isOpening (k : Mark) : Bool := k.directive?.isSome

/-- Does the mark close a block? -/
def isClosing (k : Mark) : Bool :=
  match k.token with
  | .ok .closes => true
  | _ => false

/-- Every mark can be read, every closing one has an opening one before it, and every opening one
has a closing one behind it. -/
structure Paired (ms : List Mark) : Prop where
  readable : ∀ k ∈ ms, ∃ t, k.token = .ok t
  opened : ∀ i, (ms.take i).countP isClosing ≤ (ms.take i).countP isOpening
  closed : ms.countP isClosing = ms.countP isOpening

theorem readable_of_depthAfter? {a b : Nat} {ms : List Mark}
    (h : depthAfter? a (ms.map token) = some b) : ∀ k ∈ ms, ∃ t, k.token = .ok t := by
  induction ms generalizing a with
  | nil => simp
  | cons k ms ih =>
    rw [List.map_cons] at h
    cases hk : k.token with
    | error fault => simp [hk, depthAfter?] at h
    | ok t =>
      have hrest : ∃ a', depthAfter? a' (ms.map token) = some b := by
        rw [hk] at h
        cases t with
        | opens d => exact ⟨_, h⟩
        | closes =>
          cases a with
          | zero => simp [depthAfter?] at h
          | succ a => exact ⟨_, h⟩
      obtain ⟨a', ha'⟩ := hrest
      intro x hx
      rcases List.mem_cons.1 hx with rfl | hx
      · exact ⟨t, hk⟩
      · exact ih ha' x hx

/-- The depth is the number of opening marks less that of closing ones. -/
theorem countP_of_depthAfter? {a b : Nat} {ms : List Mark}
    (h : depthAfter? a (ms.map token) = some b) :
    a + ms.countP isOpening = b + ms.countP isClosing := by
  induction ms generalizing a with
  | nil =>
    obtain rfl : a = b := by simpa [depthAfter?] using h
    rfl
  | cons k ms ih =>
    rw [List.map_cons] at h
    cases hk : k.token with
    | error fault => simp [hk, depthAfter?] at h
    | ok t =>
      rw [hk] at h
      cases t with
      | opens d =>
        have := ih h
        simp only [List.countP_cons, isOpening, isClosing, directive?, hk] at this ⊢
        simp only [Option.isSome_some, if_true, Bool.false_eq_true, if_false]
        omega
      | closes =>
        cases a with
        | zero => simp [depthAfter?] at h
        | succ a =>
          have := ih h
          simp only [List.countP_cons, isOpening, isClosing, directive?, hk] at this ⊢
          simp only [Option.isSome_none, if_true, Bool.false_eq_true, if_false]
          omega

theorem paired_of_depthAfter? {ms : List Mark} (h : depthAfter? 0 (ms.map token) = some 0) :
    Paired ms where
  readable := readable_of_depthAfter? h
  opened := by
    intro i
    have hsplit := Token.depthAfter?_append 0 ((ms.take i).map token) ((ms.drop i).map token)
    rw [← List.map_append, List.take_append_drop, h] at hsplit
    obtain ⟨b, hb, -⟩ := Option.bind_eq_some_iff.1 hsplit.symm
    have := countP_of_depthAfter? hb
    omega
  closed := by
    have := countP_of_depthAfter? h
    omega

end Mark

namespace Block

/-- The line ends that belong to the directives are at the start and at the end. -/
theorem ownLines_prefix_dropLineEnd (inner : Text) : ownLines inner <+: Text.dropLineEnd inner := by
  unfold ownLines
  dsimp only
  split
  · rename_i upper last hcut
    obtain ⟨hbody, -⟩ := Text.cutAtLastLine?_eq_some_iff.1 hcut
    split
    · rw [hbody]
      refine List.IsPrefix.trans ?_ (List.prefix_append upper _)
      cases hreturn : Text.before? ['\r'] upper with
      | none => exact List.prefix_refl upper
      | some u => exact ⟨['\r'], (Text.before?_eq_some_iff.1 hreturn).symm⟩
    · exact List.prefix_refl _
  · split
    · exact List.nil_prefix
    · exact List.prefix_refl _

theorem length_ownLines_le (inner : Text) : (ownLines inner).length ≤ inner.length := by
  obtain ⟨x, hx, -⟩ := Text.exists_append_dropLineEnd inner
  have hbody : (Text.dropLineEnd inner).length ≤ inner.length := by
    have := congrArg List.length hx
    rw [List.length_append] at this
    omega
  exact Nat.le_trans (ownLines_prefix_dropLineEnd inner).length_le hbody

theorem length_content_le (b : Block) : b.content.length ≤ b.inner.length := by
  unfold content
  split
  · exact Nat.le_refl _
  · exact length_ownLines_le b.inner

end Block

/-- A mark that opens a block has a directive. -/
theorem Mark.mem_directives {ks : List Mark} {d : Directive}
    (h : .ok (.opens d) ∈ ks.map Mark.token) : d ∈ ks.filterMap Mark.directive? := by
  obtain ⟨k, hk, htoken⟩ := List.mem_map.1 h
  refine List.mem_filterMap.2 ⟨k, hk, ?_⟩
  rw [directive?, htoken]

theorem Mark.mem_tokens {ks : List Mark} {d : Directive} (h : d ∈ ks.filterMap Mark.directive?) :
    .ok (.opens d) ∈ ks.map Mark.token := by
  obtain ⟨k, hk, hd⟩ := List.mem_filterMap.1 h
  refine List.mem_map.2 ⟨k, hk, ?_⟩
  unfold directive? at hd
  split at hd
  · rename_i d' htoken
    rw [htoken, Option.some.inj hd]
  · cases hd

namespace Marker

variable {m : Marker}

theorem tokens_marks (m : Marker) (line : Nat) (text : Text) :
    (marks m line text).1.map Mark.token =
      ((m.cut text).1.map Cut.comment).map m.classify := by
  rw [marks, marksFrom_eq_place, tokens_place]

theorem scan_eq_ofMarks (m : Marker) (line : Nat) (text : Text) :
    m.scan line text = Scan.ofMarks (marks m line text).1 (marks m line text).2 := rfl

/-- Nothing of a text is lost when its marks are listed. -/
theorem source_marks (m : Marker) (line : Nat) (text : Text) :
    Mark.source (marks m line text).1 ++ (marks m line text).2 = text := by
  rw [marks, marksFrom_eq_place, source_place, source_cut]

theorem comment_of_mem_marksFrom {seen : Text} {line : Nat} {text : Text} {k : Mark}
    (h : k ∈ (marksFrom m seen line text).1) : m.Comment k.comment := by
  rw [marksFrom_eq_place] at h
  have hcut : k.cut ∈ (m.cut text).1 := by
    rw [← cuts_place (m := m) seen line (m.cut text).2 (m.cut text).1]
    exact List.mem_map_of_mem h
  exact comment_of_mem_cut hcut

theorem comment_of_mem_marks {line : Nat} {text : Text} {k : Mark}
    (h : k ∈ (marks m line text).1) : m.Comment k.comment := comment_of_mem_marksFrom h

/-- A block is longer than its inner text. -/
theorem length_inner_lt {line : Nat} {text : Text} {b : Block}
    (h : .block b ∈ (m.scan line text).segments) : b.inner.length < text.length := by
  rw [scan_eq_ofMarks] at h
  obtain ⟨hmarks, -, -, -, -⟩ := Scan.holds_of_mem h
  rename_i before stack inside behind k c d
  have hk : k ∈ (marks m line text).1 := by
    rw [hmarks]
    simp
  obtain ⟨t, ht⟩ := (comment_of_mem_marks hk).eq_cons
  have hlength := congrArg List.length (source_marks m line text)
  rw [hmarks] at hlength
  simp only [Mark.source, List.flatMap_append, List.flatMap_cons, List.length_append, ht,
    List.length_cons] at hlength
  simp only [Block.ofMarks, Mark.source, List.length_append]
  omega

/-- The comments of an inner text are the marks inside the block. -/
theorem tokens_inner {line : Nat} {text : Text} {before stack inside behind : List Mark}
    {k c : Mark} (h : (marks m line text).1 = before ++ k :: (stack ++ (inside ++ c :: behind))) :
    ((m.cut (Mark.source inside ++ c.gap)).1.map Cut.comment).map m.classify =
      inside.map Mark.token := by
  rw [marks, marksFrom_eq_place] at h
  dsimp only at h
  have hcuts := congrArg (List.map Mark.cut) h
  rw [cuts_place] at hcuts
  have hfront : (m.cut text).1 = (before ++ k :: stack).map Mark.cut ++
      (inside.map Mark.cut ++ c.cut :: behind.map Mark.cut) := by simpa using hcuts
  have hrest := cut_drop hfront
  have hinside : m.cut (Cut.source (inside.map Mark.cut) ++ c.cut.gap) =
      (inside.map Mark.cut, c.cut.gap) := cut_take (congrArg Prod.fst hrest)
  rw [Mark.source_eq]
  rw [show c.gap = c.cut.gap from rfl, hinside, List.map_map, List.map_map]
  refine List.map_congr_left fun x hx => ?_
  refine (token_of_mem_place (?_ : x ∈ m.place [] line (m.cut text).2 (m.cut text).1)).symm
  rw [h]
  simp [hx]

/-- The content of a block has the comments of its inner text. -/
theorem comments_ownLines (m : Marker) (inner : Text) :
    (m.cut (Block.ownLines inner)).1.map Cut.comment = (m.cut inner).1.map Cut.comment := by
  have hend : ∀ (u d : Text) (c : Char), (c = '\r' ∨ c = '\n') → (∀ x ∈ c :: d, x ≠ '<') →
      (m.cut (u ++ c :: d)).1.map Cut.comment = (m.cut u).1.map Cut.comment := by
    intro u d c hc hd
    rw [cut_append (seam_before_break hc u d), List.map_append, Cut.comments_glue, cut_plain hd]
    simp
  obtain ⟨x, hx, hfront⟩ := Text.exists_append_dropLineEnd inner
  have hbody : (m.cut inner).1.map Cut.comment =
      (m.cut (Text.dropLineEnd inner)).1.map Cut.comment := by
    conv_lhs => rw [hx]
    rw [cut_front hfront, Cut.comments_glue]
  rw [hbody]
  unfold Block.ownLines
  generalize Text.dropLineEnd inner = body
  simp only
  split
  · rename_i upper last hlast
    obtain ⟨rfl, -⟩ := Text.cutAtLastLine?_eq_some_iff.1 hlast
    split
    · rename_i hblank
      have hrest : ∀ c ∈ '\n' :: last, c ≠ '<' := by
        intro c hc
        rcases List.mem_cons.1 hc with rfl | hc
        · decide
        · exact (Text.ne_of_blank hblank c hc).1
      cases hcr : Text.before? ['\r'] upper with
      | none => exact (hend upper last '\n' (Or.inr rfl) hrest).symm
      | some u =>
        rw [Text.before?_eq_some_iff.1 hcr, Option.getD_some, List.append_assoc]
        refine (hend u ('\n' :: last) '\r' (Or.inl rfl) ?_).symm
        intro c hc
        rcases List.mem_cons.1 hc with rfl | hc
        · decide
        · exact hrest c hc
    · rfl
  · split
    · rename_i hblank
      rw [cut_plain (fun c hc => (Text.ne_of_blank hblank c hc).1), cut_plain (by simp)]
    · rfl

theorem comments_content (m : Marker) (b : Block) :
    (m.cut b.content).1.map Cut.comment = (m.cut b.inner).1.map Cut.comment := by
  unfold Block.content
  split
  · rfl
  · exact comments_ownLines m b.inner

theorem length_content_lt {line : Nat} {text : Text} {b : Block}
    (h : .block b ∈ (m.scan line text).segments) : b.content.length < text.length :=
  Nat.lt_of_le_of_lt b.length_content_le (length_inner_lt h)

/-- What a scan has yielded is in order inside, and its content needs no more checks of
structure. -/
theorem content_in_order {line : Nat} {text : Text} {b : Block}
    (h : .block b ∈ (m.scan line text).segments) (n : Nat) :
    Mark.Paired (marks m n b.inner).1 ∧ (m.scan n b.content).error? = none ∧
      ∀ b', .block b' ∈ (m.scan n b.content).segments → b'.directives.length = 1 := by
  rw [scan_eq_ofMarks] at h
  obtain ⟨hmarks, -, -, hbalanced, -⟩ := Scan.holds_of_mem h
  rename_i before stack inside behind k c d
  have hinner := tokens_inner hmarks
  have htokens : (marks m n (Block.ofMarks k d stack inside c).inner).1.map Mark.token =
      inside.map Mark.token := by rw [tokens_marks]; exact hinner
  have hcontent : (marks m n (Block.ofMarks k d stack inside c).content).1.map Mark.token =
      inside.map Mark.token := by rw [tokens_marks, comments_content]; exact hinner
  rw [← htokens] at hbalanced
  refine ⟨Mark.paired_of_depthAfter? hbalanced, ?_⟩
  rw [htokens, ← hcontent] at hbalanced
  rw [scan_eq_ofMarks]
  obtain ⟨herror, hsingle⟩ := Scan.ofMarks_balanced hbalanced (marks m n _).2
  refine ⟨herror, fun b' hb' => ?_⟩
  simp [Block.directives, hsingle b' hb']

/-- A block with a block inside. -/
def nested : Block where
  first := ⟨"js".toList, [], [], "<!-- build:js -->".toList, "<!-- endbuild -->".toList⟩
  stacked := []
  seen := []
  opening := "<!-- build:js -->".toList
  inner := "\n<!-- build:css -->x<!-- endbuild -->\n".toList
  closing := "<!-- endbuild -->".toList
  rest := []
  line := 1

theorem content_in_order_nested :
    .block nested ∈ (build.scan 1 nested.source).segments ∧
      Mark.Paired (marks build 2 nested.inner).1 ∧
      (build.scan 2 nested.content).error? = none ∧
      ∀ b', .block b' ∈ (build.scan 2 nested.content).segments → b'.directives.length = 1 := by
  have hmem : .block nested ∈ (build.scan 1 nested.source).segments := by decide +kernel
  exact ⟨hmem, content_in_order hmem 2⟩

end Marker

end PageBlocks
