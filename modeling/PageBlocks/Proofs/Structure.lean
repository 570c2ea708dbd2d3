import Mathlib.Data.List.Chain
import PageBlocks.Proofs.Position

/-!
# Which fault of structure, and where

A scan goes from block to block. It counts the blocks that are open inside a block, starts anew with
the next one, and stops at a closing directive without a block or in front of a block that has no
end. For a text whose directives can be read, and have nothing stacked on them, all this comes to
one count of opening and closing directives from the start of the text:

    opens  closes  opens  opens  closes            opens  closes  closes
      1      0       1      2      1                 1      0      -1
                     ↑      ends above 0                            ↑
                     unterminated                                   stray

There is no fault when the count is never below 0 and ends there; a count below 0 is the fault of
the directive that makes it so; and with a count that ends above 0 it is the last directive to
start from 0 whose block is unterminated (`Marker.fault_by_depth`).
-/

namespace PageBlocks

open Token (depthAfter?)

namespace Mark

variable {ms front : List Mark} {k : Mark}

/-! ### The count -/

/-- The number of opening marks less that of closing ones. -/
def depth (ms : List Mark) : Int := ms.countP isOpening - ms.countP isClosing

@[simp] theorem depth_append (xs ys : List Mark) : depth (xs ++ ys) = depth xs + depth ys := by
  simp only [depth, List.countP_append]
  omega

theorem depth_opens {d : Directive} (hk : k.token = .ok (.opens d)) : depth [k] = 1 := by
  simp [depth, isOpening, isClosing, directive?, hk]

theorem depth_closes (hk : k.token = .ok .closes) : depth [k] = -1 := by
  simp [depth, isOpening, isClosing, directive?, hk]

/-- The count is never below 0 on the way. -/
def NeverBelow (ms : List Mark) : Prop := ∀ front, front <+: ms → 0 ≤ depth front

theorem depth_of_depthAfter? {a b : Nat} (h : depthAfter? a (ms.map token) = some b) :
    a + depth ms = b := by
  have hcount := countP_of_depthAfter? h
  rw [depth]
  omega

theorem le_depth_of_depthAfter? {a b : Nat} (h : depthAfter? a (ms.map token) = some b)
    (hfront : front <+: ms) : 0 ≤ a + depth front := by
  obtain ⟨behind, rfl⟩ := hfront
  rw [List.map_append, Token.depthAfter?_append, Option.bind_eq_some_iff] at h
  obtain ⟨b', hb', -⟩ := h
  rw [depth_of_depthAfter? hb']
  omega

/-- What stands at the front of two runs is in the first one, or goes over its end. -/
theorem prefix_append_cases {xs ys : List Mark} (h : front <+: xs ++ ys) :
    front <+: xs ∨ ∃ front', front' <+: ys ∧ front = xs ++ front' := by
  rcases List.prefix_or_prefix_of_prefix h (List.prefix_append xs ys) with h' | h'
  · exact Or.inl h'
  · obtain ⟨front', rfl⟩ := h'
    exact Or.inr ⟨front', (List.prefix_append_right_inj xs).1 h, rfl⟩

theorem NeverBelow.append {run : List Mark} (hrun : depthAfter? 0 (run.map token) = some 0)
    (h : NeverBelow ms) : NeverBelow (run ++ ms) := by
  intro front hfront
  rcases prefix_append_cases hfront with hin | ⟨front', hfront', rfl⟩
  · simpa using le_depth_of_depthAfter? hrun hin
  · have hzero := depth_of_depthAfter? hrun
    have hrest := h front' hfront'
    rw [depth_append]
    omega

/-! ### Without stacks -/

/-- No directive opens a block of the same type as the directive right before it, with white space
at most between the two. -/
def Apart (ms : List Mark) : Prop :=
  ms.IsChain fun k k' => ∀ d ∈ k.directive?, ¬ joins d.type k'

theorem stackSize_of_apart {d : Directive} {later : List Mark} (hk : k.token = .ok (.opens d))
    (h : Apart (k :: later)) : stackSize d.type later = 0 := by
  have hle := stackSize_le_run d.type later
  cases later with
  | nil => exact Nat.le_zero.1 hle
  | cons k' later =>
    have hnot : ¬ joins d.type k' := (List.isChain_cons_cons.1 h).1 d (by simp [directive?, hk])
    rw [List.takeWhile_cons_of_neg hnot] at hle
    exact Nat.le_zero.1 hle

theorem Apart.tail {later : List Mark} (h : Apart (k :: later)) : Apart later := List.IsChain.tail h

theorem Apart.right {xs ys : List Mark} (h : Apart (xs ++ ys)) : Apart ys :=
  List.IsChain.right_of_append h

/-- When the search for a closing mark gets to the end, nothing was closed that was not open. -/
theorem depthAfter?_of_ended {a : Nat} (hms : Apart ms) (h : toClosing a ms = .error .ended) :
    ∃ b, depthAfter? a (ms.map token) = some b := by
  fun_induction toClosing a ms with
  | case1 a => exact ⟨a, rfl⟩
  | case2 => cases h
  | case3 => cases h
  | case4 k later hk a e he ih =>
    obtain rfl : e = .ended := by simpa using h
    obtain ⟨b, hb⟩ := ih hms.tail he
    exact ⟨b, by rw [List.map_cons, hk]; exact hb⟩
  | case5 => cases h
  | case6 a k later d hk n e he ih =>
    obtain rfl : e = .ended := by simpa using h
    have hn : n = 0 := stackSize_of_apart hk hms
    rw [hn, List.drop_zero] at ih he
    obtain ⟨b, hb⟩ := ih hms.tail he
    exact ⟨b, by rw [List.map_cons, hk]; exact hb⟩
  | case7 => cases h

/-! ### The verdict -/

/-- What the count says of a run of marks: there is no fault, or there is this one. -/
inductive Verdict (ms : List Mark) : Option ScanError → Prop where
  | sound (never : NeverBelow ms) (closed : depth ms = 0) : Verdict ms none
  | stray {before behind : List Mark} {k : Mark} (marks_eq : ms = before ++ k :: behind)
      (never : NeverBelow before) (closed : depth before = 0) (closes : k.token = .ok .closes) :
      Verdict ms (some (.malformed k.line k.comment .strayClosing))
  | unterminated {before behind : List Mark} {k : Mark} {d : Directive}
      (marks_eq : ms = before ++ k :: behind) (never : NeverBelow before)
      (closed : depth before = 0) (opens : k.token = .ok (.opens d))
      (open_behind : NeverBelow behind) :
      Verdict ms (some (.unterminated k.line d.type))

/-- A run in which all is closed changes nothing for what is behind it. -/
theorem Verdict.append {run : List Mark} (hrun : depthAfter? 0 (run.map token) = some 0)
    {e : Option ScanError} (h : Verdict ms e) : Verdict (run ++ ms) e := by
  have hzero : depth run = 0 := by simpa using depth_of_depthAfter? hrun
  cases h with
  | sound never closed => exact .sound (never.append hrun) (by simp [hzero, closed])
  | stray marks_eq never closed closes =>
    exact .stray (by rw [marks_eq, List.append_assoc]) (never.append hrun) (by simp [hzero, closed])
      closes
  | unterminated marks_eq never closed opens open_behind =>
    exact .unterminated (by rw [marks_eq, List.append_assoc]) (never.append hrun)
      (by simp [hzero, closed]) opens open_behind

theorem neverBelow_nil : NeverBelow [] := by
  intro front hfront
  rw [List.prefix_nil.1 hfront]
  exact Int.le_refl 0

/-- A scan stops where the count says. -/
theorem verdict_ofMarks {tail : Text} (hreadable : ∀ k ∈ ms, ∃ t, k.token = .ok t)
    (hms : Apart ms) : Verdict ms (Scan.ofMarks ms tail).error? := by
  fun_induction Scan.ofMarks ms tail with
  | case1 => exact .sound neverBelow_nil rfl
  | case2 k later fault hk =>
    obtain ⟨t, ht⟩ := hreadable k List.mem_cons_self
    rw [hk] at ht
    cases ht
  | case3 k later hk => exact @Verdict.stray (k :: later) [] later k rfl neverBelow_nil rfl hk
  | case4 k later d hk n bad fault hclosed =>
    obtain ⟨hbad, htoken⟩ := unreadable_of_toClosing hclosed
    obtain ⟨t, ht⟩ := hreadable bad (List.mem_cons_of_mem k (List.mem_of_mem_drop hbad))
    rw [htoken] at ht
    cases ht
  | case5 k later d hk n hclosed =>
    have hn : n = 0 := stackSize_of_apart hk hms
    rw [hn, List.drop_zero] at hclosed
    obtain ⟨b, hb⟩ := depthAfter?_of_ended hms.tail hclosed
    have hbehind : NeverBelow later := by
      intro front hfront
      simpa using le_depth_of_depthAfter? hb hfront
    exact @Verdict.unterminated (k :: later) [] later k d rfl neverBelow_nil rfl hk hbehind
  | case6 k later d hk n c hc block scan ih =>
    have hn : n = 0 := stackSize_of_apart hk hms
    rw [hn, List.drop_zero] at hc
    obtain ⟨hinside, hcloses⟩ := toClosing_balanced hc
    have hsplit : k :: later = (k :: (c.inside ++ [c.closing])) ++ c.behind := by
      rw [eq_of_toClosing hc]
      simp
    have hnone : ∀ s ∈ ([] : List Mark), joins d.type s := by simp
    have hrun : depthAfter? 0 ((k :: (c.inside ++ [c.closing])).map token) = some 0 :=
      Scan.depthAfter?_block hk hnone hinside hcloses
    rw [hsplit] at hreadable hms ⊢
    exact (ih (fun x hx => hreadable x (List.mem_append_right _ hx)) hms.right).append hrun

/-! ### A block that stays open -/

section Open

variable {before behind : List Mark} {d : Directive}

theorem depth_pos_of_open (hclosed : depth before = 0) (hk : k.token = .ok (.opens d))
    (hopen : NeverBelow behind) : 0 < depth (before ++ k :: behind) := by
  have hone := depth_opens hk
  have hrest := hopen behind (List.prefix_refl behind)
  rw [← List.singleton_append, depth_append, depth_append]
  omega

/-- From the directive on the count is above 0. -/
theorem prefix_or_depth_pos (hclosed : depth before = 0) (hk : k.token = .ok (.opens d))
    (hopen : NeverBelow behind) (hfront : front <+: before ++ k :: behind) :
    front <+: before ∨ 0 < depth front := by
  rcases prefix_append_cases hfront with hin | ⟨front', hfront', rfl⟩
  · exact Or.inl hin
  · rcases List.prefix_cons_iff.1 hfront' with rfl | ⟨later, rfl, hlater⟩
    · exact Or.inl (by simp)
    · have hnever : NeverBelow later := fun front h => hopen front (h.trans hlater)
      exact Or.inr (depth_pos_of_open hclosed hk hnever)

theorem neverBelow_of_open (hbefore : NeverBelow before) (hclosed : depth before = 0)
    (hk : k.token = .ok (.opens d)) (hopen : NeverBelow behind) :
    NeverBelow (before ++ k :: behind) := by
  intro front hfront
  rcases prefix_or_depth_pos hclosed hk hopen hfront with hin | hpos
  · exact hbefore front hin
  · exact Int.le_of_lt hpos

end Open

end Mark

namespace Marker

open Mark (depth NeverBelow Apart)

/-- The line of a mark is told by the text in front of it. -/
theorem line_of_marks {m : Marker} {line : Nat} {text : Text} {before behind : List Mark} {k : Mark}
    (h : (marks m line text).1 = before ++ k :: behind) :
    k.line = line + Text.lineFeeds (Mark.source before ++ k.gap) := by
  have hmem : k ∈ (marks m line text).1 := by
    rw [h]
    simp
  have hline := line_of_mem_marksFrom hmem
  rw [← seen_of_marks h, Text.lineFeeds_reverse]
  simpa using hline

/-- Whether a scan stops, why and where, can be told by counting directives from the start of the
text, if they can be read and none is followed, with nothing but white space between, by another one
that opens a block of the same type. -/
theorem fault_by_depth (m : Marker) (line : Nat) (text : Text)
    (hreadable : ∀ k ∈ (marks m line text).1, ∃ t, k.token = .ok t)
    (hapart : Apart (marks m line text).1) :
    let ms := (marks m line text).1
    let error? := (m.scan line text).error?
    (error? = none ↔ NeverBelow ms ∧ depth ms = 0) ∧
    (¬ NeverBelow ms → ∃ before k behind, ms = before ++ k :: behind ∧
      NeverBelow before ∧ depth (before ++ [k]) < 0 ∧ k.token = .ok .closes ∧
      error? = some (.malformed (line + Text.lineFeeds (Mark.source before ++ k.gap)) k.comment
        .strayClosing)) ∧
    (NeverBelow ms → 0 < depth ms → ∃ before k behind d, ms = before ++ k :: behind ∧
      k.token = .ok (.opens d) ∧ depth before = 0 ∧
      (∀ before' k' behind', ms = before' ++ k' :: behind' → k'.isOpening → depth before' = 0 →
        before'.length ≤ before.length) ∧
      error? = some
        (.unterminated (line + Text.lineFeeds (Mark.source before ++ k.gap)) d.type)) := by
  intro ms error?
  have hverdict : Mark.Verdict ms error? := Mark.verdict_ofMarks hreadable hapart
  generalize error? = e at hverdict ⊢
  have hline : ∀ {before k behind}, ms = before ++ k :: behind →
      k.line = line + Text.lineFeeds (Mark.source before ++ k.gap) := line_of_marks
  cases hverdict with
  | sound never closed =>
    refine ⟨by simp [never, closed], fun hnot => absurd never hnot, fun _ hpos => ?_⟩
    omega
  | @stray before behind k marks_eq never closed closes =>
    have hbelow : depth (before ++ [k]) < 0 := by
      rw [Mark.depth_append, Mark.depth_closes closes]
      omega
    have hnot : ¬ NeverBelow ms := by
      intro hall
      have hk := hall (before ++ [k]) ⟨behind, by rw [marks_eq]; simp⟩
      omega
    refine ⟨by simp [hnot], fun _ => ⟨before, k, behind, marks_eq, never, hbelow, closes, ?_⟩,
      fun hall => absurd hall hnot⟩
    rw [hline marks_eq]
  | @unterminated before behind k d marks_eq never closed opens open_behind =>
    have hall : NeverBelow ms := by
      rw [marks_eq]
      exact Mark.neverBelow_of_open never closed opens open_behind
    have hpos : 0 < depth ms := by
      rw [marks_eq]
      exact Mark.depth_pos_of_open closed opens open_behind
    refine ⟨?_, fun hnot => absurd hall hnot,
      fun _ _ => ⟨before, k, behind, d, marks_eq, opens, closed, ?_, ?_⟩⟩
    · constructor
      · intro h
        cases h
      · rintro ⟨-, hzero⟩
        omega
    · intro before' k' behind' heq _ hzero
      have hfront : before' <+: before ++ k :: behind := ⟨k' :: behind', by rw [← heq, marks_eq]⟩
      rcases Mark.prefix_or_depth_pos closed opens open_behind hfront with hin | habove
      · exact hin.length_le
      · omega
    · rw [hline marks_eq]

/-- A page of two blocks, the second of which holds another one. -/
def evenPage : Text :=
  "<!--build:a--><!--endbuild-->\n<!--build:b-->x\n<!--build:a--><!--/build--><!--/build-->".toList

theorem fault_by_depth_evenPage :
    (NeverBelow (marks build 1 evenPage).1 ∧ depth (marks build 1 evenPage).1 = 0) ∧
      ∃ before k behind, (marks build 1 (evenPage ++ "\n<!-- endbuild -->".toList)).1 =
          before ++ k :: behind ∧ depth (before ++ [k]) < 0 ∧
        (build.scan 1 (evenPage ++ "\n<!-- endbuild -->".toList)).error? =
          some (.malformed (1 + Text.lineFeeds (Mark.source before ++ k.gap)) k.comment
            .strayClosing) := by
  have hreadable : ∀ {ms : List Mark}, (ms.all fun k => k.token.isOk) = true →
      ∀ k ∈ ms, ∃ t, k.token = .ok t := by
    intro ms hall k hk
    have hok := List.all_eq_true.1 hall k hk
    cases htoken : k.token with
    | error e =>
      rw [htoken] at hok
      cases hok
    | ok t => exact ⟨t, rfl⟩
  obtain ⟨heven, -, -⟩ := fault_by_depth build 1 evenPage (hreadable (by decide +kernel))
    (by unfold Apart; decide +kernel)
  obtain ⟨-, hstray, -⟩ := fault_by_depth build 1 (evenPage ++ "\n<!-- endbuild -->".toList)
    (hreadable (by decide +kernel)) (by unfold Apart; decide +kernel)
  have hnot : ¬ NeverBelow (marks build 1 (evenPage ++ "\n<!-- endbuild -->".toList)).1 := by
    intro hall
    have hend := hall _ (List.prefix_refl _)
    revert hend
    decide +kernel
  obtain ⟨before, k, behind, hmarks, -, hbelow, -, herror⟩ := hstray hnot
  exact ⟨heven.1 (by decide +kernel), before, k, behind, hmarks, hbelow, herror⟩

end Marker

end PageBlocks
