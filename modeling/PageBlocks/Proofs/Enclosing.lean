import PageBlocks.Proofs.Content
import PageBlocks.Proofs.Document

/-!
# Enclosing a text in a block

A text that is in order can be put between an opening directive of a new type and a closing one.
The result is one block around the text if no block of the text has a stack of several directives,
and is refused otherwise (`scan_enclose`): the search ahead from a stack inside does not know how
many blocks are open around it and takes the closing directive of the enclosing block for one that
the stack needs. The last stack is then read as a block within a block, and the enclosing block is
never closed.

    ┌ new
    │   a  b  …  end        `a` and `b` are stacked when nothing is around them
    └ end                   but here the second `end` goes to `a`, and `new` has none
-/

namespace PageBlocks

open Token (depthAfter?)

namespace Mark

/-- The search for a closing mark fails at a mark that cannot be read, or at the end. -/
theorem unreadable_of_toClosing {a : Nat} {ms : List Mark} {k : Mark} {fault : Fault}
    (h : toClosing a ms = .error (.unreadable k fault)) : k ∈ ms ∧ k.token = .error fault := by
  fun_induction toClosing a ms with
  | case1 => simp at h
  | case2 a x later f hx =>
    obtain ⟨rfl, rfl⟩ : x = k ∧ f = fault := by simpa using h
    exact ⟨by simp, hx⟩
  | case3 => simp at h
  | case4 x later hx a e he ih =>
    obtain rfl : e = .unreadable k fault := by simpa using h
    exact ⟨List.mem_cons_of_mem _ (ih he).1, (ih he).2⟩
  | case5 => simp at h
  | case6 =>
    rename_i x later d hx n e he ih
    obtain rfl : e = .unreadable k fault := by simpa using h
    exact ⟨List.mem_cons_of_mem _ (List.mem_of_mem_drop (ih he).1), (ih he).2⟩
  | case7 => simp at h

/-- Marks that leave a block open have no use for one closing mark more than that. -/
theorem toClosing_of_open {ms : List Mark} {n : Nat}
    (h : depthAfter? 0 (ms.map token) = some (n + 1)) {c : Mark} (hc : c.token = .ok .closes) :
    toClosing 0 (ms ++ [c]) = .error .ended := by
  cases hclosing : toClosing 0 (ms ++ [c]) with
  | error e =>
    cases e with
    | ended => rfl
    | unreadable k fault =>
      obtain ⟨hmem, hk⟩ := unreadable_of_toClosing hclosing
      rcases List.mem_append.1 hmem with hmem | hmem
      · obtain ⟨t, ht⟩ := readable_of_depthAfter? h k hmem
        simp [ht] at hk
      · obtain rfl := List.mem_singleton.1 hmem
        simp [hc] at hk
  | ok cl =>
    have hsplit := eq_of_toClosing hclosing
    obtain ⟨hinside, hcloses⟩ := toClosing_balanced hclosing
    rcases List.eq_nil_or_concat cl.behind with hnil | ⟨behind, x, hbehind⟩
    · -- The closing mark is `c`, but before it not all is closed.
      rw [hnil] at hsplit
      obtain ⟨rfl, -⟩ := List.append_inj' hsplit rfl
      simp [h] at hinside
    · -- The closing mark is one of `ms`, where no closing mark lacks its opening one.
      rw [hbehind, List.concat_eq_append, ← List.cons_append, ← List.append_assoc] at hsplit
      obtain ⟨rfl, -⟩ := List.append_inj' hsplit rfl
      rw [List.map_append, Token.depthAfter?_append, hinside, List.map_cons, hcloses] at h
      simp [depthAfter?] at h

end Mark

namespace Document

variable {m : Marker}

/-- The text between an opening and a closing directive, on lines of its own. -/
def enclose (o : Opening m) (text : Text) (c : Closing m) : Text :=
  o.comment ++ ('\n' :: text ++ '\n' :: c.comment)

theorem cut_enclose {o : Opening m} {c : Closing m} (ho : m.Comment o.comment)
    (hc : m.Comment c.comment) (text : Text) :
    m.cut (enclose o text c) =
      (⟨[], o.comment⟩ :: ((m.cut ('\n' :: text)).1 ++
        [⟨(m.cut ('\n' :: text)).2 ++ ['\n'], c.comment⟩]), []) := by
  have hclose : m.cut ('\n' :: c.comment) = ([⟨['\n'], c.comment⟩], []) := by
    have hfront : ∀ x ∈ ['\n'], x ≠ '<' := by simp
    have hcut := Marker.cut_comment hc []
    rw [List.append_nil, Marker.cut_of_none (t := []) rfl] at hcut
    have := Marker.cut_front hfront c.comment (m := m)
    rw [List.singleton_append, hcut] at this
    exact this
  rw [enclose, Marker.cut_comment ho, ← List.cons_append,
    Marker.cut_append (Marker.seam_before_break (Or.inr rfl) ('\n' :: text) c.comment), hclose]
  rfl

/-- The marks of an enclosed text are those of the text between two more. -/
theorem marks_enclose {o : Opening m} {c : Closing m} (ho : m.Comment o.comment)
    (hc : m.Comment c.comment) (text : Text) (n line : Nat) :
    ∃ k inside cm, marks m line (enclose o text c) = (k :: (inside ++ [cm]), []) ∧
      k.gap = [] ∧ k.line = line ∧ k.token = .ok (.opens o.directive) ∧
      cm.comment = c.comment ∧ cm.token = .ok .closes ∧
      inside.map Mark.token = (marks m n text).1.map Mark.token ∧
      Mark.source inside ++ cm.gap = '\n' :: text ++ ['\n'] := by
  have hfront : ∀ x ∈ ['\n'], x ≠ '<' := by simp
  have hcut : m.cut ('\n' :: text) = Cut.glue ['\n'] (m.cut text) := Marker.cut_front hfront text
  have htext := m.source_cut ('\n' :: text)
  rw [marks, Marker.marksFrom_eq_place, cut_enclose ho hc]
  simp only [Marker.place, Marker.place_append]
  refine ⟨_, _, _, rfl, rfl, by simp, o.reads, rfl, c.reads, ?_, ?_⟩
  · rw [Marker.tokens_place, Marker.tokens_marks, hcut, Cut.comments_glue]
  · rw [Marker.source_place, ← List.append_assoc, htext]

/-- A text scanned without error can be enclosed exactly when its blocks have one directive each;
otherwise the enclosing block ends up without a closing directive. -/
theorem scan_enclose {text : Text} {n : Nat} (htext : (m.scan n text).error? = none)
    {o : Opening m} {c : Closing m} (ho : m.Comment o.comment) (hc : m.Comment c.comment)
    (hnew : ∀ d ∈ (marks m n text).1.filterMap Mark.directive?, d.type ≠ o.directive.type)
    (line : Nat) :
    ((∀ b, .block b ∈ (m.scan n text).segments → b.directives.length = 1) →
      ∃ b, m.scan line (enclose o text c) = ⟨[.block b], none⟩ ∧
        b.directives = [{ o.directive with closing := c.comment }] ∧
        b.inner = '\n' :: text ++ ['\n']) ∧
    ((∃ b, .block b ∈ (m.scan n text).segments ∧ b.directives.length ≠ 1) →
      m.scan line (enclose o text c) = .stopped (.unterminated line o.directive.type)) := by
  obtain ⟨k, inside, cm, hmarks, hgap, hline, hk, hcomment, hcm, htokens, hinner⟩ :=
    marks_enclose ho hc text n line
  have hdepth : depthAfter? 0 (inside.map Mark.token) = some (m.scan n text).stacked.length := by
    rw [htokens]
    exact Scan.depthAfter?_ofMarks htext
  have henclosed : m.scan line (enclose o text c) = Scan.ofMarks (k :: (inside ++ [cm])) [] := by
    rw [Marker.scan_eq_ofMarks, hmarks]
  rw [henclosed, ← Scan.stacked_eq_nil_iff]
  constructor
  · intro hsingle
    rw [hsingle] at hdepth
    have hnone : ∀ s ∈ ([] : List Mark), Mark.joins o.directive.type s := by simp
    have hscan : Scan.ofMarks (k :: ([] ++ (inside ++ cm :: []))) [] = _ :=
      Scan.ofMarks_block hk hnone hdepth hcm rfl []
    rw [List.nil_append] at hscan
    refine ⟨Block.ofMarks k o.directive [] inside cm, ?_, ?_, hinner⟩
    · rw [hscan, hgap]
      simp [Scan.ofMarks, Scan.literal]
    · simp [Block.directives, Block.ofMarks, hcomment]
  · rintro ⟨b, hb, hmany⟩
    have hstacked : (m.scan n text).stacked ≠ [] :=
      fun hnil => hmany (Scan.stacked_eq_nil_iff.1 hnil b hb)
    obtain ⟨d, ds, hds⟩ := List.exists_cons_of_ne_nil hstacked
    rw [hds, List.length_cons] at hdepth
    have hjoins : ∀ x ∈ inside ++ [cm], ¬ Mark.joins o.directive.type x := by
      intro x hx hj
      obtain ⟨d, hd, htype⟩ := Mark.opens_of_joins hj
      rcases List.mem_append.1 hx with hx | hx
      · have hmem : x.token ∈ (marks m n text).1.map Mark.token := by
          rw [← htokens]
          exact List.mem_map_of_mem hx
        obtain ⟨y, hy, hyx⟩ := List.mem_map.1 hmem
        have hdirective : y.directive? = some d := by rw [Mark.directive?, hyx, hd]
        exact hnew d (List.mem_filterMap.2 ⟨y, hy, hdirective⟩) htype
      · obtain rfl := List.mem_singleton.1 hx
        simp [hcm] at hd
    have hended : Mark.toClosing 0 ((inside ++ [cm]).drop
        (Mark.stackSize o.directive.type (inside ++ [cm]))) = .error .ended := by
      rw [Mark.stackSize_of_forall_not_joins hjoins, List.drop_zero]
      exact Mark.toClosing_of_open hdepth hcm
    rw [Scan.ofMarks_of_ended hk hended, hline]

/-- An opening directive of a type that occurs nowhere else here. -/
def openJs : Opening .build where
  comment := "<!-- build:js -->".toList
  directive := ⟨"js".toList, [], [], "<!-- build:js -->".toList, []⟩
  reads := by rfl

theorem comment_openJs : Marker.build.Comment openJs.comment :=
  Marker.comment_of_commentAt? (t := openJs.comment) (r := []) (by rfl)

theorem comment_endBuild : Marker.build.Comment endBuild.comment :=
  Marker.comment_of_commentAt? (t := endBuild.comment) (r := []) (by rfl)

/-- A block with one directive, behind a literal. -/
def plain : Text := ['t'] ++ (single removeA).print ++ ['x'] ++ endBuild.comment

theorem scan_enclose_plain :
    ∃ b, Marker.build.scan 1 (enclose openJs plain endBuild) = ⟨[.block b], none⟩ ∧
      b.directives = [{ openJs.directive with closing := endBuild.comment }] ∧
      b.inner = '\n' :: plain ++ ['\n'] := by
  have htext : (Marker.build.scan 1 plain).error? = none := by decide +kernel
  have hnew : ∀ d ∈ (marks .build 1 plain).1.filterMap Mark.directive?,
      d.type ≠ openJs.directive.type := by decide +kernel
  have hsingle : (Marker.build.scan 1 plain).stacked = [] := by decide +kernel
  exact (scan_enclose htext comment_openJs comment_endBuild hnew 1).1
    (Scan.stacked_eq_nil_iff.1 hsingle)

/-- A block with two directives in front. -/
def stackedText : Text := double.print ++ "\nx\n".toList ++ endBuild.comment

theorem not_scan_enclose_stacked :
    (Marker.build.scan 1 stackedText).error? = none ∧
      Marker.build.Comment openJs.comment ∧ Marker.build.Comment endBuild.comment ∧
      (∀ d ∈ (marks .build 1 stackedText).1.filterMap Mark.directive?,
        d.type ≠ openJs.directive.type) ∧
      ¬ ∃ b, Marker.build.scan 1 (enclose openJs stackedText endBuild) = ⟨[.block b], none⟩ := by
  refine ⟨by decide +kernel, comment_openJs, comment_endBuild, by decide +kernel, ?_⟩
  rintro ⟨b, hb⟩
  have hstopped : (Marker.build.scan 1 (enclose openJs stackedText endBuild)).error? =
      some (.unterminated 1 openJs.directive.type) := by decide +kernel
  simp [hb] at hstopped

end Document

end PageBlocks
