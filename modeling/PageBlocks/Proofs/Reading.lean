import PageBlocks.Proofs.Document

/-!
# Texts read as documents

Every text that a scan gets through is the text of a document (`Document.exists_of_scan`), so that
what holds of printed documents holds of all texts without a fault. Documents can be put one after
the other, and where the first ends with a line feed their texts are scanned as the one document
that they make up together (`Document.scan_append`): no directive lies across the line feed, and the
search ahead from the stacks of the first finds all that is open in the second closed again.
-/

namespace PageBlocks

namespace Document

variable {m : Marker}

/-- Marks that say what their comments say. -/
def Classified (m : Marker) (ms : List Mark) : Prop := ∀ k ∈ ms, k.token = m.classify k.comment

/-- Marks that open as many blocks as they close are those of a document without stacks. -/
theorem exists_single {ms : List Mark} (hms : Classified m ms)
    (h : Token.depthAfter? 0 (ms.map Mark.token) = some 0) (tail : Text) :
    ∃ doc : Document m, doc.Single ∧ doc.cuts [] = (ms.map Mark.cut, tail) := by
  match ms with
  | [] => exact ⟨.text tail .nil, trivial, rfl⟩
  | k :: later =>
    rw [List.map_cons] at h
    cases hk : k.token with
    | error fault =>
      rw [hk] at h
      cases h
    | ok token =>
      cases token with
      | closes =>
        rw [hk] at h
        cases h
      | opens d =>
        rw [hk] at h
        obtain ⟨inside, c, behind, rfl, hinside, hc, hbehind⟩ := Mark.exists_closing (a := 0) h
        obtain ⟨body, hbody, hbodyCuts⟩ :=
          exists_single (fun x hx => hms x (by simp [hx])) hinside c.gap
        obtain ⟨rest, hrest, hrestCuts⟩ :=
          exists_single (fun x hx => hms x (by simp [hx])) hbehind tail
        have hopens : m.classify k.comment = .ok (.opens d) :=
          (hms k (by simp)).symm.trans hk
        have hcloses : m.classify c.comment = .ok .closes :=
          (hms c (by simp)).symm.trans hc
        refine ⟨.text k.gap (.block ⟨⟨k.comment, d, hopens⟩, [], by simp, by simp⟩ body
          ⟨c.comment, hcloses⟩ rest), ⟨rfl, hbody, hrest⟩, ?_⟩
        simp [cuts, Stack.cuts, hbodyCuts, hrestCuts, Mark.cut]
termination_by ms.length
decreasing_by
  all_goals
    subst_vars
    simp only [List.length_cons, List.length_append]
    omega

/-- The stack that is made of a mark and of marks that join it. -/
theorem exists_stack {k : Mark} {d : Directive} (hk : m.classify k.comment = .ok (.opens d))
    {ms : List Mark} (hms : Classified m ms) (hjoins : ∀ s ∈ ms, Mark.joins d.type s) :
    ∃ s : Stack m, s.first = ⟨k.comment, d, hk⟩ ∧ s.cuts = ms.map Mark.cut := by
  induction ms with
  | nil => exact ⟨⟨⟨k.comment, d, hk⟩, [], by simp, by simp⟩, rfl, rfl⟩
  | cons s ms ih =>
    obtain ⟨⟨first, more, spaced, alike⟩, hfirst, hcuts⟩ :=
      ih (fun x hx => hms x (by simp [hx])) fun x hx => hjoins x (List.mem_cons_of_mem _ hx)
    obtain rfl : first = _ := hfirst
    have hs := hjoins s List.mem_cons_self
    obtain ⟨d', hd', htype⟩ := Mark.opens_of_joins hs
    have hspaces : Text.spaces s.gap := by
      rw [Mark.joins, Bool.and_eq_true] at hs
      exact hs.1
    have hreads : m.classify s.comment = .ok (.opens d') :=
      (hms s List.mem_cons_self).symm.trans hd'
    refine ⟨⟨⟨k.comment, d, hk⟩, (s.gap, ⟨s.comment, d', hreads⟩) :: more, ?_, ?_⟩, rfl, ?_⟩
    · intro x hx
      rcases List.mem_cons.1 hx with rfl | hx
      · exact hspaces
      · exact spaced x hx
    · intro x hx
      rcases List.mem_cons.1 hx with rfl | hx
      · exact htype
      · exact alike x hx
    · rw [List.map_cons, ← hcuts]
      rfl

/-- Marks that are put together to blocks without a fault are those of a document. -/
theorem exists_of_ofMarks {ms : List Mark} {tail : Text} (hms : Classified m ms)
    (h : (Scan.ofMarks ms tail).error? = none) :
    ∃ doc : Document m, doc.WellFormed ∧ doc.cuts [] = (ms.map Mark.cut, tail) := by
  fun_induction Scan.ofMarks ms tail with
  | case1 => exact ⟨.text tail .nil, trivial, rfl⟩
  | case2 => simp [Scan.stopped] at h
  | case3 => simp [Scan.stopped] at h
  | case4 => simp [Scan.stopped] at h
  | case5 => simp [Scan.stopped] at h
  | case6 =>
    rename_i k later d hk n c hc block scan ih
    have hlater : later = later.take n ++ (c.inside ++ c.closing :: c.behind) := by
      rw [← Mark.eq_of_toClosing hc, List.take_append_drop]
    have hjoins : ∀ s ∈ later.take n, Mark.joins d.type s := Mark.joins_of_mem_stack
    obtain ⟨hinside, hclosing⟩ := Mark.toClosing_balanced hc
    generalize later.take n = stack at hlater hjoins
    subst hlater
    have hopens : m.classify k.comment = .ok (.opens d) := (hms k (by simp)).symm.trans hk
    have hcloses : m.classify c.closing.comment = .ok .closes :=
      (hms c.closing (by simp)).symm.trans hclosing
    obtain ⟨s, hfirst, hstack⟩ := exists_stack hopens (fun x hx => hms x (by simp [hx])) hjoins
    obtain ⟨body, hbody, hbodyCuts⟩ :=
      exists_single (fun x hx => hms x (by simp [hx])) hinside c.closing.gap
    obtain ⟨rest, hrest, hrestCuts⟩ := ih (fun x hx => hms x (by simp [hx])) h
    refine ⟨.text k.gap (.block s body ⟨c.closing.comment, hcloses⟩ rest), ⟨hbody, hrest⟩, ?_⟩
    simp [cuts, hfirst, hstack, hbodyCuts, hrestCuts, Mark.cut]

/-- Every text without a fault is the text of a document, with the document's comments. -/
theorem exists_of_scan {line : Nat} {text : Text} (h : (m.scan line text).error? = none) :
    ∃ doc : Document m, doc.WellFormed ∧ m.cut text = doc.cuts [] ∧ doc.print = text := by
  have hmarks := m.marksFrom_eq_place [] line text
  rw [Marker.scan, marks, hmarks] at h
  obtain ⟨doc, hwell, hcuts⟩ := exists_of_ofMarks (m := m)
    (fun k hk => Marker.token_of_mem_place hk) h
  rw [Marker.cuts_place] at hcuts
  refine ⟨doc, hwell, hcuts.symm, ?_⟩
  have hsource := source_cuts doc []
  rw [hcuts, List.nil_append] at hsource
  rw [← hsource]
  exact m.source_cut text

/-! ### One document after the other -/

/-- One document after the other. -/
def append : Document m → Document m → Document m
  | nil, doc => doc
  | text t later, doc => text t (later.append doc)
  | block s body c later, doc => block s body c (later.append doc)

theorem print_append (a b : Document m) : (a.append b).print = a.print ++ b.print := by
  induction a with
  | nil => rfl
  | text t later ih => simp [append, print, ih]
  | block s body c later _ ih => simp [append, print, ih]

theorem WellFormed.append {a b : Document m} (ha : a.WellFormed) (hb : b.WellFormed) :
    (a.append b).WellFormed := by
  induction a with
  | nil => exact hb
  | text t later ih => exact ih ha
  | block s body c later _ ih => exact ⟨ha.1, ih ha.2⟩

theorem WellFormed.of_append {x y : Document m} (h : (x.append y).WellFormed) :
    x.WellFormed ∧ y.WellFormed := by
  induction x with
  | nil => exact ⟨trivial, h⟩
  | text t later ih => exact ih h
  | block s body c later _ ih =>
    obtain ⟨hbody, hlater⟩ := h
    exact ⟨⟨hbody, (ih hlater).1⟩, (ih hlater).2⟩

/-- A document falls apart at each of its blocks. -/
theorem exists_append_of_mem {doc : Document m} {seen gap : Text} {line : Nat} {b : Block}
    (hb : .block b ∈ doc.segments seen line gap) :
    ∃ front s body c later line', doc = append front (.block s body c later) ∧
      b = blockOf s body.print c.comment (front.print.reverse ++ seen) later.print line' := by
  induction doc generalizing seen gap line with
  | nil => simp [segments, Scan.block_mem_literal_iff] at hb
  | text t later ih =>
    obtain ⟨front, s, body, c, behind, line', rfl, rfl⟩ := ih hb
    exact ⟨.text t front, s, body, c, behind, line', rfl, by simp [print]⟩
  | block s body c later _ ih =>
    rcases List.mem_cons.1 (Scan.block_mem_literal_iff.1 hb) with heq | hlater
    · exact ⟨.nil, s, body, c, later, line, rfl, Segment.block.inj heq⟩
    · obtain ⟨front, s', body', c', behind, line', rfl, rfl⟩ := ih hlater
      exact ⟨.block s body c front, s', body', c', behind, line', rfl, by simp [print]⟩

/-- What stands before a document goes into its first gap. -/
theorem cuts_eq_glue (doc : Document m) (gap : Text) :
    doc.cuts gap = Cut.glue gap (doc.cuts []) := by
  induction doc generalizing gap with
  | nil => simp [cuts, Cut.glue]
  | text t later ih =>
    rw [cuts, cuts, ih, ih ([] ++ t), Cut.glue_glue, List.nil_append]
  | block s body c later _ _ => simp [cuts, Cut.glue]

theorem cuts_append (a b : Document m) (gap : Text) :
    (a.append b).cuts gap =
      ((a.cuts gap).1 ++ (b.cuts (a.cuts gap).2).1, (b.cuts (a.cuts gap).2).2) := by
  induction a generalizing gap with
  | nil => rfl
  | text t later ih => exact ih _
  | block s body c later _ ih => simp [append, cuts, ih]

end Document

namespace Marker

variable {m : Marker}

theorem seam_after_break (x y : Text) : m.Seam (x ++ ['\n']) y := by
  intro s hs hne c r hc
  obtain ⟨hk, heq⟩ := commentAt?_eq_some_iff.1 hc
  obtain ⟨u, b, rfl⟩ := (List.eq_nil_or_concat s).resolve_left hne
  rw [List.concat_eq_append] at hs heq ⊢
  obtain ⟨v, hv⟩ := hs
  rw [← List.append_assoc] at hv
  obtain rfl : b = '\n' := by simpa using (List.append_inj' hv rfl).2
  rw [List.append_assoc, List.singleton_append] at heq
  have hle := hk.length_le (Or.inr rfl) heq.symm
  rw [List.length_append]
  omega

end Marker

/-- Documents whose texts meet at a line feed are scanned as one. -/
theorem Document.scan_append {m : Marker} {a b : Document m} (ha : a.WellFormed)
    (hb : b.WellFormed) (hacut : m.cut a.print = a.cuts []) (hbcut : m.cut b.print = b.cuts [])
    {x : Text} (hend : a.print = x ++ ['\n']) (line : Nat) :
    m.scan line (a.print ++ b.print) = ⟨(a.append b).segments [] line [], none⟩ := by
  rw [← print_append]
  refine scan_of_cut (ha.append hb) ?_ line
  have hseam : m.Seam a.print b.print := by
    rw [hend]
    exact Marker.seam_after_break x _
  rw [print_append, Marker.cut_append hseam, cuts_append, hacut, hbcut, ← cuts_eq_glue]

end PageBlocks
