import Mathlib.Data.List.Forall2
import PageBlocks.Pattern.Basic

/-!
# Bounds on the size of a pattern

Which states are shared depends on what the table happens to remember. A bound need not follow that:
a set adds at most one state and one edge for each range of bytes that its boxes are made of
(`size_boxState_le`, `size_measurePaths_le`), and a node adds at most what its parts add, and a
fixed number of states (`AddsAtMost`).
-/

namespace PageBlocks.Pattern

open Text (Bytes)

/-- Bounds on several parts make a bound on all of them. -/
def total : List Nat → Nat
  | [] => 0
  | n :: ns => n + total ns

/-- How many ranges of bytes the boxes are made of. -/
def entries (boxes : List (List Bytes)) : Nat := total (boxes.map List.length)

theorem size_stateIn_le (slot : Nat) (edges : List Edge) (t : Tally) :
    (stateIn slot edges t).2.size ≤ t.size + (stateSize + edges.length * edgeSize) := by
  obtain ⟨states, size, forward, backward⟩ := t
  unfold stateIn
  dsimp only
  split
  · exact Nat.le_add_right _ _
  · exact Nat.le_of_eq (Nat.add_assoc _ _ _)

theorem size_stateBeforeIn_le (slot : Nat) (edge : Edge) (t : Tally) :
    (stateBeforeIn slot edge t).2.size ≤ t.size + stateSize := by
  obtain ⟨states, size, forward, backward⟩ := t
  unfold stateBeforeIn
  dsimp only
  split
  · exact Nat.le_add_right _ _
  · exact Nat.le_refl _

/-- Each box adds to one group, and a group takes one range from a box. -/
theorem entries_byFirstBytes_le (boxes : List (List Bytes)) :
    total ((byFirstBytes boxes).map fun g => entries g.2 + 1) ≤ entries boxes := by
  induction boxes with
  | nil => exact Nat.le_refl _
  | cons box boxes ih =>
    cases box with
    | nil => simpa [byFirstBytes, entries, total] using ih
    | cons b rest =>
      have hcons : byFirstBytes ((b :: rest) :: boxes) =
          match byFirstBytes boxes with
          | [] => [(b, [rest])]
          | (b', rests) :: groups =>
            if b = b' then (b', rest :: rests) :: groups
            else (b, [rest]) :: (b', rests) :: groups := by
        rw [byFirstBytes, List.foldr_cons, ← byFirstBytes]
        cases byFirstBytes boxes <;> rfl
      rw [hcons]
      cases hgroups : byFirstBytes boxes with
      | nil =>
        simp only [List.map_cons, List.map_nil, entries, total, List.length_cons]
        omega
      | cons g groups =>
        rw [hgroups] at ih
        dsimp only
        split <;>
          simp only [List.map_cons, List.map_nil, total, entries, List.length_cons] at ih ⊢ <;>
          omega

theorem size_edgesOf_le {inner : List (List Bytes) → Tally → Nat × Tally}
    (h : ∀ boxes t, (inner boxes t).2.size ≤ t.size + (stateSize + edgeSize) * entries boxes)
    (groups : List (Bytes × List (List Bytes))) (t : Tally) :
    (edgesOf inner groups t).1.length = groups.length ∧ (edgesOf inner groups t).2.size +
      (stateSize + edgeSize) * groups.length ≤
      t.size + (stateSize + edgeSize) * total (groups.map fun g => entries g.2 + 1) := by
  induction groups generalizing t with
  | nil => exact ⟨rfl, Nat.le_refl _⟩
  | cons g groups ih =>
    obtain ⟨hlength, hsize⟩ := ih (inner g.2 t).2
    have hinner := h g.2 t
    refine ⟨congrArg (· + 1) hlength, ?_⟩
    simp only [edgesOf, List.map_cons, total, List.length_cons, Nat.mul_add] at hsize ⊢
    omega

theorem size_boxState_le (target depth : Nat) (boxes : List (List Bytes)) (t : Tally) :
    (boxState target depth boxes t).2.size ≤ t.size + (stateSize + edgeSize) * entries boxes := by
  induction depth generalizing boxes t with
  | zero => exact Nat.le_add_right _ _
  | succ depth ih =>
    have hgroups := entries_byFirstBytes_le boxes
    rw [boxState]
    split
    · exact Nat.le_add_right _ _
    · rename_i hne
      obtain ⟨hlength, hsize⟩ := size_edgesOf_le ih (byFirstBytes boxes) t
      have hpos : 0 < (byFirstBytes boxes).length := List.length_pos_iff.2 hne
      have hstate := size_stateIn_le
        (forwardSlot (edgesOf (boxState target depth) (byFirstBytes boxes) t).1)
        (edgesOf (boxState target depth) (byFirstBytes boxes) t).1
        (edgesOf (boxState target depth) (byFirstBytes boxes) t).2
      rw [hlength] at hstate
      simp only [stateSize, edgeSize] at hsize hstate ⊢
      exact Nat.le_trans hstate (by omega)

theorem size_stateBefore_le (edge : Edge) (t : Tally) :
    (stateBefore edge t).2.size ≤ t.size + stateSize := by
  unfold stateBefore
  exact size_stateBeforeIn_le _ edge t

theorem size_pathState_le (box : List Bytes) (target : Nat) (t : Tally) :
    (pathState box target t).2.size ≤ t.size + stateSize * box.length := by
  induction box generalizing target t with
  | nil => exact Nat.le_refl _
  | cons b box ih =>
    have hstate := size_stateBefore_le (b, target) t
    have hrest := ih (stateBefore (b, target) t).1 (stateBefore (b, target) t).2
    unfold pathState
    rw [List.length_cons, Nat.mul_succ]
    dsimp only
    omega

theorem size_measurePaths_le (target : Nat) (boxes : List (List Bytes)) (t : Tally) :
    (measurePaths target boxes t).size ≤
      t.size + (stateSize * entries boxes + linkSize * boxes.length) := by
  induction boxes generalizing t with
  | nil => exact Nat.le_refl _
  | cons box boxes ih =>
    have hpath := size_pathState_le box target t
    have hrest := ih ((pathState box target t).2.grow linkSize)
    rw [measurePaths]
    simp only [Tally.grow, entries, List.map_cons, total, List.length_cons, Nat.mul_add] at hrest ⊢
    omega

/-- What measuring a set adds at most, whichever way it is read. -/
def setBound (s : CharSet) : Nat :=
  2 * stateSize + edgeSize * s.ranges.size + (stateSize + edgeSize) * entries s.boxes +
    linkSize * s.boxes.length

theorem size_measureSet_le (d : Direction) (s : CharSet) (t : Tally) :
    (measureSet d s s.boxes t).size ≤ t.size + setBound s := by
  rw [measureSet, setBound]
  split
  · simp only [Tally.addEdges, Tally.add, Tally.grow, Nat.mul_comm]
    omega
  · cases d with
    | forward =>
      have hboxes := size_boxState_le t.states 4 s.boxes (t.add 1)
      simp only [Tally.add] at hboxes ⊢
      omega
    | backward =>
      have hboxes := size_measurePaths_le (t.states + 1) s.boxes (t.add 2)
      simp only [Tally.add, Nat.add_mul] at hboxes ⊢
      omega

theorem openLinks_le (d : Direction) (ns : List Node) : openLinks d ns ≤ ns.length * linkSize :=
  Nat.mul_le_mul_right _ List.countP_le_length

/-- Measuring the node adds `bound` bytes at most, whichever way it is read. -/
def AddsAtMost (n : Node) (bound : Nat) : Prop :=
  ∀ (d : Direction) (t : Tally), (Pattern.measure d n t).size ≤ t.size + bound

namespace AddsAtMost

theorem mono {n : Node} {bound bound' : Nat} (h : AddsAtMost n bound) (hle : bound ≤ bound') :
    AddsAtMost n bound' :=
  fun d t => Nat.le_trans (h d t) (Nat.add_le_add_left hle _)

theorem literal (text : Text) : AddsAtMost (.literal text) (Text.utf8Length text * stateSize) := by
  intro d t
  simp only [Pattern.measure, Tally.add]
  exact Nat.le_refl _

theorem chars (s : CharSet) : AddsAtMost (.chars s) (setBound s) := by
  intro d t
  simp only [Pattern.measure]
  exact size_measureSet_le d s t

theorem capture {n : Node} {bound : Nat} (h : AddsAtMost n bound) (index : Nat) :
    AddsAtMost (.capture index n) (bound + (2 * stateSize + linkSize)) := by
  intro d t
  have hlinks := openLinks_le d [n]
  cases d with
  | forward =>
    have hbody := h .forward (t.add 1)
    simp only [Pattern.measure, Tally.add, Tally.grow, List.length_singleton] at *
    omega
  | backward =>
    have hbody := h .backward t
    simp only [Pattern.measure]
    omega

/-- A body may be left out or follow itself. -/
theorem many {n : Node} {bound : Nat} (h : AddsAtMost n bound) :
    AddsAtMost (.many 0 none true n) (bound + (3 * stateSize + 5 * linkSize)) := by
  intro d t
  have hlinks := openLinks_le d [n]
  have hopen := h d (t.add 1)
  have hbody := h d t
  simp only [Pattern.measure]
  split <;> simp only [Tally.add, Tally.grow, List.length_singleton] at * <;> omega

theorem size_measureSeq_le {ns : List Node} {bounds : List Nat}
    (h : List.Forall₂ AddsAtMost ns bounds) (d : Direction) (t : Tally) :
    (measureSeq d ns t).size ≤ t.size + total bounds := by
  induction h generalizing t with
  | nil => simp [measureSeq]
  | @cons n bound ns bounds hn _ ih =>
    simp only [measureSeq, total]
    cases d with
    | forward =>
      have hfirst := hn .forward t
      have hrest := ih (Pattern.measure .forward n t)
      dsimp only
      omega
    | backward =>
      have hfirst := hn .backward (measureSeq .backward ns t)
      have hrest := ih t
      dsimp only
      omega

/-- A sequence adds what its parts add, and the links between them. -/
theorem seq {ns : List Node} {bounds : List Nat} (h : List.Forall₂ AddsAtMost ns bounds) :
    AddsAtMost (.seq ns) (total bounds + ns.length * linkSize) := by
  intro d t
  have hparts := size_measureSeq_le h d t
  have hlinks : ∀ ms : List Node, ms.length ≤ ns.length →
      openLinks d ms ≤ ns.length * linkSize := fun ms hms =>
    Nat.le_trans (openLinks_le d ms) (Nat.mul_le_mul_right _ hms)
  simp only [Pattern.measure, Tally.grow]
  cases d with
  | forward =>
    have := hlinks ns.dropLast (by simp)
    dsimp only
    omega
  | backward =>
    have := hlinks (ns.drop 1) (by simp)
    dsimp only
    omega

/-- Only the second alternative adds states besides its own. -/
theorem size_measureChoice_le {ns : List Node} {bounds : List Nat}
    (h : List.Forall₂ AddsAtMost ns bounds) (d : Direction) (done : Nat) (t : Tally) :
    (measureChoice d done ns t).size ≤
      t.size + (total bounds + if done ≤ 1 then 2 * stateSize else 0) := by
  induction h generalizing done t with
  | nil => simp [measureChoice]
  | @cons n bound ns bounds hn _ ih =>
    have hfirst := hn d t
    have hrest := ih (done + 1)
      (if done = 1 then (Pattern.measure d n t).add 2 else Pattern.measure d n t)
    simp only [measureChoice, total]
    by_cases hdone : done = 1
    · simp only [hdone, Tally.add, Nat.reduceLeDiff, Nat.reduceAdd, Nat.le_refl, if_true,
        if_false] at hrest ⊢
      omega
    · simp only [if_neg hdone] at hrest ⊢
      split at hrest <;> split <;> omega

/-- A choice adds what its alternatives add, and the states where they part and meet. -/
theorem choice {ns : List Node} {bounds : List Nat} (hliterals : ns.mapM literal? = none)
    (h : List.Forall₂ AddsAtMost ns bounds) : AddsAtMost (.choice ns)
      (total bounds + (2 * stateSize + 2 * ns.length * linkSize)) := by
  intro d t
  have hparts := size_measureChoice_le h d 0 t
  have hlinks := openLinks_le d ns
  have htwice : 2 * ns.length * linkSize = ns.length * linkSize + ns.length * linkSize := by
    rw [Nat.mul_assoc, Nat.two_mul]
  simp only [Pattern.measure, hliterals, Tally.grow]
  simp only [Nat.zero_le, if_true] at hparts
  omega

/-- The automaton of a pattern is the measured node, a start and an end. -/
theorem sizeOf_le {n : Node} {bound : Nat} (h : AddsAtMost n bound) (d : Direction) :
    sizeOf d n ≤ bound + (6 * stateSize + edgeSize + 3 * linkSize) := by
  have hlinks := openLinks_le d [n]
  have hstart : (if !isAnchored d n then ((({} : Tally).add 2).addEdges 1).grow (2 * linkSize)
      else ({} : Tally).add 1).size ≤ 3 * stateSize + edgeSize + 2 * linkSize := by
    split <;> simp only [Tally.add, Tally.addEdges, Tally.grow] <;> omega
  unfold sizeOf
  dsimp only
  generalize (if !isAnchored d n then ((({} : Tally).add 2).addEdges 1).grow (2 * linkSize)
      else ({} : Tally).add 1) = start at hstart
  cases d with
  | forward =>
    have hbody := h .forward (start.add 1)
    simp only [Tally.add, Tally.grow, List.length_singleton] at *
    omega
  | backward =>
    have hbody := h .backward start
    simp only [Tally.add, Tally.grow, List.length_singleton] at *
    omega

end AddsAtMost

end PageBlocks.Pattern
