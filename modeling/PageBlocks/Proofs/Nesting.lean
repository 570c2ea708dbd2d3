import Mathlib.Data.List.Basic
import PageBlocks.Block.Scan

/-!
# How blocks nest

Opening and closing directives are brackets. `Token.depthAfter?` counts them with no regard to
stacks; a run of marks is balanced when the count starts and ends at 0 and is never in want of an
opening directive. Two facts carry all that is proved about scans.

* Behind an opening directive, a stack of `n` more, a balanced inside and a closing directive, the
  search ahead stops at `n` and at nothing else (`stackSize_of_block`), as long as what follows
  closes no more than it opens.
* A block that was found has a balanced inside (`toClosing_balanced`): a stack inside would have
  needed one closing directive more than there are.
-/

namespace PageBlocks

/-- The number of open blocks behind these comments, when `depth` were open before. There is none
when a comment cannot be read or closes a block that is not open. -/
def Token.depthAfter? (depth : Nat) : List (Except Fault Token) → Option Nat
  | [] => some depth
  | .error _ :: _ => none
  | .ok (.opens _) :: later => depthAfter? (depth + 1) later
  | .ok .closes :: later =>
    match depth with
    | 0 => none
    | depth + 1 => depthAfter? depth later

namespace Token

theorem depthAfter?_append (depth : Nat) (xs ys : List (Except Fault Token)) :
    depthAfter? depth (xs ++ ys) = (depthAfter? depth xs).bind (depthAfter? · ys) := by
  induction xs generalizing depth with
  | nil => rfl
  | cons x xs ih =>
    rcases x with _ | _ | _
    · rfl
    · exact ih (depth + 1)
    · cases depth with
      | zero => rfl
      | succ depth => exact ih depth

/-- Blocks that are open around do not change what is opened and closed. -/
theorem depthAfter?_add {a b : Nat} {xs : List (Except Fault Token)} (h : depthAfter? a xs = some b)
    (e : Nat) : depthAfter? (a + e) xs = some (b + e) := by
  induction xs generalizing a with
  | nil =>
    obtain rfl : a = b := by simpa [depthAfter?] using h
    rfl
  | cons x xs ih =>
    rcases x with _ | _ | _
    · simp [depthAfter?] at h
    · have := ih h
      rwa [Nat.add_right_comm] at this
    · cases a with
      | zero => simp [depthAfter?] at h
      | succ a =>
        rw [Nat.add_right_comm]
        exact ih h

/-- Where one block more is closed than opened, there is a directive that closes it. -/
theorem exists_closing {a : Nat} {ts : List (Except Fault Token)}
    (h : depthAfter? (a + 1) ts = some 0) :
    ∃ xs ys, ts = xs ++ .ok .closes :: ys ∧ depthAfter? a xs = some 0 ∧
      depthAfter? 0 ys = some 0 := by
  induction ts generalizing a with
  | nil => simp [depthAfter?] at h
  | cons t ts ih =>
    rcases t with _ | _ | _
    · simp [depthAfter?] at h
    · rename_i d
      obtain ⟨xs, ys, rfl, hxs, hys⟩ := ih h
      exact ⟨.ok (.opens d) :: xs, ys, rfl, hxs, hys⟩
    · cases a with
      | zero => exact ⟨[], ts, rfl, rfl, h⟩
      | succ a =>
        obtain ⟨xs, ys, rfl, hxs, hys⟩ := ih h
        exact ⟨.ok .closes :: xs, ys, rfl, hxs, hys⟩

end Token

namespace Mark

open Token (depthAfter?)

theorem lowestDepth_le (depth : Nat) (ms : List Mark) : lowestDepth depth ms ≤ depth := by
  cases ms with
  | nil => exact Nat.le_refl _
  | cons k later =>
    rw [lowestDepth]
    split
    · exact Nat.le_refl _
    · omega
    · split <;> omega

theorem lowestDepth_closes {k : Mark} (hk : k.token = .ok .closes) (depth : Nat)
    (later : List Mark) : lowestDepth (depth + 1) (k :: later) = lowestDepth depth later := by
  have := lowestDepth_le depth later
  rw [lowestDepth, hk]
  simp only [Nat.add_sub_cancel]
  split <;> omega

theorem lowestDepth_opens {k : Mark} {d : Directive} (hk : k.token = .ok (.opens d)) (depth : Nat)
    (later : List Mark) :
    lowestDepth depth (k :: later) = min depth (lowestDepth (depth + 1) later) := by
  rw [lowestDepth, hk]

/-- Opening directives in a row raise the depth one by one. -/
theorem lowestDepth_run {run : List Mark} (h : ∀ k ∈ run, ∃ d, k.token = .ok (.opens d))
    (depth : Nat) (later : List Mark) :
    lowestDepth depth (run ++ later) = min depth (lowestDepth (depth + run.length) later) := by
  induction run generalizing depth with
  | nil =>
    have := lowestDepth_le depth later
    simp only [List.nil_append, List.length_nil, Nat.add_zero]
    omega
  | cons k run ih =>
    obtain ⟨d, hd⟩ := h k (by simp)
    rw [List.cons_append, lowestDepth_opens hd, ih (fun x hx => h x (by simp [hx])),
      List.length_cons, Nat.add_right_comm, Nat.add_assoc depth]
    omega

/-- Marks that leave `d` blocks around them alone hide nothing at depth `d` or below. -/
theorem lowestDepth_append {a b : Nat} {ms : List Mark}
    (h : depthAfter? a (ms.map token) = some b) (d : Nat) (later : List Mark) :
    min d (lowestDepth (d + a) (ms ++ later)) = min d (lowestDepth (d + b) later) := by
  induction ms generalizing a with
  | nil =>
    obtain rfl : a = b := by simpa [depthAfter?] using h
    rfl
  | cons k ms ih =>
    rw [List.map_cons] at h
    cases hk : k.token with
    | error fault => simp [hk, depthAfter?] at h
    | ok t =>
      rw [hk] at h
      cases t with
      | opens dir =>
        rw [List.cons_append, lowestDepth_opens hk, ← ih h, ← Nat.add_assoc]
        omega
      | closes =>
        cases a with
        | zero => simp [depthAfter?] at h
        | succ a => rw [List.cons_append, ← Nat.add_assoc, lowestDepth_closes hk, ih h]

theorem lowestDepth_balanced {ms : List Mark} (h : depthAfter? 0 (ms.map token) = some 0)
    (d : Nat) (later : List Mark) : lowestDepth d (ms ++ later) = lowestDepth d later := by
  have := lowestDepth_append h d later
  have := lowestDepth_le d (ms ++ later)
  have := lowestDepth_le d later
  simp only [Nat.add_zero] at *
  omega

/-- When all that is open here gets closed, the search ahead reaches 0. -/
theorem lowestDepth_closing {a : Nat} {ms : List Mark} {c : Mark}
    (h : depthAfter? a (ms.map token) = some 0) (hc : c.token = .ok .closes) (later : List Mark) :
    lowestDepth (a + 1) (ms ++ c :: later) = 0 := by
  have hmin := lowestDepth_append h 1 (c :: later)
  have hclosed : lowestDepth 1 (c :: later) = lowestDepth 0 later := lowestDepth_closes hc 0 later
  have hzero := lowestDepth_le 0 later
  rw [Nat.add_zero, hclosed, Nat.add_comm 1 a] at hmin
  omega

theorem lowestDepth_mono {a b : Nat} (h : a ≤ b) (ms : List Mark) :
    lowestDepth a ms ≤ lowestDepth b ms := by
  induction ms generalizing a b with
  | nil => exact h
  | cons k ms ih =>
    simp only [lowestDepth]
    split
    · exact h
    · have := ih (Nat.add_le_add_right h 1)
      omega
    · have := ih (Nat.sub_le_sub_right h 1)
      split
      · exact Nat.zero_le _
      · rw [if_neg (by omega)]
        omega

/-- Blocks that are open around raise the lowest depth by no more than their number. -/
theorem lowestDepth_add_le (a e : Nat) (ms : List Mark) :
    lowestDepth (a + e) ms ≤ lowestDepth a ms + e := by
  induction ms generalizing a with
  | nil => exact Nat.le_refl _
  | cons k ms ih =>
    simp only [lowestDepth]
    split
    · exact Nat.le_refl _
    · have := ih (a + 1)
      rw [Nat.add_right_comm] at this
      omega
    · by_cases ha : a ≤ 1
      · have := lowestDepth_le (a + e - 1) ms
        rw [if_pos ha]
        split <;> omega
      · have := ih (a - 1)
        rw [show a - 1 + e = a + e - 1 by omega] at this
        rw [if_neg ha, if_neg (by omega)]
        omega

/-! ### Stack or nest -/

theorem opens_of_joins {type : Text} {k : Mark} (h : joins type k) :
    ∃ d, k.token = .ok (.opens d) ∧ d.type = type := by
  simp only [joins, directive?, Bool.and_eq_true, beq_iff_eq] at h
  cases hk : k.token with
  | error fault => simp [hk] at h
  | ok t =>
    cases t with
    | opens d => exact ⟨d, rfl, by simpa [hk] using h.2⟩
    | closes => simp [hk] at h

theorem opens_of_mem_run (type : Text) (later : List Mark) :
    ∀ k ∈ later.takeWhile (joins type), ∃ d, k.token = .ok (.opens d) := by
  intro k hk
  obtain ⟨d, hd, -⟩ := opens_of_joins (List.all_eq_true.1 List.all_takeWhile k hk)
  exact ⟨d, hd⟩

theorem drop_run (type : Text) (later : List Mark) :
    later.drop (later.takeWhile (joins type)).length = later.dropWhile (joins type) := by
  have h : (later.takeWhile (joins type) ++ later.dropWhile (joins type)).drop
      (later.takeWhile (joins type)).length = later.dropWhile (joins type) := List.drop_left
  rwa [List.takeWhile_append_dropWhile] at h

theorem stackSize_eq_min (type : Text) (later : List Mark) :
    stackSize type later =
      min (lowestDepth ((later.takeWhile (joins type)).length + 1) (later.dropWhile (joins type)))
        (later.takeWhile (joins type)).length := by
  simp only [stackSize, drop_run]
  split <;> omega

theorem stackSize_le_run (type : Text) (later : List Mark) :
    stackSize type later ≤ (later.takeWhile (joins type)).length := by
  rw [stackSize_eq_min]
  exact Nat.min_le_right _ _

/-- All marks that are stacked on an opening directive join it. -/
theorem joins_of_mem_stack {type : Text} {later : List Mark} :
    ∀ k ∈ later.take (stackSize type later), joins type k := by
  intro k hk
  have hpre : later.take (stackSize type later) <+: later.takeWhile (joins type) := by
    refine List.prefix_of_prefix_length_le (List.take_prefix _ _) (List.takeWhile_prefix _) ?_
    exact Nat.le_trans (List.length_take_le _ _) (stackSize_le_run type later)
  exact List.all_eq_true.1 List.all_takeWhile k (hpre.subset hk)

/-- A block that is closed further on has nothing stacked on it. -/
theorem stackSize_eq_zero {type : Text} {later : List Mark} (h : lowestDepth 1 later = 0) :
    stackSize type later = 0 := by
  have hrun := lowestDepth_run (opens_of_mem_run type later) 1
    (later.dropWhile (joins type))
  rw [List.takeWhile_append_dropWhile, h] at hrun
  rw [stackSize_eq_min, Nat.add_comm _ 1]
  omega

/-- Directives of other types are not stacked. -/
theorem stackSize_of_forall_not_joins {type : Text} {later : List Mark}
    (h : ∀ k ∈ later, ¬ joins type k) : stackSize type later = 0 := by
  have hle := stackSize_le_run type later
  cases later with
  | nil => exact Nat.le_zero.1 hle
  | cons k later =>
    rw [List.takeWhile_cons_of_neg (h k List.mem_cons_self)] at hle
    exact Nat.le_zero.1 hle

/-- The search ahead tells a stack from the blocks inside, whatever follows, if only it closes no
more blocks than it opens. -/
theorem stackSize_of_block {type : Text} {stack inside behind : List Mark} {c : Mark}
    (hstack : ∀ k ∈ stack, joins type k) (hinside : depthAfter? 0 (inside.map token) = some 0)
    (hc : c.token = .ok .closes) (hbehind : lowestDepth stack.length behind = stack.length) :
    stackSize type (stack ++ (inside ++ c :: behind)) = stack.length := by
  -- Openings of the body may join the run; they are closed again before `c`.
  have hrun := lowestDepth_run (opens_of_mem_run type (inside ++ c :: behind))
    (stack.length + 1) ((inside ++ c :: behind).dropWhile (joins type))
  rw [List.takeWhile_append_dropWhile, lowestDepth_balanced hinside, lowestDepth_closes hc,
    hbehind] at hrun
  rw [stackSize_eq_min, List.takeWhile_append_of_pos hstack, List.dropWhile_append_of_pos hstack,
    List.length_append, Nat.add_right_comm]
  omega

/-! ### The inside of a block -/

theorem toClosing_of_balanced {a : Nat} {inside : List Mark} {c : Mark}
    (h : depthAfter? a (inside.map token) = some 0) (hc : c.token = .ok .closes)
    (behind : List Mark) : toClosing a (inside ++ c :: behind) = .ok ⟨inside, c, behind⟩ := by
  induction inside generalizing a with
  | nil =>
    obtain rfl : a = 0 := by simpa [depthAfter?] using h
    rw [List.nil_append, toClosing, hc]
  | cons k inside ih =>
    rw [List.map_cons] at h
    cases hk : k.token with
    | error fault => simp [hk, depthAfter?] at h
    | ok t =>
      rw [hk] at h
      cases t with
      | opens d =>
        have hlow : lowestDepth 1 (inside ++ c :: behind) = 0 := by
          have := lowestDepth_mono (Nat.le_add_left 1 (a + 1)) (inside ++ c :: behind)
          rw [lowestDepth_closing h hc] at this
          omega
        rw [List.cons_append, toClosing.eq_def]
        simp only [hk, stackSize_eq_zero hlow, List.drop_zero, ih h, List.take_zero]
        rfl
      | closes =>
        cases a with
        | zero => simp [depthAfter?] at h
        | succ a =>
          rw [List.cons_append, toClosing, hk]
          simp only [ih h]

/-- A stack is never met on the way to a closing mark that is found: its directives count as one
block, so one more closing directive would be left over for the search ahead to count. -/
theorem stackSize_eq_zero_of_closing {type : Text} {later inside behind : List Mark} {c : Mark}
    {a : Nat} (hlater : later.drop (stackSize type later) = inside ++ c :: behind)
    (hinside : depthAfter? (a + 1) (inside.map token) = some 0) (hc : c.token = .ok .closes) :
    stackSize type later = 0 := by
  have hmin := stackSize_eq_min type later
  have hle := stackSize_le_run type later
  generalize hn : stackSize type later = n at *
  generalize hr : later.takeWhile (joins type) = run at *
  generalize hb : later.dropWhile (joins type) = rest at *
  have hsplit : later.drop n = run.drop n ++ rest := by
    rw [← List.takeWhile_append_dropWhile (p := joins type) (l := later), hr, hb,
      List.drop_append_of_le_length hle]
  have hopens : ∀ k ∈ run.drop n, ∃ d, k.token = .ok (.opens d) := by
    intro k hk
    refine opens_of_mem_run type later k ?_
    rw [hr]
    exact List.mem_of_mem_drop hk
  have hzero : lowestDepth (a + 2) (run.drop n ++ rest) = 0 := by
    rw [← hsplit, hlater]
    exact lowestDepth_closing hinside hc behind
  rw [lowestDepth_run hopens, List.length_drop] at hzero
  by_contra hpos
  by_cases hcase : n ≤ a + 1
  · have := lowestDepth_mono (show run.length + 1 ≤ a + 2 + (run.length - n) by omega) rest
    omega
  · have := lowestDepth_add_le (a + 2 + (run.length - n)) (n - (a + 1)) rest
    rw [show a + 2 + (run.length - n) + (n - (a + 1)) = run.length + 1 by omega] at this
    omega

/-- The inside of a block that was found is balanced. -/
theorem toClosing_balanced {a : Nat} {ms : List Mark} {c : Closed} (h : toClosing a ms = .ok c) :
    depthAfter? a (c.inside.map token) = some 0 ∧ c.closing.token = .ok .closes := by
  fun_induction toClosing a ms generalizing c with
  | case1 => simp at h
  | case2 => simp at h
  | case3 k later hk =>
    obtain rfl : (⟨[], k, later⟩ : Closed) = c := by simpa using h
    exact ⟨rfl, hk⟩
  | case4 => simp at h
  | case5 k later hk a c' hc' ih =>
    obtain rfl : ({ c' with inside := k :: c'.inside } : Closed) = c := by simpa using h
    refine ⟨?_, (ih hc').2⟩
    rw [List.map_cons, hk]
    exact (ih hc').1
  | case6 => simp at h
  | case7 =>
    rename_i k later d hk n c' hc' ih
    obtain rfl : ({ c' with inside := k :: later.take n ++ c'.inside } : Closed) = c := by
      simpa using h
    obtain ⟨hinside, hclosing⟩ := ih hc'
    have hzero : n = 0 := stackSize_eq_zero_of_closing (eq_of_toClosing hc') hinside hclosing
    refine ⟨?_, hclosing⟩
    rw [hzero, List.take_zero, List.singleton_append, List.map_cons, hk]
    exact hinside

end Mark

/-- In a run of marks that closes one block more than it opens, there is a mark that closes it. -/
theorem Mark.exists_closing {a : Nat} {ms : List Mark}
    (h : Token.depthAfter? (a + 1) (ms.map Mark.token) = some 0) :
    ∃ inside c behind, ms = inside ++ c :: behind ∧
      Token.depthAfter? a (inside.map Mark.token) = some 0 ∧ c.token = .ok .closes ∧
        Token.depthAfter? 0 (behind.map Mark.token) = some 0 := by
  obtain ⟨xs, ys, htokens, hxs, hys⟩ := Token.exists_closing h
  obtain ⟨inside, rest, rfl, rfl, hrest⟩ := List.map_eq_append_iff.1 htokens
  obtain ⟨c, behind, rfl, hc, rfl⟩ := List.map_eq_cons_iff.1 hrest
  exact ⟨inside, c, behind, rfl, hxs, hc, hys⟩

/-! ### Whole scans -/

namespace Scan

open Mark
open Token (depthAfter?)

theorem ofMarks_of_closed {k : Mark} {d : Directive} {later : List Mark} {c : Closed}
    (hk : k.token = .ok (.opens d))
    (hc : toClosing 0 (later.drop (stackSize d.type later)) = .ok c) (tail : Text) :
    ofMarks (k :: later) tail =
      { segments := literal k.gap
          (.block (.ofMarks k d (later.take (stackSize d.type later)) c.inside c.closing) ::
            (ofMarks c.behind tail).segments)
        error? := (ofMarks c.behind tail).error? } := by
  rw [ofMarks.eq_def]
  simp only [hk]
  split
  · rename_i h
    rw [hc] at h
    cases h
  · rename_i h
    rw [hc] at h
    cases h
  · rename_i c' h
    rw [hc] at h
    cases h
    rfl

theorem ofMarks_of_ended {k : Mark} {d : Directive} {later : List Mark}
    (hk : k.token = .ok (.opens d))
    (hc : toClosing 0 (later.drop (stackSize d.type later)) = .error .ended) (tail : Text) :
    ofMarks (k :: later) tail = stopped (.unterminated k.line d.type) := by
  rw [ofMarks.eq_def]
  simp only [hk]
  split
  · rename_i h
    rw [hc] at h
    cases h
  · rfl
  · rename_i c' h
    rw [hc] at h
    cases h

/-- A block in front is scanned as it was put together. -/
theorem ofMarks_block {k c : Mark} {d : Directive} {stack inside behind : List Mark}
    (hk : k.token = .ok (.opens d)) (hstack : ∀ s ∈ stack, joins d.type s)
    (hinside : depthAfter? 0 (inside.map token) = some 0) (hc : c.token = .ok .closes)
    (hbehind : lowestDepth stack.length behind = stack.length) (tail : Text) :
    ofMarks (k :: (stack ++ (inside ++ c :: behind))) tail =
      { segments := literal k.gap
          (.block (.ofMarks k d stack inside c) :: (ofMarks behind tail).segments)
        error? := (ofMarks behind tail).error? } := by
  have hsize := stackSize_of_block hstack hinside hc hbehind
  have hclosed : toClosing 0 ((stack ++ (inside ++ c :: behind)).drop
      (stackSize d.type (stack ++ (inside ++ c :: behind)))) = .ok ⟨inside, c, behind⟩ := by
    rw [hsize, List.drop_left]
    exact toClosing_of_balanced hinside hc behind
  rw [ofMarks_of_closed hk hclosed, hsize, List.take_left]

theorem mem_literal {s : Segment} {t : Text} {later : List Segment} (h : s ∈ literal t later) :
    s = .literal t ∨ s ∈ later := by
  unfold literal at h
  split at h
  · exact Or.inr h
  · exact List.mem_cons.1 h

theorem block_mem_literal_iff {b : Block} {t : Text} {later : List Segment} :
    .block b ∈ literal t later ↔ .block b ∈ later := by
  unfold literal
  split <;> simp

/-- The block is put together from marks of `ms`, in the way that a scan does it. -/
inductive Holds (ms : List Mark) : Block → Prop where
  | intro {before stack inside behind : List Mark} {k c : Mark} {d : Directive}
      (marks_eq : ms = before ++ k :: (stack ++ (inside ++ c :: behind)))
      (opens : k.token = .ok (.opens d)) (joined : ∀ s ∈ stack, joins d.type s)
      (balanced : depthAfter? 0 (inside.map token) = some 0) (closes : c.token = .ok .closes) :
      Holds ms (.ofMarks k d stack inside c)

theorem Holds.append {ms : List Mark} {b : Block} (h : Holds ms b) (front : List Mark) :
    Holds (front ++ ms) b := by
  cases h with
  | intro marks_eq opens joined balanced closes =>
    exact .intro (by rw [marks_eq, List.append_assoc]) opens joined balanced closes

/-- What a scan yields is blocks of its marks, also when it stops at a fault later on. -/
theorem holds_of_mem {ms : List Mark} {tail : Text} {b : Block}
    (h : .block b ∈ (ofMarks ms tail).segments) : Holds ms b := by
  fun_induction ofMarks ms tail with
  | case1 =>
    rcases mem_literal h with h | h
    · cases h
    · simp at h
  | case2 => simp [stopped] at h
  | case3 => simp [stopped] at h
  | case4 => simp [stopped] at h
  | case5 => simp [stopped] at h
  | case6 =>
    rename_i k later d hk n c hc block scan ih
    have hlater : later = later.take n ++ (c.inside ++ c.closing :: c.behind) := by
      rw [← eq_of_toClosing hc, List.take_append_drop]
    rcases mem_literal h with h | h
    · cases h
    · rcases List.mem_cons.1 h with h | h
      · obtain rfl : b = block := by simpa using h
        have hms : k :: later = [] ++ k :: (later.take n ++ (c.inside ++ c.closing :: c.behind)) :=
          congrArg (k :: ·) hlater
        have hbalanced := toClosing_balanced hc
        exact .intro hms hk joins_of_mem_stack hbalanced.1 hbalanced.2
      · have := (ih h).append (k :: (later.take n ++ (c.inside ++ [c.closing])))
        rw [hlater]
        simpa using this

/-- A balanced text is scanned without error, into blocks with one directive each. -/
theorem ofMarks_balanced {ms : List Mark} (h : depthAfter? 0 (ms.map token) = some 0)
    (tail : Text) :
    (ofMarks ms tail).error? = none ∧
      ∀ b, .block b ∈ (ofMarks ms tail).segments → b.stacked = [] := by
  match ms with
  | [] =>
    rw [ofMarks]
    refine ⟨rfl, fun b hb => ?_⟩
    rcases mem_literal hb with hb | hb
    · cases hb
    · simp at hb
  | k :: later =>
    cases hk : k.token with
    | error fault => simp [hk, depthAfter?] at h
    | ok t =>
      cases t with
      | closes => simp [hk, depthAfter?] at h
      | opens d =>
        rw [List.map_cons, hk] at h
        obtain ⟨inside, c, behind, rfl, hinside, hc, hbehind⟩ := exists_closing h
        have hnone : ∀ s ∈ ([] : List Mark), joins d.type s := by simp
        have hlow : lowestDepth 0 behind = 0 := Nat.le_zero.1 (lowestDepth_le 0 behind)
        have hscan := ofMarks_block hk hnone hinside hc hlow tail
        rw [List.nil_append] at hscan
        obtain ⟨herror, hsingle⟩ := ofMarks_balanced hbehind tail
        rw [hscan]
        refine ⟨herror, fun b hb => ?_⟩
        rcases mem_literal hb with hb | hb
        · cases hb
        · rcases List.mem_cons.1 hb with hb | hb
          · cases hb
            rfl
          · exact hsingle b hb
termination_by ms.length

/-- The opening directives of all blocks that are stacked behind the first ones. -/
def stacked (s : Scan) : List Directive :=
  s.segments.flatMap fun
    | .literal _ => []
    | .block b => b.stacked

theorem stacked_literal (t : Text) (later : List Segment) (e : Option ScanError) :
    stacked ⟨literal t later, e⟩ = stacked ⟨later, e⟩ := by
  unfold literal
  split <;> simp [stacked]

theorem stacked_eq_nil_iff {s : Scan} :
    s.stacked = [] ↔ ∀ b, .block b ∈ s.segments → b.directives.length = 1 := by
  rw [stacked, List.flatMap_eq_nil_iff]
  constructor
  · intro h b hb
    have := h _ hb
    simpa [Block.directives] using this
  · intro h x hx
    cases x with
    | literal t => rfl
    | block b => simpa [Block.directives] using h b hx

theorem length_stacked {k c : Mark} {d : Directive} {stack inside : List Mark}
    (h : ∀ s ∈ stack, joins d.type s) :
    (Block.ofMarks k d stack inside c).stacked.length = stack.length := by
  have hall : ∀ s ∈ stack, (directive? s).isSome := by
    intro s hs
    obtain ⟨d', hd', -⟩ := opens_of_joins (h s hs)
    simp [directive?, hd']
  simp only [Block.ofMarks, List.length_map]
  rw [List.length_filterMap_eq_countP, List.countP_eq_length.2 hall]

theorem depthAfter?_run {run : List Mark} (h : ∀ k ∈ run, ∃ d, k.token = .ok (.opens d))
    (a : Nat) : depthAfter? a (run.map token) = some (a + run.length) := by
  induction run generalizing a with
  | nil => rfl
  | cons k run ih =>
    obtain ⟨d, hd⟩ := h k (by simp)
    rw [List.map_cons, hd, depthAfter?, ih (fun x hx => h x (by simp [hx])), List.length_cons,
      Nat.add_right_comm, Nat.add_assoc]

/-- A block leaves as many open directives behind as are stacked on its first one. -/
theorem depthAfter?_block {k c : Mark} {d : Directive} {stack inside behind : List Mark}
    (hk : k.token = .ok (.opens d)) (hstack : ∀ s ∈ stack, joins d.type s)
    (hinside : depthAfter? 0 (inside.map token) = some 0) (hc : c.token = .ok .closes) :
    depthAfter? 0 ((k :: (stack ++ (inside ++ c :: behind))).map token) =
      depthAfter? stack.length (behind.map token) := by
  have hopens : ∀ s ∈ stack, ∃ d, s.token = .ok (.opens d) := by
    intro s hs
    obtain ⟨d', hd', -⟩ := opens_of_joins (hstack s hs)
    exact ⟨d', hd'⟩
  have hdeep := Token.depthAfter?_add hinside (1 + stack.length)
  rw [Nat.zero_add, Nat.add_comm] at hdeep
  simp only [List.map_cons, List.map_append, hk, hc, depthAfter?, Token.depthAfter?_append,
    depthAfter?_run hopens, Option.bind_some, Nat.zero_add]
  rw [Nat.add_comm, hdeep]
  rfl

/-- In a text that is scanned without error, the opening directives that no closing one belongs to
are those stacked on others. -/
theorem depthAfter?_ofMarks {ms : List Mark} {tail : Text} (h : (ofMarks ms tail).error? = none) :
    depthAfter? 0 (ms.map token) = some (ofMarks ms tail).stacked.length := by
  fun_induction ofMarks ms tail with
  | case1 =>
    rw [stacked_literal]
    rfl
  | case2 => simp [stopped] at h
  | case3 => simp [stopped] at h
  | case4 => simp [stopped] at h
  | case5 => simp [stopped] at h
  | case6 =>
    rename_i k later d hk n c hc block scan ih
    have hlater : k :: later = k :: (later.take n ++ (c.inside ++ c.closing :: c.behind)) := by
      rw [← eq_of_toClosing hc, List.take_append_drop]
    have hbalanced := toClosing_balanced hc
    have hlength : block.stacked.length = (later.take n).length :=
      length_stacked joins_of_mem_stack
    have hrest := Token.depthAfter?_add (ih h) (later.take n).length
    rw [Nat.zero_add] at hrest
    rw [hlater, depthAfter?_block hk joins_of_mem_stack hbalanced.1 hbalanced.2, hrest,
      stacked_literal]
    simp only [stacked, List.flatMap_cons, List.length_append]
    rw [hlength, Nat.add_comm]

end Scan

end PageBlocks
