import PageBlocks.Proofs.Content

/-!
# Scanning piece by piece

A page need not be cut as a whole. A `Scanner` stands at a place of the text and hands out one piece
at each call: it looks for the next directive, reads the block that starts there, and goes on behind
that block. Where text stands before the block, this text is handed out first and the block is held
back for the next call.

    seen ─────────┤ literal ├─ block ─┤ rest
                            │         └ cursor, behind the block already
                            └ handed, while the block is held back

What the calls hand out is what `Marker.scan` yields (`drain_start`). A call that does not finish
the scanner moves its cursor, unless it hands out the block that the call before it held back
(`Advances`). What moves with every such call is `handed`, so there are no more calls than
characters, but for the last one.
-/

namespace PageBlocks

/-! ### Marks behind a mark -/

/-- All that stands before a mark and behind it. -/
theorem seen_of_mem_marksFrom {m : Marker} {seen : Text} {line : Nat} {text : Text} {k : Mark}
    (h : k ∈ (marksFrom m seen line text).1) :
    seen <:+ k.seen ∧ k.comment ≠ [] ∧
      k.seen.reverse ++ (k.comment ++ k.rest) = seen.reverse ++ text := by
  fun_induction marksFrom m seen line text with
  | case1 => cases h
  | case2 seen line text f hf before here later tail hlater ih =>
    obtain ⟨htext, hcomment⟩ := Marker.eq_of_find? hf
    have hbefore : before = f.gap.reverse ++ seen := List.reverseAux_eq
    rcases List.mem_cons.1 h with rfl | h
    · refine ⟨⟨f.gap.reverse, hbefore.symm⟩, hcomment, ?_⟩
      rw [hbefore, htext]
      simp
    · rw [hlater] at ih
      obtain ⟨hseen, hne, hall⟩ := ih h
      rw [List.reverseAux_eq, hbefore] at hseen hall
      refine ⟨?_, hne, ?_⟩
      · refine List.IsSuffix.trans ⟨f.comment.reverse ++ f.gap.reverse, ?_⟩ hseen
        rw [List.append_assoc]
      · rw [hall, htext]
        simp

/-- The marks behind a mark are found from there. -/
theorem marksFrom_behind {m : Marker} {seen : Text} {line : Nat} {text tail : Text}
    (before : List Mark) {k : Mark} {behind : List Mark}
    (h : marksFrom m seen line text = (before ++ k :: behind, tail)) :
    marksFrom m (k.comment.reverse ++ k.seen) (k.line + Text.lineFeeds k.comment) k.rest =
      (behind, tail) := by
  induction before generalizing seen line text with
  | nil =>
    rw [marksFrom] at h
    split at h
    · cases h
    · obtain ⟨hmarks, htail⟩ := Prod.mk.inj h
      obtain ⟨rfl, hlater⟩ := List.cons.inj hmarks
      rw [← List.reverseAux_eq]
      exact Prod.ext hlater htail
  | cons x before ih =>
    rw [marksFrom] at h
    split at h
    · cases h
    · obtain ⟨hmarks, htail⟩ := Prod.mk.inj h
      exact ih (Prod.ext (List.cons.inj hmarks).2 htail)

/-- The first mark stands behind its gap. -/
theorem seen_of_marksFrom_cons {m : Marker} {seen : Text} {line : Nat} {text tail : Text}
    {k : Mark} {later : List Mark} (h : marksFrom m seen line text = (k :: later, tail)) :
    seen.length + k.gap.length = k.seen.length := by
  rw [marksFrom] at h
  split at h
  · cases h
  · obtain ⟨rfl, -⟩ := List.cons.inj (Prod.mk.inj h).1
    rw [List.reverseAux_eq, List.length_append, List.length_reverse, Nat.add_comm]

theorem marksFrom_eq_nil {m : Marker} {seen : Text} {line : Nat} {text : Text}
    (h : (marksFrom m seen line text).1 = []) : marksFrom m seen line text = ([], text) := by
  rw [marksFrom] at h ⊢
  split
  · rfl
  · rename_i f hf
    split at h
    · simp_all
    · cases h

/-! ### One block -/

/-- The block that starts at a mark, and where it ends; `later` are the marks behind. -/
def Scan.readBlock (k : Mark) (later : List Mark) : Except ScanError (Block × Mark.Closed) :=
  match k.token with
  | .error fault => .error (.malformed k.line k.comment fault)
  | .ok .closes => .error (.malformed k.line k.comment .strayClosing)
  | .ok (.opens d) =>
    let n := Mark.stackSize d.type later
    match Mark.toClosing 0 (later.drop n) with
    | .error (.unreadable bad fault) => .error (.malformed bad.line bad.comment fault)
    | .error .ended => .error (.unterminated k.line d.type)
    | .ok c => .ok (.ofMarks k d (later.take n) c.inside c.closing, c)

/-- A scan reads the block at the first mark, then what stands behind it. -/
theorem Scan.ofMarks_cons (k : Mark) (later : List Mark) (tail : Text) :
    ofMarks (k :: later) tail =
      match readBlock k later with
      | .error e => stopped e
      | .ok (b, c) =>
        { segments := literal k.gap (.block b :: (ofMarks c.behind tail).segments)
          error? := (ofMarks c.behind tail).error? } := by
  rw [ofMarks.eq_def, readBlock]
  cases htoken : k.token with
  | error fault => simp only [htoken]
  | ok token =>
    cases token with
    | closes => simp only [htoken]
    | opens d =>
      simp only [htoken]
      split
      · rename_i hclosing
        rw [hclosing]
      · rename_i hclosing
        rw [hclosing]
      · rename_i hclosing
        rw [hclosing]

/-- A block starts at its first mark, and its closing mark is one of those behind. -/
theorem Scan.of_readBlock {k : Mark} {later : List Mark} {b : Block} {c : Mark.Closed}
    (h : readBlock k later = .ok (b, c)) :
    b.seen = k.seen ∧ ∃ inner, later = inner ++ c.closing :: c.behind := by
  unfold readBlock at h
  cases htoken : k.token with
  | error fault =>
    rw [htoken] at h
    cases h
  | ok token =>
    rw [htoken] at h
    cases token with
    | closes => cases h
    | opens d =>
      dsimp only at h
      cases hclosing : Mark.toClosing 0 (later.drop (Mark.stackSize d.type later)) with
      | error e =>
        rw [hclosing] at h
        cases e <;> cases h
      | ok c' =>
        rw [hclosing] at h
        cases h
        refine ⟨rfl, later.take (Mark.stackSize d.type later) ++ c.inside, ?_⟩
        rw [List.append_assoc, ← Mark.eq_of_toClosing hclosing, List.take_append_drop]

/-! ### Scanners -/

/-- A scanner at its place in a text. -/
structure Scanner where
  /-- All the text that has been searched, nearest character first. -/
  seen : Text
  /-- The text that is still to be searched. -/
  rest : Text
  /-- The line that `rest` starts on. -/
  line : Nat
  /-- A block that is held back for the next call. -/
  pending : Option Block := none
  finished : Bool := false

namespace Scanner

/-- The scanner at the start of a text whose first line has number `line`. -/
def start (line : Nat) (text : Text) : Scanner := { seen := [], rest := text, line }

/-- Where the scanner stands, which is how far the text has been searched. A block that is held back
lies before it. -/
def cursor (s : Scanner) : Nat := s.seen.length

/-- How far the pieces reach that have been handed out: up to the cursor, or up to the block that is
held back. -/
def handed (s : Scanner) : Nat :=
  match s.pending with
  | some b => b.seen.length
  | none => s.cursor

/-- The scanner behind a mark. -/
def behind (k : Mark) : Scanner where
  seen := k.comment.reverse ++ k.seen
  rest := k.rest
  line := k.line + Text.lineFeeds k.comment

/-- The scanner at the end of its text. -/
def ended (s : Scanner) : Scanner where
  seen := s.rest.reverse ++ s.seen
  rest := []
  line := s.line + Text.lineFeeds s.rest
  finished := true

end Scanner

/-- One call: the next piece or the fault that stopped the scan, if there is anything left, and the
scanner behind it. -/
def Marker.next (m : Marker) (s : Scanner) : Option (Except ScanError Segment) × Scanner :=
  match s.pending with
  | some b => (some (.ok (.block b)), { s with pending := none })
  | none =>
    if s.finished then (none, s)
    else
      match (marksFrom m s.seen s.line s.rest).1 with
      | [] => (if s.rest.isEmpty then none else some (.ok (.literal s.rest)), s.ended)
      | k :: later =>
        match Scan.readBlock k later with
        | .error e => (some (.error e), { s with finished := true })
        | .ok (b, c) =>
          if k.gap.isEmpty then (some (.ok (.block b)), .behind c.closing)
          else (some (.ok (.literal k.gap)), { Scanner.behind c.closing with pending := some b })

/-- What so many calls hand out, and the scanner behind them. -/
def Marker.drain (m : Marker) : Nat → Scanner → List (Except ScanError Segment) × Scanner
  | 0, s => ([], s)
  | n + 1, s => ((m.next s).1.toList ++ (m.drain n (m.next s).2).1, (m.drain n (m.next s).2).2)

/-- The pieces of a scan, and the fault that stopped it. -/
def Scan.items (s : Scan) : List (Except ScanError Segment) :=
  s.segments.map .ok ++ s.error?.toList.map .error

namespace Scanner

variable {m : Marker} {s : Scanner}

/-- All that can happen in a call. -/
inductive Step (m : Marker) (s : Scanner) : Option (Except ScanError Segment) × Scanner → Prop where
  /-- The block that was held back is handed out. -/
  | handOut (b : Block) (held : s.pending = some b) :
      Step m s (some (.ok (.block b)), { s with pending := none })
  /-- There is nothing left. -/
  | rest (idle : s.pending = none) (done : s.finished = true) : Step m s (none, s)
  /-- No directive follows. -/
  | finish (idle : s.pending = none) (active : s.finished = false)
      (none_left : marksFrom m s.seen s.line s.rest = ([], s.rest)) :
      Step m s (if s.rest.isEmpty then none else some (.ok (.literal s.rest)), s.ended)
  /-- The next directive starts no block. -/
  | stop {k : Mark} {later : List Mark} {tail : Text} (idle : s.pending = none)
      (active : s.finished = false)
      (found : marksFrom m s.seen s.line s.rest = (k :: later, tail))
      {e : ScanError} (faulty : Scan.readBlock k later = .error e) :
      Step m s (some (.error e), { s with finished := true })
  /-- A block starts right here. -/
  | block {k : Mark} {later : List Mark} {tail : Text} (idle : s.pending = none)
      (active : s.finished = false)
      (found : marksFrom m s.seen s.line s.rest = (k :: later, tail))
      {b : Block} {c : Mark.Closed} (read : Scan.readBlock k later = .ok (b, c))
      (here : k.gap = []) : Step m s (some (.ok (.block b)), .behind c.closing)
  /-- A block follows behind other text. -/
  | literal {k : Mark} {later : List Mark} {tail : Text} (idle : s.pending = none)
      (active : s.finished = false)
      (found : marksFrom m s.seen s.line s.rest = (k :: later, tail))
      {b : Block} {c : Mark.Closed} (read : Scan.readBlock k later = .ok (b, c))
      (apart : k.gap ≠ []) :
      Step m s (some (.ok (.literal k.gap)), { behind c.closing with pending := some b })

theorem step_next (m : Marker) (s : Scanner) : Step m s (m.next s) := by
  unfold Marker.next
  split
  · rename_i b hheld
    exact .handOut b hheld
  · rename_i hidle
    split
    · rename_i hdone
      exact .rest hidle hdone
    · rename_i hactive
      rw [Bool.not_eq_true] at hactive
      split
      · rename_i hnone
        exact .finish hidle hactive (marksFrom_eq_nil hnone)
      · rename_i k later hfound
        have hmarks : marksFrom m s.seen s.line s.rest =
            (k :: later, (marksFrom m s.seen s.line s.rest).2) := Prod.ext hfound rfl
        split
        · rename_i hfaulty
          exact .stop hidle hactive hmarks hfaulty
        · rename_i hread
          split
          · rename_i hgap
            exact .block hidle hactive hmarks hread (List.isEmpty_iff.1 hgap)
          · rename_i hgap
            exact .literal hidle hactive hmarks hread (by simpa using hgap)

/-! ### What is handed out -/

/-- All that is still to be handed out. -/
def remaining (m : Marker) (s : Scanner) : List (Except ScanError Segment) :=
  let marks := marksFrom m s.seen s.line s.rest
  s.pending.toList.map (fun b => .ok (.block b)) ++
    if s.finished then [] else (Scan.ofMarks marks.1 marks.2).items

theorem remaining_of_finished (hidle : s.pending = none) (hdone : s.finished = true) :
    s.remaining m = [] := by
  simp [remaining, hidle, hdone]

theorem remaining_behind {k : Mark} {later : List Mark} {tail : Text} (b? : Option Block)
    (h : marksFrom m (k.comment.reverse ++ k.seen) (k.line + Text.lineFeeds k.comment) k.rest =
      (later, tail)) :
    remaining m { behind k with pending := b? } =
      b?.toList.map (fun b => .ok (.block b)) ++ (Scan.ofMarks later tail).items := by
  simp only [remaining, behind, h]
  rfl

/-- A call hands out the first of what is still to be handed out. -/
theorem remaining_eq {x : Option (Except ScanError Segment) × Scanner} (h : Step m s x) :
    s.remaining m = x.1.toList ++ x.2.remaining m := by
  cases h with
  | handOut b held => simp [remaining, held]
  | rest idle done => rfl
  | finish idle active none_left =>
    have hended : s.ended.remaining m = [] := remaining_of_finished rfl rfl
    rw [hended, remaining, idle, active, none_left, List.append_nil]
    rw [Scan.ofMarks]
    cases s.rest <;> rfl
  | stop idle active found faulty =>
    have hdone : remaining m { s with finished := true } = [] := remaining_of_finished idle rfl
    rw [hdone, remaining, idle, active, found, Scan.ofMarks_cons, faulty]
    rfl
  | @block k later tail idle active found b c read here =>
    obtain ⟨-, inner, hlater⟩ := Scan.of_readBlock read
    have hbehind := remaining_behind none (marksFrom_behind (k :: inner)
      (by rw [found, hlater, List.cons_append]))
    rw [remaining, idle, active, found, Scan.ofMarks_cons, read, here]
    exact congrArg (Except.ok (Segment.block b) :: ·) hbehind.symm
  | @literal k later tail idle active found b c read apart =>
    obtain ⟨-, inner, hlater⟩ := Scan.of_readBlock read
    have hbehind := remaining_behind (some b) (marksFrom_behind (k :: inner)
      (by rw [found, hlater, List.cons_append]))
    rw [remaining, idle, active, found, Scan.ofMarks_cons, read, hbehind]
    simp [Scan.literal, apart, Scan.items]

theorem remaining_drain (m : Marker) (n : Nat) (s : Scanner) :
    s.remaining m = (m.drain n s).1 ++ (m.drain n s).2.remaining m := by
  induction n generalizing s with
  | zero => rfl
  | succ n ih => rw [remaining_eq (step_next m s), ih (m.next s).2, Marker.drain, List.append_assoc]

/-! ### Progress -/

/-- What holds of a scanner of `text` at all times. -/
structure Within (text : Text) (s : Scanner) : Prop where
  text_eq : s.seen.reverse ++ s.rest = text
  /-- A block that is held back lies before the cursor. -/
  held : ∀ b, s.pending = some b → b.seen.length < s.cursor
  idle : s.finished = true → s.pending = none

variable {text : Text}

theorem within_start (line : Nat) (text : Text) : (start line text).Within text where
  text_eq := rfl
  held := fun _ h => by cases h
  idle := fun h => by cases h

theorem Within.handed_le (h : s.Within text) : s.handed ≤ text.length := by
  have hlength := congrArg List.length h.text_eq
  rw [List.length_append, List.length_reverse] at hlength
  unfold handed
  split
  · rename_i b hb
    have := h.held b hb
    unfold cursor at this
    omega
  · unfold cursor
    omega

/-- A block that is read from here starts here or later, and ends further on. -/
theorem lt_of_readBlock {k : Mark} {later : List Mark} {tail : Text} {b : Block} {c : Mark.Closed}
    (hfound : marksFrom m s.seen s.line s.rest = (k :: later, tail))
    (hread : Scan.readBlock k later = .ok (b, c)) :
    s.cursor + k.gap.length = b.seen.length ∧ b.seen.length < (behind c.closing).cursor ∧
      (behind c.closing).seen.reverse ++ (behind c.closing).rest = s.seen.reverse ++ s.rest := by
  obtain ⟨hb, inner, rfl⟩ := Scan.of_readBlock hread
  have hlater := marksFrom_behind [] hfound
  have hmem : c.closing ∈ (marksFrom m s.seen s.line s.rest).1 := by
    rw [hfound]
    simp
  have hafter : c.closing ∈ (marksFrom m (k.comment.reverse ++ k.seen)
      (k.line + Text.lineFeeds k.comment) k.rest).1 := by
    rw [hlater]
    simp
  obtain ⟨-, hcomment, htext⟩ := seen_of_mem_marksFrom hmem
  have hseen := (seen_of_mem_marksFrom hafter).1.length_le
  have hpos := List.length_pos_iff.2 hcomment
  refine ⟨?_, ?_, ?_⟩
  · rw [hb]
    exact seen_of_marksFrom_cons hfound
  · rw [List.length_append] at hseen
    simp only [cursor, behind, List.length_append, List.length_reverse, hb]
    omega
  · simpa [behind] using htext

theorem Within.step {x : Option (Except ScanError Segment) × Scanner} (h : s.Within text)
    (hstep : Step m s x) : x.2.Within text := by
  cases hstep with
  | handOut b held => exact ⟨h.text_eq, fun _ hb => (by cases hb), fun _ => rfl⟩
  | rest idle done => exact h
  | finish idle active none_left =>
    exact ⟨by simpa [ended] using h.text_eq, fun _ hb => (by cases hb), fun _ => rfl⟩
  | stop idle active found faulty =>
    refine ⟨h.text_eq, fun b hb => ?_, fun _ => idle⟩
    rw [idle] at hb
    cases hb
  | block idle active found read here =>
    have hlt := lt_of_readBlock found read
    exact ⟨hlt.2.2.trans h.text_eq, fun _ hb => (by cases hb), fun hdone => by cases hdone⟩
  | literal idle active found read apart =>
    have hlt := lt_of_readBlock found read
    refine ⟨hlt.2.2.trans h.text_eq, fun b hb => ?_, fun hdone => by cases hdone⟩
    obtain rfl := Option.some.inj hb
    exact hlt.2.1

/-- What a call does that comes to `x` for the scanner `s`. -/
structure Advances (s : Scanner) (x : Option (Except ScanError Segment) × Scanner) : Prop where
  /-- Unless a block was held back, the scanner is finished or its cursor has moved forward. -/
  cursor_lt : s.pending = none → x.2.finished = true ∨ s.cursor < x.2.cursor
  /-- If a block was held back, it is handed out and nothing else changes. -/
  handed_out : ∀ b, s.pending = some b → x = (some (.ok (.block b)), { s with pending := none })
  /-- A block is held back only where the cursor has moved forward. -/
  held_back : x.2.pending ≠ none → s.cursor < x.2.cursor
  /-- In any case the scanner is finished, or more of the text is handed out than before. -/
  handed_lt : x.2.finished = true ∨ s.handed < x.2.handed

theorem Advances.of_finished {x : Option (Except ScanError Segment) × Scanner}
    (hidle : s.pending = none) (hdone : x.2.finished = true) (hnone : x.2.pending = none) :
    s.Advances x where
  cursor_lt := fun _ => Or.inl hdone
  handed_out := fun b hb => by
    rw [hidle] at hb
    cases hb
  held_back := fun hback => absurd hnone hback
  handed_lt := Or.inl hdone

/-- A call that moves the cursor, and does not leave behind what it passes. -/
theorem Advances.of_lt {x : Option (Except ScanError Segment) × Scanner} (hidle : s.pending = none)
    (hlt : s.cursor < x.2.cursor) (hhanded : s.cursor < x.2.handed) : s.Advances x where
  cursor_lt := fun _ => Or.inr hlt
  handed_out := fun b hb => by
    rw [hidle] at hb
    cases hb
  held_back := fun _ => hlt
  handed_lt := by
    refine Or.inr ?_
    simp only [handed, hidle]
    exact hhanded

theorem Within.advances {x : Option (Except ScanError Segment) × Scanner} (h : s.Within text)
    (hstep : Step m s x) : s.Advances x := by
  cases hstep with
  | handOut b held =>
    refine ⟨fun hidle => ?_, fun b' hb' => ?_, fun hback => absurd rfl hback, Or.inr ?_⟩
    · rw [hidle] at held
      cases held
    · rw [held] at hb'
      rw [Option.some.inj hb']
    · simp only [handed, held]
      exact h.held b held
  | rest idle done => exact .of_finished idle done idle
  | finish idle active none_left => exact .of_finished idle rfl rfl
  | stop idle active found faulty => exact .of_finished idle rfl idle
  | block idle active found read here =>
    obtain ⟨hstart, hend, -⟩ := lt_of_readBlock found read
    have hlt := Nat.lt_of_le_of_lt (Nat.le.intro hstart) hend
    exact .of_lt idle hlt hlt
  | @literal k later tail idle active found b c read apart =>
    obtain ⟨hstart, hend, -⟩ := lt_of_readBlock found read
    have hpos := List.length_pos_iff.2 apart
    have hhanded : s.cursor < b.seen.length := by omega
    exact .of_lt idle (Nat.lt_trans hhanded hend) hhanded

theorem Within.drain (h : s.Within text) (m : Marker) (n : Nat) : (m.drain n s).2.Within text := by
  induction n generalizing s with
  | zero => exact h
  | succ n ih => exact ih (h.step (step_next m s))

/-- A scanner that is finished stays so. -/
theorem finished_drain (hidle : s.pending = none) (hdone : s.finished = true) (m : Marker)
    (n : Nat) : (m.drain n s).2.finished = true := by
  have hnext : m.next s = (none, s) := by simp [Marker.next, hidle, hdone]
  induction n with
  | zero => exact hdone
  | succ n ih =>
    rw [Marker.drain, hnext]
    exact ih

/-- Each call counts, until the scanner is finished. -/
theorem Within.handed_drain (h : s.Within text) (m : Marker) (n : Nat) :
    (m.drain n s).2.finished = true ∨ s.handed + n ≤ (m.drain n s).2.handed := by
  induction n generalizing s with
  | zero => exact Or.inr (Nat.le_refl _)
  | succ n ih =>
    have hnext := h.step (step_next m s)
    show (m.drain n (m.next s).2).2.finished = true ∨ _ ≤ (m.drain n (m.next s).2).2.handed
    rcases (h.advances (step_next m s)).handed_lt with hdone | hlt
    · exact Or.inl (finished_drain (hnext.idle hdone) hdone m n)
    · rcases ih hnext with hdone | hle
      · exact Or.inl hdone
      · exact Or.inr (by omega)

/-- The calls of a scanner hand out what a scan yields, and there is an end to them. -/
theorem drain_start (m : Marker) (line : Nat) (text : Text) :
    (m.drain (text.length + 1) (start line text)).1 = (m.scan line text).items ∧
      (m.drain (text.length + 1) (start line text)).2.finished = true := by
  have hwithin := (within_start line text).drain m (text.length + 1)
  have hdone : (m.drain (text.length + 1) (start line text)).2.finished = true := by
    refine ((within_start line text).handed_drain m (text.length + 1)).resolve_right fun hle => ?_
    have := hwithin.handed_le
    omega
  have hall := remaining_drain m (text.length + 1) (start line text)
  rw [remaining_of_finished (hwithin.idle hdone) hdone, List.append_nil] at hall
  exact ⟨hall.symm, hdone⟩

end Scanner

end PageBlocks
