import PageBlocks.Proofs.Comparison
import PageBlocks.Proofs.Row

/-!
# What a block sees of its surroundings

The rules for layout look at the line that a block starts on and at the line that it ends on, and no
further. Blocks that agree on these are `Block.Alike`: they have the same content and go into a page
in the same way. In particular it does not matter what stands before the line feed in front of a
block, or behind the line feed that follows it.
-/

namespace PageBlocks

namespace Text

/-! ### Up to the next line feed -/

theorem restOfLine_append {u : Text} (hu : '\n' ∉ u) (v : Text) :
    restOfLine (u ++ '\n' :: v) = u := by
  have hne : ∀ c ∈ u, (c != '\n') = true := by
    intro c hc
    rw [bne_iff_ne]
    rintro rfl
    exact hu hc
  rw [restOfLine, List.takeWhile_append_of_pos hne]
  simp

section

variable {r : Text} (h : '\n' ∈ r) (t : Text)
include h

theorem mem_dropWhile_isBlank : '\n' ∈ r.dropWhile isBlank := by
  rw [← List.takeWhile_append_dropWhile (p := isBlank) (l := r), List.mem_append] at h
  refine h.resolve_left fun hblank => ?_
  exact (isBlank_ne (List.all_eq_true.1 List.all_takeWhile _ hblank)).2.2 rfl

theorem dropWhile_isBlank_append_of_mem :
    (r ++ t).dropWhile isBlank = r.dropWhile isBlank ++ t := by
  have hne := List.ne_nil_of_mem (mem_dropWhile_isBlank h)
  rw [List.dropWhile_append, if_neg (by simpa using hne)]

theorem leadingBlanks_append_of_mem : leadingBlanks (r ++ t) = leadingBlanks r := by
  have hlength : (r.takeWhile isBlank).length ≠ r.length := by
    have hne := List.length_pos_of_mem (mem_dropWhile_isBlank h)
    have hsplit := congrArg List.length (List.takeWhile_append_dropWhile (p := isBlank) (l := r))
    rw [List.length_append] at hsplit
    omega
  rw [leadingBlanks, List.takeWhile_append, if_neg hlength, leadingBlanks]

theorem dropLineBreak?_append_of_mem :
    dropLineBreak? (r ++ t) = (dropLineBreak? r).map (· ++ t) := by
  match r with
  | c :: [] =>
    obtain rfl : '\n' = c := by simpa using h
    rfl
  | c :: d :: r =>
    simp only [dropLineBreak?, List.cons_append]
    split <;> simp_all

theorem dropLineEnd_append_of_mem : dropLineEnd (r ++ t) = dropLineEnd r ++ t := by
  rw [dropLineEnd, dropLineEnd, dropWhile_isBlank_append_of_mem h,
    dropLineBreak?_append_of_mem (mem_dropWhile_isBlank h)]
  cases dropLineBreak? (r.dropWhile isBlank) <;> rfl

theorem lineEnd_append_of_mem : lineEnd (r ++ t) = lineEnd r := by
  have hlength : (r ++ t).length - (dropLineEnd r ++ t).length =
      r.length - (dropLineEnd r).length := by
    simp only [List.length_append]
    omega
  rw [lineEnd, dropLineEnd_append_of_mem h, hlength, lineEnd,
    List.take_append_of_le_length (Nat.sub_le _ _)]

theorem breaksLine_append_of_mem : breaksLine (r ++ t) = breaksLine r := by
  rw [breaksLine, breaksLine, dropWhile_isBlank_append_of_mem h,
    dropLineBreak?_append_of_mem (mem_dropWhile_isBlank h), Option.isSome_map]

theorem blankToLineEnd_append_of_mem : blankToLineEnd (r ++ t) = blankToLineEnd r := by
  obtain ⟨u, v, rfl, hu⟩ := List.eq_append_cons_of_mem h
  rw [blankToLineEnd, List.append_assoc, List.cons_append, restOfLine_append hu, blankToLineEnd,
    restOfLine_append hu]

end

/-- What holds no line feed is no longer than what stands before one. -/
theorem length_le_of_not_mem {w u r : Text} (hw : w <+: r) (hfree : '\n' ∉ w)
    (hu : u ++ ['\n'] <+: r) : w.length ≤ u.length := by
  by_contra hlt
  have hle : (u ++ ['\n']).length ≤ w.length := by
    rw [List.length_append, List.length_singleton]
    omega
  exact hfree ((List.prefix_of_prefix_length_le hu hw hle).subset (by simp))

theorem length_leadingBlanks_le {u r : Text} (hu : u ++ ['\n'] <+: r) :
    (leadingBlanks r).length ≤ u.length := by
  refine length_le_of_not_mem (List.takeWhile_prefix _) (fun hmem => ?_) hu
  exact (ne_of_blank (blank_leadingBlanks r) _ hmem).2.2 rfl

/-- The end of a line goes no further than its line feed. -/
theorem length_lineEnd_le {u r : Text} (hu : u ++ ['\n'] <+: r) :
    (lineEnd r).length ≤ u.length + 1 := by
  have hblanks : '\n' ∉ r.takeWhile isBlank :=
    fun hmem => (ne_of_blank (blank_leadingBlanks r) _ hmem).2.2 rfl
  have hsplit : r.takeWhile isBlank ++ r.dropWhile isBlank = r := List.takeWhile_append_dropWhile
  unfold lineEnd dropLineEnd
  cases hdrop : dropLineBreak? (r.dropWhile isBlank) with
  | none => simp
  | some x =>
    rw [Option.getD_some]
    rcases dropLineBreak?_eq_some hdrop with hx | hx
    · have hle := length_le_of_not_mem (w := r.takeWhile isBlank ++ ['\r'])
        ⟨'\n' :: x, by rw [List.append_assoc, List.singleton_append, ← hx, hsplit]⟩
        (by simpa using hblanks) hu
      rw [hx] at hsplit
      have hlength := congrArg List.length hsplit
      simp only [List.length_append, List.length_cons, List.length_take, List.length_nil] at *
      omega
    · have hle := length_le_of_not_mem (List.takeWhile_prefix _) hblanks hu
      rw [hx] at hsplit
      have hlength := congrArg List.length hsplit
      simp only [List.length_append, List.length_cons, List.length_take] at *
      omega

/-! ### Line feeds at the end -/

/-- Nothing, or whole lines. -/
def Ended (t : Text) : Prop := t = [] ∨ ∃ x, t = x ++ ['\n']

theorem Ended.of_append {s t : Text} (h : Ended (s ++ t)) : Ended t := by
  rcases List.eq_nil_or_concat t with rfl | ⟨u, c, rfl⟩
  · exact Or.inl rfl
  · rw [List.concat_eq_append] at h ⊢
    rcases h with h | ⟨x, hx⟩
    · simp at h
    · rw [← List.append_assoc] at hx
      exact Or.inr ⟨u, by rw [(List.append_inj' hx rfl).2]⟩

/-- Every carriage return is followed by a line feed. -/
def pairedReturns : Text → Bool
  | [] => true
  | c :: t => (c != '\r' || startsWith ['\n'] t) && pairedReturns t

theorem pairedReturns_of_append {s t : Text} (h : pairedReturns (s ++ t)) : pairedReturns t := by
  induction s with
  | nil => exact h
  | cons c s ih =>
    rw [List.cons_append, pairedReturns, Bool.and_eq_true] at h
    exact ih h.2

theorem exists_of_pairedReturns {s t : Text} (h : pairedReturns (s ++ '\r' :: t)) :
    ∃ t', t = '\n' :: t' := by
  have hr := pairedReturns_of_append h
  simp only [pairedReturns, startsWith, bne_self_eq_false, Bool.false_or, Bool.and_eq_true] at hr
  obtain ⟨t', ht'⟩ := Option.isSome_iff_exists.1 hr.1
  exact ⟨t', after?_eq_some_iff.1 ht'⟩

theorem dropEndWhile_of_not_mem {w : Text} (h : '\r' ∉ w) : dropEndWhile (· == '\r') w = w := by
  rw [dropEndWhile]
  cases hrev : w.reverse with
  | nil => simpa using hrev
  | cons c s =>
    have hc : c ∈ w := by
      rw [← List.mem_reverse, hrev]
      exact List.mem_cons_self
    have hcr : c ≠ '\r' := by
      rintro rfl
      exact h hc
    rw [List.dropWhile_cons_of_neg (by simpa using hcr), ← hrev, List.reverse_reverse]

/-- Where carriage returns stand before line feeds only, a line that is blank up to its end does
end. -/
theorem breaksLine_of_blankToLineEnd {r : Text} (h : '\n' ∈ r) (hpaired : pairedReturns r)
    (hblank : blankToLineEnd r) : breaksLine r := by
  obtain ⟨u, v, rfl, hu⟩ := List.eq_append_cons_of_mem h
  rw [blankToLineEnd, restOfLine_append hu] at hblank
  by_cases hreturn : '\r' ∈ u
  · -- The carriage return is the last character of the line.
    obtain ⟨w, x, rfl, hw⟩ := List.eq_append_cons_of_mem hreturn
    rw [List.append_assoc, List.cons_append] at hpaired
    obtain ⟨x', hx'⟩ := exists_of_pairedReturns hpaired
    obtain rfl : x = [] := by
      cases x with
      | nil => rfl
      | cons c x =>
        obtain rfl : c = '\n' := (List.cons.inj hx').1
        simp at hu
    have hdrop : dropEndWhile (· == '\r') (w ++ ['\r']) = dropEndWhile (· == '\r') w := by
      simp [dropEndWhile]
    rw [hdrop, dropEndWhile_of_not_mem hw] at hblank
    simpa [Break.text] using breaksLine_trail hblank .crlf v
  · rw [dropEndWhile_of_not_mem hreturn] at hblank
    simpa [Break.text] using breaksLine_trail hblank .lf v

end Text

/-! ### Blocks in other places -/

theorem Block.of_indent? {b : Block} {indent : Text} (h : b.indent? = some indent) :
    indent = b.lead ∧ Text.blank b.lead ∧ Text.blankToLineEnd b.rest := by
  unfold Block.indent? at h
  split at h
  · rename_i hblank
    rw [Bool.and_eq_true] at hblank
    exact ⟨(Option.some.inj h).symm, hblank⟩
  · cases h

/-- The same block to the rules for layout: the same directives and inner text, the same indentation
and the same rest of the last line. -/
structure Block.Alike (b b' : Block) : Prop where
  directives_eq : b'.directives = b.directives
  inner_eq : b'.inner = b.inner
  indent_eq : b'.indent? = b.indent?
  breaksLine_eq : b'.breaksLine = b.breaksLine
  blanks_eq : Text.leadingBlanks b'.rest = Text.leadingBlanks b.rest
  lineEnd_eq : Text.lineEnd b'.rest = Text.lineEnd b.rest

/-- The same place to the rules for layout, whatever stands there. -/
structure Block.PlacedAlike (b b' : Block) : Prop where
  indent_eq : b'.indent? = b.indent?
  breaksLine_eq : b'.breaksLine = b.breaksLine
  blanks_eq : Text.leadingBlanks b'.rest = Text.leadingBlanks b.rest
  lineEnd_eq : Text.lineEnd b'.rest = Text.lineEnd b.rest

namespace Block.PlacedAlike

variable {b b' : Block}

theorem content_eq (h : b.PlacedAlike b') (hinner : b'.inner = b.inner) :
    b'.content = b.content := by
  rw [Block.content, Block.content, h.indent_eq, hinner]

theorem addBlock_eq (h : b.PlacedAlike b') (a : Assembly) (r : Rendered) :
    a.addBlock b' r = a.addBlock b r := by
  unfold Assembly.addBlock
  rw [h.indent_eq, h.breaksLine_eq, h.blanks_eq, h.lineEnd_eq]

theorem alike (h : b.PlacedAlike b') (hdirectives : b'.directives = b.directives)
    (hinner : b'.inner = b.inner) : b.Alike b' :=
  ⟨hdirectives, hinner, h.indent_eq, h.breaksLine_eq, h.blanks_eq, h.lineEnd_eq⟩

end Block.PlacedAlike

namespace Block.Alike

variable {b b' : Block}

theorem placed (h : b.Alike b') : b.PlacedAlike b' :=
  ⟨h.indent_eq, h.breaksLine_eq, h.blanks_eq, h.lineEnd_eq⟩

theorem content_eq (h : b.Alike b') : b'.content = b.content := h.placed.content_eq h.inner_eq

theorem addBlock_eq (h : b.Alike b') (a : Assembly) (r : Rendered) :
    a.addBlock b' r = a.addBlock b r := h.placed.addBlock_eq a r

/-- A line number is nothing to the layout. -/
theorem of_line (b : Block) (line : Nat) : b.Alike { b with line := line } where
  directives_eq := rfl
  inner_eq := rfl
  indent_eq := rfl
  breaksLine_eq := rfl
  blanks_eq := rfl
  lineEnd_eq := rfl

/-- Nothing behind the line feed that follows a block matters. -/
theorem of_rest (b : Block) (h : '\n' ∈ b.rest) (t : Text) :
    b.Alike { b with rest := b.rest ++ t } where
  directives_eq := rfl
  inner_eq := rfl
  indent_eq := by
    show (if Text.blank b.lead && Text.blankToLineEnd (b.rest ++ t) then some b.lead else none) = _
    rw [Text.blankToLineEnd_append_of_mem h, Block.indent?]
  breaksLine_eq := Text.breaksLine_append_of_mem h t
  blanks_eq := Text.leadingBlanks_append_of_mem h t
  lineEnd_eq := Text.lineEnd_append_of_mem h t

/-- Nothing before the line feed in front of a block matters, nor its line number. -/
theorem of_seen (b : Block) (s : Text) (line : Nat) :
    b.Alike { b with seen := b.seen ++ '\n' :: s, line := line } where
  directives_eq := rfl
  inner_eq := rfl
  indent_eq := by
    have hlead : Block.lead { b with seen := b.seen ++ '\n' :: s, line := line } = b.lead := by
      rw [Block.lead, Block.lead, List.takeWhile_append]
      split
      · rename_i hall
        rw [List.takeWhile_cons_of_neg (by simp), List.append_nil,
          (List.takeWhile_prefix _).eq_of_length hall]
      · rfl
    rw [Block.indent?, hlead, Block.indent?]
  breaksLine_eq := rfl
  blanks_eq := rfl
  lineEnd_eq := rfl

end Block.Alike

namespace Assembly

variable {a a' : Assembly} {front : Text}

/-- A block that follows other text is put in its place in the same way behind more text, if its
indentation is there to be taken off and its line ends. -/
theorem addBlock_behind (hout : a'.out = front ++ a.out) {b : Block}
    (hindent : ∀ indent, b.indent? = some indent → indent <:+ a.out)
    (hbreak : b.indent?.isSome → b.breaksLine) (r : Rendered) :
    a'.addBlock b r = { a.addBlock b r with out := front ++ (a.addBlock b r).out } := by
  unfold addBlock
  cases h : b.indent? with
  | none => simp [hout]
  | some indent =>
    obtain ⟨o, ho⟩ := hindent indent h
    have hbefore : Text.before? indent a.out = some o := Text.before?_eq_some_iff.2 ho.symm
    have hbefore' : Text.before? indent a'.out = some (front ++ o) := by
      refine Text.before?_eq_some_iff.2 ?_
      rw [hout, ← ho, List.append_assoc]
    have hbreaks : b.breaksLine = true := hbreak (by rw [h]; rfl)
    simp only [hbefore, hbefore', hbreaks, Option.getD_some, if_true]
    split
    · rfl
    · split <;> simp

/-- What is skipped behind a block goes no further than the next line feed. -/
theorem skip_addBlock_le {b : Block} {u : Text} (hu : u ++ ['\n'] <+: b.rest) (r : Rendered) :
    (a.addBlock b r).skip ≤ u.length + 1 := by
  have hblanks := Text.length_leadingBlanks_le hu
  have hend := Text.length_lineEnd_le hu
  unfold addBlock
  cases b.indent? with
  | none => exact Nat.zero_le _
  | some indent =>
    dsimp only
    split
    · split
      · exact hend
      · exact Nat.le_succ_of_le hblanks
    · split <;> exact Nat.le_succ_of_le hblanks

/-- The literal before a block is added as far as it is not skipped. -/
theorem addAll_literal_block (f : Block → Outcome Rendered) (gap : Text) (b : Block)
    (later : List Segment) (a : Assembly) :
    addAll f (Scan.literal gap (.block b :: later)) a =
      addAll f (.block b :: later) (a.addLiteral gap) := by
  cases gap with
  | nil =>
    -- An empty literal is left out, and what was to be skipped is nothing to the block.
    have hblock : ∀ r, a.addBlock b r = (a.addLiteral []).addBlock b r := by
      intro r
      unfold addBlock addLiteral
      simp
    simp only [Scan.literal, List.isEmpty_nil, if_true, addAll, hblock]
  | cons c gap => rfl

/-- The literal at the end is added as far as it is not skipped. -/
theorem addAll_literal_nil (f : Block → Outcome Rendered) (gap : Text) (a : Assembly) :
    ∃ page, addAll f (Scan.literal gap []) a = pure page ∧ page.out = (a.addLiteral gap).out := by
  cases gap with
  | nil => exact ⟨a, rfl, by simp [addLiteral]⟩
  | cons c gap => exact ⟨a.addLiteral (c :: gap), rfl, rfl⟩

end Assembly

/-- A text without a directive is left as it is, and nothing is noted. -/
theorem Processor.expandWithin_of_quiet {p : Processor}
    {deeper? : Option (Site → Text → Outcome Text)} {site : Site} {text : Text}
    (h : p.marker.find? text = none) (line : Nat) :
    p.expandWithin deeper? site line text = pure text := by
  have hscan : p.marker.scan line text = ⟨Scan.literal text [], none⟩ := by
    rw [Marker.scan, marks, Marker.marksFrom_eq_place, Marker.cut_of_none h]
    simp only [Marker.place, Scan.ofMarks]
  obtain ⟨page, hpage, hout⟩ := Assembly.addAll_literal_nil
    (p.renderBlock site (p.expandWithin deeper? site) (p.insertFile deeper? site)) text {}
  rw [expandWithin_eq, hscan, hpage, pure_bind, hout]
  rfl

theorem Processor.result_expandWithin_of_quiet {p : Processor}
    {deeper? : Option (Site → Text → Outcome Text)} {site : Site} {text : Text}
    (h : p.marker.find? text = none) (line : Nat) :
    (p.expandWithin deeper? site line text).result = .ok text := by
  rw [expandWithin_of_quiet h]
  rfl

end PageBlocks
