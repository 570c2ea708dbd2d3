import PageBlocks.Handler.Attribute
import PageBlocks.Proofs.Body
import PageBlocks.Proofs.Offset
import PageBlocks.Proofs.PatternSize

/-!
# The pattern of an attribute

The pattern with a name in it is read character by character, and what is read is
`AttributeUse.node`:

    (\s src \s*=\s*)(?:"([^"]*)"|'([^']*)')
     └────lead────┘     └value─┘ └value─┘

So it is well-formed whatever the name is (`read_pattern`), and it is refused only if it is too big
(`fault?_eq`). Each character of the name adds one state, and the rest of the pattern adds a fixed
number, so a name within `lengthLimit` is never refused (`isTooBig_node`).
-/

namespace PageBlocks

namespace CharSet

/-- Ranges in order are only merged. -/
theorem ofRanges_of_sorted {rs : List (Nat × Nat)} (hproper : ∀ r ∈ rs, r.1 ≤ r.2)
    (hsorted : rs.Pairwise fun a b => a.1 ≤ b.1) : ofRanges rs = ⟨(merge rs).toArray⟩ := by
  have hall : rs.filter (fun r => decide (r.1 ≤ r.2)) = rs :=
    List.filter_eq_self.2 fun r hr => decide_eq_true (hproper r hr)
  rw [ofRanges, hall, List.mergeSort_of_pairwise (by simpa using hsorted)]

theorem whiteSpace_eq : Text.whiteSpace = ⟨#[(0x9, 0xD), (0x20, 0x20), (0x85, 0x85), (0xA0, 0xA0),
    (0x1680, 0x1680), (0x2000, 0x200A), (0x2028, 0x2029), (0x202F, 0x202F), (0x205F, 0x205F),
    (0x3000, 0x3000)]⟩ :=
  ofRanges_of_sorted (by decide) (by decide)

theorem union_single (c : Char) : empty.union (single c) = single c :=
  @ofRanges_of_sorted [(c.toNat, c.toNat)] (by simp) (by simp)

end CharSet

namespace Pattern

theorem literalNode_eq (c : Char) : literalNode {} c = .literal [c] := by
  show Node.ofSet (CharSet.single c) = _
  simp [Node.ofSet, CharSet.single]

theorem ofSet_whiteSpace : Node.ofSet Text.whiteSpace = .chars Text.whiteSpace := by
  rw [CharSet.whiteSpace_eq]
  rfl

/-- Of the characters in the pattern that stand for themselves, only two could mean something else
elsewhere. -/
theorem not_isMeta {c : Char} (hplain : c.isAlphanum = true ∨ c ∈ ['_', ':', '=', '"', '\''])
    (hmeta : ¬(c = '-' ∨ c = '.')) : isMeta c = false := by
  have hall : ("\\.+*?()|[]\x7b\x7d^$#&-~".toList.all fun x => decide ((x = '-' ∨ x = '.') ∨
      ¬(x.isAlphanum = true ∨ x ∈ ['_', ':', '=', '"', '\'']))) = true := by decide
  rw [Bool.eq_false_iff]
  intro h
  rcases of_decide_eq_true (List.all_eq_true.1 hall c (List.contains_iff_mem.1 h)) with hx | hx
  · exact hmeta hx
  · exact hx hplain

namespace Reader

variable {p : Reader} (hp : p.flags = {}) {limit : Nat} {t : Text}
include hp

theorem run_spaces : run (limit + 1) p ('\\' :: 's' :: t) =
    run limit (p.push (.chars Text.whiteSpace)) t := by
  obtain ⟨flags, groups, alternatives, parts, captures, names⟩ := p
  obtain rfl := hp
  rw [← ofSet_whiteSpace]
  rfl

theorem run_char {c : Char} (hplain : c.isAlphanum = true ∨ c ∈ ['_', ':', '=', '"', '\'']) :
    run (limit + 1) p (c :: t) = run limit (p.push (.literal [c])) t := by
  obtain ⟨flags, groups, alternatives, parts, captures, names⟩ := p
  obtain rfl := hp
  rw [← literalNode_eq, run]
  have hskip : skip ({} : Flags) (c :: t) = c :: t := rfl
  split
  · rename_i h
    cases hskip.symm.trans h
  all_goals
    rename_i h
    cases hskip.symm.trans h
    first | rfl | exact absurd hplain (by decide)

theorem run_escaped {c : Char} (hc : c = '-' ∨ c = '.') :
    run (limit + 1) p ('\\' :: c :: t) = run limit (p.push (.literal [c])) t := by
  obtain ⟨flags, groups, alternatives, parts, captures, names⟩ := p
  obtain rfl := hp
  rw [← literalNode_eq]
  rcases hc with rfl | rfl <;> rfl

theorem run_open {c : Char} (hc : c = '\\' ∨ c = '[') : run (limit + 1) p ('(' :: c :: t) =
    run limit { p.enter (some (p.captures + 1)) {} with captures := p.captures + 1 } (c :: t) := by
  obtain ⟨flags, groups, alternatives, parts, captures, names⟩ := p
  obtain rfl := hp
  rcases hc with rfl | rfl <;> rfl

theorem run_star {body : Tower} {parts : List Part} (hparts : p.parts = .node body :: parts)
    {c : Char} (hc : c = '=' ∨ c = ')') :
    run (limit + 1) p ('*' :: c :: t) = run limit { p with
      parts := .node ⟨Node.repeated 0 none true body.node, body.height + 1⟩ :: parts }
      (c :: t) := by
  obtain ⟨flags, groups, alternatives, parts', captures, names⟩ := p
  obtain rfl := hp
  obtain rfl := hparts
  rcases hc with rfl | rfl <;> rfl

theorem run_openUnkept :
    run (limit + 1) p ('(' :: '?' :: ':' :: t) = run limit (p.enter none {}) t := by
  obtain ⟨flags, groups, alternatives, parts, captures, names⟩ := p
  obtain rfl := hp
  rfl

theorem run_close {g : OpenGroup} {groups : List OpenGroup} (hgroups : p.groups = g :: groups) :
    run (limit + 1) p (')' :: t) = run limit { p with
      flags := g.outer
      groups
      alternatives := g.alternatives
      parts := .node ⟨match g.index? with
        | some i => .capture i p.inside.node
        | none => p.inside.node, p.inside.height + 1⟩ :: g.parts } t := by
  obtain ⟨flags, groups', alternatives, parts, captures, names⟩ := p
  obtain rfl := hp
  obtain rfl := hgroups
  rfl

theorem run_either :
    run (limit + 1) p ('|' :: t) = run limit { p with
      alternatives := sequence p.parts :: p.alternatives, parts := [] } t := by
  obtain ⟨flags, groups, alternatives, parts, captures, names⟩ := p
  obtain rfl := hp
  rfl

theorem run_others {c : Char} (hc : c = '"' ∨ c = '\'') :
    run (limit + 1) p ('[' :: '^' :: c :: ']' :: t) =
      run limit (p.pushTower ⟨.chars (CharSet.single c).complement, 1⟩) t := by
  have hset : Node.ofSet (CharSet.single c).complement = .chars (CharSet.single c).complement := by
    rcases hc with rfl | rfl <;> rfl
  have hread : readBracket {} ('^' :: c :: ']' :: t) =
      some (⟨(CharSet.single c).complement, 1⟩, t) := by
    rw [← CharSet.union_single]
    rcases hc with rfl | rfl <;> rfl
  rw [← hset, run, hp]
  show (match (readBracket {} ('^' :: c :: ']' :: t)).map _ with
    | none => none
    | some (p, rest) => run limit p rest) = _
  rw [hread]
  rfl

/-- The characters of an attribute's name are read one by one, as they are. -/
theorem run_escape {name : Text} (hname : ∀ c ∈ name, isAttributeChar c = true) :
    run (limit + name.length) p (escape name ++ t) =
      run limit { p with
        parts := (name.map fun c => .node { node := .literal [c] }).reverse ++ p.parts } t := by
  induction name generalizing p with
  | nil => rfl
  | cons c name ih =>
    have hc := hname c List.mem_cons_self
    have hlater := ih (p := p.push (.literal [c])) hp
      fun x hx => hname x (List.mem_cons_of_mem _ hx)
    have hparts : ((c :: name).map fun c => Part.node { node := .literal [c] }).reverse ++ p.parts =
        (name.map fun c => Part.node { node := .literal [c] }).reverse ++
          (p.push (.literal [c])).parts := by
      simp [push, pushTower]
    rw [hparts]
    refine Eq.trans ?_ hlater
    by_cases hmeta : c = '-' ∨ c = '.'
    · have hescape : escape (c :: name) = '\\' :: c :: escape name := by
        rcases hmeta with rfl | rfl <;> rfl
      rw [hescape]
      exact run_escaped hp hmeta
    · have hplain : c.isAlphanum = true ∨ c ∈ ['_', ':', '=', '"', '\''] := by
        simp only [isAttributeChar, isNameChar, Bool.or_eq_true, beq_iff_eq] at hc
        rcases hc with (((hc | rfl) | rfl) | rfl) | rfl
        · exact Or.inl hc
        · exact absurd (Or.inl rfl) hmeta
        · exact Or.inr (by simp)
        · exact Or.inr (by simp)
        · exact absurd (Or.inr rfl) hmeta
      have hescape : escape (c :: name) = c :: escape name := by
        have hfree : isMeta c = false := not_isMeta hplain hmeta
        simp [escape, hfree]
      rw [hescape]
      exact run_char hp hplain

/-- White space that may be missing. -/
theorem run_gap {c : Char} (hc : c = '=' ∨ c = ')') :
    run (limit + 2) p ('\\' :: 's' :: '*' :: c :: t) =
      run limit (p.pushTower ⟨.many 0 none true (.chars Text.whiteSpace), 1⟩) (c :: t) := by
  rw [run_spaces hp, run_star (p := p.push (.chars Text.whiteSpace)) hp rfl hc]
  rfl

/-- A value between two quotes. -/
theorem run_quoted {q : Char} (hq : q = '"' ∨ q = '\'') :
    run (limit + 6) p (q :: '(' :: '[' :: '^' :: q :: ']' :: '*' :: ')' :: q :: t) =
      run limit { p with
        captures := p.captures + 1
        parts := .node { node := .literal [q] } :: .node ⟨.capture (p.captures + 1)
          (.many 0 none true (.chars (CharSet.single q).complement)), 3⟩ ::
            .node { node := .literal [q] } :: p.parts } t := by
  have hplain : q.isAlphanum = true ∨ q ∈ ['_', ':', '=', '"', '\''] := by
    rcases hq with rfl | rfl <;> decide
  obtain ⟨flags, groups, alternatives, parts, captures, names⟩ := p
  obtain rfl := hp
  refine (run_char rfl hplain).trans ?_
  refine (run_open rfl (Or.inr rfl)).trans ?_
  refine (run_others rfl hq).trans ?_
  refine (run_star rfl rfl (Or.inr rfl)).trans ?_
  refine (run_close rfl rfl).trans ?_
  exact run_char rfl hplain

omit hp in
/-- At its end the pattern is read if all groups are closed. -/
theorem run_nil (hp : p.flags = {}) (hgroups : p.groups = []) : run (limit + 1) p [] = some p := by
  obtain ⟨flags, groups, alternatives, parts, captures, names⟩ := p
  obtain rfl := hp
  obtain rfl := hgroups
  rfl

end Reader

/-- Taking parts together adds one at most. -/
theorem joinedHeight_le {heights : List Nat} {n : Nat} (h : ∀ x ∈ heights, x ≤ n) :
    joinedHeight heights ≤ n + 1 := by
  have hmax : ∀ (xs : List Nat) (a : Nat), a ≤ n → (∀ x ∈ xs, x ≤ n) → xs.foldl Nat.max a ≤ n := by
    intro xs
    induction xs with
    | nil => exact fun a ha _ => ha
    | cons x xs ih =>
      intro a ha hxs
      exact ih _ (Nat.max_le.2 ⟨ha, hxs x List.mem_cons_self⟩)
        fun y hy => hxs y (List.mem_cons_of_mem _ hy)
  have := hmax heights 0 (Nat.zero_le _) h
  unfold joinedHeight
  dsimp only
  split <;> omega

namespace Node

theorem concat_of_cons {ns : List Node} {a b : Node} {rest : List Node}
    (h : (ns.flatMap parts).foldr join [] = a :: b :: rest) :
    concat ns = .seq (a :: b :: rest) := by
  rw [concat, h]

/-- The characters of a text, each by itself. -/
def letters (t : Text) : List Node := t.map fun c => .literal [c]

theorem flatMap_parts_letters (t : Text) : (letters t).flatMap parts = letters t := by
  induction t with
  | nil => rfl
  | cons c t ih => exact congrArg (Node.literal [c] :: ·) ih

/-- Side by side, the characters become one literal. -/
theorem foldr_join_letters {t : Text} (hne : t ≠ []) (body : Node) (ns : List Node) :
    (letters t).foldr join (.many 0 none true body :: ns) =
      .literal t :: .many 0 none true body :: ns := by
  induction t with
  | nil => exact absurd rfl hne
  | cons c t ih =>
    cases t with
    | nil => rfl
    | cons c' t =>
      rw [letters, List.map_cons, List.foldr_cons, ← letters, ih (List.cons_ne_nil _ _)]
      rfl

end Node

end Pattern

namespace AttributeUse

open Pattern

/-- White space that may be missing. -/
def gapNode : Pattern.Node := .many 0 none true (.chars Text.whiteSpace)

/-- The lead as one node. -/
def leadNode (name : Text) : Pattern.Node :=
  .seq [.chars Text.whiteSpace, .literal name, gapNode, .literal ['='], gapNode]

/-- A value between two quotes, which is kept as a group. -/
def valueNode (index : Nat) (q : Char) : Pattern.Node :=
  .seq [.literal [q], .capture index (.many 0 none true (.chars (CharSet.single q).complement)),
    .literal [q]]

/-- The pattern of an attribute. -/
def node (name : Text) : Pattern.Node :=
  .seq [.capture 1 (leadNode name), .choice [valueNode 2 '"', valueNode 3 '\'']]

/-- What stands before the value. -/
def leadParts (name : Text) : List Part :=
  .node ⟨gapNode, 1⟩ :: .node { node := .literal ['='] } :: .node ⟨gapNode, 1⟩ ::
    ((name.map fun c => Part.node { node := .literal [c] }).reverse ++
      [.node { node := .chars Text.whiteSpace }])

/-- Taken together, they are the lead. -/
theorem node_leadParts {name : Text} (hne : name ≠ []) :
    (sequence (leadParts name)).node = leadNode name := by
  let tail : List Pattern.Node := [gapNode, .literal ['='], gapNode]
  have hnodes : (sequence (leadParts name)).node =
      .concat (.chars Text.whiteSpace :: (Pattern.Node.letters name ++ tail)) := by
    simp [Pattern.sequence, leadParts, Pattern.Node.letters, tail, List.filterMap_map,
      Function.comp_def]
  have htail : (tail.flatMap Pattern.Node.parts).foldr Pattern.Node.join [] = tail := rfl
  have hname : (Pattern.Node.letters name).foldr Pattern.Node.join tail = .literal name :: tail :=
    Pattern.Node.foldr_join_letters hne _ _
  have hjoin : ((.chars Text.whiteSpace :: (Pattern.Node.letters name ++ tail)).flatMap
      Pattern.Node.parts).foldr Pattern.Node.join [] =
        .chars Text.whiteSpace :: .literal name :: tail := by
    rw [List.flatMap_cons, List.flatMap_append, Pattern.Node.flatMap_parts_letters,
      List.foldr_append, List.foldr_append, htail, hname]
    rfl
  exact hnodes.trans (Pattern.Node.concat_of_cons hjoin)

theorem length_le_escape (name : Text) : name.length ≤ (escape name).length := by
  induction name with
  | nil => exact Nat.le_refl _
  | cons c name ih =>
    rw [escape, List.flatMap_cons, List.length_append, List.length_cons, ← escape]
    split <;> simp only [List.length_cons, List.length_nil] <;> omega

variable {name : Text}

theorem height_leadParts : (choice [sequence (leadParts name)]).height ≤ 2 := by
  have hparts : ∀ h ∈ (leadParts name).map Part.height, h ≤ 1 := by
    simp only [leadParts, List.map_cons, List.map_append, List.map_reverse, List.map_map,
      List.map_nil, List.forall_mem_cons, List.forall_mem_append, List.mem_reverse]
    refine ⟨Nat.le_refl _, Nat.zero_le _, Nat.le_refl _, fun h hh => ?_, Nat.zero_le _, ?_⟩
    · obtain ⟨c, -, rfl⟩ := List.mem_map.1 hh
      exact Nat.zero_le _
    · simp
  exact joinedHeight_le hparts

/-- What stands before the value is read as the lead. -/
theorem run_lead (hname : ∀ c ∈ name, isAttributeChar c = true) (hne : name ≠ []) (limit : Nat)
    (t : Text) :
    ∃ height ≤ 3, Reader.run (limit + 6 + name.length + 2) {}
      ("(\\s".toList ++ (escape name ++ ("\\s*=\\s*)".toList ++ t))) =
        Reader.run limit
          { captures := 1, parts := [.node ⟨.capture 1 (leadNode name), height⟩] } t := by
  have hnode : (choice [sequence (leadParts name)]).node = leadNode name := by
    rw [choice, List.reverse_singleton, List.map_singleton, node_leadParts hne]
    rfl
  refine ⟨(choice [sequence (leadParts name)]).height + 1, Nat.succ_le_succ height_leadParts, ?_⟩
  rw [← hnode]
  calc
    Reader.run (limit + 6 + name.length + 2) {} _
      = _ := Reader.run_open rfl (Or.inl rfl)
    _ = _ := Reader.run_spaces rfl
    _ = _ := Reader.run_escape rfl hname
    _ = _ := Reader.run_gap rfl (Or.inl rfl)
    _ = _ := Reader.run_char rfl (by decide)
    _ = _ := Reader.run_gap rfl (Or.inr rfl)
    _ = _ := Reader.run_close rfl rfl

/-- What stands behind the lead is read as a choice between two kinds of quotes. -/
theorem run_value (limit : Nat) (lead : Part) :
    Reader.run (limit + 16) { captures := 1, parts := [lead] }
      "(?:\"([^\"]*)\"|'([^']*)')".toList = some
        { captures := 3
          parts := [.node ⟨.choice [valueNode 2 '"', valueNode 3 '\''], 6⟩, lead] } :=
  calc
    Reader.run (limit + 16) { captures := 1, parts := [lead] } _
      = _ := Reader.run_openUnkept rfl
    _ = _ := Reader.run_quoted rfl (Or.inl rfl)
    _ = _ := Reader.run_either rfl
    _ = _ := Reader.run_quoted rfl (Or.inr rfl)
    _ = _ := Reader.run_close rfl rfl
    _ = some _ := Reader.run_nil rfl rfl
    _ = _ := rfl

/-- The pattern of an attribute is read as its node. -/
theorem read_pattern (hname : ∀ c ∈ name, isAttributeChar c = true) (hne : name ≠ []) :
    ∃ r, Reader.run ((pattern name).length + 1) {} (pattern name) = some r ∧
      r.inside.node = node name ∧ r.inside.height ≤ maxHeight := by
  have hpattern : pattern name = "(\\s".toList ++ (escape name ++
      ("\\s*=\\s*)".toList ++ "(?:\"([^\"]*)\"|'([^']*)')".toList)) := rfl
  obtain ⟨limit, hlimit⟩ : ∃ limit,
      (pattern name).length + 1 = limit + 16 + 6 + name.length + 2 := by
    have hlength := length_le_escape name
    refine ⟨(pattern name).length + 1 - (24 + name.length), ?_⟩
    have : (pattern name).length = 3 + ((escape name).length + 31) := by
      rw [pattern, List.length_append, List.length_append]
      rfl
    omega
  obtain ⟨height, hheight, hlead⟩ := run_lead hname hne (limit + 16)
    "(?:\"([^\"]*)\"|'([^']*)')".toList
  rw [hlimit, hpattern, hlead, run_value]
  refine ⟨_, rfl, rfl, ?_⟩
  have hparts : joinedHeight [6, height] ≤ 7 := joinedHeight_le (by simp; omega)
  have hinside : joinedHeight [joinedHeight [6, height]] ≤ 8 := joinedHeight_le (by simpa)
  exact Nat.le_trans hinside (by decide)

/-! ### Its size -/

theorem setBound_whiteSpace : setBound Text.whiteSpace ≤ 1200 := by
  rw [CharSet.whiteSpace_eq]
  decide +kernel

theorem setBound_others {q : Char} (hq : q = '"' ∨ q = '\'') :
    setBound (CharSet.single q).complement ≤ 1300 := by
  rcases hq with rfl | rfl <;> decide +kernel

/-- The characters of a name take one byte each. -/
theorem utf8Length_name (hname : ∀ c ∈ name, isAttributeChar c = true) :
    Text.utf8Length name = name.length := by
  refine Text.utf8Length_eq_length fun c hc => ?_
  have hrange := range_of_isAttributeChar (hname c hc)
  rw [Char.utf8Size, if_pos (UInt32.le_iff_toNat_le.2 (Nat.le_trans hrange.2 (by decide)))]

theorem gapNode_adds : AddsAtMost gapNode 1320 := by
  have h := (AddsAtMost.chars Text.whiteSpace).many
  have hset := setBound_whiteSpace
  exact h.mono (by simp only [stateSize, linkSize]; omega)

theorem leadNode_adds (hname : ∀ c ∈ name, isAttributeChar c = true) :
    AddsAtMost (leadNode name) (name.length * stateSize + 3900) := by
  have hset := setBound_whiteSpace
  have h := AddsAtMost.seq (.cons (AddsAtMost.chars Text.whiteSpace) (.cons (.literal name)
    (.cons gapNode_adds (.cons (.literal ['=']) (.cons gapNode_adds .nil)))))
  rw [utf8Length_name hname] at h
  have hequals : Text.utf8Length ['='] = 1 := rfl
  refine h.mono ?_
  simp only [total, List.length_cons, List.length_nil, stateSize, linkSize, hequals]
  omega

theorem valueNode_adds {q : Char} (hq : q = '"' ∨ q = '\'') (index : Nat) :
    AddsAtMost (valueNode index q) 1600 := by
  have hset := setBound_others hq
  have h := AddsAtMost.seq (.cons (.literal [q]) (.cons ((AddsAtMost.chars
    (CharSet.single q).complement).many.capture index) (.cons (.literal [q]) .nil)))
  have hquote : Text.utf8Length [q] = 1 := by rcases hq with rfl | rfl <;> rfl
  refine h.mono ?_
  simp only [total, List.length_cons, List.length_nil, stateSize, linkSize, hquote]
  omega

theorem node_adds (hname : ∀ c ∈ name, isAttributeChar c = true) :
    AddsAtMost (node name) (name.length * stateSize + 7300) := by
  have h := AddsAtMost.seq (.cons ((leadNode_adds hname).capture 1)
    (.cons (AddsAtMost.choice rfl (.cons (valueNode_adds (Or.inl rfl) 2)
      (.cons (valueNode_adds (Or.inr rfl) 3) .nil))) .nil))
  refine h.mono ?_
  simp only [total, List.length_cons, List.length_nil, stateSize, linkSize]
  omega

/-- A name of so many characters is never too long. -/
def lengthLimit : Nat := 327000

theorem isTooBig_node (hname : ∀ c ∈ name, isAttributeChar c = true)
    (hlength : name.length ≤ lengthLimit) : isTooBig (node name) = false := by
  have hfits : ∀ d, decide (maxSize < sizeOf d (node name)) = false := by
    intro d
    have hsize := (node_adds hname).sizeOf_le d
    simp only [lengthLimit, stateSize, linkSize, edgeSize] at hlength hsize
    exact decide_eq_false (by rw [maxSize]; omega)
  rw [isTooBig, hfits, hfits]
  rfl

/-- The pattern of an attribute can be used, or it is too big. -/
theorem fault?_eq (hname : ∀ c ∈ name, isAttributeChar c = true) (hne : name ≠ []) :
    fault? name = if isTooBig (node name) then some .tooBig else none := by
  obtain ⟨r, hread, hnode, hheight⟩ := read_pattern hname hne
  simp only [fault?, ofText, hread, if_neg (Nat.not_lt.2 hheight), hnode]
  cases isTooBig (node name) <;> rfl

end AttributeUse

end PageBlocks
