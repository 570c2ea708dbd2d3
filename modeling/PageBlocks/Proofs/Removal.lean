import PageBlocks.Proofs.Expansion
import PageBlocks.Proofs.Outline

/-!
# Processing `remove` blocks row by row

When all directives of a page are `remove` directives with a row to themselves, processing keeps
some of the plain rows and nothing else: `Outline.kept` says which, and `result_expandWithin` that
the page is made of them.

The text is put together from pieces that are cut in other places. A literal reaches from the end of
one closing comment to the start of the next opening one, so it starts and ends within rows; blanks
and a line break are left for the next literal to skip, and the indentation that a literal ends with
is taken back. `Keeps` is what holds nevertheless after each piece: what has been put together,
with what is still to come of the literal, is whole rows.
-/

namespace PageBlocks

theorem Assembly.dropLastBreak_eq (t : Text) : dropLastBreak t = Text.dropFinalBreak t := by
  unfold dropLastBreak Text.dropFinalBreak Text.before?
  rcases hrev : t.reverse with _ | ⟨c, _ | ⟨d, s⟩⟩
  · simp [Text.after?]
  · by_cases hc : c = '\n' <;> simp [Text.after?, hc, eq_comm]
  · by_cases hc : c = '\n' <;> by_cases hd : d = '\r' <;> simp [Text.after?, hc, hd, eq_comm]

/-- The text that is made of plain rows. -/
def Plain.page {m : Marker} (e : Text.Break) (z : Bool) (ps : List (Plain m)) : Text :=
  Text.unlines e z (ps.map Plain.text)

namespace Plain

variable {m : Marker} (e : Text.Break) (z : Bool)

theorem oneLine_of_mem {ps : List (Plain m)} : ∀ t ∈ ps.map text, Text.OneLine t := by
  intro t ht
  obtain ⟨p, -, rfl⟩ := List.mem_map.1 ht
  exact p.oneLine

theorem page_append (ps qs : List (Plain m)) :
    page e z (ps ++ qs) = page e (Text.follows z qs) ps ++ page e z qs := by
  rw [page, List.map_append, Text.unlines_append, Text.follows_map]
  rfl

theorem page_concat (ps : List (Plain m)) (p : Plain m) :
    page e z (ps ++ [p]) = page e true ps ++ (p.text ++ e.when z) := by
  rw [page, List.map_append]
  exact Text.unlines_concat e z _ _

theorem page_eq_nil_iff {ps : List (Plain m)} : page e false ps = [] ↔ ps = [] := by
  rw [page, Text.unlines_eq_nil_iff oneLine_of_mem, List.map_eq_nil_iff]

theorem page_true {ps : List (Plain m)} (h : ps ≠ []) :
    page e true ps = page e false ps ++ e.text :=
  Text.unlines_true e (by simpa using h)

/-- Without its last line break, a page is still made of the same rows. -/
theorem dropLastBreak_page (ps : List (Plain m)) :
    Assembly.dropLastBreak (page e true ps) = page e false ps := by
  by_cases hnil : ps = []
  · subst hnil
    rfl
  · have hcr : Text.before? ['\r'] (page e false ps) = none := Text.before?_unlines oneLine_of_mem
    rw [page_true e hnil]
    generalize page e false ps = x at hcr
    cases e with
    | crlf => simp [Assembly.dropLastBreak, Text.Break.text]
    | lf =>
      rcases List.eq_nil_or_concat x with rfl | ⟨s, c, rfl⟩
      · rfl
      · have hc : c ≠ '\r' := by
          rintro rfl
          rw [List.concat_eq_append, Text.before?_eq_some_iff.2 rfl] at hcr
          cases hcr
        simp [Assembly.dropLastBreak, Text.Break.text, hc]

end Plain

/-! ### Layout -/

/-- What has been put together, with what is left of the literal `gap`, is made of the rows `ps`. -/
structure Keeps {m : Marker} (e : Text.Break) (z : Bool) (a : Assembly) (gap : Text)
    (ps : List (Plain m)) : Prop where
  skip_le : a.skip ≤ gap.length
  out_eq : a.out ++ gap.drop a.skip = Plain.page e z ps

namespace Keeps

variable {m : Marker} {e : Text.Break} {z : Bool} {a : Assembly} {gap : Text} {ps : List (Plain m)}

theorem append (h : Keeps e z a gap ps) (t : Text) :
    a.out ++ (gap ++ t).drop a.skip = Plain.page e z ps ++ t := by
  rw [List.drop_append_of_le_length h.skip_le, ← List.append_assoc, h.out_eq]

theorem line (h : Keeps e true a gap ps) (p : Plain m) (z : Bool) :
    Keeps e z a (gap ++ (p.text ++ e.when z)) (ps ++ [p]) where
  skip_le := by
    have := h.skip_le
    rw [List.length_append]
    omega
  out_eq := by rw [h.append, Plain.page_concat]

/-- A block that stands alone is replaced by whole rows. -/
theorem block {b : Block} {lead trail rest : Text} (hindent : b.indent? = some lead)
    (htrail : Text.blank trail) (hrest : b.rest = trail ++ (e.when z ++ rest))
    (hz : z = false → rest = []) (hout : a.out = Plain.page e true ps ++ lead)
    (qs : List (Plain m)) :
    Keeps e z (a.addBlock b ⟨Plain.page e false qs, false⟩) (trail ++ e.when z) (ps ++ qs) := by
  have hbefore : Text.before? lead a.out = some (Plain.page e true ps) :=
    Text.before?_eq_some_iff.2 hout
  have hblanks : Text.leadingBlanks b.rest = trail := by
    rw [hrest]
    exact Text.leadingBlanks_trail htrail e hz
  by_cases hqs : qs = []
  · subst hqs
    have hempty : (Plain.page e false ([] : List (Plain m))).isEmpty = true := rfl
    simp only [Assembly.addBlock, hindent, hbefore, hempty, if_true, Option.getD_some, hblanks,
      List.append_nil, Block.breaksLine]
    cases z with
    | true =>
      rw [hrest, Text.Break.when_true, Text.breaksLine_trail htrail, Text.lineEnd_trail htrail,
        if_pos rfl]
      exact ⟨Nat.le_refl _, by rw [List.drop_length, List.append_nil]⟩
    | false =>
      -- Nothing follows that could be skipped, so a line break before the block is dropped.
      rw [hrest, hz rfl, Text.Break.when_false, List.append_nil, List.append_nil,
        Text.breaksLine_of_blank htrail, if_neg (by simp)]
      refine ⟨Nat.le_refl _, ?_⟩
      rw [List.drop_length, List.append_nil, Plain.dropLastBreak_page]
  · have hfull : (Plain.page e false qs).isEmpty = false := by
      rw [List.isEmpty_eq_false_iff]
      exact fun h => hqs ((Plain.page_eq_nil_iff e).1 h)
    simp only [Assembly.addBlock, hindent, hbefore, hfull, Bool.false_eq_true, if_false,
      Option.getD_some, hblanks]
    refine ⟨by simp, ?_⟩
    have hfollows : Text.follows z qs = true := by
      cases qs with
      | nil => exact absurd rfl hqs
      | cons q qs => rfl
    rw [List.drop_left, Plain.page_append, hfollows, List.append_assoc]
    cases z with
    | true => rw [Text.Break.when_true, Plain.page_true e hqs]
    | false => rw [Text.Break.when_false, List.append_nil]

end Keeps

/-! ### Rendering -/

/-- The type of the blocks that are removed. -/
def removeType : Text := "remove".toList

theorem Registry.get?_remove : builtin.get? removeType = some Handler.remove := by rfl

theorem Registry.find?_unknown_of_remove {ds : List Directive}
    (htypes : ∀ d ∈ ds, d.type = removeType) :
    ds.find? (fun d => !builtin.contains d.type) = none := by
  rw [List.find?_eq_none]
  intro d hd
  rw [htypes d hd, contains, get?_remove]
  simp

namespace Processor

variable {p : Processor} (hregistry : p.registry = .builtin) {site : Site}
  {expand : Nat → Text → Outcome Text} {insert : Location → Path → Text → Outcome Text} {b : Block}
  (htypes : ∀ d ∈ b.directives, d.type = removeType)

include hregistry htypes

/-- A block of `remove` directives is dropped if one of them counts, whatever it contains. -/
theorem renderBlock_of_counts (hcounts : b.directives.any p.audience.accepts) :
    p.renderBlock site expand insert b = pure ⟨[], false⟩ := by
  unfold renderBlock
  rw [hregistry, Registry.find?_unknown_of_remove htypes]
  simp only
  cases hselect : p.audience.select? b.directives with
  | none =>
    obtain ⟨d, hd, haccepts⟩ := List.any_eq_true.1 hcounts
    exact absurd haccepts (List.find?_eq_none.1 hselect d hd)
  | some d =>
    simp only [htypes d (List.mem_of_find?_eq_some hselect), Registry.get?_remove]
    rfl

/-- A block of `remove` directives none of which counts is its content. -/
theorem renderBlock_of_not_counts (hcounts : b.directives.any p.audience.accepts = false) :
    p.renderBlock site expand insert b =
      expand b.contentLine b.content >>= fun t => pure ⟨t, false⟩ := by
  have hselect : p.audience.select? b.directives = none :=
    List.find?_eq_none.2 (List.any_eq_false.1 hcounts)
  unfold renderBlock
  rw [hregistry, Registry.find?_unknown_of_remove htypes, hselect]

/-- A block all of whose directives are `remove` directives is dropped if one of them counts;
otherwise its content is processed. -/
theorem result_renderBlock {t : Text}
    (hcontent : (expand b.contentLine b.content).result = .ok t) :
    (p.renderBlock site expand insert b).result =
      .ok ⟨if b.directives.any p.audience.accepts then [] else t, false⟩ := by
  cases hcounts : b.directives.any p.audience.accepts with
  | true => rw [renderBlock_of_counts hregistry htypes hcounts, if_pos rfl, Outcome.pure_def]
  | false =>
    rw [renderBlock_of_not_counts hregistry htypes hcounts, Outcome.result_bind hcontent]
    rfl

end Processor

namespace Outline

variable {m : Marker} {type : Text} {e : Text.Break} {z : Bool}

/-- Does one of the directives of a stack count? -/
def counts (a : Audience) (first : Opener m type) (stack : List (Opener m type)) : Bool :=
  (first :: stack).any fun o => a.accepts o.directive

/-- The plain rows that no block takes with it. -/
def kept (a : Audience) : Outline m type → List (Plain m)
  | done => []
  | line p later => p :: later.kept a
  | block first stack body _ later =>
    (if counts a first stack then [] else body.kept a) ++ later.kept a

theorem Single.wellFormed {o : Outline m type} (h : o.Single) : o.WellFormed := by
  induction o with
  | done => trivial
  | line p later ih => exact ih h
  | block first stack body closing later _ ihl => exact ⟨h.2.1, ihl h.2.2⟩

theorem directives_stackMore (e : Text.Break) (trail : Text) (os : List (Opener m type)) :
    (stackMore e trail os).map (fun x => x.2.directive) = os.map Opener.directive := by
  induction os generalizing trail with
  | nil => rfl
  | cons o os ih =>
    rw [stackMore, List.map_cons, List.map_cons, ih]
    rfl

/-- The block that a stack, a body and a closing directive become. The characters `seen`, nearest
first, stand before it, and `y` behind the last line break of the text. -/
def blockOf (e : Text.Break) (z : Bool) (y : Text) (first : Opener m type)
    (stack : List (Opener m type)) (body : Outline m type) (closing : Closer m)
    (later : Outline m type) (seen : Text) (line : Nat) : Block :=
  Document.blockOf (stackOf e first stack)
    (lastTrail first.trail stack ++ (e.text ++
      (Text.unlines e true (body.rows.map Row.text) ++ closing.lead)))
    closing.comment seen
    (closing.trail ++ (e.when (Text.follows z later.rows) ++
      (Text.unlines e z (later.rows.map Row.text) ++ y)))
    line

section

variable {y seen : Text} {line : Nat} {first : Opener m type} {stack : List (Opener m type)}
  {body : Outline m type} {closing : Closer m} {later : Outline m type} {b : Block}

theorem segments_block
    (hb : b = blockOf e z y first stack body closing later (first.lead.reverse ++ seen)
      (line + Text.lineFeeds first.lead)) {w : Text}
    (hw : w = closing.trail ++ e.when (Text.follows z later.rows)) (gap : Text) :
    ((block first stack body closing later).toDocument e z y).segments seen line gap =
      Scan.literal (gap ++ first.lead) (.block b ::
        (later.toDocument e z y).segments (w.reverse ++ (b.source.reverse ++ b.seen))
          (b.line + Text.lineFeeds b.source + Text.lineFeeds w) w) := by
  subst hb hw
  simp only [toDocument, Document.segments, Document.print, print_toDocument, List.nil_append]
  simp only [blockOf, Document.blockOf, Block.source, List.append_assoc]

theorem any_directives_blockOf (a : Audience) :
    (blockOf e z y first stack body closing later seen line).directives.any a.accepts =
      counts a first stack := by
  have hmore : (stackMore e first.trail stack).any (fun x => a.accepts x.2.directive) =
      stack.any fun o => a.accepts o.directive := by
    have := congrArg (List.any · a.accepts) (directives_stackMore e first.trail stack)
    simpa only [List.any_map, Function.comp_def] using this
  show (a.accepts first.directive || ((stackMore e first.trail stack).map _).any a.accepts) = _
  rw [List.any_map]
  exact congrArg (a.accepts first.directive || ·) hmore

theorem type_of_mem_blockOf {d : Directive}
    (h : d ∈ (blockOf e z y first stack body closing later seen line).directives) :
    d.type = type := by
  rcases List.mem_cons.1 h with rfl | h
  · exact first.typed
  · obtain ⟨x, hx, rfl⟩ := List.mem_map.1 h
    exact typed_stackMore e first.trail stack x hx

/-- Behind a row that is not followed by a line break there is nothing. -/
theorem eq_nil_of_follows {rs : List (Row m)} (h : Text.follows z rs = false)
    (hz : z = false → y = []) : Text.unlines e z (rs.map Row.text) ++ y = [] := by
  cases rs with
  | nil => rw [hz h, List.append_nil, List.map_nil, Text.unlines]
  | cons r rs => cases h

/-- The directives of the block have their rows to themselves. -/
theorem indent?_blockOf (hseen : seen.head?.all (· == '\n')) (hz : z = false → y = []) :
    (blockOf e z y first stack body closing later (first.lead.reverse ++ seen) line).indent? =
      some first.lead := by
  have hrest : Text.blankToLineEnd (blockOf e z y first stack body closing later
      (first.lead.reverse ++ seen) line).rest = true := by
    have hunbroken : ∀ c ∈ closing.trail, c ≠ '\r' ∧ c ≠ '\n' :=
      fun c hc => (Text.ne_of_blank closing.trail_blank c hc).2
    exact (Text.blankToLineEnd_append hunbroken e fun h => eq_nil_of_follows h hz).trans
      closing.trail_blank
  exact Block.indent?_eq first.lead_blank rfl hseen hrest

theorem content_blockOf (hseen : seen.head?.all (· == '\n')) (hz : z = false → y = []) :
    (blockOf e z y first stack body closing later (first.lead.reverse ++ seen) line).content =
      Text.unlines e false (body.rows.map Row.text) := by
  unfold Block.content
  rw [indent?_blockOf hseen hz]
  exact Block.ownLines_unlines (blank_lastTrail first.trail_blank stack) closing.lead_blank e
    Row.oneLine_of_mem

/-- The block is rendered to nothing if one of its directives counts, and to its content
otherwise. -/
theorem result_renderBlock_blockOf {p : Processor} (hregistry : p.registry = .builtin)
    {first : Opener m removeType} {stack : List (Opener m removeType)}
    {body later : Outline m removeType}
    (hb : b = blockOf e z y first stack body closing later seen line)
    {expand : Nat → Text → Outcome Text} {qs : List (Plain m)}
    (hcontent : (expand b.contentLine b.content).result = .ok (Plain.page e false qs))
    (site : Site) (insert : Location → Path → Text → Outcome Text) :
    (p.renderBlock site expand insert b).result =
      .ok ⟨Plain.page e false (if counts p.audience first stack then [] else qs), false⟩ := by
  have htypes : ∀ d ∈ b.directives, d.type = removeType := by
    rw [hb]
    exact fun d hd => type_of_mem_blockOf hd
  have hcounts : b.directives.any p.audience.accepts = counts p.audience first stack := by
    rw [hb]
    exact any_directives_blockOf p.audience
  rw [Processor.result_renderBlock hregistry htypes hcontent, hcounts]
  split <;> rfl

/-- Rows take the place of the block, up to the end of the line that it closes on. -/
theorem keeps_addBlock (hseen : seen.head?.all (· == '\n'))
    (hb : b = blockOf e z [] first stack body closing later (first.lead.reverse ++ seen) line)
    {a : Assembly} {gap : Text} {ps : List (Plain m)} (hkeeps : Keeps e true a gap ps)
    (qs : List (Plain m)) :
    Keeps e (Text.follows z later.rows)
      ((a.addLiteral (gap ++ first.lead)).addBlock b ⟨Plain.page e false qs, false⟩)
      (closing.trail ++ e.when (Text.follows z later.rows)) (ps ++ qs) := by
  have hindent : b.indent? = some first.lead := by
    rw [hb]
    exact indent?_blockOf hseen fun _ => rfl
  have hrest : b.rest = closing.trail ++ (e.when (Text.follows z later.rows) ++
      (Text.unlines e z (later.rows.map Row.text) ++ [])) := by
    rw [hb]
    rfl
  exact Keeps.block hindent closing.trail_blank hrest
    (fun h => eq_nil_of_follows h fun _ => rfl) (hkeeps.append first.lead) qs

end

/-- The next row starts behind a line break. -/
theorem head?_break (t seen : Text) {w : Bool} (hw : w = true) :
    ((t ++ e.when w).reverse ++ seen).head?.all (· == '\n') := by
  obtain ⟨x, hx, -⟩ := e.eq_concat
  simp [hw, hx]

/-- The text of an outline is processed as its pieces are. -/
theorem result_expandWithin_of {p : Processor} {deeper? : Option (Site → Text → Outcome Text)}
    {site : Site} {o : Outline p.marker type} (hwell : o.WellFormed) {page : Text} {line : Nat}
    (h : ∃ a', (Assembly.addAll
        (p.renderBlock site (p.expandWithin deeper? site) (p.insertFile deeper? site))
        ((o.toDocument e z []).segments [] line []) {}).result = .ok a' ∧ a'.out = page) :
    (p.expandWithin deeper? site line (Text.unlines e z (o.rows.map Row.text))).result =
      .ok page := by
  obtain ⟨a', hadd, rfl⟩ := h
  exact Processor.result_expandWithin (scan_text hwell e z line) hadd

/-- Processing adds the rows that are kept, one piece of the outline after the other. -/
theorem result_addAll {p : Processor} (hregistry : p.registry = .builtin)
    {deeper? : Option (Site → Text → Outcome Text)} {site : Site}
    {o : Outline p.marker removeType} (hwell : o.WellFormed) {seen gap : Text} {a : Assembly}
    {ps : List (Plain p.marker)}
    (hseen : Text.follows z o.rows = true → seen.head?.all (· == '\n'))
    (hkeeps : Keeps e (Text.follows z o.rows) a gap ps) (line : Nat) :
    ∃ a', (Assembly.addAll
        (p.renderBlock site (p.expandWithin deeper? site) (p.insertFile deeper? site))
        ((o.toDocument e z []).segments seen line gap) a).result = .ok a' ∧
      a'.out = Plain.page e z (ps ++ o.kept p.audience) := by
  induction o generalizing z seen gap a ps line with
  | done =>
    refine ⟨a.addLiteral gap, ?_, ?_⟩
    · rw [toDocument, Document.segments, Document.segments, List.append_nil,
        Assembly.addAll_literal hkeeps.skip_le]
      rfl
    · rw [kept, List.append_nil]
      exact hkeeps.out_eq
  | line q later ih =>
    have hline := Keeps.line hkeeps q (Text.follows z later.rows)
    obtain ⟨a', hadd, hout⟩ := ih hwell (head?_break q.text seen) hline
      (line + Text.lineFeeds (q.text ++ e.when (Text.follows z later.rows)))
    exact ⟨a', hadd, by rw [hout, kept, List.append_assoc, List.singleton_append]⟩
  | block first stack body closing later ihb ihl =>
    obtain ⟨hbody, hlater⟩ := hwell
    have hstart := hseen rfl
    have hskip : a.skip ≤ (gap ++ first.lead).length := by
      have := hkeeps.skip_le
      rw [List.length_append]
      omega
    generalize hb : blockOf e z [] first stack body closing later (first.lead.reverse ++ seen)
      (line + Text.lineFeeds first.lead) = b
    rw [segments_block hb.symm rfl, Assembly.addAll_literal hskip]
    -- The content of the block is processed to the rows that are kept of its body.
    have hcontent : (p.expandWithin deeper? site b.contentLine b.content).result =
        .ok (Plain.page e false (body.kept p.audience)) := by
      have hempty : Keeps e (Text.follows false body.rows) {} [] ([] : List (Plain p.marker)) :=
        ⟨Nat.le_refl _, rfl⟩
      have htext : b.content = Text.unlines e false (body.rows.map Row.text) := by
        rw [← hb]
        exact content_blockOf hstart fun _ => rfl
      rw [htext]
      exact result_expandWithin_of hbody.wellFormed
        (ihb hbody.wellFormed (fun _ => rfl) hempty b.contentLine)
    have hrender := result_renderBlock_blockOf hregistry hb.symm hcontent site
      (p.insertFile deeper? site)
    generalize hqs : (if counts p.audience first stack then [] else body.kept p.audience) = qs
      at hrender
    rw [Assembly.result_addAll_block hrender]
    obtain ⟨a', hadd, hout⟩ := ihl hlater (head?_break closing.trail _)
      (keeps_addBlock hstart hb.symm hkeeps qs) _
    refine ⟨a', hadd, ?_⟩
    rw [hout, kept, hqs, List.append_assoc]

/-- A page of `remove` blocks is processed to the rows that are kept. -/
theorem result_expandWithin {p : Processor} (hregistry : p.registry = .builtin)
    {o : Outline p.marker removeType} (hwell : o.WellFormed) (e : Text.Break) (z : Bool)
    (deeper? : Option (Site → Text → Outcome Text)) (site : Site) (line : Nat) :
    (p.expandWithin deeper? site line (Text.unlines e z (o.rows.map Row.text))).result =
      .ok (Plain.page e z (o.kept p.audience)) := by
  have hempty : Keeps e (Text.follows z o.rows) {} [] ([] : List (Plain p.marker)) :=
    ⟨Nat.le_refl _, rfl⟩
  exact result_expandWithin_of hwell (result_addAll hregistry hwell (fun _ => rfl) hempty line)

end Outline

end PageBlocks
