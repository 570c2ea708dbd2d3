import PageBlocks.Proofs.CarriageReturn
import PageBlocks.Proofs.Inclusion
import PageBlocks.Proofs.Removal

/-!
# Line endings do not matter

A page with carriage returns in front of its line feeds, over files with such carriage returns,
comes to what it comes to without them, with carriage returns put in again, or to the same error
(`Processor.line_endings_preserved`). The two runs are followed side by side: `Outcome.Tied` relates
two outcomes, and what it relates goes through a page block by block.

The one thing that is not the same in both runs is how much of the text behind a block is skipped.
It is the same text, written with and without carriage returns, so `Assembly.Returned` says which
text that is rather than how long it is.
-/

namespace PageBlocks

open Processor (includeType)

namespace Outcome

variable {α β γ δ : Type} {S : α → β → Prop} {T : γ → δ → Prop}

/-- Both come to values that are related, or both to the same error. -/
def Tied (S : α → β → Prop) (x : Outcome α) (y : Outcome β) : Prop :=
  match x.result, y.result with
  | .ok a, .ok b => S a b
  | .error e, .error e' => e' = e
  | _, _ => False

theorem Tied.pure {a : α} {b : β} (h : S a b) : Tied S (pure a) (pure b) := h

theorem Tied.fail (e : ProcessError) : Tied S (.fail e) (.fail e) := rfl

/-- Runs are tied when their steps are. -/
theorem Tied.bind {x : Outcome α} {y : Outcome β} {f : α → Outcome γ} {g : β → Outcome δ}
    (hxy : Tied S x y) (hfg : ∀ a b, S a b → Tied T (f a) (g b)) :
    Tied T (x >>= f) (y >>= g) := by
  unfold Tied at hxy
  split at hxy
  · rename_i a b ha hb
    rw [Tied, result_bind ha, result_bind hb]
    exact hfg a b hxy
  · rename_i e e' he he'
    rw [Tied, bind_of_error he, bind_of_error he']
    exact hxy
  · exact hxy.elim

end Outcome

open Outcome (Tied)

/-! ### Pages with carriage returns -/

/-- The same text without and with carriage returns. -/
def Text.Returned (t t' : Text) : Prop := t' = t.crlf ∧ '\r' ∉ t

namespace Text

/-- The lines of a text are the text. -/
theorem flatten_lines (t : Text) : (lines t).flatten = t := by
  fun_induction lines t with
  | case1 => rfl
  | case2 t ih => rw [List.flatten_cons, ih, List.singleton_append]
  | case3 c t _ hlines ih =>
    rw [hlines] at ih
    rw [← ih]
    rfl
  | case4 c t _ line rest hlines ih =>
    rw [hlines, List.flatten_cons] at ih
    rw [List.flatten_cons, List.cons_append, ih]

namespace Returned

variable {t t' u u' : Text}

theorem append (ht : t.Returned t') (hu : u.Returned u') : (t ++ u).Returned (t' ++ u') := by
  refine ⟨by rw [ht.1, hu.1, crlf_append], ?_⟩
  rw [List.mem_append, not_or]
  exact ⟨ht.2, hu.2⟩

theorem dropFinalBreak (h : t.Returned t') :
    (Text.dropFinalBreak t).Returned (Text.dropFinalBreak t') := by
  have hfront := dropFinalBreak_prefix t
  refine ⟨?_, fun hmem => h.2 (hfront.subset hmem)⟩
  rw [h.1, dropFinalBreak_crlf h.2]

theorem indentLines (h : t.Returned t') {indent : Text} (hindent : blank indent) :
    (Text.indentLines indent t).Returned (Text.indentLines indent t') := by
  refine ⟨?_, fun hmem => ?_⟩
  · rw [h.1, indentLines_crlf fun hmem => (ne_of_blank hindent _ hmem).2.2 rfl]
  · obtain ⟨l, hl, hline⟩ := List.mem_flatMap.1 hmem
    have hfree : '\r' ∉ l := by
      intro hmem
      refine h.2 ?_
      rw [← flatten_lines t]
      exact List.mem_flatten.2 ⟨l, hl, hmem⟩
    split_ifs at hline
    · exact hfree hline
    · rcases List.mem_append.1 hline with hline | hline
      · exact (ne_of_blank hindent _ hline).2.1 rfl
      · exact hfree hline

/-- Blanks are taken off the end of a text, if they are there. -/
theorem before?_getD (h : t.Returned t') {lead : Text} (hlead : blank lead) :
    ((before? lead t).getD t).Returned ((before? lead t').getD t') := by
  rw [h.1, before?_crlf fun x hx => (ne_of_blank hlead x hx).2]
  cases hbefore : before? lead t with
  | none => exact ⟨rfl, h.2⟩
  | some u =>
    refine ⟨rfl, fun hmem => h.2 ?_⟩
    rw [before?_eq_some_iff.1 hbefore]
    exact List.mem_append_left _ hmem

end Returned

end Text

theorem Outcome.Tied.result_eq {x y : Outcome Text} (h : Tied Text.Returned x y) :
    y.result = x.result.map Text.crlf := by
  unfold Tied at h
  split at h
  · rename_i t t' hx hy
    rw [hx, hy, h.1]
    rfl
  · rename_i e e' hx hy
    rw [hx, hy, h]
    rfl
  · exact h.elim

/-- What a block is rendered to, without and with carriage returns. -/
def Rendered.Returned (r r' : Rendered) : Prop :=
  r.text.Returned r'.text ∧ r'.indented = r.indented

/-- The page so far, without and with carriage returns; `rest` is the text that follows, and some of
it may have to be skipped. -/
structure Assembly.Returned (rest : Text) (a a' : Assembly) : Prop where
  out : a.out.Returned a'.out
  skip : ∃ x, x <+: rest ∧ '<' ∉ x ∧ a.skip = x.length ∧ a'.skip = (Text.crlf x).length

/-- The pieces follow each other in `rest`, as far as literals go: behind one comes a directive, or
nothing. -/
inductive Segment.Follow : Text → List Segment → Prop where
  | nil (rest : Text) : Follow rest []
  | literal {t r : Text} {ss : List Segment} (stops : r = [] ∨ ∃ x, r = '<' :: x)
      (later : Follow r ss) : Follow (t ++ r) (.literal t :: ss)
  | block {rest : Text} {b : Block} {ss : List Segment} (later : Follow b.rest ss) :
      Follow rest (.block b :: ss)

theorem Scan.follow_ofMarks {m : Marker} {seen text tail : Text} {line : Nat} {ms : List Mark}
    (h : marksFrom m seen line text = (ms, tail)) :
    Segment.Follow text (ofMarks ms tail).segments := by
  fun_induction ofMarks ms tail generalizing seen line text with
  | case1 =>
    have htext := source_marksFrom m seen line text
    rw [h] at htext
    obtain rfl : text = tail := htext.symm
    unfold literal
    split
    · exact .nil _
    · have hfollow := Segment.Follow.literal (t := text) (Or.inl rfl) (.nil [])
      rwa [List.append_nil] at hfollow
  | case2 => exact .nil _
  | case3 => exact .nil _
  | case4 => exact .nil _
  | case5 => exact .nil _
  | case6 =>
    rename_i k later d hk n c hc block scan ih
    have hcomment : m.Comment k.comment := Marker.comment_of_mem_marksFrom (by rw [h]; simp)
    rw [eq_of_closed hc] at h
    obtain ⟨htext, hbehind, -⟩ := marksFrom_of_block d h
    have hblock : ∀ rest, Segment.Follow rest (.block block :: scan.segments) :=
      fun rest => .block (ih hbehind)
    unfold literal
    split
    · exact hblock _
    · obtain ⟨x, hx⟩ := hcomment.eq_cons
      rw [htext]
      refine .literal (Or.inr ?_) (hblock _)
      rw [source_ofMarks, hx]
      exact ⟨_, rfl⟩

namespace Assembly

variable {rest : Text} {a a' : Assembly}

/-- A literal is added with carriage returns, less what is skipped. -/
theorem Returned.addLiteral {t r : Text} (ha : Returned (t ++ r) a a')
    (hstops : r = [] ∨ ∃ x, r = '<' :: x) (ht : '\r' ∉ t) :
    Returned r (a.addLiteral t) (a'.addLiteral t.crlf) := by
  obtain ⟨x, hx, hangle, hskip, hskip'⟩ := ha.skip
  -- What is skipped holds no `<`, so it ends within the literal.
  have hprefix : x <+: t := by
    rcases List.prefix_or_prefix_of_prefix hx (List.prefix_append t r) with hprefix | ⟨y, rfl⟩
    · exact hprefix
    · have hy : y <+: r := (List.prefix_append_right_inj t).1 hx
      cases y with
      | nil => exact ⟨[], by simp⟩
      | cons c y =>
        rcases hstops with rfl | ⟨z, rfl⟩
        · cases List.prefix_nil.1 hy
        · obtain ⟨rfl, -⟩ := List.cons_prefix_cons.1 hy
          simp at hangle
  obtain ⟨y, rfl⟩ := hprefix
  refine ⟨⟨?_, ?_⟩, [], List.nil_prefix, by simp, rfl, rfl⟩
  · simp only [Assembly.addLiteral, hskip, hskip', Text.crlf_append, List.drop_left, ha.out.1]
  · simp only [Assembly.addLiteral, hskip, List.drop_left, List.mem_append, not_or]
    exact ⟨ha.out.2, fun hmem => ht (List.mem_append_right _ hmem)⟩

/-- What is left to skip of `rest` is `x`. -/
theorem Returned.of_skip {rest out out' x : Text} (hout : out.Returned out') (hx : x <+: rest)
    (hangle : '<' ∉ x) : Returned rest ⟨out, x.length⟩ ⟨out', (Text.crlf x).length⟩ :=
  ⟨hout, x, hx, hangle, rfl, rfl⟩

/-- The blanks that follow are left to skip. -/
theorem Returned.of_blanks {b : Block} {out out' : Text} (hout : out.Returned out') :
    Returned b.rest ⟨out, (Text.leadingBlanks b.rest).length⟩
      ⟨out', (Text.leadingBlanks b.crlf.rest).length⟩ := by
  have hblank := Text.ne_of_blank (Text.blank_leadingBlanks b.rest)
  have hprefix : Text.leadingBlanks b.rest <+: b.rest := List.takeWhile_prefix _
  have hskip := Returned.of_skip hout hprefix fun hmem => (hblank _ hmem).1 rfl
  rw [Text.crlf_of_not_mem fun hmem => (hblank _ hmem).2.2 rfl] at hskip
  rwa [show b.crlf.rest = b.rest.crlf from rfl, Text.leadingBlanks_crlf]

/-- A block is laid out with carriage returns. -/
theorem Returned.addBlock {b : Block} {r r' : Rendered} (ha : a.out.Returned a'.out)
    (hrest : '\r' ∉ b.rest) (hr : r.Returned r') :
    Returned b.rest (a.addBlock b r) (a'.addBlock b.crlf r') := by
  obtain ⟨htext, hindented⟩ := hr
  unfold Assembly.addBlock
  rw [Block.indent?_crlf hrest]
  cases hindent : b.indent? with
  | none => exact .of_skip (x := []) (ha.append htext) List.nil_prefix (by simp)
  | some indent =>
    obtain ⟨rfl, hblank, -⟩ := Block.of_indent? hindent
    have hout := ha.before?_getD hblank
    have hempty : r'.text.isEmpty = r.text.isEmpty := by rw [htext.1, Text.isEmpty_crlf]
    have hbreaks : b.crlf.breaksLine = b.breaksLine := Text.breaksLine_crlf hrest
    dsimp only
    rw [hempty, hbreaks, hindented]
    split_ifs
    · -- The rest of the line goes with the block.
      have hend : Text.lineEnd b.crlf.rest = Text.crlf (Text.lineEnd b.rest) :=
        Text.lineEnd_crlf hrest
      rw [hend]
      exact .of_skip hout ⟨_, Text.lineEnd_append_dropLineEnd _⟩ fun hmem =>
        Text.ne_of_mem_lineEnd hmem rfl
    · rw [dropLastBreak_eq, dropLastBreak_eq]
      exact .of_blanks hout.dropFinalBreak
    · exact .of_blanks (hout.append (htext.indentLines hblank))
    · exact .of_blanks (hout.append htext)

/-- Pages are put together with carriage returns if their blocks are rendered with them. -/
theorem tied_addAll {f g : Block → Outcome Rendered} {ss : List Segment}
    (hfollow : Segment.Follow rest ss) (hrest : '\r' ∉ rest)
    (hblocks : ∀ b, .block b ∈ ss → '\r' ∉ b.rest ∧ Tied Rendered.Returned (f b) (g b.crlf))
    (ha : Returned rest a a') :
    Tied (fun a a' => a.out.Returned a'.out) (addAll f ss a)
      (addAll g (ss.map Segment.crlf) a') := by
  induction hfollow generalizing a a' with
  | nil rest => exact .pure ha.out
  | @literal t r ss hstops _ ih =>
    have ht : '\r' ∉ t := fun hmem => hrest (List.mem_append_left _ hmem)
    have hr : '\r' ∉ r := fun hmem => hrest (List.mem_append_right _ hmem)
    exact ih hr (fun b hb => hblocks b (List.mem_cons_of_mem _ hb)) (ha.addLiteral hstops ht)
  | @block rest b ss _ ih =>
    obtain ⟨hbehind, hrender⟩ := hblocks b List.mem_cons_self
    refine hrender.bind fun r r' hr => ?_
    exact ih hbehind (fun b hb => hblocks b (List.mem_cons_of_mem _ hb))
      (Returned.addBlock ha.out hbehind hr)

end Assembly

/-! ### Pages of `remove` and `include` blocks -/

/-- A text without carriage returns, all of whose directives are `remove` and `include`
directives. -/
structure Marker.Simple (m : Marker) (text : Text) : Prop where
  unreturned : '\r' ∉ text
  types : ∀ d ∈ (marks m 1 text).1.filterMap Mark.directive?,
    d.type = removeType ∨ d.type = includeType

namespace Marker

variable {m : Marker} {line : Nat} {text : Text} {b : Block}

/-- The content of a block has no directives but those of the text. -/
theorem mem_tokens_content (hb : .block b ∈ (m.scan line text).segments) {n n' : Nat}
    {x : Except Fault Token} (hx : x ∈ (marks m n b.content).1.map Mark.token) :
    x ∈ (marks m n' text).1.map Mark.token := by
  have hlines : (marks m n' text).1.map Mark.token = (marks m line text).1.map Mark.token := by
    rw [tokens_marks, tokens_marks]
  rw [scan_eq_ofMarks] at hb
  obtain ⟨hmarks, -, -, -, -⟩ := Scan.holds_of_mem hb
  rename_i before stack inside behind k c d
  rw [tokens_marks, comments_content] at hx
  have hinside : x ∈ inside.map Mark.token := by
    rw [← tokens_inner hmarks]
    exact hx
  rw [hlines, hmarks]
  simp only [List.map_append, List.map_cons, List.mem_append, List.mem_cons]
  exact Or.inr (Or.inr (Or.inr (Or.inl hinside)))

namespace Simple

variable (h : m.Simple text) (hb : .block b ∈ (m.scan line text).segments)
include h hb

theorem not_mem_block : '\r' ∉ b.rest ∧ '\r' ∉ b.inner := by
  have htext := (block_in_text hb).1
  have hfree := h.unreturned
  rw [← htext] at hfree
  constructor
  · exact fun hmem => hfree (by simp [hmem])
  · exact fun hmem => hfree (by simp [Block.source, hmem])

theorem type_of_mem {d : Directive} (hd : d ∈ b.directives) :
    d.type = removeType ∨ d.type = includeType := by
  rw [(directives_alike hb d hd).1]
  rw [scan_eq_ofMarks] at hb
  obtain ⟨hmarks, hopens, -, -, -⟩ := Scan.holds_of_mem hb
  rename_i before stack inside behind k c d'
  refine h.types d' (Mark.mem_directives ?_)
  rw [tokens_marks, ← tokens_marks m line, hmarks, ← hopens]
  simp

theorem content : m.Simple b.content where
  unreturned := fun hmem => (h.not_mem_block hb).2 (Block.mem_of_mem_content hmem)
  types := by
    intro d hd
    exact h.types d (Mark.mem_directives (mem_tokens_content hb (Mark.mem_tokens hd)))

end Simple

end Marker

/-- The answer of a `remove` or `include` handler, over files without and with carriage returns. -/
inductive Output.Returned (m : Marker) : Output → Output → Prop where
  | drop : Returned m .drop .drop
  | insertFile {path : Path} {text : Text} (simple : m.Simple text) :
      Returned m (.insertFile path text) (.insertFile path text.crlf)

namespace Processor

/-- The same processor, over files with carriage returns. -/
def withReturns (p : Processor) : Processor :=
  { p with read := fun path => (p.read path).map Text.crlf }

variable {p : Processor} (hregistry : p.registry = .builtin)
  (hfiles : ∀ path text, p.read path = .ok text → p.marker.Simple text)
  {deeper? deeper?' : Option (Site → Text → Outcome Text)}
  (hdeeper : ∀ expand, deeper? = some expand → ∃ expand', deeper?' = some expand' ∧
    ∀ site text, p.marker.Simple text →
      Tied Text.Returned (expand site text) (expand' site text.crlf))
  (hnone : deeper? = none → deeper?' = none)

include hdeeper hnone in
/-- A file is inserted with carriage returns. -/
theorem tied_insertFile {site : Site} {location : Location} {path : Path} {text : Text}
    (htext : p.marker.Simple text) :
    Tied Text.Returned (p.insertFile deeper? site location path text)
      (p.withReturns.insertFile deeper?' site location path text.crlf) := by
  unfold insertFile
  simp only [show p.withReturns.options = p.options from rfl]
  split_ifs
  · exact .pure ⟨rfl, htext.unreturned⟩
  · exact .fail _
  · cases hsome : deeper? with
    | none =>
      rw [hnone hsome]
      exact .fail _
    | some expand =>
      obtain ⟨expand', hsome', htied⟩ := hdeeper expand hsome
      rw [hsome']
      exact htied _ text htext

include hfiles in
/-- The handlers of `remove` and `include` blocks answer with carriage returns. -/
theorem tied_handle {type : Text} {g : Handler} (hget : Registry.builtin.get? type = some g)
    (htype : type = removeType ∨ type = includeType) (site : Site) (b : Block) (d : Directive)
    (content content' : Text) :
    g.readsContent d = false ∧ Tied (Output.Returned p.marker)
      (g.handle (p.context site b) d content)
      (g.handle (p.withReturns.context site b.crlf) d content') := by
  rcases htype with rfl | rfl
  · rw [Registry.get?_remove] at hget
    obtain rfl := Option.some.inj hget
    exact ⟨rfl, .pure .drop⟩
  · rw [get?_include] at hget
    obtain rfl := Option.some.inj hget
    refine ⟨rfl, ?_⟩
    have hread : ∀ path, (p.withReturns.context site b.crlf).read path =
        ((p.context site b).read path).map Text.crlf := fun _ => rfl
    have hresolve : (p.withReturns.context site b.crlf).resolve (unquote d.args) =
        (p.context site b).resolve (unquote d.args) := rfl
    unfold Handler.insertFile
    dsimp only
    rw [hread, hresolve]
    split_ifs
    · exact .fail _
    · cases hfile : (p.context site b).read ((p.context site b).resolve (unquote d.args)) with
      | ok text => exact .pure (.insertFile (hfiles _ text hfile))
      | error e => cases e <;> exact .fail _

include hregistry hfiles hdeeper hnone in
/-- A `remove` or `include` block is rendered with carriage returns, if its content is processed
with them. -/
theorem tied_renderBlock {site : Site} {b : Block} (hrest : '\r' ∉ b.rest) (hinner : '\r' ∉ b.inner)
    (htypes : ∀ d ∈ b.directives, d.type = removeType ∨ d.type = includeType)
    {expand expand' : Nat → Text → Outcome Text}
    (hexpand : Tied Text.Returned (expand b.contentLine b.content)
      (expand' b.contentLine b.content.crlf)) :
    Tied Rendered.Returned
      (p.renderBlock site expand (p.insertFile deeper? site) b)
      (p.withReturns.renderBlock site expand' (p.withReturns.insertFile deeper?' site) b.crlf) := by
  have hkept : Tied Text.Returned (expand b.contentLine b.content)
      (expand' b.crlf.contentLine b.crlf.content) := by
    rw [Block.contentLine_crlf hrest hinner, Block.content_crlf hrest hinner]
    exact hexpand
  rw [renderBlock_eq, renderBlock_eq]
  simp only [show p.withReturns.registry = p.registry from rfl,
    show p.withReturns.audience = p.audience from rfl,
    show b.crlf.directives = b.directives from rfl, show b.crlf.line = b.line from rfl]
  cases b.directives.find? fun d => !p.registry.contains d.type with
  | some d => exact .fail _
  | none =>
    dsimp only
    cases hselect : p.audience.select? b.directives with
    | none => exact hkept.bind fun t t' ht => .pure ⟨ht, rfl⟩
    | some d =>
      dsimp only
      cases hget : p.registry.get? d.type with
      | none => exact .fail _
      | some g =>
        rw [hregistry] at hget
        obtain ⟨hreads, hhandle⟩ := tied_handle hfiles hget
          (htypes d (List.mem_of_find?_eq_some hselect)) site b d b.content b.crlf.content
        simp only [handleBlock, hreads, Bool.false_eq_true, if_false]
        refine hhandle.bind fun out out' hout => ?_
        cases hout with
        | drop => exact .pure ⟨⟨rfl, by simp⟩, rfl⟩
        | insertFile hsimple =>
          exact (tied_insertFile hdeeper hnone hsimple).bind fun t t' ht =>
            .pure ⟨ht.dropFinalBreak, rfl⟩

include hregistry hfiles hdeeper hnone in
/-- A text is processed with carriage returns. -/
theorem tied_expandWithin (site : Site) (line : Nat) {text : Text} (htext : p.marker.Simple text) :
    Tied Text.Returned (p.expandWithin deeper? site line text)
      (p.withReturns.expandWithin deeper?' site line text.crlf) := by
  have hscan : p.withReturns.marker.scan line text.crlf = (p.marker.scan line text).crlf :=
    p.marker.scan_crlf line text
  rw [expandWithin_eq, expandWithin_eq, hscan]
  refine Tied.bind (Assembly.tied_addAll (Scan.follow_ofMarks rfl) htext.unreturned
    (fun b hb => ?_) ⟨⟨rfl, by simp⟩, [], List.nil_prefix, by simp, rfl, rfl⟩) fun a a' ha => ?_
  · have hshorter : b.content.length < text.length := Marker.length_content_lt hb
    obtain ⟨hrest, hinner⟩ := htext.not_mem_block hb
    exact ⟨hrest, tied_renderBlock hregistry hfiles hdeeper hnone hrest hinner
      (fun d hd => htext.type_of_mem hb hd)
      (tied_expandWithin site b.contentLine (htext.content hb))⟩
  · simp only [Scan.crlf]
    cases (p.marker.scan line text).error? with
    | none => exact .pure ha
    | some e => exact .fail _
termination_by text.length

include hregistry hfiles in
theorem tied_expandAt (levels : Nat) (site : Site) (line : Nat) {text : Text}
    (htext : p.marker.Simple text) :
    Tied Text.Returned (p.expandAt levels site line text)
      (p.withReturns.expandAt levels site line text.crlf) := by
  rw [expandAt_eq, expandAt_eq]
  induction levels generalizing site line text with
  | zero =>
    exact tied_expandWithin hregistry hfiles (fun _ h => by cases h) (fun _ => rfl) site line htext
  | succ levels ih =>
    refine tied_expandWithin hregistry hfiles (fun expand h => ?_) (fun h => by cases h) site line
      htext
    obtain rfl := Option.some.inj h
    refine ⟨_, rfl, fun site text htext => ?_⟩
    show Tied Text.Returned (p.expandAt levels site 1 text)
      (p.withReturns.expandAt levels site 1 text.crlf)
    rw [expandAt_eq, expandAt_eq]
    exact ih site 1 htext

/-- Line endings do not change what a page comes to. If the template leaves texts alone and the
types of blocks are the usual ones, take a text and files without carriage returns, all of whose
directives are `remove` and `include` directives. With a carriage return before every line feed of
the text and of all files, the text comes to the same page with carriage returns, or to the same
error; and so does every file. -/
theorem line_endings_preserved (hregistry : p.registry = .builtin)
    (htemplate : ∀ data t, (p.template.render data t).1 = t)
    (hfiles : ∀ path text, p.read path = .ok text → p.marker.Simple text) :
    (∀ dir text, p.marker.Simple text →
      (p.withReturns.processText dir text.crlf).result =
        (p.processText dir text).result.map Text.crlf) ∧
    ∀ path, (p.withReturns.processFile path).result =
      (p.processFile path).result.map Text.crlf := by
  have hprocess : ∀ (site : Site) (text : Text), p.marker.Simple text →
      (p.withReturns.expand site text.crlf >>= p.withReturns.finish site.source).result =
        (p.expand site text >>= p.finish site.source).result.map Text.crlf := by
    intro site text htext
    have htied : Tied Text.Returned (p.expand site text >>= p.finish site.source)
        (p.withReturns.expand site text.crlf >>= p.withReturns.finish site.source) := by
      refine (tied_expandAt hregistry hfiles _ site 1 htext).bind fun t t' ht => ?_
      show Text.Returned (p.template.render p.options.templateData t).1
        (p.template.render p.options.templateData t').1
      rwa [htemplate, htemplate]
    exact htied.result_eq
  refine ⟨fun dir text htext => hprocess ⟨none, dir, []⟩ text htext, fun path => ?_⟩
  unfold processFile
  rw [show p.withReturns.read path = (p.read path).map Text.crlf from rfl]
  cases hread : p.read path with
  | error e => cases e <;> rfl
  | ok text => exact hprocess _ text (hfiles path text hread)

/-- A page that includes the file `a`, with another block inside the one that is replaced, behind a
block that is removed together with its lines. -/
def mixedPage : Text :=
  "<p>\n <!--build:remove-->\n x\n <!--endbuild-->\n".toList ++
    "  <!--build:include a-->\n<!--build:remove-->\n<!--endbuild-->\n  <!--endbuild-->\n".toList

/-- A page that includes a file that is not there. -/
def missingPage : Text := "\n\n<!--build:include c-->\n<!--endbuild-->".toList

theorem line_endings_preserved_mixedPage :
    (includingProcessor.processText [] mixedPage).result = .ok "<p>\n  AB\n".toList ∧
      (includingProcessor.withReturns.processText [] mixedPage.crlf).result =
        .ok "<p>\r\n  AB\r\n".toList ∧
      (includingProcessor.withReturns.processText [] missingPage.crlf).result =
        .error (.includeNotFound ⟨none, 3⟩ ['c']) ∧
      (includingProcessor.withReturns.processFile ['a']).result = .ok "AB\r\n".toList := by
  have hfiles : ∀ path text, includingProcessor.read path = .ok text →
      includingProcessor.marker.Simple text := by
    intro path text hread
    unfold includingProcessor at hread
    dsimp only at hread
    split_ifs at hread
    · obtain rfl := Except.ok.inj hread
      exact ⟨by decide +kernel, by decide +kernel⟩
    · obtain rfl := Except.ok.inj hread
      exact ⟨by decide +kernel, by decide +kernel⟩
  obtain ⟨htexts, hall⟩ :=
    line_endings_preserved (p := includingProcessor) rfl (fun _ _ => rfl) hfiles
  have hmixed : (includingProcessor.processText [] mixedPage).result =
      .ok "<p>\n  AB\n".toList := by decide +kernel
  have hmissing : (includingProcessor.processText [] missingPage).result =
      .error (.includeNotFound ⟨none, 3⟩ ['c']) := by decide +kernel
  have hfile : (includingProcessor.processFile ['a']).result = .ok "AB\n".toList := by
    decide +kernel
  refine ⟨hmixed, ?_, ?_, ?_⟩
  · rw [htexts [] mixedPage ⟨by decide +kernel, by decide +kernel⟩, hmixed]
    rfl
  · rw [htexts [] missingPage ⟨by decide +kernel, by decide +kernel⟩, hmissing]
    rfl
  · rw [hall, hfile]
    rfl

end Processor

end PageBlocks
