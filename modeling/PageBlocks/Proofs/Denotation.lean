import PageBlocks.Proofs.Document
import PageBlocks.Proofs.Layout
import PageBlocks.Proofs.OpenFiles

/-!
# What a document means

A block that does not have its line to itself goes into the page as it is rendered, with nothing
added and nothing taken away. A document whose blocks are all like that has a meaning of its own,
read off its structure (`Document.denote`): literals mean themselves, a block that does not count
means what its body means, and a block that counts means what its handler makes of the meaning of
the body. Processing the text of the document comes to this meaning
(`Processor.processing_denotes`), and on the way nothing is scanned but the text itself and the
bodies of its blocks. What a handler answers and what stands in a file goes into the page unseen,
whatever directives it holds.
-/

namespace PageBlocks

/-- What becomes of the blocks of one type. -/
inductive Plan where
  /-- Text is put around the content. -/
  | wrap (before after : Text)
  /-- A filled-in text takes the place of the block. -/
  | replace (text : Text)
  /-- The block is dropped. -/
  | remove
  /-- A file takes the place of the block. -/
  | file

namespace Plan

/-- The handler, by the name that it is registered under if that can be chosen. -/
def handler (name : Text) : Plan → Handler
  | wrap before after => .wrap name before after
  | replace text => .replace name text
  | remove => .remove
  | file => .insertFile

/-- What a slot stands for. -/
def slot (environment : Option Text) (d : Directive) (content : Text) : Slot → Text
  | .content => content
  | .args => d.args
  | .type => d.type
  | .environment => environment.getD []

/-- A text with all its slots filled. -/
def fill (environment : Option Text) (d : Directive) (content text : Text) : Text :=
  (Text.recognise Slot.at? text).flatMap fun
    | .char c => [c]
    | .found _ s => slot environment d content s

/-- What takes the place of a block that counts, if its body means `content`. -/
def apply (p : Processor) (dir : Path) (d : Directive) (content : Text) : Plan → Text
  | wrap before after => before ++ content ++ after
  | replace text => fill p.options.environment d content text
  | remove => []
  | file =>
    match p.read (Path.join dir (unquote d.args)) with
    | .ok text => Text.dropFinalBreak text
    | .error _ => []

/-- Is there all that a block needs that counts? `body` says so of its body. -/
def ready (p : Processor) (dir : Path) (d : Directive) (body : Bool) : Plan → Bool
  | wrap _ _ => body
  | replace _ => body
  | remove => true
  | file => !(unquote d.args).isEmpty && (p.read (Path.join dir (unquote d.args))).isOk

end Plan

namespace Document

variable {m : Marker}

/-- Is there a character in front that is neither a space, nor a tab, nor a line feed? The text in
front is given nearest character first. -/
def preceded : Text → Bool
  | [] => false
  | c :: _ => !Text.isBlank c && c != '\n'

/-- Each block, at any depth, directly follows such a character of the text that it stands in;
`seen` is the text before the document. -/
def inline (seen : Text) : Document m → Bool
  | nil => true
  | text t later => later.inline (t.reverse ++ seen)
  | block s body c later =>
    preceded seen && body.inline [] &&
      later.inline ((s.print ++ (body.print ++ c.comment)).reverse ++ seen)

/-- The types of all blocks. -/
def types : Document m → List Text
  | nil => []
  | text _ later => later.types
  | block s body _ later => s.first.directive.type :: (body.types ++ later.types)

/-- The bodies of all blocks. -/
def bodies : Document m → List (Document m)
  | nil => []
  | text _ later => later.bodies
  | block _ body _ later => body :: (body.bodies ++ later.bodies)

/-- What a document without stacks means, for blocks that are treated according to `plan`. -/
def denote (p : Processor) (plan : Text → Plan) (dir : Path) : Document m → Text
  | nil => []
  | text t later => t ++ later.denote p plan dir
  | block s body _ later =>
    let d := s.first.directive
    (if p.audience.accepts d then (plan d.type).apply p dir d (body.denote p plan dir)
      else body.denote p plan dir) ++ later.denote p plan dir

/-- All files that are to take the place of blocks can be read. -/
def readable (p : Processor) (plan : Text → Plan) (dir : Path) : Document m → Bool
  | nil => true
  | text _ later => later.readable p plan dir
  | block s body _ later =>
    let d := s.first.directive
    (if p.audience.accepts d then (plan d.type).ready p dir d (body.readable p plan dir)
      else body.readable p plan dir) && later.readable p plan dir

/-! ### Bodies -/

theorem Single.wellFormed {doc : Document m} (h : doc.Single) : doc.WellFormed := by
  induction doc with
  | nil => trivial
  | text t later ih => exact ih h
  | block s body c later _ ih => exact ⟨h.2.1, ih h.2.2⟩

theorem bodies_trans {a b doc : Document m} (hb : b ∈ doc.bodies) (ha : a ∈ b.bodies) :
    a ∈ doc.bodies := by
  induction doc with
  | nil => cases hb
  | text t later ih => exact ih hb
  | block s body c later ihb ihl =>
    simp only [bodies, List.mem_cons, List.mem_append] at hb ⊢
    rcases hb with rfl | hb | hb
    · exact Or.inr (Or.inl ha)
    · exact Or.inr (Or.inl (ihb hb))
    · exact Or.inr (Or.inr (ihl hb))

/-- Where the comments of a document are found, the comments of its bodies are. -/
theorem cut_body {doc : Document m} {gap t : Text} {cs ds : List Cut}
    (h : (m.cut t).1 = cs ++ ((doc.cuts gap).1 ++ ds)) :
    ∀ body ∈ doc.bodies, m.cut body.print = body.cuts [] := by
  induction doc generalizing gap cs ds with
  | nil => simp [bodies]
  | text u later ih => exact ih h
  | block s body c later ihb ihl =>
    have hinside : (m.cut t).1 = (cs ++ ⟨gap, s.first.comment⟩ :: s.cuts) ++ ((body.cuts []).1 ++
        ⟨(body.cuts []).2, c.comment⟩ :: ((later.cuts []).1 ++ ds)) := by
      simpa [cuts] using h
    have hbehind : (m.cut t).1 = (cs ++ ⟨gap, s.first.comment⟩ :: (s.cuts ++ ((body.cuts []).1 ++
        [⟨(body.cuts []).2, c.comment⟩]))) ++ ((later.cuts []).1 ++ ds) := by
      simpa [cuts] using h
    intro x hx
    simp only [bodies, List.mem_cons, List.mem_append] at hx
    rcases hx with rfl | hx | hx
    · -- The body is what is left of the text between its two comments.
      have hcut := Marker.cut_take (congrArg Prod.fst (Marker.cut_drop hinside))
      rwa [source_cuts, List.nil_append] at hcut
    · exact ihb hinside x hx
    · exact ihl hbehind x hx

/-- A document without stacks that is found in its text, with no block alone on its lines. -/
structure Smooth (doc : Document m) : Prop where
  single : doc.Single
  inline : doc.inline []
  cut_eq : m.cut doc.print = doc.cuts []

theorem single_of_mem_bodies {doc body : Document m} (h : doc.Single) (hb : body ∈ doc.bodies) :
    body.Single := by
  induction doc with
  | nil => cases hb
  | text t later ih => exact ih h hb
  | block s inner c later ihb ihl =>
    simp only [bodies, List.mem_cons, List.mem_append] at hb
    rcases hb with rfl | hb | hb
    · exact h.2.1
    · exact ihb h.2.1 hb
    · exact ihl h.2.2 hb

theorem inline_of_mem_bodies {doc body : Document m} {seen : Text} (h : doc.inline seen)
    (hb : body ∈ doc.bodies) : body.inline [] := by
  induction doc generalizing seen with
  | nil => cases hb
  | text t later ih => exact ih h hb
  | block s inner c later ihb ihl =>
    rw [inline, Bool.and_eq_true, Bool.and_eq_true] at h
    simp only [bodies, List.mem_cons, List.mem_append] at hb
    rcases hb with rfl | hb | hb
    · exact h.1.2
    · exact ihb h.1.2 hb
    · exact ihl h.2 hb

theorem Smooth.body {doc body : Document m} (h : doc.Smooth) (hb : body ∈ doc.bodies) :
    body.Smooth where
  single := single_of_mem_bodies h.single hb
  inline := inline_of_mem_bodies h.inline hb
  cut_eq := by
    have hcut : (m.cut doc.print).1 = [] ++ ((doc.cuts []).1 ++ []) := by
      rw [h.cut_eq, List.nil_append, List.append_nil]
    exact cut_body hcut body hb

/-- A block that follows such a character has no line to itself. -/
theorem indent?_of_preceded {b : Block} (h : preceded b.seen) : b.indent? = none := by
  have hlead : ¬ Text.blank b.lead = true := by
    cases hseen : b.seen with
    | nil =>
      rw [hseen] at h
      cases h
    | cons c s =>
      rw [hseen, preceded, Bool.and_eq_true, Bool.not_eq_true', bne_iff_ne] at h
      have hmem : c ∈ b.lead := by
        rw [Block.lead, hseen, List.takeWhile_cons_of_pos (by simpa using h.2)]
        simp
      intro hblank
      have := Text.blank_iff.1 hblank c hmem
      rw [h.1] at this
      cases this
  rw [Block.indent?, if_neg]
  rw [Bool.and_eq_true]
  exact fun hboth => hlead hboth.1

/-- The blocks of a document without blocks on lines of their own have its bodies for their
contents. -/
theorem content_of_mem_segments {doc : Document m} {seen gap : Text} {line : Nat}
    (h : doc.inline seen) {b : Block} (hb : .block b ∈ doc.segments seen line gap) :
    ∃ body ∈ doc.bodies, b.content = body.print := by
  induction doc generalizing seen line gap with
  | nil => simpa [segments] using Scan.block_mem_literal_iff.1 hb
  | text t later ih => exact ih h hb
  | block s body c later _ ih =>
    rw [inline, Bool.and_eq_true, Bool.and_eq_true] at h
    rcases List.mem_cons.1 (Scan.block_mem_literal_iff.1 hb) with hb | hb
    · cases hb
      refine ⟨body, by simp [bodies], ?_⟩
      rw [Block.content, indent?_of_preceded h.1.1]
      rfl
    · obtain ⟨x, hx, hcontent⟩ := ih h.2 hb
      exact ⟨x, by simp [bodies, hx], hcontent⟩

end Document

/-! ### Rendering -/

/-- A file that can be read is handed over. -/
theorem Handler.handle_insertFile {ctx : Context} {d : Directive} {file : Text}
    (htarget : (unquote d.args).isEmpty = false)
    (hfile : ctx.read (ctx.resolve (unquote d.args)) = .ok file) (content : Text) :
    Handler.insertFile.handle ctx d content =
      pure (.insertFile (ctx.resolve (unquote d.args)) file) := by
  unfold Handler.insertFile
  dsimp only
  rw [if_neg (by rw [htarget]; exact Bool.false_ne_true), hfile]

namespace Processor

variable {p : Processor} {site : Site} (hoff : p.options.recursive = false)
  {deeper? : Option (Site → Text → Outcome Text)}

include hoff

/-- A block that counts is rendered as its plan says. -/
theorem result_handleBlock_plan {expand : Nat → Text → Outcome Text} {b : Block} {d : Directive}
    {plan : Plan} {content : Text} {body : Bool} (name : Text)
    (hcontent : body → (expand b.contentLine b.content).result = .ok content)
    (hready : plan.ready p site.baseDir d body) :
    ∃ r, (p.handleBlock site expand (p.insertFile deeper? site) b d (plan.handler name)).result =
      .ok r ∧ r.text = plan.apply p site.baseDir d content := by
  cases plan with
  | wrap before after =>
    refine ⟨⟨before ++ content ++ after, false⟩, ?_, rfl⟩
    show ((expand b.contentLine b.content) >>= _ : Outcome Rendered).result = _
    rw [Outcome.result_bind (hcontent hready)]
    rfl
  | replace text =>
    refine ⟨⟨Plan.fill p.options.environment d content text, true⟩, ?_, rfl⟩
    show ((expand b.contentLine b.content) >>= _ : Outcome Rendered).result = _
    rw [Outcome.result_bind (hcontent hready)]
    rfl
  | remove => exact ⟨⟨[], false⟩, rfl, rfl⟩
  | file =>
    rw [Plan.ready, Bool.and_eq_true, Bool.not_eq_true'] at hready
    obtain ⟨htarget, hread⟩ := hready
    cases hfile : p.read (Path.join site.baseDir (unquote d.args)) with
    | error e =>
      rw [hfile] at hread
      cases hread
    | ok file =>
      have hinsert : ∀ location path, p.insertFile deeper? site location path file =
          pure file := by
        intro location path
        rw [insertFile, hoff]
        rfl
      refine ⟨⟨Text.dropFinalBreak file, true⟩, ?_, by rw [Plan.apply, hfile]⟩
      show ((Handler.insertFile.handle (p.context site b) d b.content) >>= _ :
        Outcome Rendered).result = _
      rw [Handler.handle_insertFile htarget hfile, pure_bind, settle, hinsert, pure_bind]
      rfl

/-- A block with one directive is rendered as its plan says if it counts, and as its content
otherwise. -/
theorem result_renderBlock_plan {expand : Nat → Text → Outcome Text} {b : Block} {d : Directive}
    {plan : Plan} {name content : Text} {body : Bool} (hdirectives : b.directives = [d])
    (hget : p.registry.get? d.type = some (plan.handler name))
    (hcontent : body → (expand b.contentLine b.content).result = .ok content)
    (hready : (if p.audience.accepts d then plan.ready p site.baseDir d body else body) = true) :
    ∃ r, (p.renderBlock site expand (p.insertFile deeper? site) b).result = .ok r ∧
      r.text = if p.audience.accepts d then plan.apply p site.baseDir d content else content := by
  rw [renderBlock_of_single hdirectives hget]
  by_cases haccepts : p.audience.accepts d
  · rw [if_pos haccepts] at hready ⊢
    rw [if_pos haccepts]
    exact result_handleBlock_plan hoff name hcontent hready
  · rw [if_neg haccepts] at hready ⊢
    rw [if_neg haccepts]
    refine ⟨⟨content, false⟩, ?_, rfl⟩
    rw [Outcome.result_bind (hcontent hready)]
    rfl

/-- The segments of a document make up what it means. -/
theorem ok_addAll_denote {plan : Text → Plan} {doc : Document p.marker} (hsingle : doc.Single)
    (hcuts : ∀ body ∈ doc.bodies, p.marker.cut body.print = body.cuts [])
    (hplan : ∀ type ∈ doc.types, ∃ name, p.registry.get? type = some ((plan type).handler name))
    (hreadable : doc.readable p plan site.baseDir) {seen : Text} (hinline : doc.inline seen)
    (line : Nat) (gap : Text) {a : Assembly} (hskip : a.skip = 0) :
    ∃ page, (Assembly.addAll
        (p.renderBlock site (p.expandWithin deeper? site) (p.insertFile deeper? site))
        (doc.segments seen line gap) a).result = .ok page ∧
      page.out = a.out ++ (gap ++ doc.denote p plan site.baseDir) := by
  induction doc generalizing seen line gap a with
  | nil =>
    obtain ⟨page, hpage, hout⟩ := Assembly.addAll_literal_nil
      (p.renderBlock site (p.expandWithin deeper? site) (p.insertFile deeper? site)) gap a
    refine ⟨page, by rw [Document.segments, hpage]; rfl, ?_⟩
    rw [hout, Assembly.addLiteral, hskip, List.drop_zero, Document.denote, List.append_nil]
  | text t later ih =>
    obtain ⟨page, hpage, hout⟩ := ih hsingle hcuts hplan hreadable hinline
      (line + Text.lineFeeds t) (gap ++ t) hskip
    refine ⟨page, hpage, ?_⟩
    rw [hout, Document.denote, List.append_assoc]
  | block s body c later ihb ihl =>
    obtain ⟨hs, hbody, hlater⟩ := hsingle
    rw [Document.inline, Bool.and_eq_true, Bool.and_eq_true] at hinline
    obtain ⟨⟨hseen, hbodyInline⟩, hlaterInline⟩ := hinline
    rw [Document.readable, Bool.and_eq_true] at hreadable
    obtain ⟨hready, hlaterReadable⟩ := hreadable
    obtain ⟨name, hget⟩ := hplan s.first.directive.type (by simp [Document.types])
    rw [Document.segments, Assembly.addAll_literal_block]
    generalize hb : Document.blockOf s body.print c.comment seen later.print line = b
    have hindent : b.indent? = none := by
      rw [← hb]
      exact Document.indent?_of_preceded hseen
    have hinner : b.content = body.print := by
      rw [Block.content, hindent, ← hb]
      rfl
    have hcontent : body.readable p plan site.baseDir → (p.expandWithin deeper? site b.contentLine
        b.content).result = .ok (body.denote p plan site.baseDir) := by
      intro hbodyReadable
      obtain ⟨page, hpage, hout⟩ := ihb hbody (fun x hx => hcuts x (by simp [Document.bodies, hx]))
        (fun x hx => hplan x (by simp [Document.types, hx])) hbodyReadable hbodyInline
        b.contentLine [] (a := {}) rfl
      have hcut := hcuts body (by simp [Document.bodies])
      rw [hinner, result_expandWithin (Document.scan_of_cut hbody.wellFormed hcut _) hpage, hout]
      rfl
    have hdirectives : b.directives = [{ s.first.directive with closing := c.comment }] := by
      rw [← hb]
      simp [Document.blockOf, Block.directives, hs]
    obtain ⟨r, hr, htext⟩ : ∃ r,
        (p.renderBlock site (p.expandWithin deeper? site) (p.insertFile deeper? site) b).result =
          .ok r ∧ r.text = if p.audience.accepts s.first.directive then
              (plan s.first.directive.type).apply p site.baseDir s.first.directive
                (body.denote p plan site.baseDir)
            else body.denote p plan site.baseDir :=
      result_renderBlock_plan hoff (d := { s.first.directive with closing := c.comment })
        hdirectives hget hcontent hready
    rw [Assembly.result_addAll_block hr, Assembly.addBlock, hindent]
    obtain ⟨page, hpage, hout⟩ := ihl hlater (fun x hx => hcuts x (by simp [Document.bodies, hx]))
      (fun x hx => hplan x (by simp [Document.types, hx])) hlaterReadable hlaterInline
      (line + Text.lineFeeds (s.print ++ (body.print ++ c.comment))) []
      (a := ⟨(a.addLiteral gap).out ++ r.text, 0⟩) rfl
    refine ⟨page, hpage, ?_⟩
    rw [hout, Document.denote, htext]
    simp [Assembly.addLiteral, hskip]

end Processor

/-! ### What is scanned -/

/-- The call is about the document or one of its bodies, or about a file. -/
def Moment.Concerns {m : Marker} (doc : Document m) (k : Moment) : Prop :=
  match k.call with
  | .text t => t ∈ (doc :: doc.bodies).map Document.print
  | .block b => b.content ∈ doc.bodies.map Document.print
  | .file _ => True

namespace Moment.Concerns

variable {p : Processor} {doc : Document p.marker} {k k' : Moment}

theorem of_leads (hoff : p.options.recursive = false) (hdoc : doc.Smooth) (h : k.Concerns doc)
    (hk : Leads p k k') : k'.Concerns doc := by
  cases hk with
  | @block text b line chain depth found =>
    obtain ⟨part, hpart, rfl⟩ := List.mem_map.1 h
    have hsmooth : part.Smooth := by
      rcases List.mem_cons.1 hpart with rfl | hpart
      · exact hdoc
      · exact hdoc.body hpart
    rw [Document.scan_of_cut hsmooth.single.wellFormed hsmooth.cut_eq] at found
    obtain ⟨body, hbody, hcontent⟩ := Document.content_of_mem_segments hsmooth.inline found
    refine List.mem_map.2 ⟨body, ?_, hcontent.symm⟩
    rcases List.mem_cons.1 hpart with rfl | hpart
    · exact hbody
    · exact Document.bodies_trans hpart hbody
  | content =>
    obtain ⟨body, hbody, hcontent⟩ := List.mem_map.1 h
    exact List.mem_map.2 ⟨body, List.mem_cons_of_mem _ hbody, hcontent⟩
  | file => trivial
  | opened recursive =>
    rw [hoff] at recursive
    cases recursive

theorem of_reachable (hoff : p.options.recursive = false) (hdoc : doc.Smooth) (h : k.Concerns doc)
    (hk : Relation.ReflTransGen (Leads p) k k') : k'.Concerns doc := by
  induction hk with
  | refl => exact h
  | tail _ hstep ih => exact ih.of_leads hoff hdoc hstep

end Moment.Concerns

/-- The run comes to `outcome` and scans no text but these. -/
structure ScansOnly (texts : List Text) (outcome : Outcome Text)
    (run : Except ProcessError Text × Run) : Prop where
  result_eq : run.1 = outcome.result
  scanned : ∀ k ∈ run.2.starts, ∀ t, k.call = .text t → t ∈ texts

namespace Processor

variable {p : Processor} {plan : Text → Plan} {doc : Document p.marker}

theorem result_expand_denote (hoff : p.options.recursive = false) (hdoc : doc.Smooth)
    (hplan : ∀ type ∈ doc.types, ∃ name, p.registry.get? type = some ((plan type).handler name))
    {site : Site} (hreadable : doc.readable p plan site.baseDir) :
    (p.expand site doc.print).result = .ok (doc.denote p plan site.baseDir) := by
  refine result_expand fun deeper? => ?_
  obtain ⟨page, hpage, hout⟩ := ok_addAll_denote hoff hdoc.single
    (fun body hbody => (hdoc.body hbody).cut_eq) hplan hreadable hdoc.inline 1 [] (a := {}) rfl
  rw [result_expandWithin (Document.scan_of_cut hdoc.single.wellFormed hdoc.cut_eq 1) hpage, hout]
  rfl

theorem scansOnly_process (hoff : p.options.recursive = false) (hdoc : doc.Smooth)
    (source : Option Path) (dir : Path) (top : List Path) :
    ScansOnly ((doc :: doc.bodies).map Document.print)
      (do p.finish source (← p.expand ⟨source, dir, top⟩ doc.print))
      ((do .ofOutcome (p.finish source (← Run.expand p source dir doc.print)) : Act Text)
        { chain := top }) := by
  have hmirrors : Mirrors p (Relation.ReflTransGen (Leads p) ⟨.text doc.print, top, 0⟩) NoHandler
      { chain := top } (do .ofOutcome (p.finish source (← Run.expand p source dir doc.print)))
      (do p.finish source (← p.expand ⟨source, dir, top⟩ doc.print)) :=
    mirrors_process source dir doc.print
  obtain ⟨ks, ends, rs, hstate, -, haccount⟩ := hmirrors.state_eq
  refine ⟨hmirrors.result_eq, fun k hk t ht => ?_⟩
  rw [hstate] at hk
  have hfirst : (⟨.text doc.print, top, 0⟩ : Moment).Concerns doc :=
    List.mem_map_of_mem List.mem_cons_self
  have hconcerns := hfirst.of_reachable hoff hdoc (haccount.reached k hk)
  rw [Moment.Concerns, ht] at hconcerns
  exact hconcerns

end Processor

theorem Document.Located.cut_eq {m : Marker} {doc : Document m} (h : doc.Located) :
    m.cut doc.print = doc.cuts [] := by
  rw [Located, marks, Marker.marksFrom_eq_place, Marker.cuts_place] at h
  have htail := source_cuts doc []
  rw [List.nil_append, ← m.source_cut doc.print, ← h] at htail
  exact Prod.ext h (List.append_cancel_left htail).symm

/-- What handlers answer is final. If `recursive` is off, the template leaves texts alone, and the
blocks of a document are treated according to `plan`, each of them behind a character of its own
line, then processing comes to what the document means, and scans nothing but the document's text
and the bodies of its blocks. -/
theorem Processor.processing_denotes {p : Processor} {plan : Text → Plan}
    {doc : Document p.marker} (hoff : p.options.recursive = false)
    (htemplate : ∀ data t, (p.template.render data t).1 = t)
    (hplan : ∀ type ∈ doc.types, ∃ name, p.registry.get? type = some ((plan type).handler name))
    (hsingle : doc.Single) (hlocated : doc.Located) (hinline : doc.inline []) :
    (∀ dir, doc.readable p plan dir →
      (p.processText dir doc.print).result = .ok (doc.denote p plan dir) ∧
        ScansOnly ((doc :: doc.bodies).map Document.print) (p.processText dir doc.print)
          (Run.processText p dir doc.print)) ∧
    ∀ path, p.read path = .ok doc.print → doc.readable p plan (Path.directory path) →
      (p.processFile path).result = .ok (doc.denote p plan (Path.directory path)) ∧
        ScansOnly ((doc :: doc.bodies).map Document.print) (p.processFile path)
          (Run.processFile p path) := by
  have hdoc : doc.Smooth := ⟨hsingle, hinline, hlocated.cut_eq⟩
  have hprocess : ∀ site : Site, doc.readable p plan site.baseDir →
      (do p.finish site.source (← p.expand site doc.print) : Outcome Text).result =
        .ok (doc.denote p plan site.baseDir) := by
    intro site hreadable
    rw [Outcome.result_bind (result_expand_denote hoff hdoc hplan hreadable)]
    simp [finish, htemplate]
  refine ⟨fun dir hreadable => ?_, fun path hread hreadable => ?_⟩
  · exact ⟨hprocess ⟨none, dir, []⟩ hreadable, scansOnly_process hoff hdoc none dir []⟩
  · unfold processFile Run.processFile
    rw [hread]
    exact ⟨hprocess ⟨some path, Path.directory path, [Path.normalize path]⟩ hreadable,
      scansOnly_process hoff hdoc (some path) (Path.directory path) [Path.normalize path]⟩

/-- Text that would be removed if it were scanned. -/
def removableText : Text := "<!--build:remove-->x<!--endbuild-->".toList

/-- What becomes of four block types; whatever is written into the page looks like a directive. -/
def loudPlan (type : Text) : Plan :=
  if type = "note".toList then .wrap "<!--build:remove-->".toList "<!--endbuild-->".toList
  else if type = "tag".toList then .replace (removableText ++ "\x7bcontent\x7d/\x7bargs\x7d".toList)
  else if type = "include".toList then .file
  else .remove

/-- A processor with these block types, for files that look like directives as well. -/
def loudProcessor : Processor where
  options := { environment := some ['e'] }
  marker := .build
  registry := [(loudPlan "note".toList).handler "note".toList,
    (loudPlan "tag".toList).handler "tag".toList].foldl Registry.register .builtin
  read := fun _ => .ok (removableText ++ ['\n'])
  transform := .passthrough
  template := .identity

/-- One opening directive by itself. -/
def loneOpening (comment : String) (d : Directive)
    (h : Marker.build.classify comment.toList = .ok (.opens d)) : Document.Stack .build :=
  Document.single ⟨comment.toList, d, h⟩

/-- A `tag` block inside a `note` block, then an `include` block, and a `remove` block that does not
count around another one. -/
def loudDocument : Document .build :=
  .text ['a'] (.block (loneOpening "<!--build:note-->" _ (by rfl))
    (.text ['b'] (.block (loneOpening "<!--build:tag z-->" _ (by rfl))
      (.text ['c'] .nil) Document.endBuild .nil)) Document.endBuild
    (.block (loneOpening "<!--build:include f-->" _ (by rfl)) .nil Document.endBuild
      (.text ['d'] (.block (loneOpening "<!--build:remove(q)-->" _ (by rfl))
        (.text ['k'] (.block (loneOpening "<!--build:remove-->" _ (by rfl))
          (.text ['l'] .nil) Document.endBuild .nil)) Document.endBuild .nil))))

theorem Processor.processing_denotes_loudDocument :
    (loudProcessor.processText [] loudDocument.print).result =
        .ok (loudDocument.denote loudProcessor loudPlan []) ∧
      loudDocument.denote loudProcessor loudPlan [] =
        "a<!--build:remove-->b".toList ++ removableText ++ "c/z<!--endbuild-->".toList ++
          removableText ++ "dk".toList ∧
      ScansOnly ((loudDocument :: loudDocument.bodies).map Document.print)
        (loudProcessor.processText [] loudDocument.print)
        (Run.processText loudProcessor [] loudDocument.print) := by
  have hplan : ∀ type ∈ loudDocument.types, ∃ name,
      loudProcessor.registry.get? type = some ((loudPlan type).handler name) := by
    intro type htype
    have hnames : type ∈ ["note".toList, "tag".toList, "include".toList, "remove".toList,
        "remove".toList] := htype
    simp only [List.mem_cons, List.not_mem_nil, or_false] at hnames
    rcases hnames with rfl | rfl | rfl | rfl | rfl
    · exact ⟨"note".toList, rfl⟩
    · exact ⟨"tag".toList, rfl⟩
    · exact ⟨[], rfl⟩
    · exact ⟨[], rfl⟩
    · exact ⟨[], rfl⟩
  have hsingle : loudDocument.Single := ⟨rfl, ⟨rfl, trivial, trivial⟩, rfl, trivial, rfl,
    ⟨rfl, trivial, trivial⟩, trivial⟩
  have hlocated : loudDocument.Located := by
    show (marks .build 1 loudDocument.print).1.map Mark.cut = _
    decide +kernel
  have hinline : loudDocument.inline [] := by decide +kernel
  have hall := processing_denotes (p := loudProcessor) rfl (fun _ _ => rfl) hplan hsingle hlocated
    hinline
  obtain ⟨hresult, hscans⟩ := hall.1 [] (by decide +kernel)
  exact ⟨hresult, by decide +kernel, hscans⟩

end PageBlocks
