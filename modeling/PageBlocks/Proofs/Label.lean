import PageBlocks.Proofs.LineEnding
import PageBlocks.Proofs.Registration

/-!
# Labels that no directive lists

An environment matters to a page only through the lists of its directives. Two environments that no
directive lists, neither in the text nor in any file, are therefore the same to it, and so is having
no environment at all (`Processor.unlisted_labels_ignored`):

    <!-- build:remove(dev,test) -->      dev   counts
                                         dist  like  Dev  like  de  like  none

Both runs cut the page into the same blocks and select the same directives. The handlers that are
always there see the environment only through the data of the template, which fills nothing in. So
what differs is at most what the template has to say about its data, and that can differ
(`Processor.watchful_template_tells`).
-/

namespace PageBlocks

/-! ### Environments that are not listed -/

/-- No directive of the text is meant for the environment in particular. -/
def Marker.Unlisted (m : Marker) (environment : Option Text) (text : Text) : Prop :=
  ∀ label ∈ environment, ∀ d ∈ (marks m 1 text).1.filterMap Mark.directive?, label ∉ d.targets

namespace Marker

variable {m : Marker} {environment : Option Text} {line : Nat} {text : Text} {b : Block}

/-- The directives of a block are directives of the text, as far as their lists go. -/
theorem exists_of_mem_directives (hb : .block b ∈ (m.scan line text).segments) {d : Directive}
    (hd : d ∈ b.directives) :
    ∃ d' ∈ (marks m 1 text).1.filterMap Mark.directive?, d'.targets = d.targets := by
  rw [scan_eq_ofMarks] at hb
  obtain ⟨hmarks, hopens, -, -, -⟩ := Scan.holds_of_mem hb
  rename_i before stack inside behind k c first
  have hfound : ∀ d' : Directive, .ok (.opens d') ∈ (k :: stack).map Mark.token →
      d' ∈ (marks m 1 text).1.filterMap Mark.directive? := by
    intro d' hd'
    refine Mark.mem_directives ?_
    rw [tokens_marks, ← tokens_marks m line, hmarks, List.map_append]
    refine List.mem_append_right _ ?_
    rw [← List.cons_append, List.map_append]
    exact List.mem_append_left _ hd'
  rcases List.mem_cons.1 hd with rfl | hd
  · exact ⟨first, hfound first (by simp [hopens]), rfl⟩
  · obtain ⟨d', hd', rfl⟩ := List.mem_map.1 hd
    exact ⟨d', hfound d' (List.mem_cons_of_mem _ (Mark.mem_tokens hd')), rfl⟩

namespace Unlisted

variable (h : m.Unlisted environment text) (hb : .block b ∈ (m.scan line text).segments)
include h hb

theorem directives {d : Directive} (hd : d ∈ b.directives) :
    ∀ label ∈ environment, label ∉ d.targets := by
  intro label hlabel
  obtain ⟨d', hd', htargets⟩ := exists_of_mem_directives hb hd
  rw [← htargets]
  exact h label hlabel d' hd'

theorem content : m.Unlisted environment b.content := by
  intro label hlabel d hd
  exact h label hlabel d (Mark.mem_directives (mem_tokens_content hb (Mark.mem_tokens hd)))

end Unlisted

end Marker

/-- Whether a directive counts does not depend on an environment that it does not list. -/
theorem Audience.accepts_of_unlisted {strip : Bool} {environment : Option Text} {d : Directive}
    (h : ∀ label ∈ environment, label ∉ d.targets) :
    accepts ⟨environment, strip⟩ d = accepts ⟨none, strip⟩ d := by
  cases environment with
  | none => rfl
  | some label =>
    have hlabel : label ∉ d.targets := h label rfl
    simp [accepts, hlabel]

/-! ### Two runs -/

namespace Outcome

variable {α β : Type} {c : Prop}

/-- Both come to the same value or to the same error, and what was noted is the same if `c`
holds. -/
structure Same (c : Prop) (x y : Outcome α) : Prop where
  result_eq : y.result = x.result
  notices_eq : c → y.notices = x.notices

namespace Same

theorem refl (x : Outcome α) : Same c x x := ⟨rfl, fun _ => rfl⟩

theorem eq {x y : Outcome α} (h : Same c x y) (hc : c) : y = x := by
  obtain ⟨result, notices⟩ := x
  obtain ⟨result', notices'⟩ := y
  rw [show result' = result from h.result_eq, show notices' = notices from h.notices_eq hc]

/-- Runs are the same when their steps are. -/
theorem bind {x y : Outcome α} {f g : α → Outcome β} (hxy : Same c x y)
    (hfg : ∀ a, x.result = .ok a → Same c (f a) (g a)) : Same c (x >>= f) (y >>= g) := by
  cases hx : x.result with
  | error e =>
    have hy : y.result = .error e := hxy.result_eq.trans hx
    rw [bind_of_error hx, bind_of_error hy]
    exact ⟨rfl, hxy.notices_eq⟩
  | ok a =>
    have hy : y.result = .ok a := hxy.result_eq.trans hx
    have hstep := hfg a hx
    rw [bind_of_ok hx, bind_of_ok hy]
    refine ⟨hstep.result_eq, fun hc => ?_⟩
    show y.notices ++ (g a).notices = x.notices ++ (f a).notices
    rw [hxy.notices_eq hc, hstep.notices_eq hc]

end Same

end Outcome

open Outcome (Same)

/-- Pages are the same when their blocks are rendered to the same. -/
theorem Assembly.same_addAll {c : Prop} {f g : Block → Outcome Rendered} {segments : List Segment}
    (h : ∀ b, .block b ∈ segments → Same c (f b) (g b)) (a : Assembly) :
    Same c (addAll f segments a) (addAll g segments a) := by
  induction segments generalizing a with
  | nil => exact .refl _
  | cons s later ih =>
    have hlater : ∀ b, .block b ∈ later → Same c (f b) (g b) :=
      fun b hb => h b (List.mem_cons_of_mem _ hb)
    cases s with
    | literal t => exact ih hlater _
    | block b => exact (h b List.mem_cons_self).bind fun r _ => ih hlater _

namespace Processor

variable {p : Processor} {e e' : Option Text} {c : Prop}

/-- The same processor, for another environment. -/
def forEnvironment (p : Processor) (e : Option Text) : Processor :=
  { p with options := { p.options with environment := e } }

/-- Setting up for another environment changes nothing else. -/
theorem ofOptions_forEnvironment (options : Options) (read : ReadFile) (transform : Transform)
    (template? : Option Template) (e : Option Text) :
    ofOptions { options with environment := e } read transform template? =
      (ofOptions options read transform template?).map (·.forEnvironment e) := by
  unfold ofOptions
  dsimp only
  cases Marker.ofText? options.marker with
  | none => rfl
  | some marker =>
    dsimp only
    split
    · rfl
    · split <;> rfl

/-- The template has the same to say about every text in both environments. -/
def WarnsAlike (p : Processor) (e e' : Option Text) : Prop :=
  ∀ t, (p.template.render (p.forEnvironment e').options.templateData t).2 =
    (p.template.render (p.forEnvironment e).options.templateData t).2

section

variable (htemplate : ∀ data t, (p.template.render data t).1 = t)
include htemplate

/-- A template that leaves texts alone comes to the same in both environments. -/
theorem same_render (warn : Warning → Notice) (t : Text) :
    Same (p.WarnsAlike e e')
      ⟨.ok (p.template.render (p.forEnvironment e).options.templateData t).1,
        (p.template.render (p.forEnvironment e).options.templateData t).2.map warn⟩
      ⟨.ok (p.template.render (p.forEnvironment e').options.templateData t).1,
        (p.template.render (p.forEnvironment e').options.templateData t).2.map warn⟩ where
  result_eq := by rw [htemplate, htemplate]
  notices_eq := fun halike => congrArg (List.map warn) (halike t)

/-- The handlers that are always there answer the same in both environments. -/
theorem same_handle {g : Handler} (hg : g ∈ Registry.builtin.handlers) (site : Site) (b : Block)
    (d : Directive) (content : Text) :
    Same (p.WarnsAlike e e') (g.handle ((p.forEnvironment e).context site b) d content)
      (g.handle ((p.forEnvironment e').context site b) d content) := by
  rcases mem_builtin hg with rfl | rfl | ⟨kind, rfl⟩ | rfl | rfl
  · exact .refl _
  · exact .refl _
  · exact .refl _
  · exact .refl _
  · exact (same_render htemplate (Context.warn _) content).bind fun _ _ => .refl _

end

/-- The only files that take the place of blocks are files that were read. -/
theorem read_of_insertFile {g : Handler} (hg : g ∈ Registry.builtin.handlers) {ctx : Context}
    {d : Directive} {content : Text} {path : Path} {file : Text}
    (h : (g.handle ctx d content).result = .ok (.insertFile path file)) :
    ctx.read path = .ok file := by
  rcases mem_builtin hg with rfl | rfl | ⟨kind, rfl⟩ | rfl | rfl
  · cases h
  · obtain ⟨file', hfile, hout⟩ := insertFile_of_handle h
    cases hout
    exact hfile
  · unfold Handler.asset at h
    dsimp only at h
    split at h
    · split at h <;> cases h
    · split at h
      · cases h
      · split at h <;> cases h
  · unfold Handler.setAttribute at h
    dsimp only at h
    split at h
    · cases h
    · split at h
      · cases h
      · split at h <;> cases h
  · cases h

variable {deeper? deeper?' : Option (Site → Text → Outcome Text)}

/-- Files one level down come to the same in both environments, if their directives list neither. -/
def ServedAlike (p : Processor) (e e' : Option Text) (c : Prop) :
    (deeper? deeper?' : Option (Site → Text → Outcome Text)) → Prop
  | none, none => True
  | some expand, some expand' => ∀ site text, p.marker.Unlisted e text →
      p.marker.Unlisted e' text → Same c (expand site text) (expand' site text)
  | _, _ => False

theorem same_insertFile (hdeeper : p.ServedAlike e e' c deeper? deeper?') (site : Site)
    (location : Location) (path : Path) {file : Text} (hfile : p.marker.Unlisted e file)
    (hfile' : p.marker.Unlisted e' file) :
    Same c ((p.forEnvironment e).insertFile deeper? site location path file)
      ((p.forEnvironment e').insertFile deeper?' site location path file) := by
  show Same c (p.insertFile deeper? site location path file)
    (p.insertFile deeper?' site location path file)
  unfold insertFile
  by_cases hplain : (!p.options.recursive) = true
  · rw [if_pos hplain, if_pos hplain]
    exact .refl _
  rw [if_neg hplain, if_neg hplain]
  by_cases hopen : site.chain.contains (Path.normalize path) = true
  · rw [if_pos hopen, if_pos hopen]
    exact .refl _
  rw [if_neg hopen, if_neg hopen]
  cases deeper? with
  | none =>
    cases deeper?' with
    | none => exact .refl _
    | some expand' => exact hdeeper.elim
  | some expand =>
    cases deeper?' with
    | none => exact hdeeper.elim
    | some expand' => exact hdeeper _ file hfile hfile'

section

variable (hregistry : p.registry = .builtin)
  (htemplate : ∀ data t, (p.template.render data t).1 = t)
include hregistry htemplate

/-- A block that comes to the same content in both environments, and whose directives list neither,
is rendered to the same. -/
theorem same_renderBlock {site : Site} {b : Block}
    (hlists : ∀ d ∈ b.directives, ∀ label ∈ e, label ∉ d.targets)
    (hlists' : ∀ d ∈ b.directives, ∀ label ∈ e', label ∉ d.targets)
    {expand expand' : Nat → Text → Outcome Text}
    {insert insert' : Location → Path → Text → Outcome Text}
    (hexpand : Same (p.WarnsAlike e e') (expand b.contentLine b.content)
      (expand' b.contentLine b.content))
    (hinsert : ∀ location path file, p.read path = .ok file →
      Same (p.WarnsAlike e e') (insert location path file) (insert' location path file)) :
    Same (p.WarnsAlike e e') ((p.forEnvironment e).renderBlock site expand insert b)
      ((p.forEnvironment e').renderBlock site expand' insert' b) := by
  have hselect : (p.forEnvironment e').audience.select? b.directives =
      (p.forEnvironment e).audience.select? b.directives := by
    rw [Audience.select?, Audience.select?, ← List.head?_filter, ← List.head?_filter]
    refine congrArg List.head? (List.filter_congr fun d hd => ?_)
    exact (Audience.accepts_of_unlisted (hlists' d hd)).trans
      (Audience.accepts_of_unlisted (hlists d hd)).symm
  -- What a handler that is always there answers is followed up in the same way.
  have hsettle : ∀ (g : Handler), g ∈ Registry.builtin.handlers → ∀ d content,
      ∀ kept kept' : Outcome Text, Same (p.WarnsAlike e e') kept kept' →
      Same (p.WarnsAlike e e')
        (g.handle ((p.forEnvironment e).context site b) d content >>=
          settle (insert ⟨site.source, b.line⟩) kept)
        (g.handle ((p.forEnvironment e').context site b) d content >>=
          settle (insert' ⟨site.source, b.line⟩) kept') := by
    intro g hg d content kept kept' hkept
    refine (same_handle htemplate hg site b d content).bind fun out hout => ?_
    cases out with
    | keep => exact hkept.bind fun _ _ => .refl _
    | drop => exact .refl _
    | edit text => exact .refl _
    | replace text => exact .refl _
    | insertFile path file =>
      have hread : p.read path = .ok file := read_of_insertFile hg hout
      exact (hinsert _ path file hread).bind fun _ _ => .refl _
  rw [renderBlock_eq, renderBlock_eq, hselect]
  simp only [show (p.forEnvironment e).registry = .builtin from hregistry,
    show (p.forEnvironment e').registry = .builtin from hregistry]
  cases b.directives.find? fun d => !Registry.builtin.contains d.type with
  | some d => exact .refl _
  | none =>
    dsimp only
    cases (p.forEnvironment e).audience.select? b.directives with
    | none => exact hexpand.bind fun _ _ => .refl _
    | some d =>
      dsimp only
      cases hget : Registry.builtin.get? d.type with
      | none => exact .refl _
      | some g =>
        have hg := Registry.mem_of_get? hget
        simp only [handleBlock]
        split
        · exact hexpand.bind fun content _ => hsettle g hg d content _ _ (.refl _)
        · exact hsettle g hg d b.content _ _ hexpand

variable (hfiles : ∀ path file, p.read path = .ok file →
  p.marker.Unlisted e file ∧ p.marker.Unlisted e' file)
include hfiles

theorem same_expandWithin (hdeeper : p.ServedAlike e e' (p.WarnsAlike e e') deeper? deeper?')
    {site : Site} {line : Nat} {text : Text} (htext : p.marker.Unlisted e text)
    (htext' : p.marker.Unlisted e' text) :
    Same (p.WarnsAlike e e') ((p.forEnvironment e).expandWithin deeper? site line text)
      ((p.forEnvironment e').expandWithin deeper?' site line text) := by
  rw [expandWithin_eq, expandWithin_eq]
  refine (Assembly.same_addAll (fun b hb => ?_) {}).bind fun page _ => .refl _
  have hshorter : b.content.length < text.length := Marker.length_content_lt hb
  refine same_renderBlock hregistry htemplate (fun _ hd => htext.directives hb hd)
    (fun _ hd => htext'.directives hb hd)
    (same_expandWithin hdeeper (htext.content hb) (htext'.content hb)) ?_
  intro location path file hread
  exact same_insertFile hdeeper site location path (hfiles path file hread).1
    (hfiles path file hread).2
termination_by text.length

theorem servedAlike_below (levels : Nat) :
    p.ServedAlike e e' (p.WarnsAlike e e') ((p.forEnvironment e).below levels)
      ((p.forEnvironment e').below levels) := by
  induction levels with
  | zero => trivial
  | succ levels ih =>
    intro site file hfile hfile'
    show Same _ ((p.forEnvironment e).expandAt levels site 1 file)
      ((p.forEnvironment e').expandAt levels site 1 file)
    rw [expandAt_eq, expandAt_eq]
    exact same_expandWithin hregistry htemplate hfiles ih hfile hfile'

/-- The whole work on a text, with the placeholders of the page. -/
theorem same_process (source : Option Path) {site : Site} {text : Text}
    (htext : p.marker.Unlisted e text) (htext' : p.marker.Unlisted e' text) :
    Same (p.WarnsAlike e e')
      ((p.forEnvironment e).expand site text >>= (p.forEnvironment e).finish source)
      ((p.forEnvironment e').expand site text >>= (p.forEnvironment e').finish source) := by
  refine Same.bind ?_ fun page _ => same_render htemplate (.page source) page
  rw [expand, expand, expandAt_eq, expandAt_eq]
  exact same_expandWithin hregistry htemplate hfiles
    (servedAlike_below hregistry htemplate hfiles _) htext htext'

/-- Environments that no directive lists cannot be told apart. If the types of blocks are the usual
ones and the template leaves texts alone, and if no directive of the text or of a file is meant for
`e` or for `e'`, then processing comes to the same value or the same error under both, and if the
template has the same to say in both, then all that is noted is the same, too. The same goes for
what is set up from options that differ in nothing but the environment. -/
theorem unlisted_labels_ignored {text : Text} (htext : p.marker.Unlisted e text)
    (htext' : p.marker.Unlisted e' text) :
    (∀ dir, Same (p.WarnsAlike e e') ((p.forEnvironment e).processText dir text)
      ((p.forEnvironment e').processText dir text)) ∧
    (∀ path, Same (p.WarnsAlike e e') ((p.forEnvironment e).processFile path)
      ((p.forEnvironment e').processFile path)) ∧
    ∀ options read transform template?, ofOptions options read transform template? = .ok p →
      ofOptions { options with environment := e } read transform template? =
          .ok (p.forEnvironment e) ∧
        ofOptions { options with environment := e' } read transform template? =
          .ok (p.forEnvironment e') := by
  refine ⟨fun dir => same_process hregistry htemplate hfiles none htext htext', fun path => ?_, ?_⟩
  · unfold processFile
    simp only [show (p.forEnvironment e).read = p.read from rfl,
      show (p.forEnvironment e').read = p.read from rfl]
    cases hread : p.read path with
    | error cause => cases cause <;> exact .refl _
    | ok file =>
      obtain ⟨hfile, hfile'⟩ := hfiles path file hread
      exact same_process hregistry htemplate hfiles (some path) hfile hfile'
  · intro options read transform template? hp
    constructor
    · rw [ofOptions_forEnvironment, hp]
      rfl
    · rw [ofOptions_forEnvironment, hp]
      rfl

end

/-- A processor that also processes the one file, `a`, and whose template repeats every page. -/
def labelledProcessor : Processor where
  options := { recursive := true }
  marker := .build
  registry := .builtin
  read := fun path =>
    if path = ['a'] then .ok "<!--build:remove(d)-->A<!--endbuild-->".toList
    else .error (.notFound path)
  transform := .passthrough
  template := ⟨fun _ t => (t, [.note t])⟩

/-- A page that includes `a`, and that is about the environments `d` and `t`. -/
def labelledPage : Text :=
  "<!--build:include a--><!--endbuild--> <!--build:remove(d,t)-->x<!--endbuild-->".toList

theorem unlisted_labels_ignored_labelledPage :
    ((labelledProcessor.forEnvironment (some ['D'])).processText [] labelledPage).result =
        .ok ['A', ' ', 'x'] ∧
      (labelledProcessor.forEnvironment none).processText [] labelledPage =
        (labelledProcessor.forEnvironment (some ['D'])).processText [] labelledPage := by
  have hfile : labelledProcessor.marker.Unlisted (some ['D'])
      "<!--build:remove(d)-->A<!--endbuild-->".toList := by
    rintro label ⟨rfl⟩
    decide +kernel
  have htext : labelledProcessor.marker.Unlisted (some ['D']) labelledPage := by
    rintro label ⟨rfl⟩
    decide +kernel
  have hnone : ∀ text, labelledProcessor.marker.Unlisted none text := fun _ _ h => by cases h
  have hfiles : ∀ path file, labelledProcessor.read path = .ok file →
      labelledProcessor.marker.Unlisted (some ['D']) file ∧
        labelledProcessor.marker.Unlisted none file := by
    intro path file hread
    simp only [labelledProcessor] at hread
    split at hread
    · cases hread
      exact ⟨hfile, hnone _⟩
    · cases hread
  have hall := unlisted_labels_ignored (p := labelledProcessor) rfl (fun _ _ => rfl) hfiles htext
    (hnone _)
  exact ⟨by decide +kernel, (hall.1 []).eq fun _ => rfl⟩

/-- A processor whose template leaves all texts alone and notes those that are rendered for no
environment. -/
def watchfulProcessor : Processor where
  options := {}
  marker := .build
  registry := .builtin
  read := fun path => .error (.notFound path)
  transform := .passthrough
  template := ⟨fun data t =>
    (t, if (data.lookup? "environment".toList).isNone then [.note t] else [])⟩

/-- What such a template notes tells environments apart, although it leaves all texts alone and
there are no directives at all. -/
theorem watchful_template_tells :
    (∀ data t, (watchfulProcessor.template.render data t).1 = t) ∧
      watchfulProcessor.registry = .builtin ∧
      (∀ path file, watchfulProcessor.read path ≠ .ok file) ∧
      watchfulProcessor.marker.Unlisted (some ['d']) ['x'] ∧
      watchfulProcessor.marker.Unlisted none ['x'] ∧
      ((watchfulProcessor.forEnvironment (some ['d'])).processText [] ['x']).notices = [] ∧
      ((watchfulProcessor.forEnvironment none).processText [] ['x']).notices =
        [.page none (.note ['x'])] := by
  have hread : ∀ path file, watchfulProcessor.read path ≠ .ok file := fun _ _ h => by cases h
  have hunlisted : watchfulProcessor.marker.Unlisted (some ['d']) ['x'] := by
    rintro label ⟨rfl⟩
    decide +kernel
  have hnone : watchfulProcessor.marker.Unlisted none ['x'] := fun _ h => by cases h
  exact ⟨fun _ _ => rfl, rfl, hread, hunlisted, hnone, by decide +kernel, by decide +kernel⟩

end Processor

end PageBlocks
