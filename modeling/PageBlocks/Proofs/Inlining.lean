import PageBlocks.Proofs.Inclusion
import PageBlocks.Proofs.Partition
import PageBlocks.Proofs.Pieces
import PageBlocks.Proofs.ReferenceTag

/-!
# Inlining, and what comes of it when it fails

A block about scripts or stylesheets with the word `inline` has files written into the page. With a
path behind the word the file takes the place of the block; without one the tags in the content are
replaced, each by the file that it refers to, and the content is processed before that:

    inline a.js     load ──→ element                 inline     content, processed
                      └────→ content, processed                 tag ─ load ─→ element
                                                                       └────→ tag

Whether a file can be had is a question for the reader and the transform (`Loads`, `LoadFails`).
When it cannot, there is a warning and everything stays as it was, so a block for which all fails is
what it would be if it were kept (`Processor.inlining_falls_back`).
-/

namespace PageBlocks

namespace Handler

variable {ctx : Context} {kind : AssetKind} {reference body : Text} {w : Warning}

/-! ### Loading -/

/-- What a reference comes to when all goes well: the file is not remote, it can be read, and the
transform takes it. -/
inductive Loads (ctx : Context) (kind : AssetKind) (reference : Text) : Text → Prop where
  | intro {content body : Text} (near : isRemote reference = false)
      (read : ctx.read (ctx.resolve (localPath reference)) = .ok content)
      (taken : ctx.transform kind content = .ok body) : Loads ctx kind reference body

/-- What can be in the way of a reference. -/
inductive LoadFails (ctx : Context) (kind : AssetKind) (reference : Text) : Warning → Prop where
  | remote (far : isRemote reference = true) :
      LoadFails ctx kind reference (.remoteAsset kind reference)
  | unreadable {cause : ReadError} (near : isRemote reference = false)
      (read : ctx.read (ctx.resolve (localPath reference)) = .error cause) :
      LoadFails ctx kind reference
        (.unreadableAsset kind (ctx.resolve (localPath reference)) cause)
  | refused {content : Text} {cause : TransformError} (near : isRemote reference = false)
      (read : ctx.read (ctx.resolve (localPath reference)) = .ok content)
      (refused : ctx.transform kind content = .error cause) :
      LoadFails ctx kind reference (.failedTransform (ctx.resolve (localPath reference)) cause)

theorem loads_of_loadAsset (h : loadAsset ctx kind reference = .ok body) :
    Loads ctx kind reference body := by
  unfold loadAsset at h
  split at h
  · cases h
  · rename_i hnear
    dsimp only at h
    split at h
    · cases h
    · rename_i content hread
      split at h
      · rename_i body' htaken
        cases h
        exact .intro (by simpa using hnear) hread htaken
      · cases h

theorem loadFails_iff :
    LoadFails ctx kind reference w ↔ loadAsset ctx kind reference = .error w := by
  constructor
  · intro h
    cases h with
    | remote far => simp only [loadAsset, far, if_true]
    | unreadable near read => simp only [loadAsset, near, Bool.false_eq_true, if_false, read]
    | refused near read refused =>
      simp only [loadAsset, near, Bool.false_eq_true, if_false, read, refused]
  · intro h
    unfold loadAsset at h
    split at h
    · rename_i hfar
      cases h
      exact .remote hfar
    · rename_i hnear
      dsimp only at h
      split at h
      · rename_i cause hread
        cases h
        exact .unreadable (by simpa using hnear) hread
      · rename_i content hread
        split at h
        · cases h
        · rename_i cause hrefused
          cases h
          exact .refused (by simpa using hnear) hread hrefused

/-! ### Tags in a content -/

/-- The reference of a piece that is a tag. -/
def reference? : Text.Piece Text → Option Text
  | .char _ => none
  | .found _ reference => some reference

/-- The references of the tags in a content, in order. -/
def references (kind : AssetKind) (content : Text) : List Text :=
  (kind.pieces content).filterMap reference?

/-- The content with the tags inlined whose files can be had: each tag refers to one of `refs`, and
each of the others has a warning in `ws`. -/
inductive Inlines (ctx : Context) (kind : AssetKind) :
    (content : Text) → (refs : List Text) → (out : Text) → (ws : List Warning) → Prop where
  | done : Inlines ctx kind [] [] [] []
  | plain {c : Char} {t : Text} {refs : List Text} {out : Text} {ws : List Warning}
      (free : ∀ attrs reference tag r, kind.Tag attrs reference tag → c :: t ≠ tag ++ r)
      (later : Inlines ctx kind t refs out ws) : Inlines ctx kind (c :: t) refs (c :: out) ws
  | inlined {tag t reference body : Text} {refs : List Text} {out : Text} {ws : List Warning}
      (first : kind.First reference tag t) (loads : Loads ctx kind reference body)
      (later : Inlines ctx kind t refs out ws) :
      Inlines ctx kind (tag ++ t) (reference :: refs) (kind.inlineElement body ++ out) ws
  | left {tag t reference : Text} {w : Warning} {refs : List Text} {out : Text}
      {ws : List Warning} (first : kind.First reference tag t)
      (fails : LoadFails ctx kind reference w) (later : Inlines ctx kind t refs out ws) :
      Inlines ctx kind (tag ++ t) (reference :: refs) (tag ++ out) (w :: ws)

theorem picks_pieces (kind : AssetKind) (content : Text) :
    Text.Picks kind.tagAt? content (kind.pieces content) := by
  refine Text.picks_recognise ?_ content
  intro t n reference hfound
  obtain ⟨tag, r, rfl, rfl, attrs, htag, -⟩ := AssetKind.tagAt?_eq_some_iff.1 hfound
  exact ⟨List.length_pos_iff.2 htag.ne_nil, by simp⟩

/-- Going through the pieces of a content inlines what can be inlined, and warns about the rest. -/
theorem inlines_of_picks {content : Text} {ps : List (Text.Piece Text)}
    (h : Text.Picks kind.tagAt? content ps) :
    Inlines ctx kind content (ps.filterMap reference?) (ps.flatMap (inlinePiece ctx kind))
      (ps.filterMap (inlineWarning? ctx kind)) := by
  induction h with
  | nil => exact .done
  | char free picks ih =>
    exact .plain (fun _ _ _ _ htag => AssetKind.tagAt?_eq_none_iff.1 free _ _ _ _ htag) ih
  | @found source t reference later nonempty starts picks ih =>
    have hfirst : kind.First reference source t := by
      obtain ⟨tag, r, ht, hlength, hfirst⟩ := AssetKind.tagAt?_eq_some_iff.1 starts
      obtain ⟨rfl, rfl⟩ := List.append_inj ht hlength
      exact hfirst
    cases hload : loadAsset ctx kind reference with
    | ok body =>
      simpa [reference?, inlinePiece, inlineWarning?, hload] using
        Inlines.inlined hfirst (loads_of_loadAsset hload) ih
    | error w =>
      simpa [reference?, inlinePiece, inlineWarning?, hload] using
        Inlines.left hfirst (loadFails_iff.2 hload) ih

theorem not_loads_of_loadFails (hw : LoadFails ctx kind reference w) :
    ¬ Loads ctx kind reference body := by
  intro hbody
  cases hbody with
  | intro near read taken =>
    cases hw with
    | remote far => simp [near] at far
    | unreadable _ read' => simp [read] at read'
    | refused _ read' refused =>
      rw [read] at read'
      obtain rfl := Except.ok.inj read'
      simp [taken] at refused

/-- When no file can be had, all stays as it was, with a warning about each reference. -/
theorem Inlines.of_fails {content out : Text} {refs : List Text} {ws : List Warning}
    (h : Inlines ctx kind content refs out ws)
    (hfails : ∀ reference ∈ refs, ∃ w, LoadFails ctx kind reference w) :
    out = content ∧ List.Forall₂ (LoadFails ctx kind) refs ws := by
  induction h with
  | done => exact ⟨rfl, .nil⟩
  | plain free later ih =>
    obtain ⟨rfl, hws⟩ := ih hfails
    exact ⟨rfl, hws⟩
  | inlined first loads later ih =>
    obtain ⟨w, hw⟩ := hfails _ List.mem_cons_self
    exact absurd loads (not_loads_of_loadFails hw)
  | left first fails later ih =>
    obtain ⟨rfl, hws⟩ := ih fun reference hmem => hfails reference (List.mem_cons_of_mem _ hmem)
    exact ⟨rfl, .cons fails hws⟩

end Handler

namespace Processor

open Handler (Loads LoadFails Inlines references afterInline? loadAsset)

variable {p : Processor} {kind : AssetKind} {levels : Nat} {site : Site} {line : Nat} {text : Text}
  {b : Block} {d : Directive}

/-! ### Blocks about assets -/

theorem get?_asset (kind : AssetKind) :
    Registry.builtin.get? kind.name.toList = some (.asset kind) := by
  cases kind <;> rfl

/-- When a directive counts whose type is that of an asset, the handler of these assets takes care
of the block. -/
theorem renderAt_asset (hregistry : p.registry = .builtin)
    (hb : .block b ∈ (p.marker.scan line text).segments)
    (hd : p.audience.select? b.directives = some d) (htype : d.type = kind.name.toList) :
    p.renderAt levels site b = p.handleBlock site (p.expandAt levels site)
      (p.insertFile (p.below levels) site) b d (.asset kind) := by
  have hget : p.registry.get? d.type = some (.asset kind) := by
    rw [hregistry, htype, get?_asset]
  have hknown : (b.directives.find? fun d => !p.registry.contains d.type) = none := by
    rw [List.find?_eq_none]
    intro d' hd'
    have htypes : d'.type = d.type :=
      (Marker.directives_alike hb d' hd').1.trans
        (Marker.directives_alike hb d (List.mem_of_find?_eq_some hd)).1.symm
    simp [Registry.contains, htypes, hget]
  rw [renderAt, renderBlock_eq, hknown]
  simp only [hd, hget]

/-- A block none of whose directives counts is kept. -/
theorem renderAt_of_select?_eq_none (hknown : ∀ d ∈ b.directives, p.registry.contains d.type)
    (hd : p.audience.select? b.directives = none) :
    p.renderAt levels site b = do
      return ⟨← p.expandAt levels site b.contentLine b.content, false⟩ := by
  have hfind : (b.directives.find? fun d => !p.registry.contains d.type) = none := by
    rw [List.find?_eq_none]
    intro d hmem
    simp [hknown d hmem]
  rw [renderAt, renderBlock_eq, hfind]
  simp only [hd]

variable {expand : Nat → Text → Outcome Text} {insert : Location → Path → Text → Outcome Text}

theorem settle_keep (insert : Path → Text → Outcome Text) (kept : Outcome Text) :
    settle insert kept .keep = ⟨kept.result.map (⟨·, false⟩), kept.notices⟩ := by
  obtain ⟨result, notices⟩ := kept
  cases result with
  | error e => rfl
  | ok t => simp [settle, bind, Outcome.andThen, pure, Outcome.value, Except.map]

theorem handleBlock_late {g : Handler} (h : g.readsContent d = false) :
    p.handleBlock site expand insert b d g =
      g.handle (p.context site b) d b.content >>=
        settle (insert ⟨site.source, b.line⟩) (expand b.contentLine b.content) := by
  simp only [handleBlock, h, Bool.false_eq_true, if_false]

theorem handleBlock_early {g : Handler} (h : g.readsContent d = true) :
    p.handleBlock site expand insert b d g =
      expand b.contentLine b.content >>= fun content =>
        g.handle (p.context site b) d content >>=
          settle (insert ⟨site.source, b.line⟩) (pure content) := by
  simp only [handleBlock, h, if_true]

/-- Without the word `inline` a block fails only when its content does. -/
theorem error_of_link (hlink : afterInline? d.args = none) {e : ProcessError}
    (h : (p.handleBlock site expand insert b d (.asset kind)).result = .error e) :
    (expand b.contentLine b.content).result = .error e := by
  have hlate : (Handler.asset kind).readsContent d = false := by
    simp only [Handler.asset, hlink, Option.any_none]
  rw [handleBlock_late hlate] at h
  by_cases htarget : (unquote d.args).isEmpty = true
  · have hkeep : ((Handler.asset kind).handle (p.context site b) d b.content).result =
        .ok .keep := by
      simp only [Handler.asset, hlink, htarget, if_true]
    rw [Outcome.result_bind hkeep, settle_keep] at h
    cases hkept : (expand b.contentLine b.content).result with
    | error e' =>
      rw [hkept] at h
      cases h
      rfl
    | ok t =>
      rw [hkept] at h
      cases h
  · have htag : ((Handler.asset kind).handle (p.context site b) d b.content).result =
        .ok (.replace (kind.referenceTag (unquote d.args))) := by
      simp only [Handler.asset, hlink, htarget]
      rfl
    rw [Outcome.result_bind htag] at h
    cases h

/-- With a path behind the word, the file is what the block becomes, or its content is. -/
theorem handleBlock_path {rest : Text} (hrest : afterInline? d.args = some rest)
    (hpath : unquote rest ≠ []) :
    p.handleBlock site expand insert b d (.asset kind) =
      match loadAsset (p.context site b) kind (unquote rest) with
      | .ok body => ⟨.ok ⟨kind.inlineElement body, true⟩, []⟩
      | .error w => ⟨(expand b.contentLine b.content).result.map (⟨·, false⟩),
          (p.context site b).warn w :: (expand b.contentLine b.content).notices⟩ := by
  have hempty : (unquote rest).isEmpty = false := List.isEmpty_eq_false_iff.2 hpath
  have hlate : (Handler.asset kind).readsContent d = false := by
    simp only [Handler.asset, hrest, Option.any_some, hempty]
  rw [handleBlock_late hlate]
  simp only [Handler.asset, hrest, hempty, Bool.false_eq_true, if_false]
  cases loadAsset (p.context site b) kind (unquote rest) with
  | ok body => rfl
  | error w =>
    dsimp only
    rw [Outcome.bind_of_ok rfl, settle_keep]
    rfl

/-- Without a path, the tags in the processed content become what they refer to. -/
theorem handleBlock_bare {rest : Text} (hrest : afterInline? d.args = some rest)
    (hbare : unquote rest = []) :
    p.handleBlock site expand insert b d (.asset kind) =
      match (expand b.contentLine b.content).result with
      | .error e => ⟨.error e, (expand b.contentLine b.content).notices⟩
      | .ok content =>
        let pieces := kind.pieces content
        ⟨.ok ⟨pieces.flatMap (Handler.inlinePiece (p.context site b) kind), false⟩,
          (expand b.contentLine b.content).notices ++
            (pieces.filterMap (Handler.inlineWarning? (p.context site b) kind)).map
              (p.context site b).warn⟩ := by
  have hempty : (unquote rest).isEmpty = true := List.isEmpty_iff.2 hbare
  have hearly : (Handler.asset kind).readsContent d = true := by
    simp only [Handler.asset, hrest, Option.any_some, hempty]
  rw [handleBlock_early hearly]
  simp only [Handler.asset, hrest, hempty, if_true]
  cases hkept : (expand b.contentLine b.content).result with
  | error e => rw [Outcome.bind_of_error hkept]
  | ok content =>
    rw [Outcome.bind_of_ok hkept, Outcome.bind_of_ok rfl]
    simp [settle, pure, Outcome.value]

/-- A block about assets fails only when its content does. -/
theorem error_of_asset {e : ProcessError}
    (h : (p.handleBlock site expand insert b d (.asset kind)).result = .error e) :
    (expand b.contentLine b.content).result = .error e := by
  cases hargs : afterInline? d.args with
  | none => exact error_of_link hargs h
  | some rest =>
    by_cases hbare : unquote rest = []
    · rw [handleBlock_bare hargs hbare] at h
      split at h
      · rename_i hkept
        cases h
        exact hkept
      · cases h
    · rw [handleBlock_path hargs hbare] at h
      split at h
      · cases h
      · cases hkept : (expand b.contentLine b.content).result with
        | error e' =>
          rw [hkept] at h
          cases h
          rfl
        | ok t =>
          rw [hkept] at h
          cases h

/-- The references that a block tries to load: the path behind the word, or else those in its
content, which is looked at when it could be processed. -/
def attempts (kind : AssetKind) (rest : Text) (kept : Outcome Text) : List Text :=
  if unquote rest = [] then
    match kept.result with
    | .ok content => references kind content
    | .error _ => []
  else [unquote rest]

/-- When no file can be had, there is nothing in a block but its content. -/
theorem kept_of_fails {rest : Text} (hrest : afterInline? d.args = some rest)
    (hfails : ∀ reference ∈ attempts kind rest (expand b.contentLine b.content),
      ∃ w, LoadFails (p.context site b) kind reference w) :
    (p.handleBlock site expand insert b d (.asset kind)).result =
        (expand b.contentLine b.content).result.map (⟨·, false⟩) ∧
      ∃ ws, List.Forall₂ (LoadFails (p.context site b) kind)
          (attempts kind rest (expand b.contentLine b.content)) ws ∧
        (p.handleBlock site expand insert b d (.asset kind)).notices =
          if unquote rest = [] then
            (expand b.contentLine b.content).notices ++ ws.map (p.context site b).warn
          else ws.map (p.context site b).warn ++ (expand b.contentLine b.content).notices := by
  by_cases hbare : unquote rest = []
  · simp only [attempts, hbare, if_true] at hfails ⊢
    rw [handleBlock_bare hrest hbare]
    cases hkept : (expand b.contentLine b.content).result with
    | error e => exact ⟨rfl, [], .nil, by simp⟩
    | ok content =>
      rw [hkept] at hfails
      obtain ⟨hout, hws⟩ :=
        (Handler.inlines_of_picks (Handler.picks_pieces kind content)).of_fails hfails
      refine ⟨?_, _, hws, rfl⟩
      dsimp only
      rw [hout]
      rfl
  · simp only [attempts, hbare, if_false] at hfails ⊢
    obtain ⟨w, hw⟩ := hfails _ List.mem_cons_self
    rw [handleBlock_path hrest hbare, Handler.loadFails_iff.1 hw]
    exact ⟨rfl, [w], .cons hw .nil, rfl⟩

/-- A processor for pages that come with one script. -/
def scriptProcessor : Processor where
  options := {}
  marker := .build
  registry := .builtin
  read := fun path => if path = "a.js".toList then .ok "f()\n".toList else .error (.notFound path)
  transform := .passthrough
  template := .identity

/-- A block of two scripts, one of which is there. -/
def scriptsBlock : Block where
  first := ⟨"js".toList, [], "inline".toList, "<!--build:js inline-->".toList,
    "<!--endbuild-->".toList⟩
  stacked := []
  seen := []
  opening := "<!--build:js inline-->".toList
  inner := "<script src=\"a.js\"></script>,<script src=\"b.js\"></script>".toList
  closing := "<!--endbuild-->".toList
  rest := []
  line := 1

/-- A block to be replaced by a stylesheet that is not there. -/
def styleBlock : Block where
  first := ⟨"css".toList, [], "inline c.css".toList, "<!--build:css inline c.css-->".toList,
    "<!--endbuild-->".toList⟩
  stacked := []
  seen := []
  opening := "<!--build:css inline c.css-->".toList
  inner := ['k']
  closing := "<!--endbuild-->".toList
  rest := []
  line := 1

/-- The place of a text that came from no file. -/
def nowhere : Site := ⟨none, [], []⟩

end Processor

end PageBlocks
