import Mathlib.Data.List.Forall2
import PageBlocks.Proofs.Comparison

/-!
# What is included does not depend on who includes it

A file that is put in the place of a block is processed with the list of files that are open around
it and with the include levels that are left. Both can make it fail and do nothing else. With fewer
files open and more levels left, all that succeeded before succeeds in the same way, down to what
was noted (`kept_expandAt`). In particular, a file is included as what it comes to when it is
processed by itself.
-/

namespace PageBlocks.Processor

open Outcome (Kept comparison_kept)

variable {p : Processor}

/-- The same processor, with another limit on how deep files may include files. -/
def withLimit (p : Processor) (n : Nat) : Processor :=
  { p with options := { p.options with maxIncludeDepth := n } }

/-- What processes files one level down here can be replaced by what does so there, if fewer files
are open. -/
def Served (deeper? deeper?' : Option (Site → Text → Outcome Text)) : Prop :=
  ∀ expand, deeper? = some expand → ∃ expand', deeper?' = some expand' ∧
    ∀ source dir chain chain' text, chain' ⊆ chain →
      Kept Text (expand ⟨source, dir, chain⟩ text) (expand' ⟨source, dir, chain'⟩ text)

variable {n n' : Nat} {deeper? deeper?' : Option (Site → Text → Outcome Text)}
  {source : Option Path} {dir : Path} {chain chain' : List Path}

theorem kept_insertFile (hdeeper : Served deeper? deeper?') (hchain : chain' ⊆ chain)
    (location : Location) (path : Path) (text : Text) :
    Kept Text ((p.withLimit n).insertFile deeper? ⟨source, dir, chain⟩ location path text)
      ((p.withLimit n').insertFile deeper?' ⟨source, dir, chain'⟩ location path text) := by
  unfold insertFile
  simp only [withLimit]
  split
  · exact comparison_kept.refl _
  · split
    · exact comparison_kept.fail _ _
    · rename_i hopen
      have hopen' : ¬ chain'.contains (Path.normalize path) = true := by
        intro h
        exact hopen (List.contains_iff_mem.2 (hchain (List.contains_iff_mem.1 h)))
      rw [if_neg hopen']
      cases hsome : deeper? with
      | none => exact comparison_kept.fail _ _
      | some expand =>
        obtain ⟨expand', hsome', hkept⟩ := hdeeper expand hsome
        rw [hsome']
        refine hkept _ _ _ _ _ ?_
        intro x hx
        rcases List.mem_append.1 hx with hx | hx
        · exact List.mem_append_left _ (hchain hx)
        · exact List.mem_append_right _ hx

theorem kept_expandWithin (hdeeper : Served deeper? deeper?') (hchain : chain' ⊆ chain)
    (line : Nat) (text : Text) :
    Kept Text ((p.withLimit n).expandWithin deeper? ⟨source, dir, chain⟩ line text)
      ((p.withLimit n').expandWithin deeper?' ⟨source, dir, chain'⟩ line text) := by
  rw [expandWithin_eq, expandWithin_eq]
  refine comparison_kept.bind (comparison_kept.addAll ?_ _) fun page _ => ?_
  · refine List.forall₂_same.2 fun s hs => ?_
    cases s with
    | literal t => exact .literal t
    | block b =>
      refine .block (fun _ _ => rfl) ?_
      have hshorter : b.content.length < text.length := Marker.length_content_lt hs
      exact comparison_kept.renderBlock rfl rfl rfl rfl
        (kept_expandWithin hdeeper hchain b.contentLine b.content)
        (fun _ _ _ _ => comparison_kept.refl _) (kept_insertFile hdeeper hchain _)
  · exact comparison_kept.refl _
termination_by text.length

/-- With fewer files open and more levels left, what succeeded stays as it was. -/
theorem kept_expandAt {levels levels' : Nat} (hlevels : levels ≤ levels') (hchain : chain' ⊆ chain)
    (line : Nat) (text : Text) :
    Kept Text ((p.withLimit n).expandAt levels ⟨source, dir, chain⟩ line text)
      ((p.withLimit n').expandAt levels' ⟨source, dir, chain'⟩ line text) := by
  induction levels generalizing levels' source dir chain chain' line text with
  | zero =>
    cases levels' with
    | zero => exact kept_expandWithin (fun _ h => by cases h) hchain line text
    | succ levels' => exact kept_expandWithin (fun _ h => by cases h) hchain line text
  | succ levels ih =>
    obtain ⟨k, rfl⟩ : ∃ k, levels' = k + 1 := ⟨levels' - 1, by omega⟩
    refine kept_expandWithin ?_ hchain line text
    intro expand hexpand
    obtain rfl := Option.some.inj hexpand
    refine ⟨_, rfl, ?_⟩
    intro source dir chain chain' text hchain
    exact ih (by omega) hchain 1 text

/-! ### Files in the place of blocks -/

/-- What processes a file that is included, with so many levels left. -/
def below (p : Processor) : (levels : Nat) → Option (Site → Text → Outcome Text)
  | 0 => none
  | levels + 1 => some fun site text => p.expandAt levels site 1 text

theorem expandAt_eq (p : Processor) (levels : Nat) (site : Site) :
    p.expandAt levels site = p.expandWithin (p.below levels) site := by
  cases levels <;> rfl

/-- What becomes of a block, with so many include levels left. -/
def renderAt (p : Processor) (levels : Nat) (site : Site) (b : Block) : Outcome Rendered :=
  p.renderBlock site (p.expandAt levels site) (p.insertFile (p.below levels) site) b

/-- The type of the blocks that are replaced by files. -/
def includeType : Text := "include".toList

theorem ok_of_addAll {render : Block → Outcome Rendered} {ss : List Segment} {a a' : Assembly}
    (h : (Assembly.addAll render ss a).result = .ok a') {b : Block} (hb : .block b ∈ ss) :
    ∃ r, (render b).result = .ok r := by
  induction ss generalizing a with
  | nil => cases hb
  | cons s ss ih =>
    cases s with
    | literal t =>
      rcases List.mem_cons.1 hb with hb | hb
      · cases hb
      · exact ih h hb
    | block c =>
      obtain ⟨r, hr, hlater⟩ := Outcome.ok_of_bind h
      rcases List.mem_cons.1 hb with hb | hb
      · cases hb
        exact ⟨r, hr⟩
      · exact ih hlater hb

/-- All blocks of a text that is processed without error are rendered. -/
theorem ok_renderAt {levels : Nat} {site : Site} {line : Nat} {text out : Text}
    (h : (p.expandAt levels site line text).result = .ok out) {b : Block}
    (hb : .block b ∈ (p.marker.scan line text).segments) :
    ∃ r, (p.renderAt levels site b).result = .ok r := by
  rw [expandAt_eq, expandWithin_eq] at h
  obtain ⟨page, hpage, -⟩ := Outcome.ok_of_bind h
  rw [renderAt, expandAt_eq]
  exact ok_of_addAll hpage hb

/-- A file is handed over for a block if it could be read. -/
theorem insertFile_of_handle {ctx : Context} {d : Directive} {content : Text} {out : Output}
    (h : (Handler.insertFile.handle ctx d content).result = .ok out) :
    ∃ file, ctx.read (ctx.resolve (unquote d.args)) = .ok file ∧
      out = .insertFile (ctx.resolve (unquote d.args)) file := by
  unfold Handler.insertFile at h
  dsimp only at h
  split at h
  · cases h
  · split at h
    · rename_i file hfile
      cases h
      exact ⟨file, hfile, rfl⟩
    · cases h
    · cases h

theorem get?_include : Registry.builtin.get? includeType = some Handler.insertFile := by rfl

/-- An `include` block that counts is rendered as the file that it names, if it is rendered. -/
theorem ok_of_include (hregistry : p.registry = .builtin) {site : Site}
    {expand : Nat → Text → Outcome Text} {insert : Location → Path → Text → Outcome Text}
    {b : Block} {d : Directive} (hd : p.audience.select? b.directives = some d)
    (htype : d.type = includeType) {r : Rendered}
    (h : (p.renderBlock site expand insert b).result = .ok r) :
    ∃ file t, p.read (Path.join site.baseDir (unquote d.args)) = .ok file ∧
      (insert ⟨site.source, b.line⟩ (Path.join site.baseDir (unquote d.args)) file).result =
        .ok t ∧ r = ⟨Text.dropFinalBreak t, true⟩ := by
  rw [renderBlock_eq] at h
  split at h
  · cases h
  · rw [hd] at h
    dsimp only at h
    rw [htype, hregistry, get?_include] at h
    obtain ⟨out, hout, hsettle⟩ := Outcome.ok_of_bind h
    obtain ⟨file, hfile, rfl⟩ := insertFile_of_handle hout
    obtain ⟨t, ht, hr⟩ := Outcome.ok_of_bind hsettle
    cases hr
    exact ⟨file, t, hfile, ht, rfl⟩

/-- A file that was included with some levels left is included as what it comes to by itself. -/
theorem ok_expand_of_insertFile (hrecursive : p.options.recursive = true) {levels : Nat}
    (hlevels : levels ≤ p.options.maxIncludeDepth) {site : Site} {location : Location}
    {path : Path} {file t : Text}
    (h : (p.insertFile (p.below levels) site location path file).result = .ok t) :
    (p.expand ⟨some path, Path.directory path, [Path.normalize path]⟩ file).result = .ok t := by
  unfold insertFile at h
  rw [hrecursive] at h
  simp only [Bool.not_true, Bool.false_eq_true, if_false] at h
  split at h
  · cases h
  · cases levels with
    | zero => cases h
    | succ levels =>
      have hchain : [Path.normalize path] ⊆ site.chain ++ [Path.normalize path] :=
        List.subset_append_right _ _
      have hkept : Kept Text
          (p.expandAt levels ⟨some path, Path.directory path, site.chain ++ [Path.normalize path]⟩
            1 file)
          (p.expand ⟨some path, Path.directory path, [Path.normalize path]⟩ file) :=
        kept_expandAt (n := p.options.maxIncludeDepth) (by omega) hchain 1 file
      rw [← h]
      exact congrArg Outcome.result (hkept t h)

/-- Files are included independently of what is open around them and of how deep they are
included. With `recursive` on, whatever is processed without error is processed in the same way when
fewer files are open and more levels are left; a file is included as what it comes to when it is
processed by itself, less its final line break; and a higher limit changes no page that is processed
without error. -/
theorem inclusion_independent (hrecursive : p.options.recursive = true)
    (hregistry : p.registry = .builtin) :
    (∀ n n' depth depth' chain chain', chain' ⊆ chain → n - depth ≤ n' - depth' →
      ∀ source dir line text out,
        ((p.withLimit n).expandAt (n - depth) ⟨source, dir, chain⟩ line text).result = .ok out →
        (p.withLimit n').expandAt (n' - depth') ⟨source, dir, chain'⟩ line text =
          (p.withLimit n).expandAt (n - depth) ⟨source, dir, chain⟩ line text) ∧
    (∀ levels site line text out, levels ≤ p.options.maxIncludeDepth →
      (p.expandAt levels site line text).result = .ok out →
      ∀ b d, .block b ∈ (p.marker.scan line text).segments →
        p.audience.select? b.directives = some d → d.type = includeType →
        ∃ path file t, path = Path.join site.baseDir (unquote d.args) ∧ p.read path = .ok file ∧
          p.processFile path = (do
            p.finish (some path)
              (← p.expand ⟨some path, Path.directory path, [Path.normalize path]⟩ file)) ∧
          (p.expand ⟨some path, Path.directory path, [Path.normalize path]⟩ file).result = .ok t ∧
          (p.renderAt levels site b).result = .ok ⟨Text.dropFinalBreak t, true⟩) ∧
    ∀ n n', n ≤ n' →
      (∀ dir text out, ((p.withLimit n).processText dir text).result = .ok out →
        (p.withLimit n').processText dir text = (p.withLimit n).processText dir text) ∧
      ∀ path out, ((p.withLimit n).processFile path).result = .ok out →
        (p.withLimit n').processFile path = (p.withLimit n).processFile path := by
  have hprocess : ∀ n n', n ≤ n' → ∀ site text, Kept Text
      ((p.withLimit n).expand site text >>= (p.withLimit n).finish site.source)
      ((p.withLimit n').expand site text >>= (p.withLimit n').finish site.source) := by
    intro n n' hn site text
    exact comparison_kept.bind (kept_expandAt hn (List.Subset.refl _) 1 text)
      fun _ _ => comparison_kept.refl _
  refine ⟨?_, ?_, ?_⟩
  · intro n n' depth depth' chain chain' hchain hlevels source dir line text out hout
    exact kept_expandAt hlevels hchain line text out hout
  · intro levels site line text out hlevels hout b d hb hd htype
    obtain ⟨r, hr⟩ := ok_renderAt hout hb
    obtain ⟨file, t, hfile, hinsert, rfl⟩ := ok_of_include hregistry hd htype hr
    refine ⟨_, file, t, rfl, hfile, ?_, ok_expand_of_insertFile hrecursive hlevels hinsert, hr⟩
    rw [processFile, hfile]
  · intro n n' hn
    refine ⟨fun dir text => hprocess n n' hn ⟨none, dir, []⟩ text, fun path out hout => ?_⟩
    unfold processFile at hout ⊢
    simp only [withLimit] at hout ⊢
    cases hread : p.read path with
    | error e => cases e <;> rfl
    | ok text =>
      rw [hread] at hout
      exact hprocess n n' hn ⟨some path, Path.directory path, [Path.normalize path]⟩ text out hout

/-- A processor for two files, `a` and `b`, of which the first includes the second. -/
def includingProcessor : Processor where
  options := { recursive := true, maxIncludeDepth := 2 }
  marker := .build
  registry := .builtin
  read := fun path =>
    if path = ['a'] then .ok "A<!--build:include b--><!--endbuild-->\n".toList
    else if path = ['b'] then .ok "B\n".toList
    else .error (.notFound path)
  transform := .passthrough
  template := .identity

/-- A block that is replaced by `a`. -/
def includingBlock : Block where
  first := ⟨includeType, [], ['a'], "<!--build:include a-->".toList, "<!--endbuild-->".toList⟩
  stacked := []
  seen := []
  opening := "<!--build:include a-->".toList
  inner := ['x']
  closing := "<!--endbuild-->".toList
  rest := []
  line := 1

theorem inclusion_independent_nested :
    (includingProcessor.expandAt 2 ⟨none, [], [['c']]⟩ 1 includingBlock.source).result =
        .ok ['A', 'B'] ∧
      (includingProcessor.withLimit 5).expandAt 4 ⟨none, [], []⟩ 1 includingBlock.source =
        includingProcessor.expandAt 2 ⟨none, [], [['c']]⟩ 1 includingBlock.source ∧
      (includingProcessor.renderAt 2 ⟨none, [], [['c']]⟩ includingBlock).result =
        .ok ⟨Text.dropFinalBreak ['A', 'B', '\n'], true⟩ ∧
      (includingProcessor.withLimit 5).processText [] includingBlock.source =
        includingProcessor.processText [] includingBlock.source := by
  have hall := inclusion_independent (p := includingProcessor) rfl rfl
  have hout : (includingProcessor.expandAt 2 ⟨none, [], [['c']]⟩ 1 includingBlock.source).result =
      .ok ['A', 'B'] := by decide +kernel
  have hb : .block includingBlock ∈
      (includingProcessor.marker.scan 1 includingBlock.source).segments := by decide +kernel
  refine ⟨hout, ?_, ?_, ?_⟩
  · exact hall.1 2 5 0 1 [['c']] [] (List.nil_subset _) (by decide) none [] 1 _ _ hout
  · obtain ⟨path, file, t, rfl, hfile, -, ht, hr⟩ := hall.2.1 2 _ 1 _ _ (by decide) hout
      includingBlock includingBlock.first hb (by decide +kernel) rfl
    have hname : Path.join [] (unquote includingBlock.first.args) = ['a'] := by decide +kernel
    have hexpand : (includingProcessor.expand ⟨some ['a'], Path.directory ['a'],
        [Path.normalize ['a']]⟩ "A<!--build:include b--><!--endbuild-->\n".toList).result =
          .ok ['A', 'B', '\n'] := by decide +kernel
    rw [hname] at hfile ht
    obtain rfl : "A<!--build:include b--><!--endbuild-->\n".toList = file :=
      Except.ok.inj hfile
    rw [hexpand] at ht
    rw [hr, ← Except.ok.inj ht]
  · have hpage : (includingProcessor.processText [] includingBlock.source).result =
        .ok ['A', 'B'] := by decide +kernel
    exact (hall.2.2 2 5 (by decide)).1 [] _ _ hpage

end PageBlocks.Processor
