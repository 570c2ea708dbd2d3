import Mathlib.Data.List.TakeWhile
import PageBlocks.Proofs.Braces
import PageBlocks.Proofs.Inlining

/-!
# What stands behind the path of a reference

A reference to a local file may carry a query or a fragment. The file is named by what stands before
it, and whether the reference is remote is asked before anything is cut off:

    a.js   ?v=3               the file a.js
    a.js   #top               the file a.js
    a.js   ?u=http://b        remote, because of what is to be dropped
    path   query

So a query makes no difference if it holds no `://` (`Handler.query_ignored_iff`), and a reference
with such a query is never inlined.
-/

namespace PageBlocks

namespace Text

variable {w r s : Text}

/-- What does not hold the first character of `s` does not lie across the place where `s` starts. -/
theorem infix_append_iff (hs : ∀ c ∈ s.head?, c ∉ w) : w <:+: r ++ s ↔ w <:+: r ∨ w <:+: s := by
  constructor
  · rintro ⟨x, y, h⟩
    rcases List.append_eq_append_iff.1 h with ⟨u, rfl, -⟩ | ⟨u, hu, rfl⟩
    · exact .inl ⟨x, u, rfl⟩
    · rcases List.append_eq_append_iff.1 hu with ⟨v, rfl, rfl⟩ | ⟨v, rfl, rfl⟩
      · -- Some of `w` would stand on either side of the seam.
        cases u with
        | nil => exact .inl ⟨x, [], by simp⟩
        | cons c u => exact absurd (by simp) (hs c rfl)
      · exact .inr ⟨v, y, rfl⟩
  · rintro (h | h)
    · exact h.trans (List.prefix_append r s).isInfix
    · exact h.trans (List.suffix_append r s).isInfix

end Text

namespace Handler

open Processor (nowhere scriptProcessor scriptsBlock)

variable {ctx : Context} {kind : AssetKind} {r s : Text}

/-! ### Near references -/

/-- A reference to a file at hand, with neither a query nor a fragment. -/
structure Plain (r : Text) : Prop where
  near : isRemote r = false
  no_query : '?' ∉ r
  no_fragment : '#' ∉ r

/-- A query or a fragment, with the sign that starts it. -/
def Query (s : Text) : Prop := s.head? = some '?' ∨ s.head? = some '#'

theorem Query.exists_cons (h : Query s) : ∃ c x, s = c :: x ∧ (c = '?' ∨ c = '#') := by
  cases s with
  | nil => rcases h with h | h <;> cases h
  | cons c x => exact ⟨c, x, rfl, h.imp Option.some.inj Option.some.inj⟩

theorem Plain.ne_sign (hr : Plain r) : ∀ c ∈ r, (c != '?' && c != '#') = true := by
  intro c hc
  rw [Bool.and_eq_true, bne_iff_ne, bne_iff_ne]
  constructor
  · rintro rfl
    exact hr.no_query hc
  · rintro rfl
    exact hr.no_fragment hc

/-- The file is named by what stands in front of the query. -/
theorem localPath_append (hr : Plain r) (hs : Query s) : localPath (r ++ s) = localPath r := by
  have hself : r.takeWhile (fun c => c != '?' && c != '#') = r :=
    List.takeWhile_eq_self_iff.2 hr.ne_sign
  have hcut : (r ++ s).takeWhile (fun c => c != '?' && c != '#') = r := by
    obtain ⟨c, x, rfl, hc⟩ := hs.exists_cons
    have hsign : (c != '?' && c != '#') = false := by rcases hc with rfl | rfl <;> decide
    have hnil : (c :: x).takeWhile (fun c => c != '?' && c != '#') = [] :=
      List.takeWhile_cons_of_neg (by simp [hsign])
    rw [List.takeWhile_append_of_pos hr.ne_sign, hnil, List.append_nil]
  rw [localPath, localPath, hcut, hself]

/-- A query makes a reference remote if it holds the sign of a remote one. -/
theorem isRemote_append (hr : Plain r) (hs : Query s) :
    isRemote (r ++ s) = Text.occursIn "://".toList s := by
  have hnear := hr.near
  rw [isRemote, Bool.or_eq_false_iff, ← Bool.not_eq_true, ← Bool.not_eq_true, Text.occursIn_iff,
    Text.startsWith_iff] at hnear
  obtain ⟨hfree, hstart⟩ := hnear
  obtain ⟨c, x, rfl, hc⟩ := hs.exists_cons
  have hapart : ∀ d ∈ (c :: x).head?, d ∉ "://".toList := by
    rintro d ⟨⟩
    rcases hc with rfl | rfl <;> decide
  -- Two slashes in front would have to be in front of the query.
  have hslashes : ¬ ∃ y, r ++ c :: x = ['/', '/'] ++ y := by
    rintro ⟨y, hy⟩
    rcases List.append_eq_append_iff.1 hy with ⟨u, hu, hx⟩ | ⟨u, rfl, -⟩
    · cases u with
      | nil => exact hstart ⟨[], by simpa using hu.symm⟩
      | cons d u =>
        obtain rfl : c = d := (List.cons.inj hx).1
        have hmem : c ∈ ['/', '/'] := by
          rw [hu]
          simp
        rcases hc with rfl | rfl <;> simp at hmem
    · exact hstart ⟨u, rfl⟩
  rw [Bool.eq_iff_iff, isRemote, Bool.or_eq_true, Text.occursIn_iff, Text.startsWith_iff,
    Text.occursIn_iff, Text.infix_append_iff hapart]
  simp only [hfree, hslashes, false_or, or_false]

/-- A reference with a query is loaded as without it, unless it counts as remote. -/
theorem loadAsset_append (hr : Plain r) (hs : Query s) :
    loadAsset ctx kind (r ++ s) =
      if Text.occursIn "://".toList s then .error (.remoteAsset kind (r ++ s))
      else loadAsset ctx kind r := by
  unfold loadAsset
  rw [isRemote_append hr hs, localPath_append hr hs, hr.near]
  simp only [Bool.false_eq_true, if_false]

/-- A near reference is never refused as remote. -/
theorem loadAsset_ne_remote (hr : Plain r) (reference : Text) :
    loadAsset ctx kind r ≠ .error (.remoteAsset kind reference) := by
  intro h
  cases loadFails_iff.2 h with
  | remote far => exact Bool.false_ne_true (hr.near.symm.trans far)

/-! ### Blocks and tags -/

/-- What the handler answers when the file takes the place of the block, or when it cannot be
had. -/
def answerPath (ctx : Context) (kind : AssetKind) : Except Warning Text → Outcome Output
  | .ok body => ⟨.ok (.replace (kind.inlineElement body)), []⟩
  | .error w => ⟨.ok .keep, [ctx.warn w]⟩

/-- What the handler answers when the file takes the place of `tag`, or when it cannot be had; the
rest of the content is the pieces `ps` in front of the tag and `qs` behind it. -/
def answerTag (ctx : Context) (kind : AssetKind) (ps : List (Text.Piece Text)) (tag : Text)
    (qs : List (Text.Piece Text)) (loaded : Except Warning Text) : Outcome Output :=
  let inlined (ps : List (Text.Piece Text)) : Text := ps.flatMap (inlinePiece ctx kind)
  let warnings (ps : List (Text.Piece Text)) : List Warning :=
    ps.filterMap (inlineWarning? ctx kind)
  match loaded with
  | .ok body =>
    ⟨.ok (.edit (inlined ps ++ (kind.inlineElement body ++ inlined qs))),
      (warnings ps ++ warnings qs).map ctx.warn⟩
  | .error w =>
    ⟨.ok (.edit (inlined ps ++ (tag ++ inlined qs))),
      (warnings ps ++ w :: warnings qs).map ctx.warn⟩

variable {d : Directive} {rest : Text}

theorem handle_path (hrest : afterInline? d.args = some rest) (hpath : unquote rest ≠ [])
    (content : Text) :
    (asset kind).handle ctx d content =
      answerPath ctx kind (loadAsset ctx kind (unquote rest)) := by
  simp only [asset, hrest, List.isEmpty_eq_false_iff.2 hpath, Bool.false_eq_true, if_false]
  cases loadAsset ctx kind (unquote rest) <;> rfl

theorem handle_tag (hrest : afterInline? d.args = some rest) (hbare : unquote rest = [])
    {content tag : Text} {ps qs : List (Text.Piece Text)}
    (hpieces : kind.pieces content = ps ++ .found tag r :: qs) :
    (asset kind).handle ctx d content = answerTag ctx kind ps tag qs (loadAsset ctx kind r) := by
  have hempty : (unquote rest).isEmpty = true := List.isEmpty_iff.2 hbare
  simp only [asset, hrest, hempty, if_true, hpieces, List.flatMap_append, List.flatMap_cons,
    List.filterMap_append, List.filterMap_cons, inlinePiece, inlineWarning?, answerTag]
  cases loadAsset ctx kind r <;> rfl

/-- A query or a fragment makes no difference if it holds no `://`. Take a reference `r` that is not
remote and has none of them, and put the query `s` behind it: it names the same file, and it is
loaded as `r` is, with the same body or the same warning, unless `s` holds `://`; then it is refused
as remote. The same goes for blocks with the reference behind the word `inline`, and for contents
that are the same but for a tag that refers to `r` in one and to `r ++ s` in the other. -/
theorem query_ignored_iff (hr : Plain r) (hs : Query s) (ctx : Context) (kind : AssetKind) :
    localPath (r ++ s) = localPath r ∧
      (loadAsset ctx kind (r ++ s) = loadAsset ctx kind r ↔
        Text.occursIn "://".toList s = false) ∧
      (∀ body, loadAsset ctx kind (r ++ s) = .ok body ↔
        loadAsset ctx kind r = .ok body ∧ Text.occursIn "://".toList s = false) ∧
      (Text.occursIn "://".toList s = true →
        loadAsset ctx kind (r ++ s) = .error (.remoteAsset kind (r ++ s))) ∧
      (∀ {d d' : Directive} {rest rest' : Text}, afterInline? d.args = some rest →
        afterInline? d'.args = some rest' → unquote rest = r → unquote rest' = r ++ s → r ≠ [] →
          ∀ content,
            (asset kind).handle ctx d content = answerPath ctx kind (loadAsset ctx kind r) ∧
            (asset kind).handle ctx d' content =
              answerPath ctx kind (loadAsset ctx kind (r ++ s))) ∧
      ∀ {d : Directive} {rest : Text}, afterInline? d.args = some rest → unquote rest = [] →
        ∀ {content content' tag tag' : Text} {ps qs : List (Text.Piece Text)},
          kind.pieces content = ps ++ .found tag r :: qs →
          kind.pieces content' = ps ++ .found tag' (r ++ s) :: qs →
            (asset kind).handle ctx d content =
                answerTag ctx kind ps tag qs (loadAsset ctx kind r) ∧
              (asset kind).handle ctx d content' =
                answerTag ctx kind ps tag' qs (loadAsset ctx kind (r ++ s)) := by
  have hload : loadAsset ctx kind (r ++ s) = _ := loadAsset_append hr hs
  refine ⟨localPath_append hr hs, ?_, fun body => ?_, fun hfar => ?_, ?_, ?_⟩
  · constructor
    · intro hsame
      by_contra hfar
      rw [hload, if_pos (by simpa using hfar)] at hsame
      exact loadAsset_ne_remote hr _ hsame.symm
    · intro hnear
      rw [hload, hnear]
      rfl
  · rw [hload]
    cases Text.occursIn "://".toList s <;> simp
  · rw [hload, if_pos hfar]
  · rintro d d' rest rest' hrest hrest' rfl hpath hne content
    refine ⟨handle_path hrest hne content, ?_⟩
    rw [handle_path hrest' (by simp [hpath, hne]), hpath]
  · intro d rest hrest hbare content content' tag tag' ps qs hpieces hpieces'
    exact ⟨handle_tag hrest hbare hpieces, handle_tag hrest hbare hpieces'⟩

/-- What a block of a page that comes with the script `a.js` gets to know. -/
def scriptContext : Context := scriptProcessor.context nowhere scriptsBlock

/-- A directive that has the scripts of its content inlined. -/
def inlineDirective : Directive := scriptsBlock.first

theorem plain_script : Plain "a.js".toList where
  near := by decide
  no_query := by decide
  no_fragment := by decide

theorem query_ignored_iff_version :
    loadAsset scriptContext .js "a.js?v=3".toList = .ok "f()".toList ∧
      ((asset .js).handle scriptContext inlineDirective
        (AssetKind.js.referenceTag "a.js?v=3".toList)).result =
          .ok (.edit (AssetKind.js.inlineElement "f()".toList)) := by
  have hs : Query "?v=3".toList := .inl rfl
  have hbody : loadAsset scriptContext .js "a.js".toList = .ok "f()".toList := by decide +kernel
  have hfree : Text.occursIn "://".toList "?v=3".toList = false := by decide
  obtain ⟨-, -, hok, -, -, htag⟩ := query_ignored_iff plain_script hs scriptContext .js
  have hload := (hok _).2 ⟨hbody, hfree⟩
  have hpieces : AssetKind.js.pieces (AssetKind.js.referenceTag "a.js".toList) =
      [] ++ .found (AssetKind.js.referenceTag "a.js".toList) "a.js".toList :: [] := by
    decide +kernel
  have hpieces' : AssetKind.js.pieces (AssetKind.js.referenceTag "a.js?v=3".toList) =
      [] ++ .found (AssetKind.js.referenceTag "a.js?v=3".toList)
        ("a.js".toList ++ "?v=3".toList) :: [] := by
    decide +kernel
  obtain ⟨-, hanswer⟩ := htag (d := inlineDirective) rfl rfl hpieces hpieces'
  refine ⟨hload, ?_⟩
  rw [hanswer, hload]
  rfl

/-- A query that holds an address: the file is there, and the reference is refused as remote. -/
theorem not_query_ignored_address :
    loadAsset scriptContext .js "a.js".toList = .ok "f()".toList ∧
      loadAsset scriptContext .js "a.js?u=http://b".toList =
        .error (.remoteAsset .js "a.js?u=http://b".toList) ∧
      ¬ ∀ r s, Plain r → Query s →
        loadAsset scriptContext .js (r ++ s) = loadAsset scriptContext .js r := by
  have hbody : loadAsset scriptContext .js "a.js".toList = .ok "f()".toList := by decide +kernel
  have hfar : loadAsset scriptContext .js "a.js?u=http://b".toList =
      .error (.remoteAsset .js "a.js?u=http://b".toList) := by decide +kernel
  refine ⟨hbody, hfar, fun hall => ?_⟩
  have hsame := hall "a.js".toList "?u=http://b".toList plain_script (.inl rfl)
  rw [hbody] at hsame
  cases hfar.symm.trans hsame

end Handler

end PageBlocks
