import PageBlocks.Proofs.Search
import PageBlocks.Proofs.Separator
import PageBlocks.Proofs.TemplateBlock

/-!
# Text without directives

Where there are no directives and no data, a page is what it was. All that comes of a placeholder is
a warning, one for each match of the pattern, from left to right:

    <p> <%= site.title %> and <%= a %> </p>
        └───hit₁────────┘     └─hit₂─┘
        unknown key           unknown key
        site.title            a

A pattern may match where there is nothing, or without its group: the path it asks for is then
empty, which leads nowhere either.
-/

namespace PageBlocks

/-- No path leads anywhere in an empty data model. -/
theorem Json.lookup?_empty (key : Text) : (Json.obj []).lookup? key = none := by
  rw [lookup?]
  split_ifs
  · rfl
  · obtain ⟨first, later, hsegments⟩ := List.exists_cons_of_ne_nil (Text.splitOn_ne_nil '.' key)
    rw [hsegments, List.foldlM_cons]
    rfl

namespace Template

variable {data : Json}

theorem fillPiece_of_missing (hmissing : ∀ key, data.lookup? key = none) (piece : Pattern.Piece) :
    fillPiece data piece = piece.source := by
  cases piece with
  | plain t => rfl
  | hit t groups => rw [fillPiece, hmissing, Pattern.Piece.source]

/-- Where no path leads anywhere there is a warning for each match. -/
theorem warnings_cutAt (hmissing : ∀ key, data.lookup? key = none) (text : Text) (start : Nat)
    (hits : List Pattern.Hit) :
    (Pattern.cutAt text start hits).filterMap (warningOf? data) =
      hits.map fun hit => .unknownKey (key (hit.texts text)) := by
  induction hits generalizing start with
  | nil => rfl
  | cons hit later ih => simp [Pattern.cutAt, List.filterMap_cons, warningOf?, hmissing, ih]

/-- Filling in nothing leaves the text as it is. -/
theorem render_of_missing (hmissing : ∀ key, data.lookup? key = none) (pattern : Pattern)
    (text : Text) :
    ∃ hits, pattern.Matches text hits ∧
      (placeholders pattern).render data text =
        (text, hits.map fun hit => .unknownKey (key (hit.texts text))) := by
  obtain ⟨hits, hmatches, hpieces⟩ := pattern.exists_matches_pieces text
  refine ⟨hits, hmatches, ?_⟩
  have hfill : fillPiece data = Pattern.Piece.source := funext (fillPiece_of_missing hmissing)
  simp only [placeholders, hpieces, hfill, warnings_cutAt hmissing]
  rw [Pattern.source_cutAt text (fun hit _ => Nat.zero_le hit.skip) hmatches.ordered.2,
    List.drop_zero]

end Template

namespace Processor

/-- A pattern that also matches where there is nothing. -/
def loosePattern : Text := "(a)|b*".toList

/-- A processor with this pattern, and without data. -/
def looseProcessor : Processor :=
  { fillingProcessor [] with
    options := { interpolate := loosePattern }
    template := (Template.ofPattern loosePattern).toOption.getD .identity }

end Processor

end PageBlocks
