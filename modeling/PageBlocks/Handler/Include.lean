import PageBlocks.Handler.Basic

/-!
# Dropping, including and rendering

Three handlers of a few lines each: `remove` drops the block, `include` puts a file in its place,
`template` fills the placeholders of the content at once instead of with the finished page.
-/

namespace PageBlocks.Handler

/-- Drops the block. -/
def remove : Handler where
  name := "remove".toList
  readsContent _ := false
  handle _ _ _ := return .drop

/-- Puts a file in the block's place. The path is relative to the file that the block is in. -/
def insertFile : Handler where
  name := "include".toList
  readsContent _ := false
  handle ctx d _ :=
    let target := unquote d.args
    if target.isEmpty then .fail (.malformed ctx.location d.opening .includeWithoutPath)
    else
      let path := ctx.resolve target
      match ctx.read path with
      | .ok text => return .insertFile path text
      | .error (.notFound _) => .fail (.includeNotFound ctx.location path)
      | .error cause => .fail (.includeUnreadable ctx.location path cause)

/-- Fills the placeholders of the content. -/
def template : Handler where
  name := "template".toList
  readsContent _ := true
  handle ctx _ content := return .edit (← ctx.render content)

end PageBlocks.Handler
