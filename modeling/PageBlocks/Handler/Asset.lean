import PageBlocks.Handler.Basic

/-!
# Scripts and stylesheets

A `js` or `css` block with a path becomes a tag that refers to it. With the word `inline` in front
of the path, the file itself is written into the page; `inline` alone does this for every file that
the content refers to. A file that cannot be had is warned about and left as it was.
-/

namespace PageBlocks.Handler

/-- The argument behind the word `inline`. -/
def afterInline? (args : Text) : Option Text :=
  match Text.after? "inline".toList args with
  | none => none
  | some [] => some []
  | some (c :: rest) => if Text.isSpace c then some (c :: rest) else none

/-- Is the reference to be fetched from elsewhere? -/
def isRemote (reference : Text) : Bool :=
  Text.occursIn "://".toList reference || Text.startsWith ['/', '/'] reference

/-- The file that a reference names: without query and fragment, and relative even behind a
slash. -/
def localPath (reference : Text) : Path :=
  (reference.takeWhile fun c => c != '?' && c != '#').dropWhile (· == '/')

/-- An asset ready to be written into the page, or why not. -/
def loadAsset (ctx : Context) (kind : AssetKind) (reference : Text) : Except Warning Text :=
  if isRemote reference then .error (.remoteAsset kind reference)
  else
    let path := ctx.resolve (localPath reference)
    match ctx.read path with
    | .error cause => .error (.unreadableAsset kind path cause)
    | .ok content =>
      match ctx.transform kind content with
      | .ok body => .ok body
      | .error cause => .error (.failedTransform path cause)

/-- What a piece of the content becomes when references are inlined. -/
def inlinePiece (ctx : Context) (kind : AssetKind) : Text.Piece Text → Text
  | .char c => [c]
  | .found source reference =>
    match loadAsset ctx kind reference with
    | .ok body => kind.inlineElement body
    | .error _ => source

/-- The warning about a piece of the content that could not be inlined. -/
def inlineWarning? (ctx : Context) (kind : AssetKind) : Text.Piece Text → Option Warning
  | .char _ => none
  | .found _ reference =>
    match loadAsset ctx kind reference with
    | .ok _ => none
    | .error w => some w

/-- Handles blocks about assets of one kind. -/
def asset (kind : AssetKind) : Handler where
  name := kind.name.toList
  readsContent d := (afterInline? d.args).any fun rest => (unquote rest).isEmpty
  handle ctx d content :=
    match afterInline? d.args with
    | none =>
      let target := unquote d.args
      if target.isEmpty then ⟨.ok .keep, [ctx.warn (.assetWithoutTarget kind)]⟩
      else return .replace (kind.referenceTag target)
    | some rest =>
      let target := unquote rest
      if target.isEmpty then
        let pieces := kind.pieces content
        ⟨.ok (.edit (pieces.flatMap (inlinePiece ctx kind))),
          (pieces.filterMap (inlineWarning? ctx kind)).map ctx.warn⟩
      else
        match loadAsset ctx kind target with
        | .ok body => return .replace (kind.inlineElement body)
        | .error w => ⟨.ok .keep, [ctx.warn w]⟩

end PageBlocks.Handler
