import PageBlocks.Handler.Basic

/-!
# Attribute values

A `[name]` block gives a new value to every attribute of that name in its content. A new value that
ends in a slash is a directory: the file name of the old value stays.

    <!-- build:[src] img/ -->        src="old/logo.png"   becomes   src="img/logo.png"

The attributes are what a pattern with the name in it matches. A name can be so long that its
pattern is too big to be used; such a block is refused.
-/

namespace PageBlocks

/-- An attribute found in a text. -/
structure AttributeUse where
  /-- From the white space in front of the name up to the quote. -/
  lead : Text
  quote : Char
  value : Text
  deriving DecidableEq, Repr

namespace AttributeUse

/-- The attribute as it is written. -/
def source (a : AttributeUse) : Text := a.lead ++ a.quote :: a.value ++ [a.quote]

/-- The attribute called `name` that `t` starts with, and its length. White space must stand in
front of the name. -/
def at? (name t : Text) : Option (Nat × AttributeUse) :=
  match t with
  | [] => none
  | c :: r =>
    if !Text.isSpace c then none
    else
      match Text.after? name r with
      | none => none
      | some r =>
        let gap := r.takeWhile Text.isSpace
        match r.dropWhile Text.isSpace with
        | '=' :: r =>
          let gap' := r.takeWhile Text.isSpace
          match Text.quotedValue? (r.dropWhile Text.isSpace) with
          | none => none
          | some (quote, value, _) =>
            let found : AttributeUse := ⟨c :: name ++ gap ++ '=' :: gap', quote, value⟩
            some (found.source.length, found)
        | _ => none

/-- The pattern of an attribute: a white space character, the name, and a value between quotes. -/
def pattern (name : Text) : Text :=
  "(\\s".toList ++ (Pattern.escape name ++ "\\s*=\\s*)(?:\"([^\"]*)\"|'([^']*)')".toList)

/-- Why the pattern of an attribute cannot be used, if it cannot. -/
def fault? (name : Text) : Option Pattern.Error :=
  match Pattern.ofText (pattern name) with
  | .ok _ => none
  | .error cause => some cause

/-- The new value of an attribute: a directory keeps the old file name. -/
def newValue (value old : Text) : Text :=
  if Text.endsWith ['/'] value then value ++ (old.reverse.takeWhile (· != '/')).reverse else value

/-- The attribute with its new value. -/
def set (value : Text) (a : AttributeUse) : AttributeUse :=
  { a with value := newValue value a.value }

end AttributeUse

namespace Handler

/-- What a piece of the content becomes. -/
def setPiece (value : Text) : Text.Piece AttributeUse → Text
  | .char c => [c]
  | .found _ a => (a.set value).source

/-- Was an attribute recognised here? -/
def isFound {α : Type} : Text.Piece α → Bool
  | .char _ => false
  | .found _ _ => true

/-- Gives a new value to the attributes that the block type names. -/
def setAttribute : Handler where
  name := "[attr]".toList
  readsContent _ := true
  handle ctx d content :=
    match d.attribute? with
    | none => .fail (.malformed ctx.location d.opening .notAttribute)
    | some name =>
      let value := unquote d.args
      if value.isEmpty then ⟨.ok .keep, [ctx.warn (.attributeWithoutValue name)]⟩
      else
        match AttributeUse.fault? name with
        | some cause => .fail (.malformed ctx.location d.opening (.badPattern cause))
        | none =>
          let pieces := Text.recognise (AttributeUse.at? name) content
          let notices := if pieces.any isFound then [] else [ctx.warn (.missingAttribute name)]
          ⟨.ok (.edit (pieces.flatMap (setPiece value))), notices⟩

end Handler

end PageBlocks
