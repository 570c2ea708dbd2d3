import PageBlocks.Handler.Basic
import PageBlocks.Pattern.Replacement
import PageBlocks.Text.Recognise

/-!
# Declared block types

Block types of a page author's own, declared by what they do: put text around the content, put a
filled-in text in the block's place, or replace what a pattern matches.
-/

namespace PageBlocks

/-- What can be filled into the text of a `replace` block. -/
inductive Slot where
  | content
  | args
  | type
  | environment
  deriving DecidableEq, Repr

namespace Slot

/-- How a slot is written. -/
def text : Slot → Text
  | .content => "\x7bcontent\x7d".toList
  | .args => "\x7bargs\x7d".toList
  | .type => "\x7btype\x7d".toList
  | .environment => "\x7benvironment\x7d".toList

/-- The slot that `t` starts with, and its length. -/
def at? (t : Text) : Option (Nat × Slot) :=
  [Slot.content, .args, .type, .environment].findSome? fun s =>
    if Text.startsWith s.text t then some (s.text.length, s) else none

/-- What a slot is filled with. -/
def value (ctx : Context) (d : Directive) (content : Text) : Slot → Text
  | .content => content
  | .args => d.args
  | .type => d.type
  | .environment => ctx.environment.getD []

end Slot

namespace Handler

/-- Fills all slots of a text at once; what is filled in is not looked at again. -/
def fillSlots (ctx : Context) (d : Directive) (content text : Text) : Text :=
  (Text.recognise Slot.at? text).flatMap fun
    | .char c => [c]
    | .found _ s => s.value ctx d content

/-- Puts text around the content. -/
def wrap (name before after : Text) : Handler where
  name
  readsContent _ := true
  handle _ _ content := return .edit (before ++ content ++ after)

/-- Puts a filled-in text in the block's place. -/
def replace (name text : Text) : Handler where
  name
  readsContent _ := true
  handle ctx d content := return .replace (fillSlots ctx d content text)

/-- Replaces what a pattern matches in the content. -/
def regex (name : Text) (p : Pattern) (replacement : Text) : Handler where
  name
  readsContent _ := true
  handle _ _ content := return .edit (p.replaceAll (p.fill replacement) content)

end Handler

end PageBlocks
