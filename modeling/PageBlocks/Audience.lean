import PageBlocks.Directive.Basic

/-!
# Whom a directive is meant for

A page is processed for one environment, or for none in particular. A directive with a list of
environments counts only for those; a directive without one always counts. Stripping a page is
removing all that any environment would remove.
-/

namespace PageBlocks

/-- For whom a page is processed. -/
structure Audience where
  environment : Option Text
  /-- All `remove` directives count, whomever they are meant for. -/
  strip : Bool
  deriving DecidableEq, Repr

namespace Audience

/-- Does the directive count? -/
def accepts (a : Audience) (d : Directive) : Bool :=
  (a.strip && d.type == "remove".toList) || d.targets.isEmpty
    || a.environment.any fun e => d.targets.contains e

/-- The first directive of a stack that counts. -/
def select? (a : Audience) (ds : List Directive) : Option Directive := ds.find? a.accepts

/-- The place in the stack of the first directive that counts. -/
def selectIndex? (a : Audience) (ds : List Directive) : Option Nat := ds.findIdx? a.accepts

end Audience

end PageBlocks
