import PageBlocks.Error

/-!
# Outcomes

What a step of the work comes to: a value, or the error that ended the work. Either way it comes
with what was noted before, in order, so that nothing that was noticed is lost when a page fails.
-/

namespace PageBlocks

/-- A value or an error, and what was noted on the way. -/
structure Outcome (α : Type) where
  result : Except ProcessError α
  notices : List Notice

namespace Outcome

variable {α β : Type}

/-- A value, with nothing to note. -/
def value (a : α) : Outcome α := ⟨.ok a, []⟩

/-- An error, with nothing to note. -/
def fail (e : ProcessError) : Outcome α := ⟨.error e, []⟩

/-- Something to note. -/
def note (ns : List Notice) : Outcome Unit := ⟨.ok (), ns⟩

/-- One step after the other; an error ends the work. -/
def andThen (x : Outcome α) (f : α → Outcome β) : Outcome β :=
  match x.result with
  | .error e => ⟨.error e, x.notices⟩
  | .ok a =>
    let y := f a
    ⟨y.result, x.notices ++ y.notices⟩

instance : Monad Outcome where
  pure := value
  bind := andThen

theorem pure_def (a : α) : (pure a : Outcome α) = ⟨.ok a, []⟩ := rfl

theorem bind_of_ok {x : Outcome α} {a : α} (h : x.result = .ok a) (f : α → Outcome β) :
    x >>= f = ⟨(f a).result, x.notices ++ (f a).notices⟩ := by
  show x.andThen f = _
  simp [andThen, h]

theorem bind_of_error {x : Outcome α} {e : ProcessError} (h : x.result = .error e)
    (f : α → Outcome β) : x >>= f = ⟨.error e, x.notices⟩ := by
  show x.andThen f = _
  simp [andThen, h]

instance : LawfulMonad Outcome := LawfulMonad.mk' Outcome
  (fun x => by rcases x with ⟨_ | _, _⟩ <;> simp [Functor.map, andThen, value])
  (fun a f => by simp [bind, pure, andThen, value])
  (fun x f g => by
    rcases x with ⟨_ | a, _⟩
    · rfl
    · simp only [bind, andThen]
      cases (f a).result <;> simp)

/-- The files that could not be read on the way. -/
def unread (x : Outcome α) : List Path :=
  let failed := match x.result with
    | .ok _ => []
    | .error e => e.unread?.toList
  failed ++ x.notices.filterMap Notice.unread?

end Outcome

end PageBlocks
