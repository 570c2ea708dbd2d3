import PageBlocks.Proofs.Spelling

/-!
# Folded paths

To fold a path is to run over its components with a stack. A name goes on top; `..` takes the name
on top away and goes on top itself where there is none; a dot is passed over.

    a   b   ..   ..   ..   c
    a   b   a         ..   c        top of the stack
        a                  ..

What is on the stack is always a root, if there is one, then `..` so many times, then names
(`IsFolded`), and folding that again changes nothing. A path can be respelled by dots and by detours
through a name and back, and folding undoes just that: two paths fold to the same one exactly if
each is a respelling of the other (`normalize_eq_iff`).
-/

namespace PageBlocks.Path

/-! ### The stack -/

/-- The stack while a path is folded. -/
inductive IsFolded : List Component → Prop where
  | nil : IsFolded []
  | root : IsFolded [.root]
  | parent {done : List Component} (below : IsFolded done)
      (top : ∀ t, done.head? ≠ some (.name t)) : IsFolded (.parent :: done)
  | name {done : List Component} {t : Text} (below : IsFolded done) (ordinary : IsOrdinary t) :
      IsFolded (.name t :: done)

/-- A step goes on top of the stack, or it is `..` and takes a name away. -/
theorem fold_cases {c : Component} (hc : c.IsStep) (done : List Component) :
    (fold done c = c :: done ∧ (c = .parent → ∀ t, done.head? ≠ some (.name t))) ∨
      ∃ x rest, c = .parent ∧ done = .name x :: rest ∧ fold done c = rest := by
  cases hc with
  | name ordinary => exact Or.inl ⟨rfl, fun h => by cases h⟩
  | parent =>
    match done with
    | .name x :: rest => exact Or.inr ⟨x, rest, rfl, rfl, rfl⟩
    | [] | .root :: _ | .current :: _ | .parent :: _ => exact Or.inl ⟨rfl, fun _ t h => by cases h⟩

namespace IsFolded

variable {done : List Component}

theorem tail {c : Component} (h : IsFolded (c :: done)) : IsFolded done := by
  cases h with
  | root => exact .nil
  | parent below top => exact below
  | name below ordinary => exact below

theorem fold (h : IsFolded done) {c : Component} (hc : c.IsStep) : IsFolded (fold done c) := by
  rcases fold_cases hc done with ⟨hfold, htop⟩ | ⟨x, rest, rfl, rfl, hfold⟩
  · rw [hfold]
    cases hc with
    | parent => exact .parent h (htop rfl)
    | name ordinary => exact .name h ordinary
  · rw [hfold]
    exact h.tail

theorem foldl (h : IsFolded done) {cs : List Component} (hcs : ∀ c ∈ cs, c.IsStep) :
    IsFolded (cs.foldl Path.fold done) := by
  induction cs generalizing done with
  | nil => exact h
  | cons c cs ih =>
    exact ih (h.fold (hcs c List.mem_cons_self)) fun d hd => hcs d (List.mem_cons_of_mem _ hd)

/-- Folding what is folded puts the same on the stack again. -/
theorem foldl_reverse (h : IsFolded done) : done.reverse.foldl Path.fold [] = done := by
  induction h with
  | nil => rfl
  | root => rfl
  | @parent done below top ih =>
    rw [List.reverse_cons, List.foldl_append, ih]
    rcases fold_cases .parent done with ⟨hfold, -⟩ | ⟨x, rest, -, rfl, -⟩
    · exact hfold
    · exact absurd rfl (top x)
  | name below ordinary ih =>
    rw [List.reverse_cons, List.foldl_append, ih]
    rfl

end IsFolded

/-! ### The shape of folded paths -/

/-- A root, `..` so many times, and names. -/
def shape (rooted : Bool) (ups : Nat) (names : List Text) : List Component :=
  (if rooted then [.root] else []) ++ List.replicate ups .parent ++ names.map .name

theorem IsFolded.exists_shape {done : List Component} (h : IsFolded done) :
    ∃ rooted ups names, done.reverse = shape rooted ups names ∧ ∀ t ∈ names, IsOrdinary t := by
  induction h with
  | nil => exact ⟨false, 0, [], rfl, by simp⟩
  | root => exact ⟨true, 0, [], rfl, by simp⟩
  | @parent done below top ih =>
    obtain ⟨rooted, ups, names, hshape, hnames⟩ := ih
    obtain rfl | ⟨earlier, x, rfl⟩ := List.eq_nil_or_concat names
    · refine ⟨rooted, ups + 1, [], ?_, by simp⟩
      rw [List.reverse_cons, hshape]
      simp [shape, List.replicate_succ']
    · have hdone : done = (shape rooted ups (earlier ++ [x])).reverse := by
        rw [← List.concat_eq_append, ← hshape, List.reverse_reverse]
      refine absurd ?_ (top x)
      rw [hdone]
      simp [shape]
  | @name done t below ordinary ih =>
    obtain ⟨rooted, ups, names, hshape, hnames⟩ := ih
    refine ⟨rooted, ups, names ++ [t], ?_, ?_⟩
    · rw [List.reverse_cons, hshape]
      simp [shape]
    · intro x hx
      rcases List.mem_append.1 hx with hx | hx
      · exact hnames x hx
      · rw [List.mem_singleton.1 hx]
        exact ordinary

/-- What is folded is read as it was written. -/
theorem IsFolded.components_ofComponents {done : List Component} (h : IsFolded done) :
    components (ofComponents done.reverse) = done.reverse := by
  obtain ⟨rooted, ups, names, hshape, hnames⟩ := h.exists_shape
  have hsteps : ∀ c ∈ List.replicate ups Component.parent ++ names.map .name, c.IsStep := by
    intro c hc
    rcases List.mem_append.1 hc with hc | hc
    · rw [List.eq_of_mem_replicate hc]
      exact .parent
    · obtain ⟨t, ht, rfl⟩ := List.mem_map.1 hc
      exact .name (hnames t ht)
  rw [hshape, shape, List.append_assoc]
  cases rooted with
  | false => exact Path.components_ofComponents hsteps
  | true => exact components_ofComponents_root hsteps

/-- The folded components of a path, the last one first. -/
def stack (p : Path) : List Component := (components p).foldl fold []

theorem isFolded_stack (p : Path) : IsFolded (stack p) := by
  rw [stack, components_eq, List.foldl_append]
  refine IsFolded.foldl ?_ fun c hc => isStep_of_mem_steps hc
  rcases front_cases p with h | h | h
  · rw [h]
    exact .nil
  · rw [h]
    exact .nil
  · rw [h]
    exact .root

theorem components_normalize (p : Path) : components (normalize p) = (stack p).reverse :=
  (isFolded_stack p).components_ofComponents

theorem normalize_eq_of_stack {p q : Path} (h : stack p = stack q) : normalize p = normalize q :=
  congrArg (fun done : List Component => ofComponents done.reverse) h

theorem stack_normalize (p : Path) : stack (normalize p) = stack p := by
  rw [stack, components_normalize, (isFolded_stack p).foldl_reverse]

/-! ### Respelling -/

/-- The same path, spelled in another way. -/
inductive Respelling : Path → Path → Prop where
  /-- Other slashes and idle dots, but the same components. -/
  | written {p q : Path} (same : components p = components q) : Respelling p q
  /-- A dot on the way. -/
  | dot (q : Path) {r : Path} (relative : isAbsolute r = false) :
      Respelling (join q r) (join (join q ['.']) r)
  /-- A name and back again on the way. -/
  | detour (q : Path) {x r : Path} (ordinary : IsOrdinary x) (relative : isAbsolute r = false) :
      Respelling (join q r) (join (join (join q x) ['.', '.']) r)
  | symm {p q : Path} (h : Respelling p q) : Respelling q p
  | trans {p q r : Path} (h : Respelling p q) (h' : Respelling q r) : Respelling p r

/-- A relative path goes on where the path that it is joined to has ended. -/
theorem stack_join {r : Path} (hr : isAbsolute r = false) (q : Path) :
    stack (join q r) = (steps r).foldl fold (stack q) := by
  have hfront : (front r).foldl fold [] = [] := by
    rcases front_cases r with h | h | h
    · rw [h]
      rfl
    · rw [h]
      rfl
    · rw [isAbsolute_iff.2 h] at hr
      cases hr
  rw [stack, components_eq, front_join hr, steps_join hr, stack, components_eq q,
    List.foldl_append, List.foldl_append, List.foldl_append]
  split
  · rename_i hq
    rw [hfront, hq]
    rfl
  · rfl

section

variable {r : Path} (hr : isAbsolute r = false) (q : Path)
include hr

theorem normalize_join_dot : normalize (join (join q ['.']) r) = normalize (join q r) := by
  have hdot : stack (join q ['.']) = stack q := stack_join rfl q
  refine normalize_eq_of_stack ?_
  rw [stack_join hr, hdot, stack_join hr]

theorem normalize_join_detour {x : Text} (hx : IsOrdinary x) :
    normalize (join (join (join q x) ['.', '.']) r) = normalize (join q r) := by
  have hback : stack (join (join q x) ['.', '.']) = stack q := by
    rw [stack_join rfl, stack_join hx.isAbsolute_eq, hx.steps_eq]
    rfl
  refine normalize_eq_of_stack ?_
  rw [stack_join hr, hback, stack_join hr]

end

theorem Respelling.normalize_eq {p q : Path} (h : Respelling p q) : normalize p = normalize q := by
  induction h with
  | written same => exact congrArg (fun cs => ofComponents (folded cs)) same
  | dot q relative => exact (normalize_join_dot relative q).symm
  | detour q ordinary relative => exact (normalize_join_detour relative q ordinary).symm
  | symm _ ih => exact ih.symm
  | trans _ _ ih ih' => exact ih.trans ih'

/-- Where a path has been folded up to some place, the rest of it can be respelled step by step. -/
theorem exists_respelling {cs : List Component} (hcs : ∀ c ∈ cs, c.IsStep) {q : Path}
    {done : List Component} (hdone : IsFolded done) (hq : components q = done.reverse) :
    ∃ z, Respelling (join q (ofComponents cs)) z ∧
      components z = (cs.foldl fold done).reverse := by
  induction cs generalizing q done with
  | nil =>
    refine ⟨q, .written ?_, hq⟩
    rw [components_join hcs, List.append_nil]
  | cons c cs ih =>
    have hc := hcs c List.mem_cons_self
    have hlater : ∀ d ∈ cs, d.IsStep := fun d hd => hcs d (List.mem_cons_of_mem _ hd)
    have hwhole : components (join q (ofComponents (c :: cs))) = done.reverse ++ c :: cs := by
      rw [components_join hcs, hq]
    rw [List.foldl_cons]
    rcases fold_cases hc done with ⟨hfold, -⟩ | ⟨x, rest, rfl, rfl, hfold⟩
    · -- The step stays, so the path is cut one step later.
      have hstep : components (join q c.text) = (c :: done).reverse := by
        rw [components_join_text hc, hq, List.reverse_cons]
      obtain ⟨z, hz, hcomponents⟩ := ih hlater (hdone.fold hc) (hstep.trans (by rw [hfold]))
      refine ⟨z, .trans (.written ?_) hz, hcomponents⟩
      rw [hwhole, components_join hlater, hstep, List.reverse_cons, List.append_assoc]
      rfl
    · -- The step goes back from the name `x`, and the two are a detour.
      have hrest : components (ofComponents rest.reverse) = rest.reverse :=
        hdone.tail.components_ofComponents
      have hx : IsOrdinary x := by
        cases hdone with
        | name below ordinary => exact ordinary
      have hthere : components (join (ofComponents rest.reverse) x) = rest.reverse ++ [.name x] :=
        (components_join_text (.name hx) _).trans (congrArg (· ++ [.name x]) hrest)
      have hback : components (join (join (ofComponents rest.reverse) x) ['.', '.']) =
          rest.reverse ++ [.name x] ++ [.parent] :=
        (components_join_text hc _).trans (congrArg (· ++ [.parent]) hthere)
      obtain ⟨z, hz, hcomponents⟩ := ih hlater (hdone.fold hc) (hrest.trans (by rw [hfold]))
      refine ⟨z, .trans (.written ?_) (.trans (.symm (.detour _ hx ?_)) hz), hcomponents⟩
      · rw [hwhole, components_join hlater, hback, List.reverse_cons]
        simp
      · exact isAbsolute_ofComponents hlater

theorem respelling_normalize (p : Path) : Respelling p (normalize p) := by
  have hcs : ∀ c ∈ steps p, c.IsStep := fun c hc => isStep_of_mem_steps hc
  -- What is left to fold once the front has been read.
  have hfold : ∀ q done, IsFolded done → components q = done.reverse →
      (front p).foldl fold [] = done →
        Respelling (join q (ofComponents (steps p))) (normalize p) := by
    intro q done hdone hq hfront
    obtain ⟨z, hz, hcomponents⟩ := exists_respelling hcs hdone hq
    refine hz.trans (.written ?_)
    rw [hcomponents, components_normalize, stack, components_eq, List.foldl_append, hfront]
  rcases front_cases p with h | h | h
  · refine .trans (.written ?_) (hfold [] [] .nil rfl (by rw [h]; rfl))
    rw [components_join hcs, components_eq, h]
    rfl
  · have hdot : Respelling (join ['.'] (ofComponents (steps p)))
        (join [] (ofComponents (steps p))) :=
      .symm (.dot [] (isAbsolute_ofComponents hcs))
    refine .trans (.written ?_) (hdot.trans (hfold [] [] .nil rfl (by rw [h]; rfl)))
    rw [components_join hcs, components_eq, h]
    rfl
  · refine .trans (.written ?_) (hfold ['/'] [.root] .root rfl (by rw [h]; rfl))
    rw [components_join hcs, components_eq, h]
    rfl

/-- Folding tells respellings from all other paths. -/
theorem normalize_eq_iff {p q : Path} : normalize p = normalize q ↔ Respelling p q := by
  refine ⟨fun h => ?_, Respelling.normalize_eq⟩
  refine (respelling_normalize p).trans ?_
  rw [h]
  exact (respelling_normalize q).symm

example : normalize "a/b/../../../c".toList = "../c".toList := by decide +kernel

end PageBlocks.Path
