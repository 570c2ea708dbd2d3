import Mathlib.Data.List.Basic
import PageBlocks.Path
import PageBlocks.Proofs.Separator

/-!
# How paths are written

A path begins somewhere, which its front tells, and goes on step by step; a step is `..` or an
ordinary name. A piece between slashes that is empty or a dot is no step.

    written        front    steps
    /srv//a/..     /        srv  a  ..
    ./a/./b        .        a  b
    a/b/                    a  b

The components of a path are its front and its steps (`components_eq`). What is joined to a path
adds its steps to it and leaves the front alone, unless there is nothing to be joined to
(`front_join`, `steps_join`). So components can be told from the path that they are written as
(`components_ofComponents`).
-/

namespace PageBlocks.Path

/-- A name that stands for itself between slashes. -/
structure IsOrdinary (t : Text) : Prop where
  ne_nil : t ≠ []
  ne_dot : t ≠ ['.']
  ne_dots : t ≠ ['.', '.']
  no_slash : '/' ∉ t

/-- A component that can stand anywhere in a path. -/
inductive Component.IsStep : Component → Prop where
  | parent : IsStep .parent
  | name {t : Text} (ordinary : IsOrdinary t) : IsStep (.name t)

/-- Where a path begins. -/
def front : Path → List Component
  | '/' :: _ => [.root]
  | ['.'] => [.current]
  | '.' :: '/' :: _ => [.current]
  | _ => []

/-- How a path goes on. -/
def steps (p : Path) : List Component := (Text.splitOn '/' p).filterMap Component.ofPiece?

/-! ### Pieces between slashes -/

theorem Component.isStep_of_ofPiece? {piece : Text} {c : Component} (hslash : '/' ∉ piece)
    (h : Component.ofPiece? piece = some c) : c.IsStep := by
  unfold Component.ofPiece? isIdle at h
  split at h
  · cases h
  · rename_i hidle
    simp only [Bool.or_eq_true, beq_iff_eq, not_or] at hidle
    split at h
    · cases h
      exact .parent
    · rename_i hdots
      cases h
      exact .name ⟨hidle.1, hidle.2, hdots, hslash⟩

theorem Component.IsStep.ofPiece?_text {c : Component} (hc : c.IsStep) :
    Component.ofPiece? c.text = some c := by
  cases hc with
  | parent => rfl
  | name ordinary =>
    simp [Component.ofPiece?, Component.text, isIdle, ordinary.ne_nil, ordinary.ne_dot,
      ordinary.ne_dots]

theorem Component.IsStep.no_slash {c : Component} (hc : c.IsStep) : '/' ∉ c.text := by
  cases hc with
  | parent => decide
  | name ordinary => exact ordinary.no_slash

/-- No path begins at the root, or with a dot, that begins with a step. -/
theorem Component.IsStep.front_append {c : Component} (hc : c.IsStep) {t : Text}
    (ht : t = [] ∨ ∃ u, t = '/' :: u) : front (c.text ++ t) = [] := by
  cases hc with
  | parent => rfl
  | @name x ordinary =>
    obtain ⟨hnil, hdot, -, hslash⟩ := ordinary
    simp only [Component.text]
    match x with
    | [] => exact absurd rfl hnil
    | [a] =>
      have ha : a ≠ '/' := by simpa [eq_comm] using hslash
      have ha' : a ≠ '.' := by simpa using hdot
      rcases ht with rfl | ⟨u, rfl⟩ <;> simp [front, ha, ha']
    | a :: b :: x =>
      have ha : a ≠ '/' := by
        rintro rfl
        exact hslash List.mem_cons_self
      have hb : b ≠ '/' := by
        rintro rfl
        exact hslash (List.mem_cons_of_mem _ List.mem_cons_self)
      simp [front, ha, hb]

/-! ### Front and steps -/

theorem isStep_of_mem_steps {p : Path} {c : Component} (h : c ∈ steps p) : c.IsStep := by
  obtain ⟨piece, hpiece, hc⟩ := List.mem_filterMap.1 h
  exact Component.isStep_of_ofPiece? (Text.notMem_of_mem_splitOn hpiece) hc

theorem steps_append_slash (p t : Path) : steps (p ++ '/' :: t) = steps p ++ steps t := by
  rw [steps, Text.splitOn_append_cons, List.filterMap_append]
  rfl

theorem steps_slash (t : Path) : steps ('/' :: t) = steps t := steps_append_slash [] t

theorem components_eq (p : Path) : components p = front p ++ steps p := by
  unfold components
  fun_cases anchor p with
  | case1 t => exact congrArg (Component.root :: ·) (steps_slash t).symm
  | case2 => rfl
  | case3 t =>
    have hdot : steps ('.' :: '/' :: t) = steps t := steps_append_slash ['.'] t
    exact congrArg (Component.current :: ·) ((steps_slash t).trans hdot.symm)
  | case4 p hroot hdot hdots =>
    have hfront : front p = [] := by
      unfold front
      split
      · exact absurd rfl (hroot _)
      · exact absurd rfl hdot
      · exact absurd rfl (hdots _)
      · rfl
    rw [hfront]
    rfl

/-- Only what stands in front of the first slash tells where a path begins. -/
theorem front_append_slash {q : Path} (hq : q ≠ []) (t : Path) :
    front (q ++ '/' :: t) = front q := by
  match q, hq with
  | [a], _ =>
    by_cases hroot : a = '/'
    · rw [hroot]
      rfl
    · by_cases hdot : a = '.'
      · rw [hdot]
        rfl
      · simp [front, hroot, hdot]
  | a :: b :: u, _ =>
    by_cases hroot : a = '/'
    · rw [hroot]
      rfl
    · by_cases hslash : b = '/'
      · by_cases hdot : a = '.' <;> simp [front, hroot, hslash, hdot]
      · simp [front, hroot, hslash]

theorem isAbsolute_iff {p : Path} : isAbsolute p = true ↔ front p = [.root] := by
  rw [isAbsolute, Text.startsWith_iff]
  constructor
  · rintro ⟨t, rfl⟩
    rfl
  · intro h
    unfold front at h
    split at h
    · exact ⟨_, rfl⟩
    all_goals cases h

theorem front_cases (p : Path) : front p = [] ∨ front p = [.current] ∨ front p = [.root] := by
  fun_cases front p <;> simp

/-! ### Joining -/

section

variable {r : Path} (hr : isAbsolute r = false) (q : Path)
include hr

theorem join_cases : join [] r = r ∧ (q ≠ [] →
    join q r = q ++ '/' :: r ∨ ∃ t, q = t ++ ['/'] ∧ join q r = t ++ '/' :: r) := by
  constructor
  · simp [join, hr]
  · intro hq
    rw [join, hr]
    cases hends : Text.endsWith ['/'] q with
    | false => exact Or.inl (by simp [hq])
    | true =>
      obtain ⟨t, rfl⟩ := Text.endsWith_iff.1 hends
      exact Or.inr ⟨t, rfl, by simp⟩

theorem steps_join : steps (join q r) = steps q ++ steps r := by
  obtain ⟨hnil, hcons⟩ := join_cases hr q
  by_cases hq : q = []
  · rw [hq, hnil]
    rfl
  · obtain h | ⟨t, rfl, h⟩ := hcons hq
    · rw [h, steps_append_slash]
    · rw [h, steps_append_slash, steps_append_slash]
      simp [steps, Text.splitOn, Component.ofPiece?, isIdle]

theorem front_join : front (join q r) = if q = [] then front r else front q := by
  obtain ⟨hnil, hcons⟩ := join_cases hr q
  split
  · rename_i hq
    rw [hq, hnil]
  · rename_i hq
    obtain h | ⟨t, rfl, h⟩ := hcons hq
    · rw [h, front_append_slash hq]
    · rw [h]
      cases t with
      | nil => rfl
      | cons a t =>
        have ht : a :: t ≠ [] := List.cons_ne_nil a t
        rw [front_append_slash ht, front_append_slash ht]

end

/-! ### Writing components -/

section

variable {cs : List Component} (hcs : ∀ c ∈ cs, c.IsStep)
include hcs

theorem ofComponents_of_steps : ofComponents cs = Text.join ['/'] (cs.map Component.text) := by
  unfold ofComponents
  split
  · cases hcs .root List.mem_cons_self
  · rfl

theorem front_ofComponents : front (ofComponents cs) = [] := by
  rw [ofComponents_of_steps hcs]
  match cs, hcs with
  | [], _ => rfl
  | [c], hcs =>
    have hfront := (hcs c List.mem_cons_self).front_append (Or.inl rfl)
    rwa [List.append_nil] at hfront
  | c :: d :: cs, hcs =>
    rw [List.map_cons, Text.join_cons (by simp), List.append_assoc]
    exact (hcs c List.mem_cons_self).front_append (Or.inr ⟨_, rfl⟩)

theorem isAbsolute_ofComponents : isAbsolute (ofComponents cs) = false := by
  rw [Bool.eq_false_iff]
  intro h
  rw [isAbsolute_iff, front_ofComponents hcs] at h
  cases h

theorem filterMap_text : (cs.map Component.text).filterMap Component.ofPiece? = cs := by
  rw [List.filterMap_map]
  induction cs with
  | nil => rfl
  | cons c cs ih =>
    have hc : (Component.ofPiece? ∘ Component.text) c = some c :=
      (hcs c List.mem_cons_self).ofPiece?_text
    rw [List.filterMap_cons_some hc, ih fun d hd => hcs d (List.mem_cons_of_mem _ hd)]

theorem steps_ofComponents : steps (ofComponents cs) = cs := by
  rw [ofComponents_of_steps hcs]
  by_cases hnil : cs = []
  · rw [hnil]
    rfl
  · have hslash : ∀ piece ∈ cs.map Component.text, '/' ∉ piece := by
      intro piece hpiece
      obtain ⟨c, hc, rfl⟩ := List.mem_map.1 hpiece
      exact (hcs c hc).no_slash
    rw [steps, Text.splitOn_join (by simpa using hnil) hslash, filterMap_text hcs]

/-- Steps are read as they were written. -/
theorem components_ofComponents : components (ofComponents cs) = cs := by
  rw [components_eq, front_ofComponents hcs, steps_ofComponents hcs, List.nil_append]

theorem components_ofComponents_root :
    components (ofComponents (.root :: cs)) = .root :: cs := by
  have hwritten : ofComponents (.root :: cs) = '/' :: ofComponents cs :=
    congrArg ('/' :: ·) (ofComponents_of_steps hcs).symm
  rw [hwritten, components_eq, steps_slash, steps_ofComponents hcs]
  rfl

/-- Steps that are joined to a path come behind its components. -/
theorem components_join (q : Path) :
    components (join q (ofComponents cs)) = components q ++ cs := by
  have hr := isAbsolute_ofComponents hcs
  rw [components_eq, front_join hr, steps_join hr, steps_ofComponents hcs, components_eq q,
    front_ofComponents hcs, List.append_assoc]
  split
  · rename_i hq
    rw [hq]
    rfl
  · rfl

end

section

variable {c : Component} (hc : c.IsStep)
include hc

theorem forall_mem_singleton_isStep : ∀ d ∈ [c], d.IsStep := by simpa using hc

theorem ofComponents_singleton : ofComponents [c] = c.text :=
  ofComponents_of_steps (forall_mem_singleton_isStep hc)

theorem components_join_text (q : Path) : components (join q c.text) = components q ++ [c] := by
  rw [← ofComponents_singleton hc, components_join (forall_mem_singleton_isStep hc)]

end

theorem IsOrdinary.steps_eq {x : Text} (hx : IsOrdinary x) : steps x = [.name x] :=
  steps_ofComponents (forall_mem_singleton_isStep (.name hx))

theorem IsOrdinary.isAbsolute_eq {x : Text} (hx : IsOrdinary x) : isAbsolute x = false :=
  isAbsolute_ofComponents (forall_mem_singleton_isStep (.name hx))

end PageBlocks.Path
