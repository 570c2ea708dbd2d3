import Mathlib.Tactic.SplitIfs
import PageBlocks.Processor

/-!
# Registered handlers

The handlers of a registry are those that were registered, and no others. What all handlers that are
always there have in common with all that can be declared is therefore true of every handler of a
processor that was set up from options (`Processor.forall_get?_of_ofOptions`).
-/

namespace PageBlocks

namespace Registry

theorem mem_insert {g h : Handler} {gs : List Handler} (hg : g ∈ insert h gs) :
    g = h ∨ g ∈ gs := by
  induction gs with
  | nil => exact Or.inl (List.mem_singleton.1 hg)
  | cons f gs ih =>
    rw [insert] at hg
    split_ifs at hg
    · rcases List.mem_cons.1 hg with rfl | hg
      · exact Or.inl rfl
      · exact Or.inr (List.mem_cons_of_mem _ hg)
    · exact List.mem_cons.1 hg
    · rcases List.mem_cons.1 hg with rfl | hg
      · exact Or.inr List.mem_cons_self
      · exact (ih hg).imp id (List.mem_cons_of_mem _)

theorem mem_foldl_register {g : Handler} {hs : List Handler} {r : Registry}
    (hg : g ∈ (hs.foldl register r).handlers) : g ∈ hs ∨ g ∈ r.handlers := by
  induction hs generalizing r with
  | nil => exact Or.inr hg
  | cons h hs ih =>
    rcases ih hg with hg | hg
    · exact Or.inl (List.mem_cons_of_mem _ hg)
    · rcases mem_insert hg with rfl | hg
      · exact Or.inl List.mem_cons_self
      · exact Or.inr hg

theorem mem_of_get? {r : Registry} {type : Text} {h : Handler} (hget : r.get? type = some h) :
    h ∈ r.handlers := by
  unfold get? at hget
  split at hget
  · rename_i g hfind
    cases hget
    exact List.mem_of_find?_eq_some hfind
  · split_ifs at hget
    exact List.mem_of_find?_eq_some hget

end Registry

/-- What can be declared. -/
inductive Handler.Declared : Handler → Prop where
  | wrap (name before after : Text) : Declared (.wrap name before after)
  | replace (name text : Text) : Declared (.replace name text)
  | regex (name : Text) (pattern : Pattern) (replacement : Text) :
      Declared (.regex name pattern replacement)

namespace Handler

/-- What an entry declares is called what the entry says. -/
theorem eq_of_entry {e : SourceEntry} {h : Handler} (hentry : e.handler = .ok h) :
    (∃ before after, h = .wrap e.name before after) ∨ (∃ text, h = .replace e.name text) ∨
      ∃ pattern replacement, h = .regex e.name pattern replacement := by
  have hbind : ∀ {α : Type} (x : Except EntryFault α) (f : α → Except EntryFault Handler),
      x >>= f = .ok h → ∃ a, f a = .ok h := by
    intro α x f hx
    cases x with
    | error e => cases hx
    | ok a => exact ⟨a, hx⟩
  unfold SourceEntry.handler at hentry
  split at hentry
  · obtain ⟨-, hentry⟩ := hbind _ _ hentry
    obtain ⟨-, hentry⟩ := hbind _ _ hentry
    obtain ⟨-, hentry⟩ := hbind _ _ hentry
    split_ifs at hentry
    · cases hentry
    · cases hentry
      exact Or.inl ⟨_, _, rfl⟩
  · obtain ⟨-, hentry⟩ := hbind _ _ hentry
    obtain ⟨-, hentry⟩ := hbind _ _ hentry
    obtain ⟨-, hentry⟩ := hbind _ _ hentry
    obtain ⟨-, hentry⟩ := hbind _ _ hentry
    obtain ⟨text, hentry⟩ := hbind _ _ hentry
    cases hentry
    exact Or.inr (Or.inl ⟨_, rfl⟩)
  · obtain ⟨-, hentry⟩ := hbind _ _ hentry
    obtain ⟨-, hentry⟩ := hbind _ _ hentry
    obtain ⟨-, hentry⟩ := hbind _ _ hentry
    obtain ⟨source, hentry⟩ := hbind _ _ hentry
    obtain ⟨replacement, hentry⟩ := hbind _ _ hentry
    split at hentry
    · cases hentry
    · cases hentry
      exact Or.inr (Or.inr ⟨_, _, rfl⟩)

theorem declared_of_entry {e : SourceEntry} {h : Handler} (hentry : e.handler = .ok h) :
    h.Declared := by
  rcases eq_of_entry hentry with ⟨_, _, rfl⟩ | ⟨_, rfl⟩ | ⟨_, _, rfl⟩
  · exact .wrap _ _ _
  · exact .replace _ _
  · exact .regex _ _ _

theorem name_of_entry {e : SourceEntry} {h : Handler} (hentry : e.handler = .ok h) :
    h.name = e.name := by
  rcases eq_of_entry hentry with ⟨_, _, rfl⟩ | ⟨_, rfl⟩ | ⟨_, _, rfl⟩ <;> rfl

theorem declared_of_declareFrom {number : Nat} {seen : List Text} {es : List SourceEntry}
    {hs : List Handler} (h : declareFrom number seen es = .ok hs) : ∀ g ∈ hs, g.Declared := by
  induction es generalizing number seen hs with
  | nil =>
    cases h
    simp
  | cons e es ih =>
    rw [declareFrom] at h
    split_ifs at h
    split at h
    · cases h
    · rename_i f hentry
      split at h
      · cases h
      · rename_i fs hfrom
        cases h
        intro g hg
        rcases List.mem_cons.1 hg with rfl | hg
        · exact declared_of_entry hentry
        · exact ih hfrom g hg

theorem declared_of_load {read : ReadFile} {path : Path} {hs : List Handler}
    (h : load read path = .ok hs) : ∀ g ∈ hs, g.Declared := by
  unfold load at h
  split at h
  · cases h
  · unfold ofSource at h
    split at h
    · cases h
    · split at h
      · cases h
      · rename_i hdeclare
        cases h
        unfold declare at hdeclare
        split_ifs at hdeclare
        exact declared_of_declareFrom hdeclare

end Handler

namespace Processor

theorem mem_loadSources {read : ReadFile} {paths : List Path} {r r' : Registry}
    (h : loadSources read paths r = .ok r') :
    ∀ g ∈ r'.handlers, g ∈ r.handlers ∨ g.Declared := by
  induction paths generalizing r with
  | nil =>
    cases h
    exact fun g hg => Or.inl hg
  | cons path paths ih =>
    rw [loadSources] at h
    split at h
    · cases h
    · rename_i r₁ _ hload
      unfold Registry.load at hload
      split at hload
      · cases hload
      · rename_i hs hdeclared
        cases hload
        intro g hg
        rcases ih h g hg with hg | hg
        · rcases Registry.mem_foldl_register hg with hg | hg
          · exact Or.inr (Handler.declared_of_load hdeclared g hg)
          · exact Or.inl hg
        · exact Or.inr hg

/-- What holds of the handlers that are always there and of all that can be declared holds of all
handlers of a processor that was set up from options. -/
theorem forall_get?_of_ofOptions {P : Handler → Prop}
    (hbuiltin : ∀ g ∈ Registry.builtin.handlers, P g) (hdeclared : ∀ g : Handler, g.Declared → P g)
    {options : Options} {read : ReadFile} {transform : Transform} {template? : Option Template}
    {p : Processor} (hp : ofOptions options read transform template? = .ok p) {type : Text}
    {g : Handler} (hget : p.registry.get? type = some g) : P g := by
  unfold ofOptions at hp
  split at hp
  · cases hp
  · dsimp only at hp
    split at hp
    · cases hp
    · split at hp
      · cases hp
      · rename_i registry hsources
        cases hp
        rcases mem_loadSources hsources g (Registry.mem_of_get? hget) with hg | hg
        · exact hbuiltin g hg
        · exact hdeclared g hg

/-- The handlers that are always there. -/
theorem mem_builtin {g : Handler} (hg : g ∈ Registry.builtin.handlers) :
    g = .remove ∨ g = .insertFile ∨ (∃ kind, g = .asset kind) ∨ g = .setAttribute ∨
      g = .template := by
  rcases Registry.mem_foldl_register hg with hg | hg
  · simp only [List.mem_cons, List.not_mem_nil, or_false] at hg
    rcases hg with rfl | rfl | rfl | rfl | rfl | rfl
    · exact Or.inl rfl
    · exact Or.inr (Or.inl rfl)
    · exact Or.inr (Or.inr (Or.inl ⟨_, rfl⟩))
    · exact Or.inr (Or.inr (Or.inl ⟨_, rfl⟩))
    · exact Or.inr (Or.inr (Or.inr (Or.inl rfl)))
    · exact Or.inr (Or.inr (Or.inr (Or.inr rfl)))
  · cases hg

end Processor

end PageBlocks
