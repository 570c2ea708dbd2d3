import Mathlib.Data.Char
import Mathlib.Data.List.Lex
import Mathlib.Data.List.Nodup
import PageBlocks.Proofs.Registration

/-!
# A registry and its history

Whatever is done to a registry, one thing after the other, all that can be seen of it afterwards can
be told from the list of the handlers that were registered so far: the handler of a type is the last
one of its name, and the names are those of the list, in order (`Registry.Records`).

    register a    register b    load (c, a')    load (fails)    register b'
    a             a b           a b c a'        a b c a'        a b c a' b'      a'  b'  c

A source of block types is registered as a whole or not at all, so one that fails leaves no trace in
the list. One change keeps a registry in accordance with its list (`Records.step`), and hence any
run of changes does, from no handlers or from those that are always there
(`Registry.faithful_to_history`).
-/

namespace PageBlocks

/-- The order of texts is the usual order of lists of characters. -/
theorem Text.lt_iff {s t : Text} : Text.lt s t = true ↔ s < t := by
  induction s generalizing t with
  | nil => cases t <;> simp [Text.lt]
  | cons c s ih =>
    cases t with
    | nil => simp [Text.lt]
    | cons d t =>
      have hchars : c.toNat < d.toNat ↔ c < d := Iff.rfl
      simp [Text.lt, ih, List.cons_lt_cons_iff, hchars]

/-- A name in square brackets begins with the one and ends with the other. -/
theorem isSome_bracketed?_iff {t : Text} :
    (bracketed? t).isSome = true ↔ t.head? = some '[' ∧ t.getLast? = some ']' := by
  cases t with
  | nil => simp [bracketed?]
  | cons c rest =>
    rw [Option.isSome_iff_exists]
    constructor
    · rintro ⟨name, hname⟩
      unfold bracketed? at hname
      split at hname
      · rename_i heq
        obtain ⟨rfl, rfl⟩ := List.cons.inj heq
        rw [Text.before?_eq_some_iff.1 hname]
        exact ⟨rfl, by rw [← List.cons_append, List.getLast?_concat]⟩
      · cases hname
    · rintro ⟨hhead, hlast⟩
      obtain rfl : c = '[' := Option.some.inj hhead
      rcases List.eq_nil_or_concat rest with rfl | ⟨name, d, rfl⟩
      · cases hlast
      · rw [List.concat_eq_append, ← List.cons_append, List.getLast?_concat] at hlast
        obtain rfl : d = ']' := Option.some.inj hlast
        exact ⟨name, Text.before?_eq_some_iff.2 (List.concat_eq_append ..)⟩

theorem exists_of_forall₂ {α β : Type} {R : α → β → Prop} {as : List α} {bs : List β}
    (h : List.Forall₂ R as bs) {a : α} (ha : a ∈ as) : ∃ b ∈ bs, R a b := by
  induction h with
  | nil => cases ha
  | cons hab _ ih =>
    rcases List.mem_cons.1 ha with rfl | ha
    · exact ⟨_, List.mem_cons_self, hab⟩
    · obtain ⟨b, hb, hr⟩ := ih ha
      exact ⟨b, List.mem_cons_of_mem _ hb, hr⟩

/-- Handlers of different names are found by their names. -/
theorem Handler.find?_eq_some_iff {gs : List Handler} (hgs : (gs.map Handler.name).Nodup)
    {name : Text} {h : Handler} :
    gs.find? (fun g => g.name == name) = some h ↔ h ∈ gs ∧ h.name = name := by
  induction gs with
  | nil => simp
  | cons g gs ih =>
    rw [List.map_cons, List.nodup_cons] at hgs
    rw [List.find?_cons]
    by_cases hg : g.name = name
    · simp only [hg, beq_self_eq_true, Option.some.injEq, List.mem_cons]
      constructor
      · rintro rfl
        exact ⟨Or.inl rfl, hg⟩
      · rintro ⟨rfl | hh, hname⟩
        · rfl
        · exact absurd (List.mem_map.2 ⟨h, hh, hname.trans hg.symm⟩) hgs.1
    · simp only [beq_eq_false_iff_ne.2 hg, ih hgs.2, List.mem_cons]
      constructor
      · exact fun ⟨hh, hname⟩ => ⟨Or.inr hh, hname⟩
      · rintro ⟨rfl | hh, hname⟩
        · exact absurd hname hg
        · exact ⟨hh, hname⟩

namespace Registry

/-! ### One more handler -/

/-- The last handler of a list that goes by this name. -/
def latest? (history : List Handler) (name : Text) : Option Handler :=
  history.reverse.find? fun h => h.name == name

theorem latest?_concat (history : List Handler) (h : Handler) (name : Text) :
    latest? (history ++ [h]) name = if h.name = name then some h else latest? history name := by
  rw [latest?, List.reverse_concat]
  by_cases hname : h.name = name
  · rw [List.find?_cons_of_pos (by simpa using hname), if_pos hname]
  · rw [List.find?_cons_of_neg (by simpa using hname), if_neg hname, latest?]

theorem isSome_latest?_iff {history : List Handler} {name : Text} :
    (latest? history name).isSome = true ↔ ∃ h ∈ history, h.name = name := by
  simp [latest?]

/-- The last handlers of a list count, and if their names are different, each of them does. -/
theorem latest?_append_of_mem {hs : List Handler} (hhs : (hs.map Handler.name).Nodup)
    {h : Handler} (hh : h ∈ hs) (history : List Handler) :
    latest? (history ++ hs) h.name = some h := by
  have hnodup : (hs.reverse.map Handler.name).Nodup := by
    rw [List.map_reverse]
    exact List.nodup_reverse.2 hhs
  have hfind : hs.reverse.find? (fun g => g.name == h.name) = some h :=
    (Handler.find?_eq_some_iff hnodup).2 ⟨List.mem_reverse.2 hh, rfl⟩
  rw [latest?, List.reverse_append, List.find?_append, hfind]
  rfl

theorem find?_insert (h : Handler) (gs : List Handler) (name : Text) :
    (insert h gs).find? (fun g => g.name == name) =
      if h.name = name then some h else gs.find? fun g => g.name == name := by
  induction gs with
  | nil => by_cases hname : h.name = name <;> simp [insert, hname]
  | cons g gs ih =>
    rw [insert]
    by_cases hname : h.name = name
    · rw [if_pos hname] at ih ⊢
      split_ifs with hsame
      · rw [List.find?_cons_of_pos (by simpa using hname)]
      · rw [List.find?_cons_of_pos (by simpa using hname)]
      · have hg : g.name ≠ name := fun hg => hsame (hname.trans hg.symm)
        rw [List.find?_cons_of_neg (by simpa using hg), ih]
    · rw [if_neg hname] at ih ⊢
      split_ifs with hsame
      · have hg : g.name ≠ name := hsame ▸ hname
        rw [List.find?_cons_of_neg (by simpa using hname),
          List.find?_cons_of_neg (by simpa using hg)]
      · rw [List.find?_cons_of_neg (by simpa using hname)]
      · rw [List.find?_cons, List.find?_cons, ih]

/-- The handlers stand in the order of their names. -/
def Increasing (gs : List Handler) : Prop := gs.Pairwise fun g h => g.name < h.name

theorem Increasing.nodup {gs : List Handler} (h : Increasing gs) :
    (gs.map Handler.name).Nodup :=
  List.pairwise_map.2 (List.Pairwise.imp (fun hlt => ne_of_lt hlt) h)

theorem Increasing.insert {gs : List Handler} (hgs : Increasing gs) (h : Handler) :
    Increasing (insert h gs) := by
  induction gs with
  | nil => exact List.pairwise_singleton _ _
  | cons g gs ih =>
    obtain ⟨hfirst, hrest⟩ := List.pairwise_cons.1 hgs
    rw [Registry.insert]
    split_ifs with hsame hbefore
    · refine List.pairwise_cons.2 ⟨fun f hf => ?_, hrest⟩
      rw [hsame]
      exact hfirst f hf
    · refine List.pairwise_cons.2 ⟨fun f hf => ?_, hgs⟩
      rcases List.mem_cons.1 hf with rfl | hf
      · exact Text.lt_iff.1 hbefore
      · exact lt_trans (Text.lt_iff.1 hbefore) (hfirst f hf)
    · refine List.pairwise_cons.2 ⟨fun f hf => ?_, ih hrest⟩
      rcases mem_insert hf with rfl | hf
      · have hnot : ¬ f.name < g.name := fun hlt => hbefore (Text.lt_iff.2 hlt)
        exact lt_of_le_of_ne (not_lt.1 hnot) (Ne.symm hsame)
      · exact hfirst f hf

/-! ### Registries in accordance with a list -/

/-- The registry holds what was registered according to a list, the last one of each name. -/
structure Records (r : Registry) (history : List Handler) : Prop where
  increasing : Increasing r.handlers
  find?_eq : ∀ name, r.find? name = latest? history name

namespace Records

variable {r : Registry} {history : List Handler}

/-- A registry is in accordance with the list of its handlers. -/
theorem self (h : Increasing r.handlers) : r.Records r.handlers where
  increasing := h
  find?_eq := by
    intro name
    have hreverse : (r.handlers.reverse.map Handler.name).Nodup := by
      rw [List.map_reverse]
      exact List.nodup_reverse.2 h.nodup
    refine Option.ext fun g => ?_
    rw [find?, Handler.find?_eq_some_iff h.nodup, latest?, Handler.find?_eq_some_iff hreverse,
      List.mem_reverse]

theorem register (h : r.Records history) (g : Handler) :
    (r.register g).Records (history ++ [g]) where
  increasing := h.increasing.insert g
  find?_eq := by
    intro name
    rw [latest?_concat, ← h.find?_eq]
    exact find?_insert g r.handlers name

theorem registerAll (h : r.Records history) (gs : List Handler) :
    (gs.foldl Registry.register r).Records (history ++ gs) := by
  induction gs generalizing r history with
  | nil => rwa [List.append_nil]
  | cons g gs ih =>
    rw [List.append_cons]
    exact ih (h.register g)

theorem mem_names_iff (h : r.Records history) {name : Text} :
    name ∈ r.names ↔ ∃ g ∈ history, g.name = name := by
  rw [← isSome_latest?_iff, ← h.find?_eq, names, List.mem_map, find?]
  simp

theorem get?_eq (h : r.Records history) (type : Text) :
    r.get? type = (latest? history type).or
      (if type.head? = some '[' ∧ type.getLast? = some ']' then latest? history "[attr]".toList
        else none) := by
  rw [get?, h.find?_eq type, h.find?_eq]
  simp only [isSome_bracketed?_iff]
  cases latest? history type <;> rfl

end Records

end Registry

/-! ### Sources -/

/-- The handlers of a source are those of its entries, one each, and their names are different. -/
theorem Handler.declareFrom_eq_ok {number : Nat} {seen : List Text} {es : List SourceEntry}
    {hs : List Handler} (h : declareFrom number seen es = .ok hs) :
    List.Forall₂ (fun e g => e.handler = .ok g) es hs ∧ (hs.map Handler.name).Nodup ∧
      ∀ name ∈ seen, name ∉ hs.map Handler.name := by
  induction es generalizing number seen hs with
  | nil =>
    cases h
    simp
  | cons e es ih =>
    rw [declareFrom] at h
    split_ifs at h with hvalid hseen
    split at h
    · cases h
    · rename_i g hentry
      split at h
      · cases h
      · rename_i gs hfrom
        cases h
        obtain ⟨hgs, hnodup, hnew⟩ := ih hfrom
        have hname : g.name = e.name := name_of_entry hentry
        refine ⟨.cons hentry hgs, ?_, ?_⟩
        · rw [List.map_cons, List.nodup_cons, hname]
          exact ⟨hnew _ List.mem_cons_self, hnodup⟩
        · intro name hmem
          rw [List.map_cons, List.mem_cons, not_or, hname]
          refine ⟨?_, hnew _ (List.mem_cons_of_mem _ hmem)⟩
          rintro rfl
          exact hseen (List.contains_iff_mem.2 hmem)

/-- What is loaded from a source is what the entries of its text declare. -/
theorem Handler.load_eq_ok {read : ReadFile} {path : Path} {hs : List Handler}
    (h : load read path = .ok hs) :
    ∃ text entries, read path = .ok text ∧ sourceEntries text = .ok entries ∧
      List.Forall₂ (fun e g => e.handler = .ok g) entries hs ∧ (hs.map Handler.name).Nodup := by
  unfold load at h
  split at h
  · cases h
  · rename_i text hread
    unfold ofSource at h
    split at h
    · cases h
    · rename_i entries hentries
      split at h
      · cases h
      · rename_i hdeclare
        cases h
        unfold declare at hdeclare
        split_ifs at hdeclare
        obtain ⟨hgs, hnodup, -⟩ := declareFrom_eq_ok hdeclare
        exact ⟨text, entries, hread, hentries, hgs, hnodup⟩

namespace Registry

/-! ### Runs -/

/-- What can be done to a registry. -/
inductive Change where
  | register (h : Handler)
  | load (read : ReadFile) (path : Path)

/-- What is given back for a change. -/
inductive Answer where
  | replaced (h? : Option Handler)
  | loaded (count : Nat)
  | refused (e : SourceError)

/-- One change, and what is given back. -/
def step (r : Registry) : Change → Registry × Answer
  | .register h => ((r.exchange h).1, .replaced (r.exchange h).2)
  | .load read path =>
    match r.load read path with
    | .ok (r', count) => (r', .loaded count)
    | .error e => (r, .refused e)

/-- The registry after some changes. -/
def after (start : Registry) (changes : List Change) : Registry :=
  changes.foldl (fun r c => (r.step c).1) start

/-- The handlers that a change registers. -/
def Change.handlers : Change → List Handler
  | .register h => [h]
  | .load read path => (Handler.load read path).toOption.getD []

/-- The handlers that were registered in the course of some changes. -/
def history (start : Registry) (changes : List Change) : List Handler :=
  start.handlers ++ changes.flatMap Change.handlers

/-- A change keeps a registry in accordance with its list. -/
theorem Records.step {r : Registry} {history : List Handler} (h : r.Records history) (c : Change) :
    (r.step c).1.Records (history ++ c.handlers) := by
  cases c with
  | register g => exact h.register g
  | load read path =>
    rw [Registry.step, Change.handlers, Registry.load]
    cases Handler.load read path with
    | error e => simpa [Except.toOption] using h
    | ok hs => exact h.registerAll hs

theorem Records.after {r : Registry} {past : List Handler} (h : r.Records past)
    (changes : List Change) :
    (r.after changes).Records (past ++ changes.flatMap Change.handlers) := by
  induction changes generalizing r past with
  | nil => simpa [Registry.after] using h
  | cons c changes ih =>
    rw [List.flatMap_cons, ← List.append_assoc]
    exact ih (h.step c)

/-- All that can be seen of a registry after some changes is what its history says. -/
structure Faithful (start : Registry) (changes : List Change) : Prop where
  /-- The last one of the name counts, and for attributes the last one of all attributes. -/
  get?_eq : ∀ type, (start.after changes).get? type =
    (latest? (start.history changes) type).or
      (if type.head? = some '[' ∧ type.getLast? = some ']' then
        latest? (start.history changes) "[attr]".toList else none)
  contains_iff : ∀ type, (start.after changes).contains type = true ↔
    ∃ h, (start.after changes).get? type = some h
  increasing : (start.after changes).names.Pairwise (· < ·)
  mem_names_iff : ∀ name, name ∈ (start.after changes).names ↔
    ∃ h ∈ start.history changes, h.name = name
  size_eq : (start.after changes).size = (start.after changes).names.length
  /-- What is registered next takes the place of the last one of its name. -/
  register_eq : ∀ h, (start.after changes).step (.register h) =
    (start.after (changes ++ [.register h]), .replaced (latest? (start.history changes) h.name))
  /-- A source that fails changes nothing. -/
  load_error : ∀ read path e, Handler.load read path = .error e →
    (start.after changes).step (.load read path) = (start.after changes, .refused e)
  /-- A source that does not fail registers all that it declares. -/
  load_ok : ∀ read path hs, Handler.load read path = .ok hs →
    ∃ text entries, read path = .ok text ∧ Handler.sourceEntries text = .ok entries ∧
      (start.after changes).step (.load read path) =
        (start.after (changes ++ [.load read path]), .loaded entries.length) ∧
      ∀ e ∈ entries, ∃ h, e.handler = .ok h ∧
        (start.after (changes ++ [.load read path])).get? e.name = some h

theorem after_concat (start : Registry) (changes : List Change) (c : Change) :
    start.after (changes ++ [c]) = ((start.after changes).step c).1 := by
  rw [after, List.foldl_concat]
  rfl

theorem history_concat (start : Registry) (changes : List Change) (c : Change) :
    start.history (changes ++ [c]) = start.history changes ++ c.handlers := by
  simp [history]

theorem increasing_builtin : Increasing builtin.handlers := by
  have hempty : empty.Records [] := .self List.Pairwise.nil
  exact (hempty.registerAll _).increasing

/-- Starting from an ordered registry, every run is faithful to its history. -/
theorem Increasing.faithful {start : Registry} (h : Increasing start.handlers)
    (changes : List Change) : start.Faithful changes := by
  have hrecords : ∀ changes, (start.after changes).Records (start.history changes) :=
    fun changes => (Records.self h).after changes
  refine
    { get?_eq := (hrecords changes).get?_eq
      contains_iff := fun type => Option.isSome_iff_exists
      increasing := List.pairwise_map.2 (hrecords changes).increasing
      mem_names_iff := fun name => (hrecords changes).mem_names_iff
      size_eq := (List.length_map _).symm
      register_eq := fun g => ?_
      load_error := fun read path e he => ?_
      load_ok := fun read path hs hhs => ?_ }
  · rw [after_concat, ← (hrecords changes).find?_eq]
    rfl
  · rw [step, load, he]
  · obtain ⟨text, entries, hread, hentries, hgs, hnodup⟩ := Handler.load_eq_ok hhs
    refine ⟨text, entries, hread, hentries, ?_, fun e he => ?_⟩
    · rw [after_concat, hgs.length_eq, step, load, hhs]
    · obtain ⟨g, hg, hentry⟩ := exists_of_forall₂ hgs he
      refine ⟨g, hentry, ?_⟩
      rw [(hrecords _).get?_eq, history_concat, Change.handlers, hhs,
        ← Handler.name_of_entry hentry]
      simp only [Except.toOption, Option.getD_some, latest?_append_of_mem hnodup hg, Option.some_or]

/-- A registry shows its history. Whatever is registered and loaded, in whatever order, starting
from no handlers or from those that are always there: the handlers, the names and their number are
those of the history, and each change gives back what the history says. -/
theorem faithful_to_history (changes : List Change) :
    empty.Faithful changes ∧ builtin.Faithful changes :=
  ⟨Increasing.faithful List.Pairwise.nil changes, increasing_builtin.faithful changes⟩

end Registry

end PageBlocks
