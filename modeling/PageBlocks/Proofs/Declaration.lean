import PageBlocks.Proofs.Expansion
import PageBlocks.Proofs.Grammar
import PageBlocks.Proofs.History
import PageBlocks.Proofs.Nesting

/-!
# Sources of block types: what is accepted, and what it is good for

A source is a list of entries, and it is accepted just if every entry has a name of its own that can
be a block type, and exactly the fields that its action has a use for:

    wrap       before, after, or both
    replace    template
    regex      pattern and replacement

Otherwise the first entry that is not like this is reported, by its number and its name. The entries
are looked at one after the other, each with the names before it
(`Handler.declareFrom_cons`, `Handler.declareFrom_cases`).

What is accepted can be used: a comment with such a name in it opens a block of that type wherever
it stands, and the block goes to the handler of the entry, as long as nothing of the same name is
registered later (`Handler.sources_are_usable`).
-/

namespace PageBlocks

/-! ### What an entry declares -/

/-- The fields that an action has a use for. -/
def Action.fields : Action → List String
  | .wrap => ["before", "after"]
  | .replace => ["template"]
  | .regex => ["pattern", "replacement"]

namespace SourceEntry

/-- The fields of an entry that may be left out, by their names. -/
def fields (e : SourceEntry) : List (String × Option Text) :=
  [("before", e.before), ("after", e.after), ("template", e.template), ("pattern", e.pattern),
    ("replacement", e.replacement)]

/-- The handler that an entry with exactly the fields of its action stands for. -/
inductive Declares : SourceEntry → Handler → Prop where
  | wrap {name : Text} {before after : Option Text}
      (some_text : before.isSome = true ∨ after.isSome = true) :
      Declares { name, action := .wrap, before, after }
        (.wrap name (before.getD []) (after.getD []))
  | replace {name template : Text} :
      Declares { name, action := .replace, template := some template } (.replace name template)
  | regex {name pattern replacement : Text} {p : Pattern}
      (compiles : Pattern.ofText pattern = .ok p) :
      Declares { name, action := .regex, pattern := some pattern, replacement := some replacement }
        (.regex name p replacement)

/-- What is wrong with the fields of an entry. -/
inductive Misfit (e : SourceEntry) : EntryFault → Prop where
  | unused {field : String} {value : Text} (given : (field, some value) ∈ e.fields)
      (useless : field ∉ e.action.fields) : Misfit e (.unusedField field e.action)
  | emptyWrap (action : e.action = .wrap) (before : e.before = none) (after : e.after = none) :
      Misfit e .emptyWrap
  | missing {field : String} (action : e.action ≠ .wrap) (needed : field ∈ e.action.fields)
      (absent : (field, none) ∈ e.fields) : Misfit e (.missingField e.action field)
  | badPattern {pattern : Text} {cause : Pattern.Error} (action : e.action = .regex)
      (given : e.pattern = some pattern) (bad : Pattern.ofText pattern = .error cause) :
      Misfit e (.badPattern cause)

variable {e : SourceEntry} {field : String} {value : Option Text}

theorem unused_eq_ok_iff {u : Unit} : e.unused field value = .ok u ↔ value = none := by
  cases value <;> simp [unused]

theorem unused_eq_error_iff {fault : EntryFault} :
    e.unused field value = .error fault ↔
      (∃ t, value = some t) ∧ fault = .unusedField field e.action := by
  cases value <;> simp [unused, eq_comm]

theorem needed_eq_ok_iff {t : Text} : e.needed field value = .ok t ↔ value = some t := by
  cases value <;> simp [needed]

theorem needed_eq_error_iff {fault : EntryFault} :
    e.needed field value = .error fault ↔ value = none ∧ fault = .missingField e.action field := by
  cases value <;> simp [needed, eq_comm]

/-- An entry gives a handler just if it has the fields of its action and no others. -/
theorem handler_eq_ok_iff {h : Handler} : e.handler = .ok h ↔ e.Declares h := by
  obtain ⟨name, action, before, after, template, pattern, replacement⟩ := e
  constructor
  · intro hentry
    unfold handler at hentry
    cases action with
    | wrap =>
      simp only [ok_bind_iff, unused_eq_ok_iff, exists_const] at hentry
      obtain ⟨rfl, rfl, rfl, hentry⟩ := hentry
      split_ifs at hentry with hnone
      · cases hentry
      · cases hentry
        refine .wrap ?_
        cases before <;> cases after <;> simp_all
    | replace =>
      simp only [ok_bind_iff, unused_eq_ok_iff, needed_eq_ok_iff, exists_const] at hentry
      obtain ⟨rfl, rfl, rfl, rfl, t, rfl, hentry⟩ := hentry
      cases hentry
      exact .replace
    | regex =>
      simp only [ok_bind_iff, unused_eq_ok_iff, needed_eq_ok_iff, exists_const] at hentry
      obtain ⟨rfl, rfl, rfl, source, rfl, text, rfl, hentry⟩ := hentry
      cases hpattern : Pattern.ofText source with
      | error cause =>
        rw [hpattern] at hentry
        cases hentry
      | ok p =>
        rw [hpattern] at hentry
        cases hentry
        exact .regex hpattern
  · intro hentry
    cases hentry with
    | wrap some_text =>
      have hsome : (before.isNone && after.isNone) = false := by
        rcases some_text with h | h
        · rw [Option.isNone_eq_false_iff.2 h, Bool.false_and]
        · rw [Option.isNone_eq_false_iff.2 h, Bool.and_false]
      simp [handler, unused, hsome, bind, Except.bind, pure, Except.pure]
    | replace => rfl
    | regex compiles =>
      simp [handler, unused, needed, compiles, bind, Except.bind, pure, Except.pure]

/-- An entry without a handler is refused for something that is wrong with it. -/
theorem misfit_of_handler {fault : EntryFault} (h : e.handler = .error fault) : e.Misfit fault := by
  have hunused : ∀ {field value}, (field, value) ∈ e.fields → field ∉ e.action.fields →
      e.unused field value = .error fault → e.Misfit fault := by
    intro field value hmem huseless hfault
    obtain ⟨⟨t, rfl⟩, rfl⟩ := unused_eq_error_iff.1 hfault
    exact .unused hmem huseless
  have hneeded : ∀ {field value}, e.action ≠ .wrap → (field, value) ∈ e.fields →
      field ∈ e.action.fields → e.needed field value = .error fault → e.Misfit fault := by
    intro field value haction hmem huse hfault
    obtain ⟨rfl, rfl⟩ := needed_eq_error_iff.1 hfault
    exact .missing haction huse hmem
  unfold handler at h
  cases haction : e.action with
  | wrap =>
    simp only [haction, error_bind_iff, unused_eq_ok_iff, exists_const] at h
    rcases h with h | ⟨-, h | ⟨-, h | ⟨-, h⟩⟩⟩
    · exact hunused (by simp [fields]) (by simp [haction, Action.fields]) h
    · exact hunused (by simp [fields]) (by simp [haction, Action.fields]) h
    · exact hunused (by simp [fields]) (by simp [haction, Action.fields]) h
    · split_ifs at h with hnone
      · rw [Bool.and_eq_true, Option.isNone_iff_eq_none, Option.isNone_iff_eq_none] at hnone
        cases h
        exact .emptyWrap haction hnone.1 hnone.2
      · cases h
  | replace =>
    have hne : e.action ≠ .wrap := by simp [haction]
    simp only [haction, error_bind_iff, unused_eq_ok_iff, needed_eq_ok_iff, exists_const] at h
    rcases h with h | ⟨-, h | ⟨-, h | ⟨-, h | ⟨-, h | ⟨t, -, h⟩⟩⟩⟩⟩
    · exact hunused (by simp [fields]) (by simp [haction, Action.fields]) h
    · exact hunused (by simp [fields]) (by simp [haction, Action.fields]) h
    · exact hunused (by simp [fields]) (by simp [haction, Action.fields]) h
    · exact hunused (by simp [fields]) (by simp [haction, Action.fields]) h
    · exact hneeded hne (by simp [fields]) (by simp [haction, Action.fields]) h
    · cases h
  | regex =>
    have hne : e.action ≠ .wrap := by simp [haction]
    simp only [haction, error_bind_iff, unused_eq_ok_iff, needed_eq_ok_iff, exists_const] at h
    rcases h with h | ⟨-, h | ⟨-, h | ⟨-, h | ⟨source, hsource, h | ⟨text, -, h⟩⟩⟩⟩⟩
    · exact hunused (by simp [fields]) (by simp [haction, Action.fields]) h
    · exact hunused (by simp [fields]) (by simp [haction, Action.fields]) h
    · exact hunused (by simp [fields]) (by simp [haction, Action.fields]) h
    · exact hneeded hne (by simp [fields]) (by simp [haction, Action.fields]) h
    · exact hneeded hne (by simp [fields]) (by simp [haction, Action.fields]) h
    · cases hpattern : Pattern.ofText source with
      | error cause =>
        rw [hpattern] at h
        cases h
        exact .badPattern haction hsource hpattern
      | ok p =>
        rw [hpattern] at h
        cases h

/-- What an entry declares goes by its name. -/
theorem Declares.name_eq {h : Handler} (hentry : e.Declares h) : h.name = e.name := by
  cases hentry <;> rfl

/-- An entry that declares a handler has no field without a use. -/
theorem Declares.mem_fields {h : Handler} (hentry : e.Declares h) {t : Text}
    (hgiven : (field, some t) ∈ e.fields) : field ∈ e.action.fields := by
  cases hentry <;>
    simp only [fields, List.mem_cons, Prod.mk.injEq, reduceCtorEq, and_false, or_false, false_or,
      List.not_mem_nil] at hgiven
  · rcases hgiven with ⟨rfl, -⟩ | ⟨rfl, -⟩ <;> simp [Action.fields]
  · simp [Action.fields, hgiven.1]
  · rcases hgiven with ⟨rfl, -⟩ | ⟨rfl, -⟩ <;> simp [Action.fields]

/-- Unless it puts text around the content, it has all the fields of its action. -/
theorem Declares.not_absent {h : Handler} (hentry : e.Declares h) (haction : e.action ≠ .wrap)
    (hneeded : field ∈ e.action.fields) : (field, none) ∉ e.fields := by
  cases hentry with
  | wrap => exact absurd rfl haction
  | replace =>
    obtain rfl : field = "template" := by simpa [Action.fields] using hneeded
    simp [fields]
  | regex =>
    obtain rfl | rfl : field = "pattern" ∨ field = "replacement" := by
      simpa [Action.fields] using hneeded
    · simp [fields]
    · simp [fields]

/-- What is wrong with an entry is not so with one that declares a handler. -/
theorem Misfit.not_declares {fault : EntryFault} (hmisfit : e.Misfit fault) (h : Handler) :
    ¬ e.Declares h := by
  intro hdeclares
  cases hmisfit with
  | unused given useless => exact useless (hdeclares.mem_fields given)
  | missing action needed absent => exact hdeclares.not_absent action needed absent
  | emptyWrap action before after =>
    cases hdeclares with
    | wrap some_text =>
      obtain rfl : _ = none := before
      obtain rfl : _ = none := after
      rcases some_text with h | h <;> cases h
    | replace => cases action
    | regex => cases action
  | badPattern action given bad =>
    cases hdeclares with
    | wrap => cases action
    | replace => cases action
    | regex compiles =>
      cases given
      rw [compiles] at bad
      cases bad

/-! ### What a list of entries declares -/

/-- What is wrong with an entry behind entries of these names. -/
inductive Offends (taken : List Text) (e : SourceEntry) : EntryFault → Prop where
  | invalidName (bad : ¬ Directive.IsType e.name) : Offends taken e .invalidName
  | duplicate (type : Directive.IsType e.name) (again : e.name ∈ taken) :
      Offends taken e .duplicate
  | misfit {fault : EntryFault} (type : Directive.IsType e.name) (new : e.name ∉ taken)
      (misfit : e.Misfit fault) : Offends taken e fault

theorem Offends.congr {taken taken' : List Text} {fault : EntryFault} (h : Offends taken e fault)
    (hsame : e.name ∈ taken ↔ e.name ∈ taken') : Offends taken' e fault := by
  cases h with
  | invalidName bad => exact .invalidName bad
  | duplicate type again => exact .duplicate type (hsame.1 again)
  | misfit type new misfit => exact .misfit type (fun hmem => new (hsame.2 hmem)) misfit

/-- Entries that can stand together in a source. -/
structure Sound (entries : List SourceEntry) : Prop where
  types : ∀ e ∈ entries, Directive.IsType e.name
  distinct : (entries.map SourceEntry.name).Nodup
  fields : ∀ e ∈ entries, ∃ h, e.Declares h

theorem Offends.not_sound {before later : List SourceEntry} {fault : EntryFault}
    (h : Offends (before.map SourceEntry.name) e fault) : ¬ Sound (before ++ e :: later) := by
  intro hsound
  have hmem : e ∈ before ++ e :: later := by simp
  cases h with
  | invalidName bad => exact bad (hsound.types e hmem)
  | duplicate type again =>
    have hdistinct := hsound.distinct
    rw [List.map_append, List.nodup_append] at hdistinct
    exact hdistinct.2.2 _ again _ (by simp) rfl
  | misfit type new misfit =>
    obtain ⟨h, hdeclares⟩ := hsound.fields e hmem
    exact misfit.not_declares h hdeclares

/-- Entries that can stand behind entries of the names `seen`, nearest first, and the handlers that
they declare. -/
inductive Follow : (seen : List Text) → List SourceEntry → List Handler → Prop where
  | nil {seen : List Text} : Follow seen [] []
  | cons {seen : List Text} {e : SourceEntry} {h : Handler} {es : List SourceEntry}
      {hs : List Handler} (type : Directive.IsType e.name) (new : e.name ∉ seen)
      (declares : e.Declares h) (later : Follow (e.name :: seen) es hs) :
      Follow seen (e :: es) (h :: hs)

namespace Follow

variable {seen : List Text} {es : List SourceEntry} {hs : List Handler}

theorem forall₂ (h : Follow seen es hs) : List.Forall₂ Declares es hs := by
  induction h with
  | nil => exact .nil
  | cons type new declares later ih => exact .cons declares ih

theorem forall_mem (h : Follow seen es hs) :
    ∀ e ∈ es, Directive.IsType e.name ∧ e.name ∉ seen := by
  induction h with
  | nil => simp
  | cons type new declares later ih =>
    refine List.forall_mem_cons.2 ⟨⟨type, new⟩, fun f hf => ?_⟩
    exact ⟨(ih f hf).1, fun hmem => (ih f hf).2 (List.mem_cons_of_mem _ hmem)⟩

theorem nodup (h : Follow seen es hs) : (es.map SourceEntry.name).Nodup := by
  induction h with
  | nil => simp
  | cons type new declares later ih =>
    rw [List.map_cons, List.nodup_cons]
    refine ⟨fun hmem => ?_, ih⟩
    obtain ⟨f, hf, hname⟩ := List.mem_map.1 hmem
    exact (later.forall_mem f hf).2 (by simp [hname])

theorem sound (h : Follow seen es hs) : Sound es where
  types e he := (h.forall_mem e he).1
  distinct := h.nodup
  fields e he := by
    obtain ⟨g, -, hdeclares⟩ := exists_of_forall₂ h.forall₂ he
    exact ⟨g, hdeclares⟩

end Follow

end SourceEntry

namespace Handler

open SourceEntry

/-- One entry: it declares a handler and the others follow, or it is the one that is reported. -/
theorem declareFrom_cons (seen : List Text) (e : SourceEntry) :
    (∃ h, Directive.IsType e.name ∧ e.name ∉ seen ∧ e.Declares h ∧ ∀ number es,
      declareFrom number seen (e :: es) =
        (declareFrom (number + 1) (e.name :: seen) es).map (h :: ·)) ∨
    ∃ fault, Offends seen e fault ∧ ∀ number es,
      declareFrom number seen (e :: es) = .error (.entry number e.name fault) := by
  by_cases htype : Directive.IsType e.name
  · have hvalid : isBlockType e.name = true := Directive.isBlockType_iff.2 htype
    by_cases hseen : e.name ∈ seen
    · refine .inr ⟨_, .duplicate htype hseen, fun number es => ?_⟩
      simp [declareFrom, hvalid, hseen]
    · cases hentry : e.handler with
      | error fault =>
        refine .inr ⟨_, .misfit htype hseen (misfit_of_handler hentry), fun number es => ?_⟩
        simp [declareFrom, hvalid, hseen, hentry]
      | ok h =>
        refine .inl ⟨h, htype, hseen, handler_eq_ok_iff.1 hentry, fun number es => ?_⟩
        simp only [declareFrom, hvalid, hseen, hentry, List.contains_iff_mem, Bool.not_true,
          Bool.false_eq_true, if_false]
        cases declareFrom (number + 1) (e.name :: seen) es <;> rfl
  · refine .inr ⟨_, .invalidName htype, fun number es => ?_⟩
    have hvalid : isBlockType e.name = false := by
      rw [← Bool.not_eq_true, Directive.isBlockType_iff]
      exact htype
    simp [declareFrom, hvalid]

/-- All entries: they follow each other, or the first one that does not is reported. -/
theorem declareFrom_cases (number : Nat) (seen : List Text) (es : List SourceEntry) :
    (∃ hs, declareFrom number seen es = .ok hs ∧ Follow seen es hs) ∨
    ∃ before e later fault hs, es = before ++ e :: later ∧ Follow seen before hs ∧
      Offends (seen.reverse ++ before.map SourceEntry.name) e fault ∧
      declareFrom number seen es = .error (.entry (number + before.length) e.name fault) := by
  induction es generalizing number seen with
  | nil => exact .inl ⟨[], rfl, .nil⟩
  | cons e es ih =>
    rcases declareFrom_cons seen e with ⟨h, htype, hnew, hdeclares, hstep⟩ | ⟨fault, hfault, hstep⟩
    · rcases ih (number + 1) (e.name :: seen) with
        ⟨hs, hrest, hfollow⟩ | ⟨before, f, later, fault, hs, rfl, hfollow, hfault, hrest⟩
      · refine .inl ⟨h :: hs, ?_, .cons htype hnew hdeclares hfollow⟩
        rw [hstep, hrest]
        rfl
      · refine .inr ⟨e :: before, f, later, fault, h :: hs, rfl,
          .cons htype hnew hdeclares hfollow, ?_, ?_⟩
        · simpa using hfault
        · rw [hstep, hrest, List.length_cons, Nat.add_right_comm, Nat.add_assoc]
          rfl
    · exact .inr ⟨[], e, es, fault, [], rfl, .nil, hfault.congr (by simp), hstep number es⟩

/-- A list of entries is accepted just if there are any and they can stand together; otherwise the
first one that cannot is reported. -/
theorem declare_cases (entries : List SourceEntry) :
    (entries = [] ∧ declare entries = .error .noEntries) ∨
    (entries ≠ [] ∧ Sound entries ∧ ∃ hs, declare entries = .ok hs ∧
      List.Forall₂ Declares entries hs) ∨
    ∃ before e later fault, entries = before ++ e :: later ∧ Sound before ∧
      Offends (before.map SourceEntry.name) e fault ∧
      declare entries = .error (.entry (before.length + 1) e.name fault) := by
  cases entries with
  | nil => exact .inl ⟨rfl, rfl⟩
  | cons e es =>
    rcases declareFrom_cases 1 [] (e :: es) with
      ⟨hs, hdeclare, hfollow⟩ | ⟨before, f, later, fault, hs, heq, hfollow, hfault, hdeclare⟩
    · exact .inr (.inl ⟨List.cons_ne_nil _ _, hfollow.sound, hs, hdeclare, hfollow.forall₂⟩)
    · rw [Nat.add_comm] at hdeclare
      exact .inr (.inr ⟨before, f, later, fault, heq, hfollow.sound, hfault, hdeclare⟩)

end Handler

/-! ### The comment that opens a block -/

theorem Directive.IsType.ne_angle {type : Text} (h : IsType type) :
    ∀ c ∈ type, c ≠ '>' ∧ c ≠ '\r' ∧ c ≠ '\n' := by
  have hchar : ∀ {c : Char}, isAttributeChar c = true → c ≠ '>' ∧ c ≠ '\r' ∧ c ≠ '\n' := by
    intro c hc
    refine ⟨?_, ?_, ?_⟩ <;> rintro rfl <;> revert hc <;> decide
  intro c hc
  cases h with
  | name nonempty chars => exact hchar (isAttributeChar_of_isNameChar (chars c hc))
  | bracketed nonempty chars =>
    rcases List.mem_cons.1 hc with rfl | hc
    · decide
    · rcases List.mem_append.1 hc with hc | hc
      · exact hchar (chars c hc)
      · obtain rfl := List.mem_singleton.1 hc
        decide

namespace Marker

variable {m : Marker}

/-- The comment that opens a block of a type, for all environments. -/
def plainOpening (m : Marker) (type : Text) : Text := m.written [' '] type [] [' ']

/-- The directive in it. -/
def plainDirective (m : Marker) (type : Text) : Directive := ⟨type, [], [], m.plainOpening type, []⟩

theorem comment_plainOpening {type : Text} (h : Directive.IsType type) :
    m.Comment (m.plainOpening type) := by
  refine comment_written (by decide) fun c hc => ?_
  rcases List.mem_append.1 hc with hc | hc
  · exact h.ne_angle c hc
  · obtain rfl : c = ' ' := by simpa using hc
    decide

theorem readOpening_plainOpening {type : Text} (h : Directive.IsType type) :
    m.readOpening (m.plainOpening type) = .ok (m.plainDirective type) :=
  readOpening_written (by decide) h .absent (by simp [Directive.IsRest, Text.isSpace])

/-- A block with one comment in front has the directive of this comment, and no other. -/
theorem directives_of_opening {line : Nat} {text comment : Text} {b : Block} {d : Directive}
    (hb : .block b ∈ (m.scan line text).segments) (hcomment : m.Comment comment)
    (hd : m.readOpening comment = .ok d) (hopening : b.opening = comment) :
    b.directives = [{ d with closing := b.closing }] := by
  rw [scan_eq_ofMarks] at hb
  obtain ⟨hmarks, hopens, -, -, -⟩ := Scan.holds_of_mem hb
  rename_i before stack inside behind k c d'
  have hmem : ∀ {x}, x = k ∨ x ∈ stack → x ∈ (marks m line text).1 := by
    rintro x (rfl | hx)
    · simp [hmarks]
    · simp [hmarks, hx]
  -- Both are comments at the start of one text, so the first of the two is all of it.
  obtain ⟨hk, hnil⟩ : comment = k.comment ∧ [] = Mark.source stack := by
    have hfirst := commentAt?_of_comment (comment_of_mem_marks (hmem (.inl rfl)))
      (Mark.source stack)
    have hall := commentAt?_of_comment hcomment []
    rw [List.append_nil, ← hopening] at hall
    exact Prod.mk.inj (Option.some.inj (hopening ▸ hall.symm.trans hfirst))
  have hstack : stack = [] := by
    cases stack with
    | nil => rfl
    | cons x later =>
      obtain ⟨t, ht⟩ := (comment_of_mem_marks (hmem (.inr List.mem_cons_self))).eq_cons
      simp [Mark.source, ht] at hnil
  have htoken : k.token = m.classify k.comment := by
    have hx := hmem (.inl rfl)
    rw [marks, marksFrom_eq_place] at hx
    exact token_of_mem_place hx
  obtain rfl : d' = d := by
    rw [readOpening_eq_ok_iff, hk, ← htoken, hopens] at hd
    cases hd
    rfl
  rw [hstack]
  rfl

end Marker

/-! ### The handler of a block -/

namespace Registry

variable {r : Registry} {name : Text}

theorem find?_registerAll (r : Registry) (hs : List Handler) (name : Text) :
    (hs.foldl register r).find? name = (latest? hs name).or (r.find? name) := by
  induction hs using List.reverseRecOn with
  | nil => rfl
  | append_singleton hs h ih =>
    rw [List.foldl_concat, latest?_concat, register, find?, find?_insert]
    split_ifs
    · rfl
    · exact ih

/-- A change has a say in the handlers of the names that it registers, and no other. -/
theorem find?_step (r : Registry) (c : Change) (name : Text) :
    (r.step c).1.find? name = (latest? c.handlers name).or (r.find? name) := by
  cases c with
  | register h => exact find?_registerAll r [h] name
  | load read path =>
    rw [step, Change.handlers, load]
    cases Handler.load read path with
    | error e => rfl
    | ok hs => exact find?_registerAll r hs name

/-- What is not registered again stays. -/
theorem find?_after {h : Handler} (hfind : r.find? name = some h) {changes : List Change}
    (hother : ∀ c ∈ changes, ∀ g ∈ c.handlers, g.name ≠ name) :
    (r.after changes).find? name = some h := by
  induction changes generalizing r with
  | nil => exact hfind
  | cons c changes ih =>
    obtain ⟨hc, hlater⟩ := List.forall_mem_cons.1 hother
    refine ih ?_ hlater
    have hnone : latest? c.handlers name = none := by
      rw [← Option.not_isSome_iff_eq_none, isSome_latest?_iff]
      rintro ⟨g, hg, hname⟩
      exact hc g hg hname
    rw [find?_step, hnone, hfind]
    rfl

theorem get?_of_find? {h : Handler} (hfind : r.find? name = some h) : r.get? name = some h := by
  rw [get?, hfind]

end Registry

/-! ### Sources -/

namespace Handler

open SourceEntry

/-- What becomes of a source whose text is a list of entries. -/
structure SourceAccount (path : Path) (text : Text) (entries : List SourceEntry) : Prop where
  accepted_iff : (∃ hs, ofSource path text = .ok hs) ↔ entries ≠ [] ∧ Sound entries
  /-- One handler for each entry, in order. -/
  declares : ∀ hs, ofSource path text = .ok hs →
    List.Forall₂ (fun e h => e.Declares h ∧ h.name = e.name) entries hs
  /-- The first entry that cannot stand behind those before it is reported. -/
  reports : entries ≠ [] → ∀ error, ofSource path text = .error error →
    ∃ before e later fault, entries = before ++ e :: later ∧ Sound before ∧
      Offends (before.map SourceEntry.name) e fault ∧
      error = .invalid path (.entry (before.length + 1) e.name fault)
  /-- The name of an entry can be written into a comment. -/
  opens : ∀ hs, ofSource path text = .ok hs → ∀ e ∈ entries, ∀ m : Marker,
    m.Comment (m.plainOpening e.name) ∧
      m.readOpening (m.plainOpening e.name) = .ok (m.plainDirective e.name)
  /-- The blocks behind this comment go to the handler of the entry, until another one of the name
  is registered. -/
  dispatches : ∀ hs, ofSource path text = .ok hs → ∀ read, read path = .ok text →
    ∀ (r : Registry) (changes : List Registry.Change), ∀ e ∈ entries,
      (∀ c ∈ changes, ∀ g ∈ c.handlers, g.name ≠ e.name) →
      ∃ h, e.Declares h ∧
        (r.after (.load read path :: changes)).get? e.name = some h ∧
        ∀ (p : Processor) site expandContent insert line page b,
          p.registry = r.after (.load read path :: changes) →
          .block b ∈ (p.marker.scan line page).segments →
          b.opening = p.marker.plainOpening e.name →
          p.renderBlock site expandContent insert b =
            p.handleBlock site expandContent insert b
              { p.marker.plainDirective e.name with closing := b.closing } h

theorem ofSource_eq {text : Text} {entries : List SourceEntry} (path : Path)
    (h : sourceEntries text = .ok entries) :
    ofSource path text = (declare entries).mapError (.invalid path) := by
  rw [ofSource, h]
  dsimp only
  cases declare entries <;> rfl

theorem exists_get?_of_ofSource {path : Path} {text : Text} {hs : List Handler} {e : SourceEntry}
    {entries : List SourceEntry} (hsource : ofSource path text = .ok hs)
    (hhs : List.Forall₂ Declares entries hs) (he : e ∈ entries)
    {read : ReadFile} (hread : read path = .ok text) (r : Registry)
    {changes : List Registry.Change} (hother : ∀ c ∈ changes, ∀ g ∈ c.handlers, g.name ≠ e.name) :
    ∃ h, e.Declares h ∧ (r.after (.load read path :: changes)).get? e.name = some h := by
  obtain ⟨h, hh, hdeclares⟩ := exists_of_forall₂ hhs he
  have hload : load read path = .ok hs := by
    rw [load, hread]
    exact hsource
  obtain ⟨-, -, -, -, -, hnodup⟩ := load_eq_ok hload
  have hlatest : Registry.latest? hs e.name = some h := by
    rw [← hdeclares.name_eq]
    exact Registry.latest?_append_of_mem hnodup hh []
  have hloaded : (r.step (.load read path)).1.find? e.name = some h := by
    rw [Registry.find?_step, Registry.Change.handlers, hload]
    simp only [Except.toOption, Option.getD_some, hlatest, Option.some_or]
  exact ⟨h, hdeclares, Registry.get?_of_find? (Registry.find?_after hloaded hother)⟩

/-- Sources of block types are accepted just if they can be used. Whatever the entries of a source
are: it is accepted just if they can stand together; then each declares a handler, in order, and
else the first one that is at fault is reported. And a comment with the name of an accepted entry
opens a block for which the handler of the entry is called. -/
theorem sources_are_usable {text : Text} {entries : List SourceEntry}
    (h : sourceEntries text = .ok entries) (path : Path) : SourceAccount path text entries := by
  have hsource := ofSource_eq path h
  rcases declare_cases entries with
    ⟨hnil, hdeclare⟩ | ⟨hne, hsound, hs, hdeclare, hall⟩ |
      ⟨before, e, later, fault, heq, hbefore, hfault, hdeclare⟩
  · have hno : ∀ hs, ofSource path text ≠ .ok hs := by simp [hsource, hdeclare, Except.mapError]
    exact
      { accepted_iff := iff_of_false (fun ⟨hs, hok⟩ => hno hs hok) fun hsome => hsome.1 hnil
        declares := fun hs hok => absurd hok (hno hs)
        reports := fun hsome => absurd hnil hsome
        opens := fun hs hok => absurd hok (hno hs)
        dispatches := fun hs hok => absurd hok (hno hs) }
  · have hok : ofSource path text = .ok hs := by rw [hsource, hdeclare]; rfl
    have hsame : ∀ hs', ofSource path text = .ok hs' → hs' = hs := fun hs' hok' =>
      Except.ok.inj (hok'.symm.trans hok)
    refine
      { accepted_iff := iff_of_true ⟨hs, hok⟩ ⟨hne, hsound⟩
        declares := fun hs' hok' => ?_
        reports := fun _ error herror => ?_
        opens := fun hs' _ e he m => ?_
        dispatches := fun hs' hok' read hread r changes e he hother => ?_ }
    · rw [hsame hs' hok']
      exact hall.imp fun e g hdeclares => ⟨hdeclares, hdeclares.name_eq⟩
    · rw [hok] at herror
      cases herror
    · have htype := hsound.types e he
      exact ⟨Marker.comment_plainOpening htype, Marker.readOpening_plainOpening htype⟩
    · obtain ⟨g, hdeclares, hget⟩ :=
        exists_get?_of_ofSource hok hall he hread r hother
      refine ⟨g, hdeclares, hget, ?_⟩
      intro p site expandContent insert line page b hregistry hb hopening
      have htype := hsound.types e he
      have hdirectives := Marker.directives_of_opening hb (Marker.comment_plainOpening htype)
        (Marker.readOpening_plainOpening htype) hopening
      rw [Processor.renderBlock_of_single hdirectives (by rw [hregistry]; exact hget)]
      exact if_pos (by simp [Audience.accepts, Marker.plainDirective])
  · have hno : ∀ hs, ofSource path text ≠ .ok hs := by simp [hsource, hdeclare, Except.mapError]
    refine
      { accepted_iff := iff_of_false (fun ⟨hs, hok⟩ => hno hs hok) fun hsound => ?_
        declares := fun hs hok => absurd hok (hno hs)
        reports := fun _ error herror => ?_
        opens := fun hs hok => absurd hok (hno hs)
        dispatches := fun hs hok => absurd hok (hno hs) }
    · rw [heq] at hsound
      exact hfault.not_sound hsound.2
    · rw [hsource, hdeclare] at herror
      cases herror
      exact ⟨before, e, later, fault, heq, hbefore, hfault, rfl⟩

deriving instance DecidableEq for SourceEntry

/-- A source with two entries. -/
def twoBlocks : Text :=
  ("[[block]]\nname = \"note\"\naction = \"wrap\"\nbefore = \"<p>\"\n".toList ++
    "[[block]]\nname = \"[data-x]\"\naction = \"replace\"\ntemplate = \"\"\n".toList)

def twoEntries : List SourceEntry :=
  [{ name := "note".toList, action := .wrap, before := some "<p>".toList },
    { name := "[data-x]".toList, action := .replace, template := some [] }]

theorem sources_are_usable_twoBlocks :
    sourceEntries twoBlocks = .ok twoEntries ∧
      (∃ hs, ofSource [] twoBlocks = .ok hs ∧
        hs.map Handler.name = ["note".toList, "[data-x]".toList]) ∧
      Marker.build.readOpening "<!-- build:[data-x] -->".toList =
        .ok (Marker.build.plainDirective "[data-x]".toList) := by
  have hentries : sourceEntries twoBlocks = .ok twoEntries := by decide +kernel
  have haccount := sources_are_usable hentries []
  have hsound : Sound twoEntries := by
    refine ⟨?_, by decide, ?_⟩
    · simp only [twoEntries, List.forall_mem_cons]
      exact ⟨Directive.isBlockType_iff.1 (by decide), Directive.isBlockType_iff.1 (by decide),
        by simp⟩
    · simp only [twoEntries, List.forall_mem_cons]
      exact ⟨⟨_, .wrap (.inl rfl)⟩, ⟨_, .replace⟩, by simp⟩
  obtain ⟨hs, hok⟩ := haccount.accepted_iff.2 ⟨by decide, hsound⟩
  have hnames : hs.map Handler.name = twoEntries.map SourceEntry.name := by
    rw [← List.forall₂_eq_eq_eq, List.forall₂_map_left_iff, List.forall₂_map_right_iff]
    exact (haccount.declares hs hok).flip.imp fun _ _ h => h.2
  have hmem : twoEntries[1] ∈ twoEntries := List.getElem_mem (by decide)
  exact ⟨hentries, ⟨hs, hok, hnames⟩, (haccount.opens hs hok _ hmem .build).2⟩

end Handler

end PageBlocks
