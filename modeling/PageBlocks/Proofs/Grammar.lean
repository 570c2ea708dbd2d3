import PageBlocks.Proofs.Body

/-!
# The grammar of opening directives

An opening directive is a comment that looks like this when it is trimmed inside:

    <!--  build  :  remove  ( dev , test )   args   -->
          word      type    list             rest

`Marker.readOpening` takes a comment for one exactly when it can be taken apart like this, in which
case there is one way only, and the directive is made of the parts (`Marker.reads_grammar`).
-/

namespace PageBlocks

/-! ### Whole comments -/

theorem commentBody?_eq_some_iff {comment inside : Text} :
    Marker.commentBody? comment = some inside ↔
      comment = ['<', '!', '-', '-'] ++ (inside ++ ['-', '-', '>']) := by
  rw [Marker.commentBody?, Option.bind_eq_some_iff]
  constructor
  · rintro ⟨r, hr, hinside⟩
    rw [Text.after?_eq_some_iff.1 hr, Text.before?_eq_some_iff.1 hinside]
  · rintro rfl
    exact ⟨_, Text.after?_append_self _ _, Text.before?_eq_some_iff.2 rfl⟩

/-- The parts of an opening directive, as they are written. -/
structure Directive.Parts where
  /-- What stands between the arrows. -/
  inside : Text
  /-- The type of the block. -/
  type : Text
  /-- The targets, with what sets them apart. -/
  list : Text
  /-- The environments that are meant by them. -/
  labels : List Text
  /-- What stands behind the targets. -/
  rest : Text

/-- The directive that `comment` holds when it is made of the parts. -/
def Directive.Parts.directive (p : Parts) (comment : Text) : Directive :=
  ⟨p.type, p.labels, Text.trim p.rest, comment, []⟩

namespace Marker

variable {m : Marker}

/-- The comment is an opening directive of a page with marker `m`, and these are its parts. -/
structure Spells (m : Marker) (p : Directive.Parts) (comment : Text) : Prop where
  comment_eq : comment = ['<', '!', '-', '-'] ++ (p.inside ++ ['-', '-', '>'])
  inside_eq : Text.trim p.inside = m.word ++ ':' :: (p.type ++ (p.list ++ p.rest))
  type : Directive.IsType p.type
  targets : Directive.Targets p.list p.labels
  rest : Directive.IsRest p.rest

theorem colon_notMem_word (m : Marker) : ':' ∉ m.word :=
  fun h => (isNameChar_ne (m.isNameChar_of_mem_word h)).2.2.2.2.1 rfl

/-- With a colon behind the word a comment closes nothing. -/
theorem isClosing_opening (m : Marker) (body : Text) :
    m.isClosing (m.word ++ ':' :: body) = false := by
  have hcolon : ':' ∈ m.word ++ ':' :: body := by simp
  simp only [isClosing, Bool.or_eq_false_iff, beq_eq_false_iff_ne]
  constructor <;> intro h <;> rw [h] at hcolon <;> simp [m.colon_notMem_word] at hcolon

/-- Behind the word and the colon it is the body that says what the comment opens. -/
theorem classify_opening {inside body : Text} (h : Text.trim inside = m.word ++ ':' :: body) :
    m.classify (['<', '!', '-', '-'] ++ (inside ++ ['-', '-', '>'])) =
      (Directive.readBody body).map fun (type, targets, args) =>
        .opens ⟨type, targets, args, ['<', '!', '-', '-'] ++ (inside ++ ['-', '-', '>']), []⟩ := by
  have hcolon : Text.after? [':'] (':' :: body) = some body := Text.after?_append_self [':'] body
  simp only [classify, commentBody?_eq_some_iff.2 rfl, h, isClosing_opening, Bool.false_eq_true,
    if_false, Text.after?_append_self, Option.bind_some, hcolon]
  cases Directive.readBody body <;> rfl

/-- What is taken for an opening directive has the word and the colon in it. -/
theorem of_classify_opens {comment : Text} {d : Directive}
    (h : m.classify comment = .ok (.opens d)) :
    ∃ inside body type targets args,
      comment = ['<', '!', '-', '-'] ++ (inside ++ ['-', '-', '>']) ∧
      Text.trim inside = m.word ++ ':' :: body ∧
      Directive.readBody body = .ok (type, targets, args) ∧
      d = ⟨type, targets, args, comment, []⟩ := by
  unfold classify at h
  split at h
  · cases h
  · rename_i inside hinside
    dsimp only at h
    split at h
    · cases h
    · split at h
      · cases h
      · rename_i body hbody
        obtain ⟨r, hr, hcolon⟩ := Option.bind_eq_some_iff.1 hbody
        obtain ⟨⟨type, targets, args⟩, hread, hd⟩ := ok_bind_iff.1 h
        cases hd
        refine ⟨inside, body, type, targets, args, commentBody?_eq_some_iff.1 hinside, ?_, hread,
          rfl⟩
        rw [Text.after?_eq_some_iff.1 hr, Text.after?_eq_some_iff.1 hcolon]
        rfl

theorem readOpening_eq_ok_iff {comment : Text} {d : Directive} :
    m.readOpening comment = .ok d ↔ m.classify comment = .ok (.opens d) := by
  unfold readOpening
  cases h : m.classify comment with
  | error e => simp [bind, Except.bind]
  | ok token =>
    cases token with
    | opens d' => simp [bind, Except.bind, pure, Except.pure]
    | closes => simp [bind, Except.bind, throw, throwThe, MonadExceptOf.throw]

theorem readOpening_iff_spells {comment : Text} {d : Directive} :
    m.readOpening comment = .ok d ↔ ∃ p, m.Spells p comment ∧ d = p.directive comment := by
  rw [readOpening_eq_ok_iff]
  constructor
  · intro h
    obtain ⟨inside, body, type, labels, args, hcomment, hinside, hread, rfl⟩ := of_classify_opens h
    obtain ⟨list, rest, rfl, htype, hlist, hrest, rfl⟩ := Directive.of_readBody hread
    exact ⟨⟨inside, type, list, labels, rest⟩, ⟨hcomment, hinside, htype, hlist, hrest⟩, rfl⟩
  · rintro ⟨p, hp, rfl⟩
    rw [hp.comment_eq, classify_opening hp.inside_eq,
      Directive.readBody_append hp.type hp.targets hp.rest]
    rfl

/-- There is one way only to take a comment apart. -/
theorem Spells.unique {p q : Directive.Parts} {comment : Text} (hp : m.Spells p comment)
    (hq : m.Spells q comment) : p = q := by
  obtain ⟨inside, type, list, labels, rest⟩ := p
  obtain ⟨inside', type', list', labels', rest'⟩ := q
  obtain rfl : inside = inside' := by
    have h := hp.comment_eq.symm.trans hq.comment_eq
    exact List.append_cancel_right (List.append_cancel_left h)
  have hbody : type ++ (list ++ rest) = type' ++ (list' ++ rest') := by
    have h := hp.inside_eq.symm.trans hq.inside_eq
    exact (List.cons.inj (List.append_cancel_left h)).2
  have htype : (.ok (type, list ++ rest) : Except Fault (Text × Text)) =
      .ok (type', list' ++ rest') := by
    rw [← Directive.readType_append hp.type (Directive.isNameChar_of_head? hp.targets hp.rest),
      ← Directive.readType_append hq.type (Directive.isNameChar_of_head? hq.targets hq.rest)]
    exact congrArg Directive.readType hbody
  obtain ⟨rfl, hlist⟩ := Prod.mk.inj (Except.ok.inj htype)
  have htargets : (.ok (labels, rest) : Except Fault (List Text × Text)) =
      .ok (labels', rest') := by
    rw [← Directive.readTargets_append hp.targets hp.rest,
      ← Directive.readTargets_append hq.targets hq.rest]
    exact congrArg Directive.readTargets hlist
  obtain ⟨rfl, rfl⟩ := Prod.mk.inj (Except.ok.inj htargets)
  obtain rfl := List.append_cancel_right hlist
  rfl

/-! ### Comments put together from parts -/

/-- The comment in which a directive is written with `front` in front of it. -/
def written (m : Marker) (front type list rest : Text) : Text :=
  ['<', '!', '-', '-'] ++ (front ++ (m.word ++ ':' :: (type ++ (list ++ rest))) ++ ['-', '-', '>'])

/-- A directive that is written on one line, and without a `>`, is found as one comment. -/
theorem comment_written {front type list rest : Text} (hfront : Text.blank front)
    (h : ∀ c ∈ type ++ (list ++ rest), c ≠ '>' ∧ c ≠ '\r' ∧ c ≠ '\n') :
    m.Comment (m.written front type list rest) := by
  have hcomment := Comment.opening (m := m) front _ hfront (Text.toArrow?_of_forall_ne h)
  rw [written]
  simpa using hcomment

/-- The trimming of a comment does not go as far as the word and the colon. -/
theorem trim_opening {front : Text} (hfront : Text.spaces front) (body : Text) :
    Text.trim (front ++ (m.word ++ ':' :: body)) = m.word ++ ':' :: Text.trimEnd body := by
  have hname : ∀ {c : Char}, c ∈ m.word → Text.isSpace c = false := fun hc =>
    not_space_of_isNameChar (m.isNameChar_of_mem_word hc)
  obtain ⟨c, w, hw, -⟩ := m.word_eq_cons
  rw [hw] at hname ⊢
  rw [List.cons_append, Text.trim_append_cons hfront (hname List.mem_cons_self),
    Text.trimEnd_append fun x hx => hname (List.mem_cons_of_mem c (List.mem_of_getLast? hx)),
    Text.trimEnd_cons_of_not_space (by decide)]
  rfl

/-- Nor does it take anything but white space from the rest of a directive. -/
theorem trim_written {front type list rest : Text} {labels : List Text}
    (hfront : Text.spaces front) (htype : Directive.IsType type)
    (hlist : Directive.Targets list labels) :
    Text.trim (front ++ (m.word ++ ':' :: (type ++ (list ++ rest)))) =
      m.word ++ ':' :: (type ++ (list ++ Text.trimEnd rest)) := by
  rw [trim_opening hfront, Text.trimEnd_append htype.not_space_getLast?,
    Text.trimEnd_append hlist.not_space_getLast?]

/-- A directive that is written as the grammar has it is read, whatever white space is around it. -/
theorem readOpening_written {front type list rest : Text} {labels : List Text}
    (hfront : Text.spaces front) (htype : Directive.IsType type)
    (hlist : Directive.Targets list labels) (hrest : Directive.IsRest rest) :
    m.readOpening (m.written front type list rest) =
      .ok ⟨type, labels, Text.trim rest, m.written front type list rest, []⟩ := by
  rw [readOpening_iff_spells]
  refine ⟨⟨_, type, list, labels, Text.trimEnd rest⟩,
    ⟨rfl, trim_written hfront htype hlist, htype, hlist, hrest.trimEnd⟩, ?_⟩
  rw [Directive.Parts.directive, Text.trim_trimEnd]

/-- Opening directives are read from what the grammar says they are, and from nothing else: a
comment is read exactly when it can be taken apart; there is one way only to do so; and the
directive is what the parts say. It is all the same whether environments stand in parentheses or
behind a colon. -/
theorem reads_grammar (m : Marker) :
    (∀ comment d, m.readOpening comment = .ok d ↔
      ∃ p, m.Spells p comment ∧ d = p.directive comment) ∧
    (∀ comment p q, m.Spells p comment → m.Spells q comment → p = q) ∧
    ∀ front type labels rest, Text.spaces front → Directive.IsType type → labels ≠ [] →
      (∀ label ∈ labels, Directive.IsLabel label) → Directive.IsRest rest →
      let inParentheses := m.written front type ('(' :: (Text.join [','] labels ++ [')'])) rest
      let behindColon := m.written front type (':' :: Text.join [','] labels) rest
      m.readOpening inParentheses = .ok ⟨type, labels, Text.trim rest, inParentheses, []⟩ ∧
        m.readOpening behindColon = .ok ⟨type, labels, Text.trim rest, behindColon, []⟩ := by
  refine ⟨fun _ _ => readOpening_iff_spells, fun _ _ _ => Spells.unique, ?_⟩
  intro front type labels rest hfront htype hne hlabels hrest
  have hself := Directive.labels_self hlabels
  exact ⟨readOpening_written hfront htype (.inParentheses hne hself) hrest,
    readOpening_written hfront htype (.behindColon hne hlabels) hrest⟩

theorem reads_grammar_two_labels :
    build.readOpening "<!-- build:js(dev,test) a.js -->".toList =
        .ok ⟨"js".toList, ["dev".toList, "test".toList], "a.js".toList,
          "<!-- build:js(dev,test) a.js -->".toList, []⟩ ∧
      build.readOpening "<!-- build:js:dev,test a.js -->".toList =
        .ok ⟨"js".toList, ["dev".toList, "test".toList], "a.js".toList,
          "<!-- build:js:dev,test a.js -->".toList, []⟩ ∧
      ∀ p, ¬ build.Spells p "<!-- build:js(dev test) a.js -->".toList := by
  have hall := reads_grammar build
  have htype : Directive.IsType "js".toList := Directive.isBlockType_iff.1 (by decide)
  have hlabels : ∀ label ∈ ["dev".toList, "test".toList], Directive.IsLabel label := by
    simp only [List.forall_mem_cons]
    exact ⟨⟨by decide, List.all_eq_true.1 (by decide)⟩,
      ⟨by decide, List.all_eq_true.1 (by decide)⟩, by simp⟩
  obtain ⟨hparentheses, hcolon⟩ := hall.2.2 [' '] "js".toList ["dev".toList, "test".toList]
    " a.js ".toList (by decide) htype (by decide) hlabels (by simp [Directive.IsRest, Text.isSpace])
  refine ⟨hparentheses, hcolon, ?_⟩
  intro p hp
  have hread := (hall.1 _ _).2 ⟨p, hp, rfl⟩
  have hnot : build.readOpening "<!-- build:js(dev test) a.js -->".toList =
      .error (.invalidTarget "dev test".toList) := by decide
  rw [hnot] at hread
  cases hread

end Marker

end PageBlocks
