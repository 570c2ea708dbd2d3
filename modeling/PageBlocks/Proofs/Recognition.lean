import PageBlocks.Proofs.Content
import PageBlocks.Proofs.Grammar

/-!
# Telling comments apart

Two parts of the scanner look at a comment: the locator, which finds it, and the reader, which says
what it is. The locator has the comment in its text, the reader alone and trimmed:

    … <!-- build:remove dev --> …        locator: behind `<!--` blanks, the word, a colon
           build:remove dev              reader:  the word, a colon, the body

They are of one mind: what the locator finds is a closing comment for the reader when it is spelled
like one, and if not, the reader gets as far as the body. And since the word of a marker can be read
off the comments that carry it, no comment carries two (`Marker.tells_comments_apart`).
-/

namespace PageBlocks

/-! ### White space behind a body -/

namespace Text

variable {p : Char → Bool}

theorem cutAt?_append_spaces (hp : ∀ c, isSpace c = true → p c = false) (t : Text) {back : Text}
    (hback : spaces back) :
    cutAt? p (t ++ back) = (cutAt? p t).map fun x => (x.1, x.2 ++ back) := by
  induction t with
  | nil =>
    cases h : cutAt? p back with
    | none => simpa [cutAt?] using h
    | some x =>
      obtain ⟨c, rfl, hc, -⟩ := cutAt?_eq_some_iff.1 h
      rw [hp c (spaces_iff.1 hback c (by simp))] at hc
      cases hc
  | cons c t ih =>
    rw [List.cons_append, cutAt?, cutAt?]
    split
    · rfl
    · rw [ih, Option.map_map, Option.map_map]
      rfl

theorem run_append_spaces (hp : ∀ c, isSpace c = true → p c = false) (t : Text) {back : Text}
    (hback : spaces back) :
    (t ++ back).takeWhile p = t.takeWhile p ∧ (t ++ back).dropWhile p = t.dropWhile p ++ back := by
  induction t with
  | nil => exact takeWhile_run (s := []) (by simp) fun c hc => hp c (isSpace_of_head? hback hc)
  | cons c t ih =>
    rw [List.cons_append, List.takeWhile_cons, List.takeWhile_cons, List.dropWhile_cons,
      List.dropWhile_cons]
    split
    · exact ⟨congrArg (c :: ·) ih.1, ih.2⟩
    · exact ⟨rfl, rfl⟩

end Text

theorem not_isNameChar_of_isSpace {c : Char} (h : Text.isSpace c = true) :
    isNameChar c = false := by
  cases hname : isNameChar c with
  | false => rfl
  | true =>
    rw [not_space_of_isNameChar hname] at h
    cases h

theorem ne_of_isSpace {c d : Char} (h : Text.isSpace c = true) (hd : Text.isSpace d = false) :
    (c == d) = false := by
  rw [beq_eq_false_iff_ne]
  rintro rfl
  rw [h] at hd
  cases hd

namespace Directive

variable {back : Text}

/-- White space behind a text does not make it start with another character. -/
theorem ne_cons_append {t : Text} {c : Char} (hback : Text.spaces back)
    (hc : Text.isSpace c = false) (ht : ¬ ∃ u, t = c :: u) : ∀ u, t ++ back ≠ c :: u := by
  intro u hu
  cases t with
  | nil =>
    rw [List.nil_append] at hu
    rw [Text.spaces_iff.1 hback c (by simp [hu])] at hc
    cases hc
  | cons d t => exact ht ⟨t, by rw [(List.cons.inj hu).1]⟩

theorem readType_append_spaces (t : Text) (hback : Text.spaces back) :
    readType (t ++ back) = (readType t).map fun x => (x.1, x.2 ++ back) := by
  have hname : ∀ {u : Text}, (∀ v, u ≠ '[' :: v) →
      readType u = .ok (u.takeWhile isNameChar, u.dropWhile isNameChar) := by
    intro u hu
    unfold readType
    split
    · rename_i v
      exact absurd rfl (hu v)
    · rfl
  by_cases ht : ∃ v, t = '[' :: v
  · obtain ⟨v, rfl⟩ := ht
    have hcut := Text.cutAt?_append_spaces (p := (· == ']'))
      (fun c hc => ne_of_isSpace hc (by decide)) ('[' :: v) hback
    rw [List.cons_append] at hcut ⊢
    simp only [readType, hcut]
    cases Text.cutAt? (· == ']') ('[' :: v) <;> rfl
  · have hne : ∀ v, t ≠ '[' :: v := fun v hv => ht ⟨v, hv⟩
    obtain ⟨htake, hdrop⟩ := Text.run_append_spaces (fun _ => not_isNameChar_of_isSpace) t hback
    rw [hname hne, hname (ne_cons_append hback (by decide) ht), htake, hdrop]
    rfl

theorem readTargets_of_ne {t : Text} (hparen : ∀ u, t ≠ '(' :: u) (hcolon : ∀ u, t ≠ ':' :: u) :
    readTargets t = .ok ([], t) := by
  unfold readTargets
  split
  · exact absurd rfl (hparen _)
  · exact absurd rfl (hcolon _)
  · rfl

theorem readTargets_append_spaces (t : Text) (hback : Text.spaces back) :
    readTargets (t ++ back) = (readTargets t).map fun x => (x.1, x.2 ++ back) := by
  by_cases hparen : ∃ u, t = '(' :: u
  · obtain ⟨u, rfl⟩ := hparen
    have hcut := Text.cutAt?_append_spaces (p := (· == ')'))
      (fun c hc => ne_of_isSpace hc (by decide)) u hback
    simp only [List.cons_append, readTargets, hcut]
    cases Text.cutAt? (· == ')') u with
    | none => rfl
    | some x =>
      dsimp only [Option.map_some]
      split
      · rfl
      · cases readLabels x.1 <;> rfl
  · by_cases hcolon : ∃ u, t = ':' :: u
    · obtain ⟨u, rfl⟩ := hcolon
      obtain ⟨htake, hdrop⟩ := Text.run_append_spaces (p := (!Text.isSpace ·))
        (fun c hc => by simp [hc]) u hback
      simp only [List.cons_append, readTargets, htake, hdrop]
      split
      · rfl
      · cases readLabels (u.takeWhile (!Text.isSpace ·)) <;> rfl
    · rw [readTargets_of_ne (fun u hu => hparen ⟨u, hu⟩) fun u hu => hcolon ⟨u, hu⟩,
        readTargets_of_ne (ne_cons_append hback (by decide) hparen)
          (ne_cons_append hback (by decide) hcolon)]
      rfl

/-- Bodies may as well be read with the white space behind them. -/
theorem readBody_append_spaces (t : Text) (hback : Text.spaces back) :
    readBody (t ++ back) = readBody t := by
  unfold readBody
  rw [readType_append_spaces t hback]
  cases readType t with
  | error e => rfl
  | ok x =>
    obtain ⟨type, r⟩ := x
    simp only [Except.map, bind, Except.bind]
    rw [readTargets_append_spaces r hback]
    split
    · rfl
    · split
      · rfl
      · cases readTargets r with
        | error e => rfl
        | ok y =>
          obtain ⟨labels, rest⟩ := y
          cases rest with
          | nil =>
            cases back with
            | nil => rfl
            | cons c back =>
              have hc := Text.spaces_iff.1 hback c List.mem_cons_self
              simp only [Except.map, List.nil_append, hc, if_true, Text.trim_of_spaces hback]
          | cons c rest =>
            have hend := Text.trimEnd_append_spaces (c :: rest) hback
            have htrim : Text.trim (c :: rest ++ back) = Text.trim (c :: rest) := by
              rw [← Text.trim_trimEnd, hend, Text.trim_trimEnd]
            rw [List.cons_append] at hend htrim
            simp only [Except.map, List.cons_append, hend, htrim]

theorem readBody_trimEnd (body : Text) : readBody (Text.trimEnd body) = readBody body := by
  obtain ⟨back, hback, hbody⟩ := Text.exists_append_trimEnd body
  conv_rhs => rw [hbody, readBody_append_spaces _ hback]

end Directive

/-! ### What can be wrong with a body -/

/-- Is this something that can be wrong with the body of a directive? -/
def Fault.ofBody : Fault → Bool
  | .unclosedBracket | .missingType | .invalidType _ | .unclosedTargets | .emptyTargets
  | .emptyTarget | .invalidTarget _ | .trailing _ => true
  | _ => false

namespace Directive

variable {e : Fault}

theorem ofBody_of_readLabel {piece : Text} (h : readLabel piece = .error e) : e.ofBody = true := by
  unfold readLabel at h
  dsimp only at h
  split at h
  · cases h
    rfl
  · split at h
    · cases h
    · cases h
      rfl

theorem ofBody_of_readLabels {list : Text} (h : readLabels list = .error e) : e.ofBody = true := by
  unfold readLabels at h
  generalize Text.splitOn ',' list = pieces at h
  induction pieces with
  | nil => cases h
  | cons piece pieces ih =>
    rw [List.mapM_cons] at h
    rcases error_bind_iff.1 h with hpiece | ⟨label, -, h⟩
    · exact ofBody_of_readLabel hpiece
    · rcases error_bind_iff.1 h with hpieces | ⟨labels, -, h⟩
      · exact ih hpieces
      · cases h

theorem ofBody_of_readTargets {t : Text} (h : readTargets t = .error e) : e.ofBody = true := by
  have hbind : ∀ {inside rest : Text}, (do return (← readLabels inside, rest)) =
      (.error e : Except Fault (List Text × Text)) → e.ofBody = true := by
    intro inside rest hread
    rcases error_bind_iff.1 hread with hlabels | ⟨labels, -, h⟩
    · exact ofBody_of_readLabels hlabels
    · cases h
  unfold readTargets at h
  split at h
  · split at h
    · cases h
      rfl
    · split at h
      · cases h
      · exact hbind h
  · dsimp only at h
    split at h
    · cases h
      rfl
    · exact hbind h
  · cases h

theorem ofBody_of_readType {t : Text} (h : readType t = .error e) : e.ofBody = true := by
  unfold readType at h
  split at h
  · split at h
    · cases h
      rfl
    · cases h
  · cases h

theorem ofBody_of_readBody {body : Text} (h : readBody body = .error e) : e.ofBody = true := by
  unfold readBody at h
  rcases error_bind_iff.1 h with htype | ⟨⟨type, r⟩, -, h⟩
  · exact ofBody_of_readType htype
  · dsimp only at h
    split at h
    · cases h
      rfl
    · split at h
      · cases h
        rfl
      · rcases error_bind_iff.1 h with htargets | ⟨⟨labels, rest⟩, -, h⟩
        · exact ofBody_of_readTargets htargets
        · dsimp only at h
          split at h
          · cases h
          · split at h
            · cases h
            · cases h
              rfl

theorem map_readBody_ne {α : Type} {body : Text} {f : Text × List Text × Text → α}
    (he : e.ofBody = false) : (readBody body).map f ≠ .error e := by
  intro h
  cases hbody : readBody body with
  | ok x =>
    rw [hbody] at h
    cases h
  | error e' =>
    rw [hbody] at h
    cases h
    rw [ofBody_of_readBody hbody] at he
    cases he

end Directive

namespace Marker

variable {m : Marker}

/-! ### What the reader makes of a directive comment -/

/-- The comment is spelled like one that closes a block. -/
def Closes (m : Marker) (comment : Text) : Prop :=
  ∃ front back keyword, Text.blank front ∧ Text.blank back ∧
    (keyword = 'e' :: 'n' :: 'd' :: m.word ∨ keyword = '/' :: m.word) ∧
    comment = ['<', '!', '-', '-'] ++ (front ++ (keyword ++ back) ++ ['-', '-', '>'])

theorem Closes.classify {comment : Text} (h : m.Closes comment) :
    m.classify comment = .ok .closes := by
  obtain ⟨front, back, keyword, hfront, hback, hkeyword, rfl⟩ := h
  have hword : ∀ c ∈ m.word, Text.isSpace c = false := fun c hc =>
    not_space_of_isNameChar (m.isNameChar_of_mem_word hc)
  have hkey : ∀ c ∈ keyword, Text.isSpace c = false := by
    rcases hkeyword with rfl | rfl
    · simp only [List.forall_mem_cons]
      exact ⟨by decide, by decide, by decide, hword⟩
    · simp only [List.forall_mem_cons]
      exact ⟨by decide, hword⟩
  have htrim : Text.trim (front ++ (keyword ++ back)) = keyword :=
    (Text.trim_eq_iff hkey).2 ⟨front, back, Text.spaces_of_blank hfront, Text.spaces_of_blank hback,
      rfl⟩
  have hclosing : m.isClosing keyword = true := by
    simpa only [isClosing, Bool.or_eq_true, beq_iff_eq] using hkeyword
  simp only [Marker.classify, commentBody?_eq_some_iff.2 rfl, htrim, hclosing, if_true]

/-- A comment that starts with blanks, the word and a colon says what the body behind it says. -/
theorem classify_of_colon {front : Text} (hfront : Text.blank front) (body : Text) {comment : Text}
    (hcomment : comment =
      ['<', '!', '-', '-'] ++ (front ++ (m.word ++ ':' :: body) ++ ['-', '-', '>'])) :
    m.classify comment = (Directive.readBody body).map fun (type, targets, args) =>
      .opens ⟨type, targets, args, comment, []⟩ := by
  rw [hcomment, classify_opening (trim_opening (Text.spaces_of_blank hfront) body),
    Directive.readBody_trimEnd]

/-- What the locator looks for is a closing comment, or the word, a colon and a body. -/
theorem Comment.reads {comment : Text} (h : m.Comment comment) :
    m.Closes comment ∨ ∃ front body, Text.blank front ∧
      comment = ['<', '!', '-', '-'] ++ (front ++ (m.word ++ ':' :: body) ++ ['-', '-', '>']) ∧
      m.classify comment = (Directive.readBody body).map fun (type, targets, args) =>
        .opens ⟨type, targets, args, comment, []⟩ := by
  cases h with
  | closing front back keyword hfront hback hkeyword =>
    exact Or.inl ⟨front, back, keyword, hfront, hback, hkeyword, by simp⟩
  | opening front body hfront harrow =>
    have hcomment : ['<', '!', '-', '-'] ++ front ++ (m.word ++ [':'] ++ body ++ ['-', '-', '>']) =
        ['<', '!', '-', '-'] ++ (front ++ (m.word ++ ':' :: body) ++ ['-', '-', '>']) := by simp
    exact Or.inr ⟨front, body, hfront, hcomment, classify_of_colon hfront body hcomment⟩

/-! ### The word of a comment -/

/-- The word of a closing comment behind `end` or `/`. The dashes of the arrow go with the name. -/
def closingWord (t : Text) : Text :=
  match t.dropWhile isNameChar with
  | '>' :: _ => (t.takeWhile isNameChar).dropLast.dropLast
  | _ => t.takeWhile isNameChar

/-- The word of a directive comment behind the blanks. -/
def wordInside (inside : Text) : Text :=
  match inside.dropWhile isNameChar with
  | ':' :: _ => inside.takeWhile isNameChar
  | _ => closingWord (inside.drop (if inside.head? = some '/' then 1 else 3))

/-- The word of the marker whose directive comment the text starts with, if it does. -/
def wordOf (t : Text) : Text := wordInside ((t.drop 4).dropWhile Text.isBlank)

theorem wordOf_append {front : Text} (hfront : Text.blank front) {c : Char}
    (hc : Text.isBlank c = false) (t : Text) :
    wordOf (['<', '!', '-', '-'] ++ (front ++ c :: t)) = wordInside (c :: t) := by
  have hdrop : (['<', '!', '-', '-'] ++ (front ++ c :: t)).drop 4 = front ++ c :: t := rfl
  rw [wordOf, hdrop, Text.dropWhile_isBlank_append hfront hc]

theorem closingWord_append {word back : Text} (hword : ∀ c ∈ word, isNameChar c = true)
    (hback : Text.blank back) (r : Text) :
    closingWord (word ++ (back ++ '-' :: '-' :: '>' :: r)) = word := by
  unfold closingWord
  cases back with
  | nil =>
    have hrun : ∀ c ∈ word ++ ['-', '-'], isNameChar c = true := by
      intro c hc
      rcases List.mem_append.1 hc with hc | hc
      · exact hword c hc
      · obtain rfl : c = '-' := by simpa using hc
        decide
    obtain ⟨htake, hdrop⟩ := Text.takeWhile_run (r := '>' :: r) hrun (by simp [isNameChar])
    have hsplit : word ++ ([] ++ '-' :: '-' :: '>' :: r) = word ++ ['-', '-'] ++ '>' :: r := by simp
    rw [hsplit, hdrop, htake]
    simp
  | cons c back =>
    have hc := Text.isBlank_ne (Text.blank_iff.1 hback c List.mem_cons_self)
    have hspace := Text.spaces_iff.1 (Text.spaces_of_blank hback) c List.mem_cons_self
    obtain ⟨htake, hdrop⟩ := Text.takeWhile_run (r := c :: back ++ '-' :: '-' :: '>' :: r) hword
      (by simpa using not_isNameChar_of_isSpace hspace)
    rw [hdrop, htake]
    split
    · rename_i heq
      obtain rfl : c = '>' := (List.cons.inj heq).1
      cases hspace
    · rfl

theorem wordInside_opening (m : Marker) (t : Text) : wordInside (m.word ++ ':' :: t) = m.word := by
  obtain ⟨htake, hdrop⟩ := Text.takeWhile_run (r := ':' :: t)
    (fun c hc => m.isNameChar_of_mem_word hc) (by simp [isNameChar])
  simp only [wordInside, hdrop, htake]

/-- Behind the name in a closing comment there is an arrow or white space, and no colon. -/
theorem wordInside_of_closing {name back : Text} (hname : ∀ c ∈ name, isNameChar c = true)
    (hback : Text.blank back) (r : Text) :
    let inside := name ++ (back ++ '-' :: '-' :: '>' :: r)
    wordInside inside = closingWord (inside.drop (if inside.head? = some '/' then 1 else 3)) := by
  have hcolon : ∀ t,
      (name ++ (back ++ '-' :: '-' :: '>' :: r)).dropWhile isNameChar ≠ ':' :: t := by
    intro t ht
    rw [List.dropWhile_append_of_pos hname] at ht
    cases back with
    | nil =>
      have hdash : isNameChar '-' = true := by decide
      have hangle : isNameChar '>' = false := by decide
      simp [hdash, hangle] at ht
    | cons c back =>
      have hspace := Text.spaces_iff.1 (Text.spaces_of_blank hback) c List.mem_cons_self
      rw [List.cons_append, List.dropWhile_cons_of_neg (by simp [not_isNameChar_of_isSpace hspace]),
        List.cons.injEq] at ht
      obtain rfl := ht.1
      cases hspace
  dsimp only
  unfold wordInside
  split
  · rename_i t ht
    exact absurd ht (hcolon t)
  · rfl

/-- The word can be read off a comment, whatever marker it is of. -/
theorem Comment.wordOf_eq {c : Text} (h : m.Comment c) (r : Text) : wordOf (c ++ r) = m.word := by
  have hword : ∀ c ∈ m.word, isNameChar c = true := fun c hc => m.isNameChar_of_mem_word hc
  cases h with
  | closing front back keyword hfront hback hkeyword =>
    rcases hkeyword with rfl | rfl
    · have hsplit : ['<', '!', '-', '-'] ++ front ++ ('e' :: 'n' :: 'd' :: m.word ++ back ++
          ['-', '-', '>']) ++ r = ['<', '!', '-', '-'] ++ (front ++ 'e' :: ('n' :: 'd' :: m.word ++
            (back ++ '-' :: '-' :: '>' :: r))) := by simp
      have hname : ∀ c ∈ 'e' :: 'n' :: 'd' :: m.word, isNameChar c = true := by
        simp only [List.forall_mem_cons]
        exact ⟨by decide, by decide, by decide, hword⟩
      rw [hsplit, wordOf_append hfront (by decide)]
      exact (wordInside_of_closing hname hback r).trans (closingWord_append hword hback r)
    · have hsplit : ['<', '!', '-', '-'] ++ front ++ ('/' :: m.word ++ back ++
          ['-', '-', '>']) ++ r = ['<', '!', '-', '-'] ++ (front ++ '/' :: (m.word ++
            (back ++ '-' :: '-' :: '>' :: r))) := by simp
      rw [hsplit, wordOf_append hfront (by decide)]
      exact closingWord_append hword hback r
  | opening front body hfront harrow =>
    obtain ⟨d, w, hw, hd⟩ := m.word_eq_cons
    have hsplit : ['<', '!', '-', '-'] ++ front ++ (m.word ++ [':'] ++ body ++
        ['-', '-', '>']) ++ r = ['<', '!', '-', '-'] ++ (front ++ d :: (w ++ ':' ::
          (body ++ '-' :: '-' :: '>' :: r))) := by simp [hw]
    rw [hsplit, wordOf_append hfront hd, ← List.cons_append, ← hw]
    exact m.wordInside_opening _

/-- No text starts with directive comments of two markers. -/
theorem eq_of_isSome_commentAt? {m' : Marker} {t : Text} (h : (m.commentAt? t).isSome)
    (h' : (m'.commentAt? t).isSome) : m = m' := by
  obtain ⟨⟨c, r⟩, hc⟩ := Option.isSome_iff_exists.1 h
  obtain ⟨⟨c', r'⟩, hc'⟩ := Option.isSome_iff_exists.1 h'
  obtain ⟨hcomment, ht⟩ := commentAt?_eq_some_iff.1 hc
  obtain ⟨hcomment', ht'⟩ := commentAt?_eq_some_iff.1 hc'
  have hwords : m.word = m'.word := by
    rw [← hcomment.wordOf_eq r, ← hcomment'.wordOf_eq r', ← ht, ← ht']
  cases m
  cases m'
  cases hwords
  rfl

/-! ### Both at work -/

theorem find?_eq_none {text : Text} (h : ∀ n, m.commentAt? (text.drop n) = none) :
    m.find? text = none := by
  refine find?_eq_none_iff.2 fun s hs _ => ?_
  rw [List.append_nil, List.suffix_iff_eq_drop.1 hs]
  exact h _

theorem scan_of_find?_eq_none {text : Text} (h : m.find? text = none) (line : Nat) :
    m.scan line text = ⟨Scan.literal text [], none⟩ := by
  rw [scan_eq_ofMarks, marks, marksFrom_eq_place, cut_of_none h, place, Scan.ofMarks]

/-- What the locator finds is what the reader reads. A comment that it comes upon anywhere in a text
closes a block when it is spelled like this, and only then; every other comment has the word and a
colon, and the reader says of it what it says of the body behind them. A text has no comments of two
markers at one place, so those of other markers are plain text. -/
theorem tells_comments_apart (m : Marker) :
    (∀ (text : Text) n f, m.find? (text.drop n) = some f →
      (m.classify f.comment = .ok .closes ↔ m.Closes f.comment) ∧
      (¬ m.Closes f.comment → ∃ front body, Text.blank front ∧
        f.comment = ['<', '!', '-', '-'] ++ (front ++ (m.word ++ ':' :: body) ++ ['-', '-', '>']) ∧
        m.classify f.comment = (Directive.readBody body).map fun (type, targets, args) =>
          .opens ⟨type, targets, args, f.comment, []⟩) ∧
      m.classify f.comment ≠ .error .notComment ∧
      ∀ word, m.classify f.comment ≠ .error (.missingKeyword word)) ∧
    (∀ m' (text : Text) n, m ≠ m' →
      ¬ ((m.commentAt? (text.drop n)).isSome ∧ (m'.commentAt? (text.drop n)).isSome)) ∧
    ∀ line (text : Text), (∀ n, m.commentAt? (text.drop n) = none ∨
        ∃ m', m ≠ m' ∧ (m'.commentAt? (text.drop n)).isSome) →
      m.scan line text = ⟨Scan.literal text [], none⟩ := by
  have hplaces : ∀ m' (text : Text) n, m ≠ m' →
      ¬ ((m.commentAt? (text.drop n)).isSome ∧ (m'.commentAt? (text.drop n)).isSome) :=
    fun _ _ _ hne h => hne (eq_of_isSome_commentAt? h.1 h.2)
  refine ⟨?_, hplaces, ?_⟩
  · intro text n f hfind
    rcases (comment_of_find? hfind).reads with hcloses | ⟨front, body, hfront, hcomment, hread⟩
    · rw [hcloses.classify]
      exact ⟨by simp [hcloses], fun hnot => absurd hcloses hnot, by simp, by simp⟩
    · have hnot : m.classify f.comment ≠ .ok .closes := by
        rw [hread]
        cases Directive.readBody body <;> simp [Except.map]
      refine ⟨⟨fun h => absurd h hnot, fun h => h.classify⟩,
        fun _ => ⟨front, body, hfront, hcomment, hread⟩, ?_, fun word => ?_⟩
      · rw [hread]
        exact Directive.map_readBody_ne rfl
      · rw [hread]
        exact Directive.map_readBody_ne rfl
  · intro line text hplace
    refine scan_of_find?_eq_none (find?_eq_none fun n => ?_) line
    rcases hplace n with hnone | ⟨m', hne, hother⟩
    · exact hnone
    · rw [← Option.not_isSome_iff_eq_none]
      exact fun h => hplaces m' text n hne ⟨h, hother⟩

/-- A marker that starts like a closing comment of another one. -/
def endbuild : Marker := ⟨"endbuild".toList, by decide, by decide⟩

theorem tells_comments_apart_endbuild :
    build.Closes "<!-- endbuild -->".toList ∧
      ¬ (endbuild.commentAt? ("a <!-- endbuild -->".toList.drop 2)).isSome ∧
      endbuild.scan 1 "a <!-- endbuild -->".toList =
        ⟨[.literal "a <!-- endbuild -->".toList], none⟩ := by
  have hne : endbuild ≠ build := fun h => absurd (congrArg word h) (by decide)
  have hfind : build.find? ("a <!-- endbuild -->".toList.drop 1) =
      some ⟨[' '], "<!-- endbuild -->".toList, []⟩ := by decide
  have hbuild : (build.commentAt? ("a <!-- endbuild -->".toList.drop 2)).isSome := by decide
  obtain ⟨hplaces, hscan⟩ := (tells_comments_apart endbuild).2
  refine ⟨((tells_comments_apart build).1 _ 1 _ hfind).1.1 (by decide),
    fun h => hplaces build _ 2 hne ⟨h, hbuild⟩, hscan 1 _ fun n => ?_⟩
  match n with
  | 0 | 1 => exact Or.inl (by decide)
  | 2 => exact Or.inr ⟨build, hne, hbuild⟩
  | n + 3 =>
    -- Behind the first character of the comment there is no other one to start with.
    have hnone : ∀ c ∈ "a <!-- endbuild -->".toList.drop 3, c ≠ '<' := by simp
    rw [Nat.add_comm, ← List.drop_drop]
    cases htail : ("a <!-- endbuild -->".toList.drop 3).drop n with
    | nil => exact Or.inl rfl
    | cons c t =>
      have hc : c ∈ ("a <!-- endbuild -->".toList.drop 3).drop n := by
        rw [htail]
        exact List.mem_cons_self
      exact Or.inl (commentAt?_cons_of_ne (hnone c (List.mem_of_mem_drop hc)) t)

end Marker

end PageBlocks
