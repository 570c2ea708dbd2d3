import Mathlib.Data.List.Forall2
import PageBlocks.Asset
import PageBlocks.Proofs.Line
import PageBlocks.Proofs.Padding

/-!
# Tags that refer to assets

A script that is somewhere else, or a stylesheet, is referred to by a tag like these, whatever the
case of the letters:

    <script  defer ⎵  src   =  " app.js "  async>  ⏎  </script>
    <link    rel=… ⎵  href  =  ' a.css '   media=…>
    start    attrs    name       value     tail

`AssetKind.Tag` says so, and `tagAt?_eq_some_iff` that the search for tags finds exactly them: a tag
is found at the start of a text when there is one. Where several attributes would do, the first one
counts.
-/

namespace PageBlocks

namespace AssetKind

variable {kind : AssetKind}

/-! ### What a tag is -/

/-- The text is `word`, whatever the case of its letters. -/
def Spells (word t : Text) : Prop := List.Forall₂ (fun c d => sameLetter c d = true) word t

/-- The end of a tag, behind the reference; for a script with its end tag. -/
inductive TagEnd : AssetKind → Text → Prop where
  | script {more blanks close : Text} (inside : '>' ∉ more) (spaces : Text.spaces blanks)
      (closes : Spells "</script>".toList close) : TagEnd .js (more ++ '>' :: (blanks ++ close))
  | link {more : Text} (inside : '>' ∉ more) : TagEnd .css (more ++ ['>'])

/-- The part of a tag that starts with the attribute in which `value` is referred to. -/
inductive Refers (kind : AssetKind) (value : Text) : Text → Prop where
  | intro {name before behind tail : Text} {quote : Char}
      (named : Spells kind.referenceName name) (spaces_before : Text.spaces before)
      (spaces_behind : Text.spaces behind) (quoted : quote = '"' ∨ quote = '\'')
      (inside : quote ∉ value) (ended : TagEnd kind tail) :
      Refers kind value
        (name ++ (before ++ '=' :: (behind ++ quote :: (value ++ quote :: tail))))

/-- What may stand in front of an attribute, behind the character `c`: anything inside the tag, as
long as the name of the attribute starts a word. -/
inductive Leads : (c : Char) → (attrs : Text) → Prop where
  | nil {c : Char} (apart : Text.isWord c = false) : Leads c []
  | cons {c d : Char} {attrs : Text} (inside : d ≠ '>') (later : Leads d attrs) :
      Leads c (d :: attrs)

/-- A tag that refers to `value`, with `attrs` in front of the attribute that does so. -/
inductive Tag (kind : AssetKind) (attrs value : Text) : Text → Prop where
  | intro {start part : Text} (started : Spells kind.tagStart start)
      (apart : ∀ c ∈ attrs.head?, Text.isWord c = false) (leads : Leads 't' attrs)
      (refers : Refers kind value part) : Tag kind attrs value (start ++ (attrs ++ part))

/-! ### What is searched for -/

theorem afterWord?_eq_some_iff {word t r : Text} :
    afterWord? word t = some r ↔ ∃ w, Spells word w ∧ t = w ++ r := by
  induction word generalizing t with
  | nil =>
    simp only [afterWord?, Option.some.injEq]
    constructor
    · rintro rfl
      exact ⟨[], .nil, rfl⟩
    · rintro ⟨w, hw, rfl⟩
      cases hw
      rfl
  | cons c word ih =>
    cases t with
    | nil =>
      constructor
      · intro h
        cases h
      · rintro ⟨w, hw, h⟩
        cases hw
        cases h
    | cons d t =>
      rw [afterWord?]
      constructor
      · intro h
        split at h
        · rename_i hletter
          obtain ⟨w, hw, rfl⟩ := ih.1 h
          exact ⟨d :: w, .cons hletter hw, rfl⟩
        · cases h
      · rintro ⟨w, hw, h⟩
        cases hw with
        | cons hletter hw =>
          obtain ⟨rfl, rfl⟩ := List.cons.inj h
          rw [if_pos hletter]
          exact ih.2 ⟨_, hw, rfl⟩

theorem Spells.length_eq {word w : Text} (h : Spells word w) : word.length = w.length :=
  List.Forall₂.length_eq h

theorem skipSpaces_iff {t u : Text} {c : Char} (hc : Text.isSpace c = false) :
    t.dropWhile Text.isSpace = c :: u ↔ ∃ blanks, Text.spaces blanks ∧ t = blanks ++ c :: u := by
  rw [Text.dropWhile_eq_cons_iff]
  simp only [hc, true_and, Text.spaces_iff]

theorem skipToEnd_iff {t u : Text} {c : Char} :
    t.dropWhile (· != '>') = c :: u ↔ c = '>' ∧ ∃ more, '>' ∉ more ∧ t = more ++ '>' :: u := by
  rw [Text.dropWhile_eq_cons_iff]
  simp only [bne_eq_false_iff_eq, bne_iff_ne, ne_eq]
  constructor
  · rintro ⟨rfl, more, hmore, rfl⟩
    exact ⟨rfl, more, fun h => hmore _ h rfl, rfl⟩
  · rintro ⟨rfl, more, hmore, rfl⟩
    refine ⟨rfl, more, ?_, rfl⟩
    rintro x hx rfl
    exact hmore hx

/-- An end tag starts with an angle bracket, and not with white space. -/
theorem Spells.exists_close {close : Text} (h : Spells "</script>".toList close) :
    ∃ w, close = '<' :: w := by
  have hcons : Spells ('<' :: "/script>".toList) close := h
  cases hcons with
  | @cons c d word w hletter hw =>
    have hbracket : d = '<' := by
      have hupper : '<'.toUpper = '<' := by decide
      simpa [sameLetter, hupper] using hletter
    exact ⟨w, by rw [hbracket]⟩

theorem tagRest?_eq_some_iff {t r : Text} :
    kind.tagRest? t = some r ↔ ∃ tail, TagEnd kind tail ∧ t = tail ++ r := by
  unfold tagRest?
  constructor
  · intro h
    split at h
    · cases h
    · rename_i c rest hrest
      obtain ⟨rfl, more, hmore, rfl⟩ := skipToEnd_iff.1 hrest
      cases kind with
      | js =>
        obtain ⟨close, hclose, hspaces⟩ := afterWord?_eq_some_iff.1 h
        obtain ⟨w, rfl⟩ := hclose.exists_close
        obtain ⟨blanks, hblanks, rfl⟩ := (skipSpaces_iff (by decide)).1 hspaces
        exact ⟨_, .script hmore hblanks hclose, by simp⟩
      | css =>
        obtain rfl := Option.some.inj h
        exact ⟨_, .link hmore, by simp⟩
  · rintro ⟨tail, htail, rfl⟩
    cases htail with
    | @script more blanks close inside spaces closes =>
      have hend : (more ++ '>' :: (blanks ++ close) ++ r).dropWhile (· != '>') =
          '>' :: (blanks ++ (close ++ r)) :=
        skipToEnd_iff.2 ⟨rfl, more, inside, by simp⟩
      have hspaces : (blanks ++ (close ++ r)).dropWhile Text.isSpace = close ++ r := by
        obtain ⟨w, rfl⟩ := closes.exists_close
        exact (skipSpaces_iff (by decide)).2 ⟨blanks, spaces, rfl⟩
      rw [hend]
      dsimp only
      rw [hspaces]
      exact afterWord?_eq_some_iff.2 ⟨close, closes, rfl⟩
    | @link more inside =>
      have hend : (more ++ ['>'] ++ r).dropWhile (· != '>') = '>' :: r :=
        skipToEnd_iff.2 ⟨rfl, more, inside, by simp⟩
      rw [hend]

theorem quotedValue?_eq_some_iff {t value r : Text} {q : Char} :
    Text.quotedValue? t = some (q, value, r) ↔
      (q = '"' ∨ q = '\'') ∧ q ∉ value ∧ t = q :: (value ++ q :: r) := by
  cases t with
  | nil => simp [Text.quotedValue?]
  | cons c t =>
    rw [Text.quotedValue?]
    constructor
    · intro h
      split at h
      · rename_i hquote
        obtain ⟨⟨v, u⟩, hcut, heq⟩ := Option.map_eq_some_iff.1 h
        obtain ⟨x, rfl, hx, hv⟩ := Text.cutAt?_eq_some_iff.1 hcut
        obtain ⟨rfl, rfl, rfl⟩ : c = q ∧ v = value ∧ u = r := by simpa using heq
        obtain rfl : x = c := by simpa using hx
        refine ⟨hquote, ?_, rfl⟩
        intro hmem
        simpa using hv x hmem
      · cases h
    · rintro ⟨hquote, hvalue, heq⟩
      obtain ⟨rfl, rfl⟩ := List.cons.inj heq
      have hcut : Text.cutAt? (· == c) (value ++ c :: r) = some (value, r) := by
        refine Text.cutAt?_eq_some_iff.2 ⟨c, rfl, by simp, ?_⟩
        intro x hx
        simp only [beq_eq_false_iff_ne]
        rintro rfl
        exact hvalue hx
      rw [if_pos hquote, hcut]
      rfl

theorem referenceAt?_eq_some_iff {t value r : Text} :
    kind.referenceAt? t = some (value, r) ↔ ∃ part, Refers kind value part ∧ t = part ++ r := by
  constructor
  · intro h
    obtain ⟨afterName, hname, h⟩ := Option.bind_eq_some_iff.1 h
    obtain ⟨afterEquals, hequals, h⟩ := Option.bind_eq_some_iff.1 h
    obtain ⟨⟨quote, v, afterValue⟩, hvalue, h⟩ := Option.bind_eq_some_iff.1 h
    obtain ⟨rest, hrest, h⟩ := Option.bind_eq_some_iff.1 h
    obtain ⟨rfl, rfl⟩ : v = value ∧ rest = r := by simpa using h
    obtain ⟨name, hnamed, rfl⟩ := afterWord?_eq_some_iff.1 hname
    obtain ⟨before, hbefore, rfl⟩ :=
      (skipSpaces_iff (c := '=') (by decide)).1 (Text.after?_eq_some_iff.1 hequals)
    obtain ⟨hquote, hinside, hskip⟩ := quotedValue?_eq_some_iff.1 hvalue
    have hnotSpace : Text.isSpace quote = false := by rcases hquote with rfl | rfl <;> decide
    obtain ⟨behind, hbehind, rfl⟩ := (skipSpaces_iff hnotSpace).1 hskip
    obtain ⟨tail, htail, rfl⟩ := tagRest?_eq_some_iff.1 hrest
    exact ⟨_, .intro hnamed hbefore hbehind hquote hinside htail, by simp⟩
  · rintro ⟨part, hpart, rfl⟩
    cases hpart with
    | @intro name before behind tail quote named spaces_before spaces_behind quoted inside ended =>
      have hnotSpace : Text.isSpace quote = false := by rcases quoted with rfl | rfl <;> decide
      have hname : afterWord? kind.referenceName
          (name ++ (before ++ '=' :: (behind ++ quote :: (value ++ quote :: tail))) ++ r) =
            some (before ++ '=' :: (behind ++ quote :: (value ++ quote :: (tail ++ r)))) :=
        afterWord?_eq_some_iff.2 ⟨name, named, by simp⟩
      have hequals : Text.after? ['=']
          ((before ++ '=' :: (behind ++ quote :: (value ++ quote :: (tail ++ r)))).dropWhile
            Text.isSpace) = some (behind ++ quote :: (value ++ quote :: (tail ++ r))) :=
        Text.after?_eq_some_iff.2
          ((skipSpaces_iff (by decide)).2 ⟨before, spaces_before, rfl⟩)
      have hvalue : Text.quotedValue?
          ((behind ++ quote :: (value ++ quote :: (tail ++ r))).dropWhile Text.isSpace) =
            some (quote, value, tail ++ r) :=
        quotedValue?_eq_some_iff.2 ⟨quoted, inside,
          (skipSpaces_iff hnotSpace).2 ⟨behind, spaces_behind, rfl⟩⟩
      have hrest : kind.tagRest? (tail ++ r) = some r :=
        tagRest?_eq_some_iff.2 ⟨tail, ended, rfl⟩
      simp only [referenceAt?, hname, Option.bind_eq_bind, Option.bind_some, hequals, hvalue, hrest]
      rfl

/-! ### The first attribute that will do -/

theorem Refers.ne_nil {value part : Text} (h : Refers kind value part) : part ≠ [] := by
  cases h with
  | intro => simp

/-- With `attrs` in front, the text goes on with the attribute in which `value` is referred to. -/
def Offers (kind : AssetKind) (c : Char) (attrs value r t : Text) : Prop :=
  Leads c attrs ∧ ∃ part, Refers kind value part ∧ t = attrs ++ (part ++ r)

theorem referenceHere_eq_some_iff {c : Char} {t value r : Text} :
    (if Text.isWord c then none else kind.referenceAt? t) = some (value, r) ↔
      Offers kind c [] value r t := by
  constructor
  · intro h
    split at h
    · cases h
    · rename_i hword
      obtain ⟨part, hpart, ht⟩ := referenceAt?_eq_some_iff.1 h
      exact ⟨.nil (by simpa using hword), part, hpart, ht⟩
  · rintro ⟨hleads, part, hpart, ht⟩
    cases hleads with
    | nil apart =>
      rw [if_neg (by simp [apart])]
      exact referenceAt?_eq_some_iff.2 ⟨part, hpart, ht⟩

theorem offers_cons_iff {c d : Char} {attrs value r t : Text} :
    Offers kind c (d :: attrs) value r (d :: t) ↔ d ≠ '>' ∧ Offers kind d attrs value r t := by
  constructor
  · rintro ⟨hleads, part, hpart, ht⟩
    cases hleads with
    | cons inside later => exact ⟨inside, later, part, hpart, (List.cons.inj ht).2⟩
  · rintro ⟨inside, later, part, hpart, rfl⟩
    exact ⟨.cons inside later, part, hpart, rfl⟩

/-- What is offered behind other characters starts with the first of them. -/
theorem Offers.cases {c d : Char} {attrs value r t : Text}
    (h : Offers kind c attrs value r (d :: t)) :
    attrs = [] ∨ ∃ attrs', attrs = d :: attrs' := by
  obtain ⟨-, part, -, ht⟩ := h
  cases attrs with
  | nil => exact Or.inl rfl
  | cons x attrs =>
    obtain rfl := (List.cons.inj ht).1
    exact Or.inr ⟨attrs, rfl⟩

/-- No text is offered with fewer characters in front. -/
def OffersFirst (kind : AssetKind) (c : Char) (attrs value r t : Text) : Prop :=
  Offers kind c attrs value r t ∧
    ∀ attrs' value' r', Offers kind c attrs' value' r' t → attrs.length ≤ attrs'.length

theorem offersFirst_nil_iff {c : Char} {attrs value r t : Text} {value' r' : Text}
    (h : Offers kind c [] value' r' t) :
    OffersFirst kind c attrs value r t ↔ attrs = [] ∧ Offers kind c [] value r t := by
  constructor
  · rintro ⟨hattrs, hfirst⟩
    obtain rfl : attrs = [] := List.length_eq_zero_iff.1 (Nat.le_zero.1 (hfirst _ _ _ h))
    exact ⟨rfl, hattrs⟩
  · rintro ⟨rfl, hattrs⟩
    exact ⟨hattrs, fun _ _ _ _ => Nat.zero_le _⟩

/-- What comes first is behind a character with which nothing is offered. -/
theorem offersFirst_cons_iff {c d : Char} {attrs value r t : Text}
    (hnot : ∀ value' r', ¬ Offers kind c [] value' r' (d :: t)) :
    OffersFirst kind c attrs value r (d :: t) ↔
      ∃ attrs', attrs = d :: attrs' ∧ d ≠ '>' ∧ OffersFirst kind d attrs' value r t := by
  constructor
  · rintro ⟨hattrs, hfirst⟩
    rcases hattrs.cases with rfl | ⟨attrs, rfl⟩
    · exact absurd hattrs (hnot _ _)
    · obtain ⟨hinside, hbehind⟩ := offers_cons_iff.1 hattrs
      refine ⟨attrs, rfl, hinside, hbehind, ?_⟩
      intro attrs' value' r' hattrs'
      exact Nat.le_of_succ_le_succ
        (hfirst (d :: attrs') _ _ (offers_cons_iff.2 ⟨hinside, hattrs'⟩))
  · rintro ⟨attrs, rfl, hinside, hattrs, hfirst⟩
    refine ⟨offers_cons_iff.2 ⟨hinside, hattrs⟩, ?_⟩
    intro attrs' value' r' hattrs'
    rcases hattrs'.cases with rfl | ⟨attrs', rfl⟩
    · exact absurd hattrs' (hnot _ _)
    · exact Nat.succ_le_succ (hfirst _ _ _ (offers_cons_iff.1 hattrs').2)

/-- The search stops at the first attribute that will do. -/
theorem referenceIn?_eq_some_iff {c : Char} {t value r : Text} :
    kind.referenceIn? c t = some (value, r) ↔ ∃ attrs, OffersFirst kind c attrs value r t := by
  induction t generalizing c with
  | nil =>
    constructor
    · intro h
      cases h
    · rintro ⟨attrs, ⟨-, part, hpart, ht⟩, -⟩
      obtain ⟨-, hnil⟩ := List.append_eq_nil_iff.1 ht.symm
      exact absurd (List.append_eq_nil_iff.1 hnil).1 hpart.ne_nil
  | cons d t ih =>
    rw [referenceIn?]
    cases hhere : if Text.isWord c then none else kind.referenceAt? (d :: t) with
    | some found =>
      simp only [offersFirst_nil_iff (referenceHere_eq_some_iff.1 hhere), exists_eq_left]
      rw [← referenceHere_eq_some_iff, hhere]
    | none =>
      have hnot : ∀ value' r', ¬ Offers kind c [] value' r' (d :: t) := by
        intro value' r' h
        rw [referenceHere_eq_some_iff.2 h] at hhere
        cases hhere
      simp only [offersFirst_cons_iff hnot]
      split
      · rename_i hend
        constructor
        · intro h
          cases h
        · rintro ⟨-, -, -, hinside, -⟩
          exact absurd hend hinside
      · rename_i hinside
        rw [ih]
        constructor
        · rintro ⟨attrs, hattrs⟩
          exact ⟨_, attrs, rfl, hinside, hattrs⟩
        · rintro ⟨-, attrs, rfl, -, hattrs⟩
          exact ⟨attrs, hattrs⟩

/-! ### The tag at the start of a text -/

/-- The tag refers to `value`, and with `r` behind it there is no sooner attribute that would do. -/
def First (kind : AssetKind) (value tag r : Text) : Prop :=
  ∃ attrs, Tag kind attrs value tag ∧
    ∀ attrs' value' tag' r', Tag kind attrs' value' tag' → tag ++ r = tag' ++ r' →
      attrs.length ≤ attrs'.length

theorem Leads.exists_cons {attrs : Text} (h : Leads 't' attrs) : ∃ c cs, attrs = c :: cs := by
  cases h with
  | nil apart =>
    have hword : Text.isWord 't' = true := by decide
    rw [hword] at apart
    cases apart
  | cons => exact ⟨_, _, rfl⟩

/-- Behind the start of a tag, tags are what is offered there. -/
theorem tag_append_iff {start attrs value r t : Text} (hstart : Spells kind.tagStart start)
    (hhead : ∀ c ∈ t.head?, Text.isWord c = false) :
    (∃ tag, Tag kind attrs value tag ∧ start ++ t = tag ++ r) ↔
      Offers kind 't' attrs value r t := by
  constructor
  · rintro ⟨tag, htag, ht⟩
    cases htag with
    | @intro start' part started apart leads refers =>
      rw [List.append_assoc] at ht
      obtain ⟨-, rfl⟩ := List.append_inj ht (by rw [← hstart.length_eq, ← started.length_eq])
      exact ⟨leads, part, refers, by rw [List.append_assoc]⟩
  · rintro ⟨leads, part, refers, rfl⟩
    refine ⟨start ++ (attrs ++ part), .intro hstart ?_ leads refers, by simp⟩
    obtain ⟨c, cs, rfl⟩ := leads.exists_cons
    exact hhead

theorem not_any_isWord_iff {t : Text} :
    ¬ t.head?.any Text.isWord = true ↔ ∀ c ∈ t.head?, Text.isWord c = false := by
  cases t <;> simp

/-- Behind the start of a tag the search goes on with the attributes. -/
theorem tagAt?_append {start t : Text} (hstart : Spells kind.tagStart start) :
    kind.tagAt? (start ++ t) =
      if t.head?.any Text.isWord then none
      else (kind.referenceIn? 't' t).map fun x => ((start ++ t).length - x.2.length, x.1) := by
  have hafter : afterWord? kind.tagStart (start ++ t) = some t :=
    afterWord?_eq_some_iff.2 ⟨start, hstart, rfl⟩
  simp only [tagAt?, hafter, Option.bind_eq_bind, Option.bind_some]
  split
  · rfl
  · cases kind.referenceIn? 't' t <;> rfl

/-- A tag is found at the start of a text exactly when there is one, and it is the one whose
reference comes first. -/
theorem tagAt?_eq_some_iff {t value : Text} {n : Nat} :
    kind.tagAt? t = some (n, value) ↔
      ∃ tag r, t = tag ++ r ∧ n = tag.length ∧ First kind value tag r := by
  constructor
  · intro h
    obtain ⟨u, hu, -⟩ := Option.bind_eq_some_iff.1 h
    obtain ⟨start, hstart, rfl⟩ := afterWord?_eq_some_iff.1 hu
    rw [tagAt?_append hstart] at h
    split at h
    · cases h
    · rename_i hword
      have hhead := not_any_isWord_iff.1 hword
      obtain ⟨⟨v, r⟩, hfound, heq⟩ := Option.map_eq_some_iff.1 h
      obtain ⟨rfl, rfl⟩ := Prod.mk.inj heq
      obtain ⟨attrs, hoffer, hfirst⟩ := referenceIn?_eq_some_iff.1 hfound
      obtain ⟨tag, htag, ht⟩ := (tag_append_iff hstart hhead).2 hoffer
      refine ⟨tag, r, ht, by rw [ht]; simp, attrs, htag, ?_⟩
      intro attrs' value' tag' r' htag' ht'
      exact hfirst attrs' value' r' ((tag_append_iff hstart hhead).1 ⟨tag', htag', ht ▸ ht'⟩)
  · rintro ⟨tag, r, rfl, rfl, attrs, htag, hfirst⟩
    cases htag with
    | @intro start part started apart leads refers =>
      have hhead : ∀ c ∈ (attrs ++ (part ++ r)).head?, Text.isWord c = false := by
        obtain ⟨c, cs, rfl⟩ := leads.exists_cons
        exact apart
      have hsplit : start ++ (attrs ++ part) ++ r = start ++ (attrs ++ (part ++ r)) := by simp
      have hfound : kind.referenceIn? 't' (attrs ++ (part ++ r)) = some (value, r) := by
        refine referenceIn?_eq_some_iff.2 ⟨attrs, ⟨leads, part, refers, rfl⟩, ?_⟩
        intro attrs' value' r' hoffer
        obtain ⟨tag', htag', ht'⟩ := (tag_append_iff started hhead).2 hoffer
        exact hfirst attrs' value' tag' r' htag' (hsplit.trans ht')
      rw [hsplit, tagAt?_append started, if_neg (not_any_isWord_iff.2 hhead), hfound]
      refine congrArg (fun n => some (n, value)) ?_
      simp only [List.length_append]
      omega

/-- Where a tag starts, there is one whose reference comes first. -/
theorem exists_first {attrs value tag r : Text} (h : Tag kind attrs value tag) :
    ∃ value' tag' r', tag ++ r = tag' ++ r' ∧ First kind value' tag' r' := by
  induction hn : attrs.length using Nat.strongRecOn generalizing attrs value tag r with
  | ind n ih =>
    by_cases hfirst : ∀ attrs' value' tag' r', Tag kind attrs' value' tag' →
        tag ++ r = tag' ++ r' → attrs.length ≤ attrs'.length
    · exact ⟨value, tag, r, rfl, attrs, h, hfirst⟩
    · push Not at hfirst
      obtain ⟨attrs', value', tag', r', htag', ht', hshorter⟩ := hfirst
      rw [ht']
      exact ih _ (by omega) htag' rfl

/-- No tag is found where none starts. -/
theorem tagAt?_eq_none_iff {t : Text} :
    kind.tagAt? t = none ↔ ∀ attrs value tag r, Tag kind attrs value tag → t ≠ tag ++ r := by
  constructor
  · rintro h attrs value tag r htag rfl
    obtain ⟨value', tag', r', ht, hfirst⟩ := exists_first (r := r) htag
    rw [tagAt?_eq_some_iff.2 ⟨tag', r', ht, rfl, hfirst⟩] at h
    cases h
  · intro h
    rw [Option.eq_none_iff_forall_ne_some]
    rintro ⟨n, value⟩ hsome
    obtain ⟨tag, r, ht, -, attrs, htag, -⟩ := tagAt?_eq_some_iff.1 hsome
    exact h attrs value tag r htag ht

theorem Tag.ne_nil {attrs value tag : Text} (h : Tag kind attrs value tag) : tag ≠ [] := by
  cases h with
  | intro started apart leads refers =>
    obtain ⟨c, cs, rfl⟩ := leads.exists_cons
    simp

end AssetKind

end PageBlocks
