import PageBlocks.Proofs.AttributePattern
import PageBlocks.Proofs.Body
import PageBlocks.Proofs.Pieces
import PageBlocks.Proofs.ReferenceTag

/-!
# Setting attribute values

An `[attr]` block sets the values of one attribute in its content. What is between them stays:

    <a title="x" ⎵href⎵=⎵ "css/a.css" >  ⎵href='b.css'>
                 └─lead──┘└──value──┘    └lead┘└value┘
    <a title="x" ⎵href⎵=⎵ "img/a.css" >  ⎵href='img/b.css'>

`SetsValues` is the rule. A second pass finds the same attributes with the values that they already
have, so it changes nothing: an attribute that it found elsewhere would start in the text between
the values, where nothing has changed up to the quote, and would have been found the first time
(`SetsValues.again`). Only a name whose pattern is too big is refused (`fault?_of_isBlockType`).
-/

namespace PageBlocks

/-- One of the two quotes. -/
def IsQuote (c : Char) : Prop := c = '"' ∨ c = '\''

namespace AttributeUse

/-- An attribute called `name` that has a value between quotes, with the white space in front. -/
inductive Names (name : Text) : AttributeUse → Prop where
  | intro {c quote : Char} {before behind value : Text} (apart : Text.isSpace c = true)
      (spaces_before : Text.spaces before) (spaces_behind : Text.spaces behind)
      (quoted : IsQuote quote) (inside : quote ∉ value) :
      Names name ⟨c :: (name ++ (before ++ '=' :: behind)), quote, value⟩

/-- What becomes of the value `old` where `value` is to be set: a directory keeps the file name. -/
inductive Renewed (value old : Text) : Text → Prop where
  | whole (file : ∀ dir, value ≠ dir ++ ['/']) : Renewed value old value
  | fileName {dir upper name : Text} (directory : value = dir ++ ['/'])
      (cut : old = upper ++ name) (last : '/' ∉ name)
      (upto : upper = [] ∨ ∃ u, upper = u ++ ['/']) : Renewed value old (value ++ name)

end AttributeUse

open AttributeUse (Names Renewed)

/-- The text with a new value for each attribute called `name`, from left to right. -/
inductive SetsValues (name value : Text) : (t out : Text) → Prop where
  | nil : SetsValues name value [] []
  | char {c : Char} {t out : Text} (free : ∀ a r, Names name a → c :: t ≠ a.source ++ r)
      (later : SetsValues name value t out) : SetsValues name value (c :: t) (c :: out)
  | set {a : AttributeUse} {t out new : Text} (names : Names name a)
      (renewed : Renewed value a.value new) (later : SetsValues name value t out) :
      SetsValues name value (a.source ++ t) (AttributeUse.source { a with value := new } ++ out)

namespace AttributeUse

variable {name value old t : Text} {a : AttributeUse}

theorem not_space_of_isQuote {c : Char} (h : IsQuote c) : Text.isSpace c = false := by
  rcases h with rfl | rfl <;> decide

/-- Where there is white space, a run of it comes first. -/
theorem exists_spaces {t u : Text} {c : Char} (h : t.dropWhile Text.isSpace = c :: u) :
    Text.spaces (t.takeWhile Text.isSpace) ∧ t = t.takeWhile Text.isSpace ++ c :: u :=
  ⟨List.all_takeWhile, by rw [← h, List.takeWhile_append_dropWhile]⟩

theorem names_of_at? {n : Nat} (h : at? name t = some (n, a)) :
    Names name a ∧ n = a.source.length ∧ ∃ r, t = a.source ++ r := by
  unfold at? at h
  split at h
  · cases h
  split at h
  · cases h
  rename_i c u hspace
  split at h
  · cases h
  rename_i u hname
  obtain rfl := Text.after?_eq_some_iff.1 hname
  dsimp only at h
  split at h
  · rename_i v hequals
    obtain ⟨hbefore, hu⟩ := exists_spaces hequals
    split at h
    · cases h
    rename_i quote value rest hvalue
    obtain ⟨hquote, hinside, hskip⟩ := AssetKind.quotedValue?_eq_some_iff.1 hvalue
    obtain ⟨hbehind, hv⟩ := exists_spaces hskip
    obtain ⟨rfl, rfl⟩ := Prod.mk.inj (Option.some.inj h)
    have hnames : Names name ⟨c :: (name ++ (u.takeWhile Text.isSpace ++ '=' ::
        v.takeWhile Text.isSpace)), quote, value⟩ :=
      .intro (by simpa using hspace) hbefore hbehind hquote hinside
    refine ⟨by simpa using hnames, rfl, rest, ?_⟩
    conv => lhs; rw [hu, hv]
    simp [source]
  · cases h

theorem at?_append (h : Names name a) (r : Text) :
    at? name (a.source ++ r) = some (a.source.length, a) := by
  cases h with
  | @intro c quote before behind value apart spaces_before spaces_behind quoted inside =>
    have htext : source ⟨c :: (name ++ (before ++ '=' :: behind)), quote, value⟩ ++ r =
        c :: (name ++ (before ++ '=' :: (behind ++ quote :: (value ++ quote :: r)))) := by
      simp [source]
    have hbefore := Text.takeWhile_run (Text.spaces_iff.1 spaces_before)
      (r := '=' :: (behind ++ quote :: (value ++ quote :: r))) (by simp; decide)
    have hbehind := Text.takeWhile_run (Text.spaces_iff.1 spaces_behind)
      (r := quote :: (value ++ quote :: r)) (by simpa using not_space_of_isQuote quoted)
    have hvalue : Text.quotedValue? (quote :: (value ++ quote :: r)) = some (quote, value, r) :=
      AssetKind.quotedValue?_eq_some_iff.2 ⟨quoted, inside, rfl⟩
    rw [htext]
    simp only [at?, apart, Bool.not_true, Bool.false_eq_true, if_false,
      Text.after?_eq_some_iff.2 rfl, hbefore, hbehind, hvalue]
    simp

/-- An attribute is found at the start of a text just if there is one. -/
theorem at?_eq_some_iff {n : Nat} :
    at? name t = some (n, a) ↔ Names name a ∧ n = a.source.length ∧ ∃ r, t = a.source ++ r := by
  refine ⟨names_of_at?, ?_⟩
  rintro ⟨hnames, rfl, r, rfl⟩
  exact at?_append hnames r

theorem at?_eq_none_iff : at? name t = none ↔ ∀ a r, Names name a → t ≠ a.source ++ r := by
  rw [Option.eq_none_iff_forall_ne_some]
  constructor
  · rintro h a r hnames rfl
    exact h _ (at?_eq_some_iff.2 ⟨hnames, rfl, r, rfl⟩)
  · rintro h ⟨n, a⟩ hfound
    obtain ⟨hnames, -, r, ht⟩ := at?_eq_some_iff.1 hfound
    exact h a r hnames ht

theorem source_ne_nil (a : AttributeUse) : a.source ≠ [] := by simp [source]

theorem picks_recognise (name t : Text) :
    Text.Picks (at? name) t (Text.recognise (at? name) t) := by
  refine Text.picks_recognise (fun t n a h => ?_) t
  obtain ⟨-, rfl, r, rfl⟩ := at?_eq_some_iff.1 h
  exact ⟨List.length_pos_iff.2 a.source_ne_nil, by simp⟩

/-! ### New values -/

theorem Renewed.eq_newValue {new : Text} (h : Renewed value old new) :
    new = newValue value old := by
  cases h with
  | whole file =>
    have hends : ¬ Text.endsWith ['/'] value = true := by
      rw [Text.endsWith_iff]
      rintro ⟨dir, hdir⟩
      exact file dir hdir
    rw [newValue, if_neg hends]
  | @fileName dir upper name directory cut last upto =>
    have hname : ∀ c ∈ name.reverse, (c != '/') = true := by
      intro c hc
      rw [bne_iff_ne]
      rintro rfl
      exact last (List.mem_reverse.1 hc)
    have hupper : ∀ c ∈ upper.reverse.head?, (c != '/') = false := by
      intro c hc
      rcases upto with rfl | ⟨u, rfl⟩
      · cases hc
      · obtain rfl : '/' = c := by simpa using hc
        rfl
    rw [newValue, if_pos (Text.endsWith_iff.2 ⟨dir, directory⟩), cut, List.reverse_append,
      (Text.takeWhile_run hname hupper).1, List.reverse_reverse]

/-- What stands behind the last slash of a value. -/
theorem exists_fileName (old : Text) :
    ∃ upper, old = upper ++ (old.reverse.takeWhile (· != '/')).reverse ∧
      (upper = [] ∨ ∃ u, upper = u ++ ['/']) := by
  refine ⟨(old.reverse.dropWhile (· != '/')).reverse, ?_, ?_⟩
  · rw [← List.reverse_append, List.takeWhile_append_dropWhile, List.reverse_reverse]
  · cases hdrop : old.reverse.dropWhile (· != '/') with
    | nil => exact .inl rfl
    | cons c u =>
      obtain ⟨hc, -⟩ := Text.dropWhile_eq_cons_iff.1 hdrop
      obtain rfl : c = '/' := by simpa using hc
      exact .inr ⟨u.reverse, by simp⟩

theorem renewed_newValue (value old : Text) : Renewed value old (newValue value old) := by
  rw [newValue]
  split_ifs with hends
  · obtain ⟨dir, hdir⟩ := Text.endsWith_iff.1 hends
    obtain ⟨upper, hcut, hupto⟩ := exists_fileName old
    refine .fileName hdir hcut (fun hmem => ?_) hupto
    have := List.all_eq_true.1 (List.all_takeWhile (p := (· != '/'))) _ (List.mem_reverse.1 hmem)
    simp at this
  · exact .whole fun dir hdir => hends (Text.endsWith_iff.2 ⟨dir, hdir⟩)

/-- A value that has been renewed is not renewed any further. -/
theorem Renewed.again {new : Text} (h : Renewed value old new) : Renewed value new new := by
  cases h with
  | whole file => exact .whole file
  | fileName directory cut last upto => exact .fileName directory rfl last (.inr ⟨_, directory⟩)

theorem Renewed.notMem {new : Text} {q : Char} (h : Renewed value old new) (hvalue : q ∉ value)
    (hold : q ∉ old) : q ∉ new := by
  cases h with
  | whole file => exact hvalue
  | fileName directory cut last upto =>
    rw [cut, List.mem_append, not_or] at hold
    simpa using ⟨hvalue, hold.2⟩

theorem Names.renew {new : Text} (h : Names name a) (hnew : a.quote ∉ new) :
    Names name { a with value := new } := by
  cases h with
  | intro apart spaces_before spaces_behind quoted inside =>
    exact .intro apart spaces_before spaces_behind quoted hnew

theorem Names.isQuote (h : Names name a) : IsQuote a.quote := by
  cases h with
  | intro apart spaces_before spaces_behind quoted inside => exact quoted

theorem Names.quote_notMem (h : Names name a) : a.quote ∉ a.value := by
  cases h with
  | intro apart spaces_before spaces_behind quoted inside => exact inside

/-- There is no quote in front of the value. -/
theorem Names.not_isQuote_of_mem_lead (h : Names name a) (hname : ∀ c ∈ name, ¬ IsQuote c) :
    ∀ c ∈ a.lead, ¬ IsQuote c := by
  have hspaces : ∀ {t : Text}, Text.spaces t → ∀ c ∈ t, ¬ IsQuote c := by
    intro t ht c hc hquote
    simpa [not_space_of_isQuote hquote] using Text.spaces_iff.1 ht c hc
  cases h with
  | @intro c quote before behind value apart spaces_before spaces_behind quoted inside =>
    intro d hd
    rcases List.mem_cons.1 hd with rfl | hd
    · intro hquote
      simp [not_space_of_isQuote hquote] at apart
    rcases List.mem_append.1 hd with hd | hd
    · exact hname d hd
    rcases List.mem_append.1 hd with hd | hd
    · exact hspaces spaces_before d hd
    rcases List.mem_cons.1 hd with rfl | hd
    · rintro (h | h) <;> revert h <;> decide
    · exact hspaces spaces_behind d hd

end AttributeUse

/-! ### Going through a text -/

namespace SetsValues

variable {name value t out : Text}

/-- Going through the pieces of a text sets the values. -/
theorem of_recognise (name value t : Text) :
    SetsValues name value t
      ((Text.recognise (AttributeUse.at? name) t).flatMap (Handler.setPiece value)) := by
  have hpicks := AttributeUse.picks_recognise name t
  generalize Text.recognise (AttributeUse.at? name) t = ps at hpicks ⊢
  induction hpicks with
  | nil => exact .nil
  | char free picks ih => exact .char (AttributeUse.at?_eq_none_iff.1 free) ih
  | @found source t a later nonempty starts picks ih =>
    obtain ⟨hnames, hlength, r, hr⟩ := AttributeUse.at?_eq_some_iff.1 starts
    obtain ⟨rfl, rfl⟩ := List.append_inj hr hlength
    exact .set hnames (AttributeUse.renewed_newValue _ _) ih

/-- The rule leaves no choice. -/
theorem eq_recognise (h : SetsValues name value t out) :
    out = (Text.recognise (AttributeUse.at? name) t).flatMap (Handler.setPiece value) := by
  induction h with
  | nil => rfl
  | char free later ih =>
    rw [Text.recognise_cons_of_none (AttributeUse.at?_eq_none_iff.2 free), ih]
    rfl
  | @set a t out new names renewed later ih =>
    rw [Text.recognise_append_of_some a.source_ne_nil (AttributeUse.at?_append names t), ih,
      renewed.eq_newValue]
    rfl

/-- No quote comes into a text. -/
theorem mem_of_mem (h : SetsValues name value t out) (hvalue : ∀ c ∈ value, ¬ IsQuote c) {q : Char}
    (hq : IsQuote q) (hmem : q ∈ out) : q ∈ t := by
  induction h with
  | nil => exact hmem
  | char free later ih => exact List.mem_cons.2 ((List.mem_cons.1 hmem).imp_right ih)
  | @set a t out new names renewed later ih =>
    refine List.mem_append.2 ((List.mem_append.1 hmem).imp (fun hsource => ?_) ih)
    by_contra hnot
    have hold : q ∉ a.value := fun hv => hnot (by simp [AttributeUse.source, hv])
    have hnew := renewed.notMem (fun hv => hvalue q hv hq) hold
    simp only [AttributeUse.source, List.mem_append, List.mem_cons, not_or] at hsource hnot
    rcases hsource with (hlead | rfl | hnew') | rfl | hnil
    · exact hnot.1.1 hlead
    · exact hnot.1.2.1 rfl
    · exact hnew hnew'
    · exact hnot.1.2.1 rfl
    · cases hnil

/-- What stands in front of a quote tells where the quote is. -/
theorem eq_of_first_quote {l l' u u' : Text} {q q' : Char} (hl : ∀ c ∈ l, ¬ IsQuote c)
    (hl' : ∀ c ∈ l', ¬ IsQuote c) (hq : IsQuote q) (hq' : IsQuote q')
    (h : l ++ q :: u = l' ++ q' :: u') : l = l' ∧ q = q' ∧ u = u' := by
  induction l generalizing l' with
  | nil =>
    cases l' with
    | nil => exact ⟨rfl, by simpa using h⟩
    | cons c l' =>
      obtain rfl : q = c := (List.cons.inj h).1
      exact absurd hq (hl' q List.mem_cons_self)
  | cons c l ih =>
    cases l' with
    | nil =>
      obtain rfl : c = q' := (List.cons.inj h).1
      exact absurd hq' (hl c List.mem_cons_self)
    | cons d l' =>
      obtain ⟨rfl, htail⟩ := List.cons.inj h
      obtain ⟨rfl, hrest⟩ := ih (fun x hx => hl x (List.mem_cons_of_mem _ hx))
        (fun x hx => hl' x (List.mem_cons_of_mem _ hx)) htail
      exact ⟨rfl, hrest⟩

/-- A quote that has another one behind it had one before the values were set, and the same text in
front of it. -/
theorem exists_quoted (h : SetsValues name value t out) (hname : ∀ c ∈ name, ¬ IsQuote c)
    (hvalue : ∀ c ∈ value, ¬ IsQuote c) {lead u : Text} {q : Char} (hq : IsQuote q)
    (hlead : ∀ c ∈ lead, ¬ IsQuote c) (hout : out = lead ++ q :: u) (hu : q ∈ u) :
    ∃ u', t = lead ++ q :: u' ∧ q ∈ u' := by
  induction h generalizing lead with
  | nil => simp at hout
  | @char c t out free later ih =>
    cases lead with
    | nil =>
      obtain ⟨rfl, rfl⟩ := List.cons.inj hout
      exact ⟨t, rfl, later.mem_of_mem hvalue hq hu⟩
    | cons d lead =>
      obtain ⟨rfl, hrest⟩ := List.cons.inj hout
      obtain ⟨u', rfl, hu'⟩ := ih (fun x hx => hlead x (List.mem_cons_of_mem _ hx)) hrest
      exact ⟨u', rfl, hu'⟩
  | @set a t out new names renewed later ih =>
    have hsplit : a.lead ++ a.quote :: (new ++ a.quote :: out) = lead ++ q :: u := by
      simpa [AttributeUse.source] using hout
    obtain ⟨rfl, rfl, -⟩ := eq_of_first_quote (names.not_isQuote_of_mem_lead hname) hlead
      names.isQuote hq hsplit
    exact ⟨a.value ++ a.quote :: t, by simp [AttributeUse.source], by simp⟩

/-- Setting the values again changes nothing. -/
theorem again (h : SetsValues name value t out) (hname : ∀ c ∈ name, ¬ IsQuote c)
    (hvalue : ∀ c ∈ value, ¬ IsQuote c) : SetsValues name value out out := by
  induction h with
  | nil => exact .nil
  | @char c t out free later ih =>
    refine .char ?_ ih
    intro a r hnames heq
    -- up to its quote an attribute that is found now stood there before, so it was found before
    have hlead := hnames.not_isQuote_of_mem_lead hname
    have hquote := hnames.isQuote
    cases hnames with
    | @intro d quote before behind old apart spaces_before spaces_behind quoted inside =>
      obtain ⟨rfl, hout⟩ : c = d ∧ out = (name ++ (before ++ '=' :: behind)) ++ quote ::
          (old ++ quote :: r) := by simpa [AttributeUse.source] using heq
      obtain ⟨u, rfl, hu⟩ := later.exists_quoted hname hvalue hquote
        (fun x hx => hlead x (List.mem_cons_of_mem _ hx)) hout (by simp)
      obtain ⟨value', r', rfl, hinside⟩ := List.eq_append_cons_of_mem hu
      refine free _ r' (.intro apart spaces_before spaces_behind quoted hinside) ?_
      simp [AttributeUse.source]
  | @set a t out new names renewed later ih =>
    have hnew : a.quote ∉ new :=
      renewed.notMem (fun hv => hvalue _ hv names.isQuote) names.quote_notMem
    exact .set (names.renew hnew) renewed.again ih

end SetsValues

/-- The name of an attribute in a block type holds no quotes. -/
theorem not_isQuote_of_isBlockType {type name : Text} (htype : isBlockType type = true)
    (hname : bracketed? type = some name) : ∀ c ∈ name, ¬ IsQuote c := by
  rw [isBlockType, hname, Bool.and_eq_true, List.all_eq_true] at htype
  rintro c hc (rfl | rfl)
  · exact absurd (htype.2 _ hc) (by decide)
  · exact absurd (htype.2 _ hc) (by decide)

/-- An attribute that a block type names is only refused for the size of its pattern, and not
within `lengthLimit`. -/
theorem AttributeUse.fault?_of_isBlockType {type name : Text} (htype : isBlockType type = true)
    (hname : bracketed? type = some name) : (fault? name = none ∨ fault? name = some .tooBig) ∧
      (name.length ≤ lengthLimit → fault? name = none) := by
  rw [isBlockType, hname, Bool.and_eq_true, List.all_eq_true, Bool.not_eq_true'] at htype
  obtain ⟨hne, hchars⟩ := htype
  have hfault := fault?_eq hchars (List.isEmpty_eq_false_iff.1 hne)
  constructor
  · rw [hfault]
    split
    · exact Or.inr rfl
    · exact Or.inl rfl
  · intro hlength
    rw [hfault, isTooBig_node hchars hlength]
    rfl

namespace Handler

theorem result_setAttribute {d : Directive} {name : Text} (hname : d.attribute? = some name)
    (hvalue : unquote d.args ≠ []) (ctx : Context) (content : Text) :
    (setAttribute.handle ctx d content).result =
      match AttributeUse.fault? name with
      | some cause => .error (.malformed ctx.location d.opening (.badPattern cause))
      | none => .ok (.edit ((Text.recognise (AttributeUse.at? name) content).flatMap
          (setPiece (unquote d.args)))) := by
  have hempty : (unquote d.args).isEmpty = false := List.isEmpty_eq_false_iff.2 hvalue
  delta setAttribute
  simp only [hname, hempty, Bool.false_eq_true, if_false]
  cases AttributeUse.fault? name <;> rfl

/-- Setting an attribute changes the values of that attribute and nothing else, and setting it again
changes nothing. Only a name whose pattern is too big is refused, and one within `lengthLimit` never
is. -/
theorem setAttribute_local_idempotent {d : Directive} {name : Text}
    (htype : isBlockType d.type = true) (hname : d.attribute? = some name)
    (hvalue : unquote d.args ≠ []) (hplain : ∀ c ∈ unquote d.args, ¬ IsQuote c) (ctx : Context)
    (content : Text) :
    (∀ out, (setAttribute.handle ctx d content).result = .ok (.edit out) →
      SetsValues name (unquote d.args) content out ∧
        ∀ ctx', (setAttribute.handle ctx' d out).result = .ok (.edit out)) ∧
    ((∃ out, (setAttribute.handle ctx d content).result = .ok (.edit out)) ∨
      (setAttribute.handle ctx d content).result =
        .error (.malformed ctx.location d.opening (.badPattern .tooBig))) ∧
    (name.length ≤ AttributeUse.lengthLimit →
      ∃ out, (setAttribute.handle ctx d content).result = .ok (.edit out)) := by
  have hresult := fun ctx content => result_setAttribute hname hvalue ctx content
  obtain ⟨hfault, hshort⟩ := AttributeUse.fault?_of_isBlockType htype hname
  refine ⟨fun out hout => ?_, ?_, fun hlength => ⟨_, by rw [hresult, hshort hlength]⟩⟩
  · cases hfree : AttributeUse.fault? name with
    | some cause =>
      rw [hresult, hfree] at hout
      cases hout
    | none =>
      simp only [hfree] at hresult
      have hsets := SetsValues.of_recognise name (unquote d.args) content
      rw [hresult] at hout
      cases hout
      have hagain := hsets.again (not_isQuote_of_isBlockType htype hname) hplain
      exact ⟨hsets, fun ctx' => by rw [hresult, ← hagain.eq_recognise]⟩
  · rcases hfault with hnone | hbig
    · exact Or.inl ⟨_, by rw [hresult, hnone]⟩
    · exact Or.inr (by rw [hresult, hbig])

/-- Surroundings that say nothing. -/
def bareContext : Context where
  source := none
  baseDir := []
  line := 1
  environment := none
  config := []
  read := fun path => .error (.notFound path)
  transform := .passthrough
  template := .identity
  data := .null

/-- The other quote may stand in a value, and an attribute in the text around. -/
theorem setAttribute_local_idempotent_otherQuote :
    let d : Directive := ⟨"[src]".toList, [], "img/".toList, [], []⟩
    let content := "<img data-src='x' src=\"a/b's.png\" \" src = 'c/' '>".toList
    let out := "<img data-src='x' src=\"img/b's.png\" \" src = 'img/' '>".toList
    (setAttribute.handle bareContext d content).result = .ok (.edit out) ∧
      SetsValues "src".toList "img/".toList content out ∧
      (setAttribute.handle bareContext d out).result = .ok (.edit out) := by
  intro d content out
  have hplain : ∀ c ∈ unquote d.args, ¬ IsQuote c := by
    have hargs : unquote d.args = ['i', 'm', 'g', '/'] := by decide
    rw [hargs]
    simp [IsQuote]
  have hname : d.attribute? = some "src".toList := by decide
  obtain ⟨hedit, -, hshort⟩ := setAttribute_local_idempotent (by decide) hname
    (by decide) hplain bareContext content
  obtain ⟨out', hhandle⟩ := hshort (by decide)
  obtain ⟨hsets, hagain⟩ := hedit out' hhandle
  obtain rfl : out' = out := by
    rw [hsets.eq_recognise]
    decide
  exact ⟨hhandle, hsets, hagain bareContext⟩

end Handler

end PageBlocks
