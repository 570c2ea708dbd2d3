import Mathlib.Data.List.Forall2
import Mathlib.Data.List.Infix
import PageBlocks.Config.Basic
import PageBlocks.Proofs.Body
import PageBlocks.Proofs.Pieces

/-!
# Braced references

A setting may refer to variables between braces, and all else is to stay as it is:

    ${OUT:-dist}/$name.html   taken apart:  ${OUT:-dist}  /  $  n  a  m  e  .  h  t  m  l
                              stands for:   out           /  $  n  a  m  e  .  h  t  m  l

`Braces` takes a setting apart and `FillsBraces` is the rule. A setting without any `${` follows it.
But a single `${` is enough for names without braces to be filled in as well, and for two dollar
signs to become one, so the other settings follow the rule just if no dollar sign outside the braces
stands in front of a name or of a dollar sign (`Config.fills_braces_iff`).
-/

namespace PageBlocks

namespace Text

theorem occursIn_iff {w t : Text} : occursIn w t = true ↔ w <:+: t := by
  induction t with
  | nil => simp [occursIn]
  | cons c t ih =>
    rw [occursIn, Bool.or_eq_true, startsWith_iff, ih, List.infix_cons_iff]
    refine or_congr_left ?_
    exact exists_congr fun r => eq_comm

/-- Nothing of the kind stands in front of the first `:-`. -/
theorem of_cutAtDefault? {t a b : Text} (h : cutAtDefault? t = some (a, b)) :
    t = a ++ ':' :: '-' :: b ∧ ∀ x y, a ≠ x ++ ':' :: '-' :: y := by
  induction t generalizing a with
  | nil => cases h
  | cons c t ih =>
    rw [cutAtDefault?] at h
    cases hstart : after? [':', '-'] (c :: t) with
    | some rest =>
      rw [hstart] at h
      obtain ⟨rfl, rfl⟩ : [] = a ∧ rest = b := by simpa using h
      have hsplit : c :: t = ':' :: '-' :: rest := after?_eq_some_iff.1 hstart
      exact ⟨hsplit, by simp⟩
    | none =>
      rw [hstart] at h
      obtain ⟨⟨x, y⟩, hcut, heq⟩ := Option.map_eq_some_iff.1 h
      obtain ⟨rfl, rfl⟩ : c :: x = a ∧ y = b := by simpa using heq
      obtain ⟨rfl, hfirst⟩ := ih hcut
      refine ⟨rfl, fun u v huv => ?_⟩
      cases u with
      | nil =>
        obtain ⟨rfl, rfl⟩ : c = ':' ∧ x = '-' :: v := by simpa using huv
        have hhere := after?_append_self [':', '-'] (v ++ ':' :: '-' :: y)
        exact absurd (hstart.symm.trans hhere) (by simp)
      | cons d u => exact hfirst u v (List.cons.inj huv).2

theorem cutAtDefault?_append {a : Text} (hfirst : ∀ x y, a ≠ x ++ ':' :: '-' :: y) (b : Text) :
    cutAtDefault? (a ++ ':' :: '-' :: b) = some (a, b) := by
  induction a with
  | nil => simp [cutAtDefault?, after?]
  | cons c a ih =>
    have hlater := ih fun x y hxy => hfirst (c :: x) y (by rw [hxy, List.cons_append])
    have hstart : after? [':', '-'] (c :: (a ++ ':' :: '-' :: b)) = none := by
      rw [Option.eq_none_iff_forall_ne_some]
      intro rest hrest
      have hsplit : c :: (a ++ ':' :: '-' :: b) = ':' :: '-' :: rest := after?_eq_some_iff.1 hrest
      obtain ⟨rfl, htail⟩ := List.cons.inj hsplit
      cases a with
      | nil => simp at htail
      | cons d a =>
        obtain ⟨rfl, -⟩ := List.cons.inj htail
        exact hfirst [] a rfl
    rw [List.cons_append, cutAtDefault?, hstart, hlater]
    rfl

end Text

/-! ### The rule -/

/-- A complete reference between braces, as it is written. A default needs a name in front of it. -/
inductive Reference.Braced : Text → Reference → Prop where
  | named {name : Text} (closed : '\x7d' ∉ name) (bare : ∀ x y, name ≠ x ++ ':' :: '-' :: y) :
      Braced ('$' :: '\x7b' :: (name ++ ['\x7d'])) (.variable name none)
  | defaulted {name text : Text} (closed : '\x7d' ∉ name ++ text) (nonempty : name ≠ [])
      (first : ∀ x y, name ≠ x ++ ':' :: '-' :: y) :
      Braced ('$' :: '\x7b' :: (name ++ ':' :: '-' :: text ++ ['\x7d']))
        (.variable name (some text))
  | nameless {text : Text} (closed : '\x7d' ∉ text) :
      Braced ('$' :: '\x7b' :: (':' :: '-' :: text ++ ['\x7d']))
        (.variable (':' :: '-' :: text) none)

/-- A setting taken apart into its complete braced references and the characters outside them. -/
inductive Braces : Text → List (Text.Piece Reference) → Prop where
  | nil : Braces [] []
  | char {c : Char} {t : Text} {later : List (Text.Piece Reference)}
      (free : ∀ w r u, Reference.Braced w r → c :: t ≠ w ++ u) (rest : Braces t later) :
      Braces (c :: t) (.char c :: later)
  | reference {w t : Text} {r : Reference} {later : List (Text.Piece Reference)}
      (braced : r.Braced w) (rest : Braces t later) : Braces (w ++ t) (.found w r :: later)

/-- What a piece of a setting stands for. -/
inductive Variables.Stands (vars : Variables) : Text.Piece Reference → Text → Prop where
  | char (c : Char) : Stands vars (.char c) [c]
  | set {w name value : Text} {default? : Option Text} (known : vars.lookup name = some value) :
      Stands vars (.found w (.variable name default?)) value
  | unset {w name value : Text} (unknown : vars.lookup name = none) :
      Stands vars (.found w (.variable name (some value))) value

/-- Every braced reference is filled in and all else stays as it is; the one thing that can be in
the way is a variable that is not set and has no default. -/
structure Variables.FillsBraces (vars : Variables) (field : String)
    (ps : List (Text.Piece Reference)) (x : Except ConfigError Text) : Prop where
  filled : ∀ t, x = .ok t → ∃ ts, List.Forall₂ vars.Stands ps ts ∧ t = ts.flatten
  failed : ∀ e, x = .error e →
    ∃ w name, .found w (.variable name none) ∈ ps ∧ vars.lookup name = none ∧ e = .unset field name
  fails : (∃ w name, .found w (.variable name none) ∈ ps ∧ vars.lookup name = none) →
    ∃ e, x = .error e

/-- Some dollar sign outside the braces stands in front of a name or of another dollar sign. -/
def Unbraced : List (Text.Piece Reference) → Prop
  | [] => False
  | p :: later =>
    (p = .char '$' ∧
      ∃ c ∈ (later.flatMap Text.Piece.source).head?, c = '$' ∨ Reference.isNameChar c) ∨
    Unbraced later

/-! ### Taking a setting apart -/

theorem Text.cutAtDefault?_eq_none {t : Text} (h : cutAtDefault? t = none) (x y : Text) :
    t ≠ x ++ ':' :: '-' :: y := by
  induction t generalizing x with
  | nil => simp
  | cons c t ih =>
    rw [cutAtDefault?] at h
    split at h
    · cases h
    · rename_i hstart
      rintro heq
      cases x with
      | nil =>
        have : after? [':', '-'] (c :: t) = some y := after?_eq_some_iff.2 heq
        rw [hstart] at this
        cases this
      | cons d x => exact ih (Option.map_eq_none_iff.1 h) x (List.cons.inj heq).2

namespace Reference

theorem braced_ofBraces {inside : Text} (h : '\x7d' ∉ inside) :
    (ofBraces inside).Braced ('$' :: '\x7b' :: (inside ++ ['\x7d'])) := by
  unfold ofBraces
  cases hcut : Text.cutAtDefault? inside with
  | none => exact .named h (Text.cutAtDefault?_eq_none hcut)
  | some parts =>
    obtain ⟨name, text⟩ := parts
    obtain ⟨rfl, hfirst⟩ := Text.of_cutAtDefault? hcut
    cases name with
    | nil => exact .nameless (by simpa using h)
    | cons c name => exact .defaulted (by simpa using h) (List.cons_ne_nil _ _) hfirst

theorem Braced.exists_inside {w : Text} {r : Reference} (h : r.Braced w) :
    ∃ inside, '\x7d' ∉ inside ∧ w = '$' :: '\x7b' :: (inside ++ ['\x7d']) ∧
      r = ofBraces inside := by
  cases h with
  | @named name closed bare =>
    refine ⟨name, closed, rfl, ?_⟩
    have hnone : Text.cutAtDefault? name = none := by
      rw [Option.eq_none_iff_forall_ne_some]
      rintro ⟨x, y⟩ hcut
      exact bare x y (Text.of_cutAtDefault? hcut).1
    rw [ofBraces, hnone]
  | @defaulted name text closed nonempty first =>
    refine ⟨name ++ ':' :: '-' :: text, by simpa using closed, rfl, ?_⟩
    obtain ⟨c, name, rfl⟩ := List.exists_cons_of_ne_nil nonempty
    rw [ofBraces, Text.cutAtDefault?_append first]
  | @nameless text closed =>
    refine ⟨':' :: '-' :: text, by simpa using closed, rfl, ?_⟩
    have hfirst : ∀ x y, ([] : Text) ≠ x ++ ':' :: '-' :: y := by simp
    have hcut : Text.cutAtDefault? (':' :: '-' :: text) = some ([], text) :=
      Text.cutAtDefault?_append hfirst text
    rw [ofBraces, hcut]

theorem Braced.ne_nil {w : Text} {r : Reference} (h : r.Braced w) : w ≠ [] := by
  obtain ⟨inside, -, rfl, -⟩ := h.exists_inside
  exact List.cons_ne_nil _ _

theorem Braced.exists_variable {w : Text} {r : Reference} (h : r.Braced w) :
    ∃ name default?, r = .variable name default? ∧ name <:+: w := by
  cases h with
  | named => exact ⟨_, _, rfl, ['$', '\x7b'], ['\x7d'], by simp⟩
  | @defaulted name text =>
    exact ⟨_, _, rfl, ['$', '\x7b'], ':' :: '-' :: text ++ ['\x7d'], by simp⟩
  | nameless => exact ⟨_, _, rfl, ['$', '\x7b'], ['\x7d'], by simp⟩

/-- A braced reference is read behind its dollar sign. -/
theorem read?_of_braced {w : Text} {r : Reference} (h : r.Braced w) (t : Text) :
    ∃ u, w = '$' :: '\x7b' :: u ∧ read? ('\x7b' :: (u ++ t)) = some (r, t) := by
  obtain ⟨inside, hclosed, rfl, rfl⟩ := h.exists_inside
  refine ⟨_, rfl, ?_⟩
  have hcut : Text.cutAt? (· == '\x7d') (inside ++ ['\x7d'] ++ t) = some (inside, t) := by
    refine Text.cutAt?_eq_some_iff.2 ⟨'\x7d', by simp, by simp, fun x hx => ?_⟩
    simp only [beq_eq_false_iff_ne]
    rintro rfl
    exact hclosed hx
  rw [read?, hcut]
  rfl

/-- Where no opening brace comes second, there is no braced reference. -/
theorem ne_of_head? {c : Char} {t : Text} (h : t.head? ≠ some '\x7b') (w : Text) (r : Reference)
    (u : Text) (hr : r.Braced w) : c :: t ≠ w ++ u := by
  intro heq
  obtain ⟨v, rfl, -⟩ := read?_of_braced hr u
  exact h (by rw [(List.cons.inj heq).2]; rfl)

/-- What is read behind a dollar sign and an opening brace is a braced reference. -/
theorem braced_of_read? {t rest : Text} {r : Reference}
    (h : read? ('\x7b' :: t) = some (r, rest)) :
    ∃ w, r.Braced w ∧ '$' :: '\x7b' :: t = w ++ rest := by
  rw [read?] at h
  obtain ⟨⟨inside, rest'⟩, hcut, heq⟩ := Option.map_eq_some_iff.1 h
  obtain ⟨rfl, rfl⟩ : ofBraces inside = r ∧ rest' = rest := by simpa using heq
  obtain ⟨c, rfl, hc, hinside⟩ := Text.cutAt?_eq_some_iff.1 hcut
  obtain rfl : c = '\x7d' := by simpa using hc
  refine ⟨_, braced_ofBraces fun hmem => ?_, by simp⟩
  simpa using hinside _ hmem

end Reference

/-- Every setting can be taken apart. -/
theorem exists_braces (t : Text) : ∃ ps, Braces t ps := by
  induction hn : t.length using Nat.strongRecOn generalizing t with
  | ind n ih =>
    cases t with
    | nil => exact ⟨[], .nil⟩
    | cons c t =>
      by_cases hstart : ∃ w r u, Reference.Braced w r ∧ c :: t = w ++ u
      · obtain ⟨w, r, u, hbraced, heq⟩ := hstart
        have hpos := List.length_pos_iff.2 hbraced.ne_nil
        have hlength : n = w.length + u.length := by rw [← hn, heq, List.length_append]
        obtain ⟨ps, hps⟩ := ih u.length (by omega) u rfl
        rw [heq]
        exact ⟨_, .reference hbraced hps⟩
      · obtain ⟨ps, hps⟩ := ih t.length (by simp [← hn]) t rfl
        exact ⟨_, .char (fun w r u hbraced heq => hstart ⟨w, r, u, hbraced, heq⟩) hps⟩

theorem Braces.source_eq {t : Text} {ps : List (Text.Piece Reference)} (h : Braces t ps) :
    ps.flatMap Text.Piece.source = t := by
  induction h with
  | nil => rfl
  | char free rest ih => rw [List.flatMap_cons, ih]; rfl
  | reference braced rest ih => rw [List.flatMap_cons, ih]; rfl

theorem Braces.cons_cases {c : Char} {t : Text} {ps : List (Text.Piece Reference)}
    (h : Braces (c :: t) ps) :
    (∃ later, ps = .char c :: later ∧ Braces t later) ∨
    ∃ w r u later, Reference.Braced w r ∧ c :: t = w ++ u ∧ ps = .found w r :: later ∧
      Braces u later := by
  generalize ht : c :: t = s at h
  cases h with
  | nil => cases ht
  | char free rest =>
    cases ht
    exact .inl ⟨_, rfl, rest⟩
  | reference braced rest => exact .inr ⟨_, _, _, _, braced, rfl, rfl, rest⟩

/-- There is only one way to take a setting apart. -/
theorem Braces.unique {t : Text} {ps qs : List (Text.Piece Reference)} (hps : Braces t ps)
    (hqs : Braces t qs) : ps = qs := by
  induction hps generalizing qs with
  | nil =>
    generalize ht : ([] : Text) = s at hqs
    cases hqs with
    | nil => rfl
    | char free rest => cases ht
    | reference braced rest => exact absurd (List.append_eq_nil_iff.1 ht.symm).1 braced.ne_nil
  | @char c t later free rest ih =>
    generalize ht : c :: t = s at hqs
    cases hqs with
    | nil => cases ht
    | char free' rest' =>
      obtain ⟨rfl, rfl⟩ := List.cons.inj ht
      rw [ih rest']
    | reference braced rest' => exact absurd ht (free _ _ _ braced)
  | @reference w t r later braced rest ih =>
    generalize ht : w ++ t = s at hqs
    cases hqs with
    | nil => exact absurd (List.append_eq_nil_iff.1 ht).1 braced.ne_nil
    | char free' rest' => exact absurd ht.symm (free' _ _ _ braced)
    | @reference w' t' r' later' braced' rest' =>
      obtain ⟨u, rfl, hread⟩ := Reference.read?_of_braced braced t
      obtain ⟨u', rfl, hread'⟩ := Reference.read?_of_braced braced' t'
      have htail : u ++ t = u' ++ t' := by simpa using ht
      rw [htail, hread'] at hread
      obtain ⟨rfl, rfl⟩ : r' = r ∧ t' = t := by simpa using hread
      rw [List.append_cancel_right htail, ih rest']

/-- The name of a reference stands in the setting. -/
theorem Braces.infix_of_mem {t w name : Text} {default? : Option Text}
    {ps : List (Text.Piece Reference)} (h : Braces t ps)
    (hmem : .found w (.variable name default?) ∈ ps) : name <:+: t := by
  induction h with
  | nil => cases hmem
  | @char c t later free rest ih =>
    rcases List.mem_cons.1 hmem with hchar | hmem
    · cases hchar
    · exact (ih hmem).trans (List.suffix_cons c t).isInfix
  | @reference w' t r later braced rest ih =>
    rcases List.mem_cons.1 hmem with hfound | hmem
    · obtain ⟨rfl, rfl⟩ := Text.Piece.found.inj hfound
      obtain ⟨name', default', hr, hname⟩ := braced.exists_variable
      cases hr
      exact hname.trans (List.prefix_append _ t).isInfix
    · exact (ih hmem).trans (List.suffix_append w' t).isInfix

/-! ### Filling in piece by piece -/

namespace Variables

variable {vars : Variables} {t : Text} {ps : List (Text.Piece Reference)}

/-- What a piece is filled in with, or the name that is not set. -/
def pieceValue (vars : Variables) : Text.Piece Reference → Except Text Text
  | .char c => .ok [c]
  | .found _ r => r.value vars

/-- A setting filled in piece by piece. -/
def fillPieces (vars : Variables) : List (Text.Piece Reference) → Except Text Text
  | [] => .ok []
  | p :: later => do return (← vars.pieceValue p) ++ (← fillPieces vars later)

theorem stands_of_value {w name value : Text} {default? : Option Text}
    (h : (Reference.variable name default?).value vars = .ok value) :
    vars.Stands (.found w (.variable name default?)) value := by
  rw [Reference.value] at h
  split at h
  · rename_i v hknown
    cases h
    exact .set hknown
  · rename_i hunknown
    cases default? with
    | none => cases h
    | some text =>
      cases h
      exact .unset hunknown

theorem missing_of_value {name missing : Text} {default? : Option Text}
    (h : (Reference.variable name default?).value vars = .error missing) :
    default? = none ∧ missing = name ∧ vars.lookup name = none := by
  rw [Reference.value] at h
  split at h
  · cases h
  · rename_i hunknown
    cases default? with
    | none =>
      cases h
      exact ⟨rfl, rfl, hunknown⟩
    | some text => cases h

theorem forall₂_of_fillPieces (h : Braces t ps) {out : Text} (hout : vars.fillPieces ps = .ok out) :
    ∃ ts, List.Forall₂ vars.Stands ps ts ∧ out = ts.flatten := by
  induction h generalizing out with
  | nil =>
    cases hout
    exact ⟨[], .nil, rfl⟩
  | @char c t later free rest ih =>
    obtain ⟨v, hv, hout⟩ := ok_bind_iff.1 hout
    obtain ⟨u, hu, hout⟩ := ok_bind_iff.1 hout
    cases hv
    cases hout
    obtain ⟨ts, hts, rfl⟩ := ih hu
    exact ⟨[c] :: ts, .cons (.char c) hts, rfl⟩
  | @reference w t r later braced rest ih =>
    obtain ⟨v, hv, hout⟩ := ok_bind_iff.1 hout
    obtain ⟨u, hu, hout⟩ := ok_bind_iff.1 hout
    cases hout
    obtain ⟨ts, hts, rfl⟩ := ih hu
    obtain ⟨name, default?, rfl, -⟩ := braced.exists_variable
    exact ⟨v :: ts, .cons (stands_of_value hv) hts, rfl⟩

theorem missing_of_fillPieces (h : Braces t ps) {name : Text}
    (herror : vars.fillPieces ps = .error name) :
    ∃ w, .found w (.variable name none) ∈ ps ∧ vars.lookup name = none := by
  induction h with
  | nil => cases herror
  | char free rest ih =>
    rcases error_bind_iff.1 herror with hv | ⟨v, -, hlater⟩
    · cases hv
    rcases error_bind_iff.1 hlater with hu | ⟨u, -, hlater⟩
    · obtain ⟨w, hmem, hunknown⟩ := ih hu
      exact ⟨w, List.mem_cons_of_mem _ hmem, hunknown⟩
    · cases hlater
  | @reference w t r later braced rest ih =>
    rcases error_bind_iff.1 herror with hv | ⟨v, -, hlater⟩
    · obtain ⟨name', default?, rfl, -⟩ := braced.exists_variable
      obtain ⟨rfl, rfl, hunknown⟩ := missing_of_value hv
      exact ⟨w, List.mem_cons_self, hunknown⟩
    rcases error_bind_iff.1 hlater with hu | ⟨u, -, hlater⟩
    · obtain ⟨w, hmem, hunknown⟩ := ih hu
      exact ⟨w, List.mem_cons_of_mem _ hmem, hunknown⟩
    · cases hlater

theorem fillPieces_ne_ok {w name : Text} (hmem : .found w (.variable name none) ∈ ps)
    (hunknown : vars.lookup name = none) (out : Text) : vars.fillPieces ps ≠ .ok out := by
  intro hout
  induction ps generalizing out with
  | nil => cases hmem
  | cons p later ih =>
    obtain ⟨v, hv, hout⟩ := ok_bind_iff.1 hout
    obtain ⟨u, hu, -⟩ := ok_bind_iff.1 hout
    rcases List.mem_cons.1 hmem with rfl | hmem
    · rw [pieceValue, Reference.value, hunknown] at hv
      cases hv
    · exact ih hmem u hu

/-- Filling in piece by piece follows the rule. -/
theorem fillsBraces_fillPieces (h : Braces t ps) (field : String) :
    vars.FillsBraces field ps (Config.inField field (vars.fillPieces ps)) := by
  cases hfill : vars.fillPieces ps with
  | ok out =>
    refine ⟨?_, ?_, ?_⟩
    · intro t ht
      cases ht
      exact forall₂_of_fillPieces h hfill
    · intro e he
      cases he
    · rintro ⟨w, name, hmem, hunknown⟩
      exact absurd hfill (fillPieces_ne_ok hmem hunknown out)
  | error name =>
    refine ⟨?_, ?_, ?_⟩
    · intro t ht
      cases ht
    · intro e he
      cases he
      obtain ⟨w, hmem, hunknown⟩ := missing_of_fillPieces h hfill
      exact ⟨w, name, hmem, hunknown, rfl⟩
    · intro _
      exact ⟨_, rfl⟩

/-! ### What a setting comes to -/

theorem fill_cons_of_ne {c : Char} (h : c ≠ '$') (t : Text) :
    vars.fill (c :: t) = do return c :: (← vars.fill t) := by
  rw [fill, if_neg h]

theorem fill_of_read?_eq_none (h : Reference.read? t = none) :
    vars.fill ('$' :: t) = do return '$' :: (← vars.fill t) := by
  rw [fill, if_pos rfl]
  split
  · rename_i r rest hread
    rw [h] at hread
    cases hread
  · rfl

theorem fill_of_read? {r : Reference} {rest : Text} (h : Reference.read? t = some (r, rest)) :
    vars.fill ('$' :: t) = do return (← r.value vars) ++ (← vars.fill rest) := by
  rw [fill, if_pos rfl]
  split
  · rename_i r' rest' hread
    rw [h] at hread
    cases hread
    rfl
  · rename_i hread
    rw [h] at hread
    cases hread

theorem fillPieces_char (c : Char) (ps : List (Text.Piece Reference)) :
    vars.fillPieces (.char c :: ps) = do return c :: (← vars.fillPieces ps) := rfl

theorem fill_append_of_braced {w : Text} {r : Reference} (h : r.Braced w) (t : Text) :
    vars.fill (w ++ t) = do return (← r.value vars) ++ (← vars.fill t) := by
  obtain ⟨u, rfl, hread⟩ := Reference.read?_of_braced h t
  exact fill_of_read? hread

/-- Nothing is read behind a dollar sign outside the braces, unless a name or another dollar sign
follows. -/
theorem read?_eq_none {t : Text} (free : ∀ w r u, Reference.Braced w r → '$' :: t ≠ w ++ u)
    (h : ∀ c ∈ t.head?, ¬ (c = '$' ∨ Reference.isNameChar c)) : Reference.read? t = none := by
  rw [Option.eq_none_iff_forall_ne_some]
  rintro ⟨r, rest⟩ hread
  cases t with
  | nil => cases hread
  | cons c t =>
    obtain ⟨hdollar, hname⟩ := not_or.1 (h c rfl)
    by_cases hbrace : c = '\x7b'
    · subst hbrace
      obtain ⟨w, hbraced, heq⟩ := Reference.braced_of_read? hread
      exact free w r rest hbraced heq
    · rw [Reference.read?] at hread
      · rw [if_neg hname] at hread
        cases hread
      · exact hdollar
      · exact hbrace

theorem read?_ne_none {c : Char} (h : c = '$' ∨ Reference.isNameChar c) (t : Text) :
    Reference.read? (c :: t) ≠ none := by
  unfold Reference.read?
  split
  · simp
  · rename_i hcons
    obtain rfl := (List.cons.inj hcons).1
    exact absurd h (by decide)
  · rename_i d u hdollar hbrace hcons
    obtain ⟨rfl, rfl⟩ := List.cons.inj hcons
    have hname : Reference.isNameChar c = true := h.resolve_left hdollar
    simp [hname]
  · rename_i hcons
    cases hcons

/-- Without a dollar sign that makes a difference, a setting is filled in piece by piece. -/
theorem fill_eq_fillPieces (h : Braces t ps) (hall : ¬ Unbraced ps) :
    vars.fill t = vars.fillPieces ps := by
  induction h with
  | nil => rw [fill]; rfl
  | @char c t later free rest ih =>
    obtain ⟨hhere, hlater⟩ := not_or.1 hall
    rw [fillPieces_char, ← ih hlater]
    by_cases hc : c = '$'
    · subst hc
      rw [rest.source_eq] at hhere
      refine fill_of_read?_eq_none (read?_eq_none free fun d hd hnext => hhere ⟨rfl, d, hd, hnext⟩)
    · exact fill_cons_of_ne hc t
  | reference braced rest ih =>
    rw [fill_append_of_braced braced, ih (not_or.1 hall).2]
    rfl

/-- Without an opening brace behind a dollar sign a setting stays as it is. -/
theorem fillPieces_of_not_infix (h : Braces t ps) (hnone : ¬ ['$', '\x7b'] <:+: t) :
    vars.fillPieces ps = .ok t := by
  induction h with
  | nil => rfl
  | char free rest ih =>
    rw [fillPieces_char, ih fun hlater => hnone (hlater.trans (List.suffix_cons _ _).isInfix)]
    rfl
  | @reference w t r later braced rest ih =>
    obtain ⟨inside, -, rfl, -⟩ := braced.exists_inside
    exact absurd ⟨[], inside ++ ['\x7d'] ++ t, by simp⟩ hnone

/-! ### Where the rule is broken -/

/-- Every name that the text could refer to is set to `x`. -/
def AllSet (vars : Variables) (t : Text) : Prop :=
  ∀ name, name <:+: t → vars.lookup name = some ['x']

/-- The pieces with `x` in place of every reference. -/
def marked (ps : List (Text.Piece Reference)) : Text :=
  ps.flatMap fun
    | .char c => [c]
    | .found _ _ => ['x']

theorem exists_allSet (t : Text) : ∃ vars, AllSet vars t := by
  refine ⟨(t.tails.flatMap List.inits).map fun name => (name, ['x']), ?_⟩
  rintro name ⟨front, back, rfl⟩
  refine List.lookup_graph (fun _ => ['x']) (List.mem_flatMap.2 ⟨name ++ back, ?_, ?_⟩)
  · exact (List.mem_tails _ _).2 ⟨front, by simp⟩
  · exact (List.mem_inits _ _).2 ⟨back, rfl⟩

theorem AllSet.of_suffix {s : Text} (h : AllSet vars t) (hs : s <:+ t) : AllSet vars s :=
  fun name hname => h name (hname.trans hs.isInfix)

theorem AllSet.value_of_braced {w : Text} {r : Reference} (h : AllSet vars (w ++ t))
    (hr : r.Braced w) : r.value vars = .ok ['x'] := by
  obtain ⟨name, default?, rfl, hname⟩ := hr.exists_variable
  rw [Reference.value, h name (hname.trans (List.prefix_append _ _).isInfix)]

/-- With all names set, the rule asks for `x` in place of every reference. -/
theorem AllSet.flatten_eq_marked (h : AllSet vars t) (hps : Braces t ps) {ts : List Text}
    (hts : List.Forall₂ vars.Stands ps ts) : ts.flatten = marked ps := by
  induction hps generalizing ts with
  | nil =>
    cases hts
    rfl
  | char free rest ih =>
    cases hts with
    | cons hc hts =>
      cases hc
      rw [List.flatten_cons, ih (h.of_suffix (List.suffix_cons _ _)) hts]
      rfl
  | @reference w t r later braced rest ih =>
    obtain ⟨name, default?, rfl, hname⟩ := braced.exists_variable
    have hknown := h name (hname.trans (List.prefix_append _ _).isInfix)
    cases hts with
    | cons hr hts =>
      rw [List.flatten_cons, ih (h.of_suffix (List.suffix_append _ _)) hts]
      cases hr with
      | set known =>
        rw [hknown] at known
        cases known
        rfl
      | unset unknown =>
        rw [hknown] at unknown
        cases unknown

theorem eq_of_bind_cons {c d : Char} {x : Except Text Text} {out : Text}
    (h : (do return c :: (← x) : Except Text Text) = .ok (d :: out)) : c = d ∧ x = .ok out := by
  obtain ⟨u, hu, h⟩ := ok_bind_iff.1 h
  cases h
  exact ⟨rfl, hu⟩

/-- With all names set, a dollar sign is kept, or it swallows another one, or it is read. -/
theorem fill_dollar_cases (h : AllSet vars ('$' :: t)) :
    (Reference.read? t = none ∧ vars.fill ('$' :: t) = do return '$' :: (← vars.fill t)) ∨
    (∃ u, t = '$' :: u ∧ vars.fill ('$' :: t) = do return '$' :: (← vars.fill u)) ∨
    (∃ u, vars.fill ('$' :: t) = do return 'x' :: (← vars.fill u)) := by
  cases hread : Reference.read? t with
  | none => exact .inl ⟨rfl, fill_of_read?_eq_none hread⟩
  | some found =>
    obtain ⟨r, rest⟩ := found
    have hfill : vars.fill ('$' :: t) = _ := fill_of_read? hread
    unfold Reference.read? at hread
    split at hread
    · rename_i u
      cases hread
      exact .inr (.inl ⟨_, rfl, hfill⟩)
    · obtain ⟨w, hbraced, heq⟩ := Reference.braced_of_read? hread
      rw [heq] at h
      rw [h.value_of_braced hbraced] at hfill
      exact .inr (.inr ⟨rest, hfill⟩)
    · rename_i c u _ _
      split at hread
      · cases hread
        have hname : c :: u.takeWhile Reference.isNameChar <:+: '$' :: c :: u :=
          ⟨['$'], u.dropWhile Reference.isNameChar, by simp⟩
        rw [Reference.value, h _ hname] at hfill
        exact .inr (.inr ⟨_, hfill⟩)
      · cases hread
    · cases hread

theorem fill_braced_ne {w : Text} {r : Reference} (hr : r.Braced w) {u : Text}
    (heq : '$' :: u = w ++ t) {d : Char} (hd : d ≠ '\x7b') (out : Text) :
    vars.fill u ≠ .ok (d :: out) := by
  obtain ⟨inside, -, rfl, -⟩ := hr.exists_inside
  obtain rfl : u = '\x7b' :: (inside ++ ['\x7d'] ++ t) := (List.cons.inj heq).2
  rw [fill_cons_of_ne (by decide)]
  intro h
  exact hd (eq_of_bind_cons h).1.symm

/-- A setting is never filled in with more dollar signs in front than the rule asks for. -/
theorem fill_ne_ok_append_marked (h : Braces t ps) (hset : AllSet vars t) (k : Nat) :
    vars.fill t ≠ .ok (List.replicate (k + 1) '$' ++ marked ps) := by
  induction hn : t.length using Nat.strongRecOn generalizing t ps k with
  | ind n ih =>
    intro heq
    rw [List.replicate_succ, List.cons_append] at heq
    cases t with
    | nil =>
      rw [fill] at heq
      cases heq
    | cons c t =>
      rcases h.cons_cases with ⟨later, rfl, hlater⟩ | ⟨w, r, u, later, hr, hw, rfl, hlater⟩
      · by_cases hc : c = '$'
        · subst hc
          -- the dollar sign at the front of what is left goes with the others
          have hmarked : List.replicate k '$' ++ marked (.char '$' :: later) =
              List.replicate (k + 1) '$' ++ marked later := by
            rw [List.replicate_succ', List.append_assoc]
            rfl
          rw [hmarked] at heq
          have hsuffix := hset.of_suffix (List.suffix_cons '$' t)
          rcases fill_dollar_cases hset with ⟨-, hfill⟩ | ⟨u, rfl, hfill⟩ | ⟨u, hfill⟩
          · rw [hfill] at heq
            exact ih _ (by simp [← hn]) hlater hsuffix k rfl (eq_of_bind_cons heq).2
          · rw [hfill] at heq
            have hrest := (eq_of_bind_cons heq).2
            rcases hlater.cons_cases with ⟨later, rfl, hbehind⟩ | ⟨w, r, v, later, hr, hw, rfl, -⟩
            · have hmarked : List.replicate (k + 1) '$' ++ marked (.char '$' :: later) =
                  List.replicate (k + 1 + 1) '$' ++ marked later := by
                rw [List.replicate_succ' (n := k + 1), List.append_assoc]
                rfl
              rw [hmarked] at hrest
              have hsuffix := hsuffix.of_suffix (List.suffix_cons '$' u)
              exact ih _ (by rw [← hn, List.length_cons, List.length_cons]; omega) hbehind hsuffix
                (k + 1) rfl hrest
            · exact fill_braced_ne hr hw (by decide) _ hrest
          · rw [hfill] at heq
            exact absurd (eq_of_bind_cons heq).1 (by decide)
        · rw [fill_cons_of_ne hc] at heq
          exact hc (eq_of_bind_cons heq).1
      · rw [hw] at heq hset
        rw [fill_append_of_braced hr, hset.value_of_braced hr] at heq
        exact absurd (eq_of_bind_cons heq).1 (by decide)

/-- A dollar sign that makes a difference is filled in against the rule. -/
theorem fill_ne_ok_marked (h : Braces t ps) (hset : AllSet vars t) (hunbraced : Unbraced ps) :
    vars.fill t ≠ .ok (marked ps) := by
  induction h with
  | nil => exact hunbraced.elim
  | @char c t later free rest ih =>
    intro heq
    have hsuffix := hset.of_suffix (List.suffix_cons c t)
    by_cases hc : c = '$'
    · subst hc
      rcases fill_dollar_cases hset with ⟨hread, hfill⟩ | ⟨u, rfl, hfill⟩ | ⟨u, hfill⟩
      · rw [hfill] at heq
        rcases hunbraced with ⟨-, d, hd, hnext⟩ | hlater
        · rw [rest.source_eq] at hd
          obtain ⟨u, rfl⟩ := List.head?_eq_some_iff.1 hd
          exact read?_ne_none hnext u hread
        · exact ih hsuffix hlater (eq_of_bind_cons heq).2
      · rw [hfill] at heq
        have hrest := (eq_of_bind_cons heq).2
        rcases rest.cons_cases with ⟨later, rfl, hlater⟩ | ⟨w, r, v, later, hr, hw, rfl, -⟩
        · exact fill_ne_ok_append_marked hlater (hsuffix.of_suffix (List.suffix_cons '$' u)) 0 hrest
        · exact fill_braced_ne hr hw (by decide) _ hrest
      · rw [hfill] at heq
        exact absurd (eq_of_bind_cons heq).1 (by decide)
    · rw [fill_cons_of_ne hc] at heq
      rcases hunbraced with ⟨hdollar, -⟩ | hlater
      · exact hc (Text.Piece.char.inj hdollar)
      · exact ih hsuffix hlater (eq_of_bind_cons heq).2
  | @reference w t r later braced rest ih =>
    intro heq
    rw [fill_append_of_braced braced, hset.value_of_braced braced] at heq
    rcases hunbraced with ⟨hdollar, -⟩ | hlater
    · cases hdollar
    · exact ih (hset.of_suffix (List.suffix_append w t)) hlater (eq_of_bind_cons heq).2

end Variables

namespace Config

/-- A setting follows the rule, whatever the variables are, just if it holds no `${` at all or no
dollar sign that makes a difference. -/
theorem fills_braces_iff (t : Text) :
    (∃ ps, Braces t ps) ∧ ∀ ps, Braces t ps →
      ((∀ (vars : Variables) (field : String),
          vars.FillsBraces field ps (inField field (vars.expand t))) ↔
        ¬ ['$', '\x7b'] <:+: t ∨ ¬ Unbraced ps) := by
  refine ⟨exists_braces t, fun ps hps => ⟨fun hrule => ?_, ?_⟩⟩
  · by_contra hboth
    obtain ⟨hoccurs, hunbraced⟩ := not_or.1 hboth
    obtain ⟨vars, hset⟩ := Variables.exists_allSet t
    have hrule := hrule vars ""
    rw [Variables.expand, if_pos (Text.occursIn_iff.2 (not_not.1 hoccurs))] at hrule
    cases hfill : vars.fill t with
    | ok out =>
      rw [hfill] at hrule
      obtain ⟨ts, hts, rfl⟩ := hrule.filled out rfl
      rw [hset.flatten_eq_marked hps hts] at hfill
      exact Variables.fill_ne_ok_marked hps hset (not_not.1 hunbraced) hfill
    | error name =>
      rw [hfill] at hrule
      obtain ⟨w, name, hmem, hunknown, -⟩ := hrule.failed _ rfl
      rw [hset name (hps.infix_of_mem hmem)] at hunknown
      cases hunknown
  · intro h vars field
    have hexpand : vars.expand t = vars.fillPieces ps := by
      rw [Variables.expand]
      split_ifs with hoccurs
      · have hsafe := h.resolve_left (not_not.2 (Text.occursIn_iff.1 hoccurs))
        exact Variables.fill_eq_fillPieces hps hsafe
      · exact (Variables.fillPieces_of_not_infix hps (mt Text.occursIn_iff.2 hoccurs)).symm
    rw [hexpand]
    exact Variables.fillsBraces_fillPieces hps field

/-- The setting `${A:-b}/$`. -/
def withDefault : Text := ['$', '\x7b', 'A', ':', '-', 'b', '\x7d', '/', '$']

/-- A dollar sign at the end makes no difference. -/
theorem fills_braces_iff_withDefault :
    ∃ ps, Braces withDefault ps ∧ ¬ Unbraced ps ∧
      ∀ (vars : Variables) (field : String),
        vars.FillsBraces field ps (inField field (vars.expand withDefault)) := by
  have hbraced : Reference.Braced ('$' :: '\x7b' :: (['A'] ++ ':' :: '-' :: ['b'] ++ ['\x7d']))
      (.variable ['A'] (some ['b'])) :=
    .defaulted (by decide) (by decide) (by simp [List.cons_eq_append_iff])
  have hbraces : Braces withDefault
      [.found ['$', '\x7b', 'A', ':', '-', 'b', '\x7d'] (.variable ['A'] (some ['b'])),
        .char '/', .char '$'] :=
    .reference hbraced (.char (Reference.ne_of_head? (by decide))
      (.char (Reference.ne_of_head? (by decide)) .nil))
  have hsafe : ¬ Unbraced [.found ['$', '\x7b', 'A', ':', '-', 'b', '\x7d']
      (.variable ['A'] (some ['b'])), .char '/', .char '$'] := by
    simp [Unbraced]
  exact ⟨_, hbraces, hsafe, ((fills_braces_iff withDefault).2 _ hbraces).2 (.inr hsafe)⟩

/-- The variables `A` and `B`. -/
def twoVariables : Variables := [(['A'], ['x']), (['B'], ['y'])]

/-- The setting `${A}/$B`. -/
def nameBeside : Text := ['$', '\x7b', 'A', '\x7d', '/', '$', 'B']

theorem braces_nameBeside : Braces nameBeside
    [.found ['$', '\x7b', 'A', '\x7d'] (.variable ['A'] none), .char '/', .char '$',
      .char 'B'] := by
  have hbraced : Reference.Braced ('$' :: '\x7b' :: (['A'] ++ ['\x7d'])) (.variable ['A'] none) :=
    .named (by decide) (by simp [List.cons_eq_append_iff])
  exact .reference hbraced (.char (Reference.ne_of_head? (by decide))
    (.char (Reference.ne_of_head? (by decide)) (.char (Reference.ne_of_head? (by decide)) .nil)))

/-- A name without braces is filled in when there are braces elsewhere in the setting. -/
theorem not_fills_braces_nameBeside :
    inField "options.environment" (twoVariables.expand nameBeside) = .ok ['x', '/', 'y'] ∧
      ∀ ps, Braces nameBeside ps →
        ¬ twoVariables.FillsBraces "options.environment" ps
          (inField "options.environment" (twoVariables.expand nameBeside)) := by
  have hvalue : inField "options.environment" (twoVariables.expand nameBeside) =
      .ok ['x', '/', 'y'] := by decide +kernel
  refine ⟨hvalue, fun ps hps hrule => ?_⟩
  obtain ⟨ts, hts, hflat⟩ := hrule.filled _ hvalue
  rw [hps.unique braces_nameBeside] at hts
  -- the rule asks for the dollar sign and the letter behind the slash
  have hmem : ['$'] ∈ ts := by
    obtain ⟨t, ts, -, hslash, rfl⟩ := List.forall₂_cons_left_iff.1 hts
    obtain ⟨u, ts, -, hdollar, rfl⟩ := List.forall₂_cons_left_iff.1 hslash
    obtain ⟨v, ts, hv, -, rfl⟩ := List.forall₂_cons_left_iff.1 hdollar
    cases hv
    simp
  have hdollar : '$' ∈ ts.flatten := List.mem_flatten.2 ⟨_, hmem, List.mem_singleton_self _⟩
  rw [← hflat] at hdollar
  revert hdollar
  decide

end Config

end PageBlocks
