import PageBlocks.Directive.Reader
import PageBlocks.Text.Line

/-!
# Finding directive comments

Only comments that carry the marker right behind `<!--` count, so other comments, conditional
ones included, are plain text. An opening directive ends at the first `-->` of its line; a closing
one holds nothing but `end` or `/`, the marker, and blanks.
-/

namespace PageBlocks

/-- The text up to the first `-->`, and what follows that arrow. Neither a carriage return nor a
line feed may come first. -/
def Text.toArrow? : Text → Option (Text × Text)
  | [] => none
  | c :: t =>
    match Text.after? ['-', '-', '>'] (c :: t) with
    | some rest => some ([], rest)
    | none =>
      if c == '\r' || c == '\n' then none
      else (toArrow? t).map fun (body, rest) => (c :: body, rest)

theorem Text.eq_of_toArrow? {t body rest : Text} (h : toArrow? t = some (body, rest)) :
    t = body ++ ['-', '-', '>'] ++ rest := by
  induction t generalizing body with
  | nil => simp [toArrow?] at h
  | cons c t ih =>
    rw [toArrow?] at h
    split at h
    · rename_i r hr
      obtain ⟨rfl, rfl⟩ : [] = body ∧ r = rest := by simpa using h
      simpa using after?_eq_some_iff.1 hr
    · split at h
      · simp at h
      · obtain ⟨⟨b, r⟩, hb, hr⟩ := Option.map_eq_some_iff.1 h
        obtain ⟨rfl, rfl⟩ : c :: b = body ∧ r = rest := by simpa using hr
        simpa using ih hb

namespace Marker

/-- A closing keyword in front of `t`, and what follows it. -/
def afterClosing? (m : Marker) (t : Text) : Option (Text × Text) :=
  let ends := 'e' :: 'n' :: 'd' :: m.word
  let slash := '/' :: m.word
  match Text.after? ends t with
  | some rest => some (ends, rest)
  | none => (Text.after? slash t).map fun rest => (slash, rest)

/-- The rest of a closing comment, behind `<!--` and blanks. -/
def closingTail? (m : Marker) (t : Text) : Option (Text × Text) :=
  match m.afterClosing? t with
  | none => none
  | some (keyword, r) =>
    let blanks := Text.leadingBlanks r
    (Text.after? ['-', '-', '>'] (r.dropWhile Text.isBlank)).map fun rest =>
      (keyword ++ blanks ++ ['-', '-', '>'], rest)

theorem eq_of_closingTail? {m : Marker} {t tail rest : Text}
    (h : m.closingTail? t = some (tail, rest)) : t = tail ++ rest := by
  unfold closingTail? at h
  split at h
  · simp at h
  · rename_i keyword r hk
    obtain ⟨a, ha, hr⟩ := Option.map_eq_some_iff.1 h
    obtain ⟨rfl, rfl⟩ : keyword ++ Text.leadingBlanks r ++ ['-', '-', '>'] = tail ∧ a = rest := by
      simpa using hr
    have hkey : t = keyword ++ r := by
      unfold afterClosing? at hk
      simp only at hk
      split at hk
      · rename_i r' hr'
        obtain ⟨rfl, rfl⟩ : 'e' :: 'n' :: 'd' :: m.word = keyword ∧ r' = r := by simpa using hk
        exact Text.after?_eq_some_iff.1 hr'
      · obtain ⟨b, hb, hb'⟩ := Option.map_eq_some_iff.1 hk
        obtain ⟨rfl, rfl⟩ : '/' :: m.word = keyword ∧ b = r := by simpa using hb'
        exact Text.after?_eq_some_iff.1 hb
    have hrest : r.dropWhile Text.isBlank = ['-', '-', '>'] ++ a := Text.after?_eq_some_iff.1 ha
    have hr : r = Text.leadingBlanks r ++ (['-', '-', '>'] ++ a) := by
      rw [← hrest]; exact List.takeWhile_append_dropWhile.symm
    rw [hkey, List.append_assoc, List.append_assoc, ← hr]

/-- The rest of an opening comment, behind `<!--` and blanks. -/
def openingTail? (m : Marker) (t : Text) : Option (Text × Text) :=
  match Text.after? (m.word ++ [':']) t with
  | none => none
  | some r =>
    (Text.toArrow? r).map fun (body, rest) =>
      (m.word ++ [':'] ++ body ++ ['-', '-', '>'], rest)

theorem eq_of_openingTail? {m : Marker} {t tail rest : Text}
    (h : m.openingTail? t = some (tail, rest)) : t = tail ++ rest := by
  unfold openingTail? at h
  split at h
  · simp at h
  · rename_i r hr
    obtain ⟨⟨body, a⟩, hb, ha⟩ := Option.map_eq_some_iff.1 h
    obtain ⟨rfl, rfl⟩ : m.word ++ [':'] ++ body ++ ['-', '-', '>'] = tail ∧ a = rest := by
      simpa using ha
    rw [Text.after?_eq_some_iff.1 hr, Text.eq_of_toArrow? hb]
    simp

/-- The directive comment that `t` starts with, and what follows it. -/
def commentAt? (m : Marker) (t : Text) : Option (Text × Text) :=
  match Text.after? ['<', '!', '-', '-'] t with
  | none => none
  | some r =>
    let blanks := Text.leadingBlanks r
    let inside := r.dropWhile Text.isBlank
    ((m.closingTail? inside).or (m.openingTail? inside)).map fun (tail, rest) =>
      (['<', '!', '-', '-'] ++ blanks ++ tail, rest)

theorem eq_of_commentAt? {m : Marker} {t comment rest : Text}
    (h : m.commentAt? t = some (comment, rest)) : t = comment ++ rest ∧ comment ≠ [] := by
  unfold commentAt? at h
  split at h
  · simp at h
  · rename_i r hr
    obtain ⟨⟨tail, a⟩, ht, ha⟩ := Option.map_eq_some_iff.1 h
    obtain ⟨rfl, rfl⟩ :
        ['<', '!', '-', '-'] ++ Text.leadingBlanks r ++ tail = comment ∧ a = rest := by
      simpa using ha
    have htail : r.dropWhile Text.isBlank = tail ++ a := by
      rcases Option.or_eq_some_iff.1 ht with hc | ⟨_, ho⟩
      · exact eq_of_closingTail? hc
      · exact eq_of_openingTail? ho
    have hr' : r = Text.leadingBlanks r ++ (tail ++ a) := by
      rw [← htail]; exact List.takeWhile_append_dropWhile.symm
    refine ⟨?_, by simp⟩
    rw [Text.after?_eq_some_iff.1 hr, List.append_assoc, List.append_assoc, ← hr']

end Marker

/-- A directive comment in its place. -/
structure Found where
  /-- The text in front of it, which holds no directive comment. -/
  gap : Text
  /-- The comment. -/
  comment : Text
  /-- The text behind it. -/
  rest : Text
  deriving DecidableEq, Repr

/-- The first directive comment of `t`. -/
def Marker.find? (m : Marker) : Text → Option Found
  | [] => none
  | c :: t =>
    match m.commentAt? (c :: t) with
    | some (comment, rest) => some ⟨[], comment, rest⟩
    | none => (m.find? t).map fun f => ⟨c :: f.gap, f.comment, f.rest⟩

/-- The parts of a found comment make up the text, and the comment is not empty. -/
theorem Marker.eq_of_find? {m : Marker} {t : Text} {f : Found} (h : m.find? t = some f) :
    t = f.gap ++ f.comment ++ f.rest ∧ f.comment ≠ [] := by
  induction t generalizing f with
  | nil => simp [find?] at h
  | cons c t ih =>
    rw [find?] at h
    split at h
    · rename_i comment rest hc
      obtain rfl : (⟨[], comment, rest⟩ : Found) = f := by simpa using h
      simpa using eq_of_commentAt? hc
    · obtain ⟨g, hg, rfl⟩ := Option.map_eq_some_iff.1 h
      obtain ⟨ht, hn⟩ := ih hg
      exact ⟨by simp [ht], hn⟩

theorem Marker.length_rest_of_find? {m : Marker} {t : Text} {f : Found} (h : m.find? t = some f) :
    f.rest.length < t.length := by
  obtain ⟨ht, hn⟩ := eq_of_find? h
  have := List.length_pos_iff.2 hn
  rw [ht]
  simp only [List.length_append]
  omega

end PageBlocks
