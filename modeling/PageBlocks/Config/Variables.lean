import PageBlocks.Text.Name

/-!
# Variables in settings

A setting may refer to the variables of the process.

    ${NAME}             the variable, which must be set
    ${NAME:-default}    the variable, or the text behind `:-` if it is not set
    $NAME               the variable, which must be set
    $$                  a dollar sign

All of this counts only in a setting that holds `${` somewhere. What has been filled in is not
looked at again.
-/

namespace PageBlocks

/-- The variables of the process, each once. -/
abbrev Variables := List (Text × Text)

namespace Text

/-- Cuts at the first `:-`. -/
def cutAtDefault? : Text → Option (Text × Text)
  | [] => none
  | c :: t =>
    match after? [':', '-'] (c :: t) with
    | some rest => some ([], rest)
    | none => (cutAtDefault? t).map fun (a, b) => (c :: a, b)

end Text

/-- A reference to a variable, or an escaped dollar sign. -/
inductive Reference where
  | variable (name : Text) (default? : Option Text)
  | dollar
  deriving DecidableEq, Repr

namespace Reference

/-- May the character stand in the name of a variable without braces? -/
def isNameChar (c : Char) : Bool := c == '_' || Text.isAlphanumeric c

/-- What stands between braces: a name, perhaps with a default. A default needs a name in front of
it. -/
def ofBraces (inside : Text) : Reference :=
  match Text.cutAtDefault? inside with
  | some (c :: name, text) => .variable (c :: name) (some text)
  | _ => .variable inside none

/-- The reference behind a dollar sign, and what follows it. -/
def read? : Text → Option (Reference × Text)
  | '$' :: t => some (.dollar, t)
  | '\x7b' :: t => (Text.cutAt? (· == '\x7d') t).map fun (inside, rest) => (ofBraces inside, rest)
  | c :: t =>
    if isNameChar c then
      some (.variable (c :: t.takeWhile isNameChar) none, t.dropWhile isNameChar)
    else none
  | [] => none

/-- What a reference stands for, or the name that is not set. -/
def value (vars : Variables) : Reference → Except Text Text
  | .dollar => .ok ['$']
  | .variable name default? =>
    match vars.lookup name with
    | some t => .ok t
    | none => default?.elim (.error name) .ok

end Reference

theorem Text.length_of_cutAt? {p : Char → Bool} {t a b : Text} (h : cutAt? p t = some (a, b)) :
    b.length < t.length := by
  induction t generalizing a with
  | nil => simp [cutAt?] at h
  | cons c t ih =>
    rw [cutAt?] at h
    split at h
    · obtain ⟨rfl, rfl⟩ : [] = a ∧ t = b := by simpa using h
      simp
    · obtain ⟨⟨x, y⟩, hx, hy⟩ := Option.map_eq_some_iff.1 h
      obtain ⟨rfl, rfl⟩ : c :: x = a ∧ y = b := by simpa using hy
      have := ih hx
      simp only [List.length_cons]
      omega

theorem Reference.length_of_read? {t rest : Text} {r : Reference} (h : read? t = some (r, rest)) :
    rest.length < t.length := by
  unfold read? at h
  split at h
  · obtain ⟨_, rfl⟩ : _ ∧ _ = rest := by simpa using h
    simp
  · obtain ⟨⟨x, y⟩, hx, hy⟩ := Option.map_eq_some_iff.1 h
    obtain ⟨_, rfl⟩ : _ ∧ y = rest := by simpa using hy
    have := Text.length_of_cutAt? hx
    simp only [List.length_cons]
    omega
  · rename_i c t _ _
    split at h
    · obtain ⟨_, rfl⟩ : _ ∧ t.dropWhile isNameChar = rest := by simpa using h
      have := (List.dropWhile_suffix isNameChar (l := t)).length_le
      simp only [List.length_cons]
      omega
    · simp at h
  · simp at h

namespace Variables

/-- Fills in all references, or gives the first name that is not set. -/
def fill (vars : Variables) (t : Text) : Except Text Text :=
  match t with
  | [] => .ok []
  | c :: t =>
    if c = '$' then
      match _read : Reference.read? t with
      | some (r, rest) => do return (← r.value vars) ++ (← fill vars rest)
      | none => do return '$' :: (← fill vars t)
    else do return c :: (← fill vars t)
termination_by t.length
decreasing_by
  · have := Reference.length_of_read? _read
    simp only [List.length_cons]
    omega
  all_goals simp

/-- Fills in the references of a setting, if it holds a braced one. -/
def expand (vars : Variables) (t : Text) : Except Text Text :=
  if Text.occursIn ['$', '\x7b'] t then vars.fill t else .ok t

/-- The home directory. -/
def home? (vars : Variables) : Option Text :=
  (vars.lookup "HOME".toList).filter fun t => !t.isEmpty

/-- Puts the home directory in place of a tilde that is the first name of a path. -/
def expandTilde (vars : Variables) (p : Text) : Text :=
  match vars.home?, p with
  | some home, ['~'] => home
  | some home, '~' :: '/' :: rest => home ++ '/' :: rest
  | _, p => p

/-- Fills in the references of a path, then a tilde in front. -/
def expandPath (vars : Variables) (p : Text) : Except Text Text :=
  (vars.expand p).map vars.expandTilde

end Variables

end PageBlocks
