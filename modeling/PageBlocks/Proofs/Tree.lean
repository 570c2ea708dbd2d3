import PageBlocks.FileTree
import PageBlocks.Proofs.Separator

/-!
# Writing to a tree

To write a file, the directories in front of it are made, and then one file is put:

    tree            made       put
    a   a/y         a/b        a/b/x

Directories stay directories, so that a path which leads somewhere leads there ever after, and no
text is lost but the one that was found at the very place that is written to. Where a file of a
directory ends up is told by its name: paths with different names behind the same directory never
lead to one place.
-/

namespace PageBlocks

/-! ### Names -/

namespace Path

/-- A piece of a path that names something in a directory. -/
structure IsName (name : Text) : Prop where
  unslashed : '/' ∉ name
  notIdle : isIdle name = false
  notParent : name ≠ ['.', '.']

theorem isName_of_fileName? {source : Path} {name : Text} (h : fileName? source = some name) :
    IsName name := by
  have hlast : (components source).getLast? = some (.name name) := by
    rw [fileName?] at h
    split at h
    case h_1 text htext =>
      rw [htext, Option.some.inj h]
    case h_2 => cases h
  have hmem : Component.name name ∈
      (Text.splitOn '/' (anchor source).2).filterMap Component.ofPiece? := by
    have hcomponents := List.mem_of_getLast? hlast
    unfold components at hcomponents
    dsimp only at hcomponents
    split at hcomponents
    case isTrue => exact (List.mem_cons.1 hcomponents).resolve_left nofun
    case isFalse =>
      split at hcomponents
      case isTrue => exact (List.mem_cons.1 hcomponents).resolve_left nofun
      case isFalse => exact hcomponents
  obtain ⟨piece, hpiece, hname⟩ := List.mem_filterMap.1 hmem
  rw [Component.ofPiece?] at hname
  split at hname
  case isTrue => cases hname
  case isFalse hidle =>
    split at hname
    case isTrue => cases hname
    case isFalse hparent =>
      cases hname
      exact ⟨Text.notMem_of_mem_splitOn hpiece, Bool.eq_false_iff.2 hidle, hparent⟩

/-- A name behind a directory is the last piece of the path. -/
theorem exists_splitOn_join (dest : Path) {name : Text} (h : IsName name) :
    ∃ pieces, Text.splitOn '/' (join dest name) = pieces ++ [name] := by
  have hrelative : isAbsolute name = false := by
    rw [isAbsolute, ← Bool.not_eq_true, Text.startsWith_iff]
    rintro ⟨rest, rfl⟩
    exact h.unslashed List.mem_cons_self
  have hbehind (base : Path) :
      Text.splitOn '/' (base ++ '/' :: name) = Text.splitOn '/' base ++ [name] := by
    rw [Text.splitOn_append_cons, Text.splitOn_of_notMem h.unslashed]
  rw [join, hrelative]
  split
  case isTrue habs => cases habs
  case isFalse =>
    split
    case isTrue hdest =>
      rw [Bool.or_eq_true, List.isEmpty_iff, Text.endsWith, Option.isSome_iff_exists] at hdest
      obtain rfl | ⟨base, hbase⟩ := hdest
      · exact ⟨[], Text.splitOn_of_notMem h.unslashed⟩
      · rw [Text.before?_eq_some_iff] at hbase
        rw [hbase, List.append_assoc]
        exact ⟨_, hbehind base⟩
    case isFalse => exact ⟨_, hbehind dest⟩

end Path

namespace FileTree

variable {t t' t'' : FileTree} {p q : Path} {here place : Place} {n : Node}

/-! ### Nodes -/

theorem node?_assign_self (t : FileTree) (h : place ≠ []) (n : Node) :
    (t.assign place n).node? place = some n := by
  rw [node?, if_neg (mt List.isEmpty_iff.1 h), assign, List.lookup_cons_self]

theorem lookup_filter_ne {place other : Place} (h : other ≠ place) (nodes : List (Place × Node)) :
    (nodes.filter fun (p, _) => p != place).lookup other = nodes.lookup other := by
  induction nodes with
  | nil => rfl
  | cons first nodes ih =>
    obtain ⟨p, n⟩ := first
    by_cases hp : p = place
    · rw [List.filter_cons_of_neg (by simp [hp]), ih, List.lookup_cons, hp,
        beq_eq_false_iff_ne.2 h]
    · rw [List.filter_cons_of_pos (by simp [hp]), List.lookup_cons, List.lookup_cons, ih]

theorem node?_assign_of_ne (t : FileTree) {other : Place} (h : other ≠ place) (n : Node) :
    (t.assign place n).node? other = t.node? other := by
  rw [node?, node?, assign, List.lookup_cons, beq_eq_false_iff_ne.2 h, lookup_filter_ne h]

/-! ### What paths lead to -/

/-- Where one name leads from a directory. -/
def next? (here : Place) (name : Text) : Option Place :=
  if Path.isIdle name then some here
  else if name = ['.', '.'] then some here.dropLast
  else if maxNameLength < Text.utf8Length name then none
  else some (here ++ [name])

theorem walk_cons_eq_ok_iff {name : Text} {names : List Text} :
    t.walk here (name :: names) = .ok place ↔
      t.node? here = some .directory ∧
        ∃ there, next? here name = some there ∧ t.walk there names = .ok place := by
  rw [walk, next?]
  cases t.node? here with
  | none => simp
  | some node =>
    cases node with
    | file content => simp
    | directory =>
      dsimp only
      repeat' split
      all_goals simp

/-- All directories stay directories. -/
structure KeepsDirectories (t t' : FileTree) : Prop where
  current_eq : t'.current = t.current
  directory {place : Place} : t.node? place = some .directory → t'.node? place = some .directory

theorem KeepsDirectories.walk (h : t.KeepsDirectories t') {names : List Text}
    (hw : t.walk here names = .ok place) : t'.walk here names = .ok place := by
  induction names generalizing here with
  | nil => exact hw
  | cons name names ih =>
    rw [walk_cons_eq_ok_iff] at hw ⊢
    obtain ⟨hhere, there, hthere, hrest⟩ := hw
    exact ⟨h.directory hhere, there, hthere, ih hrest⟩

theorem locate_eq_ok_iff : t.locate p = .ok place ↔
    (p.isEmpty = false ∧ (p.any fun c => c.toNat = 0) = false ∧
      Text.utf8Length p ≤ maxPathLength) ∧
      t.walk (if Path.isAbsolute p then [] else t.current) (Text.splitOn '/' p) = .ok place := by
  rw [locate, ← Bool.not_eq_true, ← Bool.not_eq_true, ← Nat.not_lt]
  split
  case isTrue h => simp only [h, not_true_eq_false, false_and, reduceCtorEq]
  case isFalse hempty =>
    split
    case isTrue h => simp only [h, not_true_eq_false, false_and, and_false, reduceCtorEq]
    case isFalse hnul =>
      split
      case isTrue h => simp only [h, not_true_eq_false, false_and, and_false, reduceCtorEq]
      case isFalse hlength => exact (and_iff_right ⟨hempty, hnul, hlength⟩).symm

theorem KeepsDirectories.locate (h : t.KeepsDirectories t') (hp : t.locate p = .ok place) :
    t'.locate p = .ok place := by
  rw [locate_eq_ok_iff] at hp ⊢
  rw [h.current_eq]
  exact ⟨hp.1, h.walk hp.2⟩

theorem contents_eq_ok_iff {text : Text} : t.contents p = .ok text ↔
    ∃ place, t.locate p = .ok place ∧ t.node? place = some (.file (some text)) := by
  rw [contents, find]
  cases t.locate p with
  | error f => simp
  | ok place =>
    simp only [Except.ok.injEq, exists_eq_left']
    cases t.node? place with
    | none => simp
    | some node =>
      cases node with
      | directory => simp
      | file content => cases content <;> simp

/-- A walk that ends with a name leads to something of that name. -/
theorem exists_of_walk_concat {pieces : List Text} {name : Text} (hname : Path.IsName name)
    (h : t.walk here (pieces ++ [name]) = .ok place) : ∃ above, place = above ++ [name] := by
  induction pieces generalizing here with
  | nil =>
    obtain ⟨-, there, hthere, hrest⟩ := walk_cons_eq_ok_iff.1 h
    rw [next?, hname.notIdle, if_neg Bool.false_ne_true, if_neg hname.notParent] at hthere
    split at hthere
    case isTrue => cases hthere
    case isFalse =>
      cases hthere
      exact ⟨here, (Except.ok.inj hrest).symm⟩
  | cons piece pieces ih =>
    obtain ⟨-, there, -, hrest⟩ := walk_cons_eq_ok_iff.1 h
    exact ih hrest

/-- Different names in one directory lead to different places. -/
theorem ne_of_locate_join {dest : Path} {name other : Text} {place' : Place}
    (hname : Path.IsName name) (hother : Path.IsName other) (hne : name ≠ other)
    (h : t.locate (Path.join dest name) = .ok place)
    (h' : t.locate (Path.join dest other) = .ok place') : place ≠ place' := by
  obtain ⟨pieces, hpieces⟩ := Path.exists_splitOn_join dest hname
  obtain ⟨pieces', hpieces'⟩ := Path.exists_splitOn_join dest hother
  rw [locate_eq_ok_iff, hpieces] at h
  rw [locate_eq_ok_iff, hpieces'] at h'
  obtain ⟨above, rfl⟩ := exists_of_walk_concat hname h.2
  obtain ⟨above', rfl⟩ := exists_of_walk_concat hother h'.2
  intro heq
  exact hne (List.singleton_inj.1 (List.append_inj_right' heq rfl))

/-! ### Writing -/

/-- Nothing that is there changes. -/
structure Grows (t t' : FileTree) : Prop where
  current_eq : t'.current = t.current
  node {place : Place} {n : Node} : t.node? place = some n → t'.node? place = some n

theorem Grows.refl (t : FileTree) : t.Grows t := ⟨rfl, fun h => h⟩

theorem Grows.trans (h : t.Grows t') (h' : t'.Grows t'') : t.Grows t'' :=
  ⟨h'.current_eq.trans h.current_eq, fun hn => h'.node (h.node hn)⟩

theorem Grows.keepsDirectories (h : t.Grows t') : t.KeepsDirectories t' := ⟨h.current_eq, h.node⟩

theorem grows_of_makeDirectory (h : t.makeDirectory p = .ok t') : t.Grows t' := by
  rw [makeDirectory] at h
  split at h
  case h_1 => cases h
  case h_2 place _ =>
    split at h
    case isTrue => cases h
    case isFalse hnone =>
      cases h
      refine ⟨rfl, fun {q n} hn => ?_⟩
      rw [node?_assign_of_ne, hn]
      rintro rfl
      rw [hn] at hnone
      exact hnone rfl

theorem grows_makeDirectories (depth : Nat) (p : Path) (t : FileTree) :
    t.Grows (makeDirectories depth p t).2 := by
  induction depth generalizing p t with
  | zero => exact .refl t
  | succ depth ih =>
    -- A failure counts for nothing if the directory is there, and the tree is the same either way.
    have hsettle (t : FileTree) (f : Fault) :
        (if t.isDirectory p then (.ok (), t) else (.error f, t) : Except Fault Unit × FileTree).2 =
          t := by
      split <;> rfl
    rw [makeDirectories]
    split
    case isTrue => exact .refl t
    case isFalse =>
      split
      case h_1 t₁ h => exact grows_of_makeDirectory h
      case h_2 =>
        have hparent := ih (Path.directory p) t
        split
        case h_1 f t₁ h =>
          rw [h] at hparent
          exact hparent
        case h_2 t₁ h =>
          rw [h] at hparent
          split
          case h_1 t₂ h₂ => exact hparent.trans (grows_of_makeDirectory h₂)
          case h_2 f _ =>
            dsimp only
            rw [hsettle]
            exact hparent
      case h_3 f _ _ =>
        dsimp only
        rw [hsettle]
        exact .refl t

/-- A file that was written is put where its path leads, once there are directories. -/
theorem exists_of_write {text : Text} (h : t.write p text = (.ok (), t')) :
    ∃ t₁ place, t.Grows t₁ ∧ t₁.locate p = .ok place ∧ t₁.node? place ≠ some .directory ∧
      t' = t₁.assign place (.file (some text)) := by
  rw [write] at h
  have hgrows := grows_makeDirectories ((Path.directory p).length + 1) (Path.directory p) t
  split at h
  case h_1 => cases h
  case h_2 t₁ h₁ =>
    rw [h₁] at hgrows
    split at h
    case h_1 => cases h
    case h_2 t₂ h₂ =>
      cases h
      rw [put] at h₂
      split at h₂
      case h_1 => cases h₂
      case h_2 place hplace =>
        split at h₂
        case h_1 => cases h₂
        case h_2 hnode =>
          cases h₂
          exact ⟨t₁, place, hgrows, hplace, hnode, rfl⟩

theorem keepsDirectories_assign (h : t.node? place ≠ some .directory) (n : Node) :
    t.KeepsDirectories (t.assign place n) := by
  refine ⟨rfl, fun {q} hq => ?_⟩
  rw [node?_assign_of_ne, hq]
  rintro rfl
  exact h hq

theorem contents_of_write {text : Text} (h : t.write p text = (.ok (), t')) :
    t'.contents p = .ok text := by
  obtain ⟨t₁, place, -, hplace, hnode, rfl⟩ := exists_of_write h
  refine contents_eq_ok_iff.2 ⟨place, (keepsDirectories_assign hnode _).locate hplace, ?_⟩
  refine node?_assign_self t₁ ?_ _
  rintro rfl
  exact hnode rfl

/-- Writing leaves alone what is found at other places. -/
theorem contents_of_write_of_ne {text old : Text} (h : t.write p text = (.ok (), t'))
    (hne : ∀ (t : FileTree) place place', t.locate p = .ok place → t.locate q = .ok place' →
      place ≠ place') (hq : t.contents q = .ok old) : t'.contents q = .ok old := by
  obtain ⟨t₁, place, hgrows, hplace, hnode, rfl⟩ := exists_of_write h
  obtain ⟨place', hplace', hold⟩ := contents_eq_ok_iff.1 hq
  have hplace₁ := hgrows.keepsDirectories.locate hplace'
  refine contents_eq_ok_iff.2 ⟨place', (keepsDirectories_assign hnode _).locate hplace₁, ?_⟩
  rw [node?_assign_of_ne t₁ (Ne.symm (hne t₁ place place' hplace hplace₁))]
  exact hgrows.node hold

end FileTree

end PageBlocks
