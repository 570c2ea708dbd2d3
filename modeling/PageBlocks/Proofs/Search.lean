import Mathlib.Data.List.Basic
import PageBlocks.Pattern.Basic

/-!
# Successive matches

A search goes on where the last match has ended. An empty match there does not count, so it is then
looked for one character further on:

    c a b d          the pattern (a)|b*
    0 1 2 3 4
    │ a b   │
    empty   empty    the empty match at 3 stands directly behind b

`Pattern.Matches` says this with places in the whole text. `Pattern.pieces`, which always drops what
it has passed, cuts the text at just these matches (`Pattern.exists_matches_pieces`). For that a
match must not reach beyond the text: the places that the threads of a program note are never
further on than the threads are (`Pattern.Program.within_run`).
-/

namespace PageBlocks.Pattern

/-! ### Noted places -/

/-- No place that has been noted is further on than `n`. -/
def Within (n : Nat) (slots : Slots) : Prop := ∀ v, some v ∈ slots → v ≤ n

namespace Within

variable {n m : Nat} {slots : Slots}

theorem mono (h : Within n slots) (hle : n ≤ m) : Within m slots :=
  fun v hv => Nat.le_trans (h v hv) hle

theorem none_noted (n count : Nat) : Within n (Array.replicate count none) := by
  intro v hv
  cases (Array.mem_replicate.1 hv).2

theorem save (h : Within n slots) (slot : Nat) {pos : Nat} (hpos : pos ≤ n) :
    Within n (slots.setIfInBounds slot (some pos)) := by
  intro v hv
  rcases Array.mem_or_eq_of_mem_setIfInBounds hv with hv | hv
  · exact h v hv
  · obtain rfl := Option.some.inj hv
    exact hpos

end Within

/-- No thread has noted a place further on than `n`. -/
def ThreadsWithin (n : Nat) (ts : List Thread) : Prop := ∀ t ∈ ts, Within n t.slots

theorem ThreadsWithin.nil (n : Nat) : ThreadsWithin n [] := List.forall_mem_nil _

theorem ThreadsWithin.mono {n m : Nat} {ts : List Thread} (h : ThreadsWithin n ts) (hle : n ≤ m) :
    ThreadsWithin m ts := fun t ht => (h t ht).mono hle

theorem ThreadsWithin.reverse {n : Nat} {ts : List Thread} (h : ThreadsWithin n ts) :
    ThreadsWithin n ts.reverse := fun t ht => h t (List.mem_reverse.1 ht)

section

variable {code : Code} {here : Here} {n : Nat} {f : Frontier}

theorem threadsWithin_followAll (hpos : here.pos ≤ n) {limit : Nat} {waiting : List Thread}
    (hwaiting : ThreadsWithin n waiting) (hf : ThreadsWithin n f.threads) :
    ThreadsWithin n (followAll code here limit waiting f).threads := by
  fun_induction followAll code here limit waiting f with
  | case1 => exact hf
  | case2 => exact hf
  | case3 limit place slots waiting f met ih => exact ih (List.forall_mem_cons.1 hwaiting).2 hf
  | case4 limit place slots waiting f fresh f' none ih =>
    exact ih (List.forall_mem_cons.1 hwaiting).2 hf
  | case5 limit place slots waiting f fresh f' a b split ih =>
    obtain ⟨hslots, hlater⟩ := List.forall_mem_cons.1 hwaiting
    exact ih (List.forall_mem_cons.2 ⟨hslots, List.forall_mem_cons.2 ⟨hslots, hlater⟩⟩) hf
  | case6 limit place slots waiting f fresh f' slot next save slots' ih =>
    obtain ⟨hslots, hlater⟩ := List.forall_mem_cons.1 hwaiting
    exact ih (List.forall_mem_cons.2 ⟨hslots.save slot hpos, hlater⟩) hf
  | case7 limit place slots waiting f fresh f' l next look waiting' ih =>
    obtain ⟨hslots, hlater⟩ := List.forall_mem_cons.1 hwaiting
    refine ih ?_ hf
    show ThreadsWithin n (if _ then _ else _)
    split_ifs
    · exact List.forall_mem_cons.2 ⟨hslots, hlater⟩
    · exact hlater
  | case8 limit place slots waiting f fresh f' inst split save look here ih =>
    obtain ⟨hslots, hlater⟩ := List.forall_mem_cons.1 hwaiting
    exact ih hlater (List.forall_mem_cons.2 ⟨hslots, hf⟩)

theorem threadsWithin_follow (hpos : here.pos ≤ n) {place : Nat} {slots : Slots}
    (hslots : Within n slots) (hf : ThreadsWithin n f.threads) :
    ThreadsWithin n (follow code here place slots f).threads :=
  threadsWithin_followAll hpos (List.forall_mem_singleton.2 hslots) hf

/-- Taking a character keeps the places within bounds. -/
theorem within_step (code : Code) (c? : Option Char) {there : Here} (hpos : there.pos ≤ n)
    {ts : List Thread} (hts : ThreadsWithin n ts) (hf : ThreadsWithin n f.threads)
    {best : Option Slots} (hbest : ∀ s ∈ best, Within n s) :
    ThreadsWithin n (step code c? there ts f best).1.threads ∧
      ∀ s ∈ (step code c? there ts f best).2, Within n s := by
  fun_induction step code c? there ts f best with
  | case1 => exact ⟨hf, hbest⟩
  | case2 f best t ts accept =>
    refine ⟨hf, ?_⟩
    rintro s hs
    obtain rfl := Option.some.inj hs
    exact (List.forall_mem_cons.1 hts).1
  | case3 f best t ts s next chars takes ih =>
    obtain ⟨hslots, hlater⟩ := List.forall_mem_cons.1 hts
    exact ih hlater (threadsWithin_follow hpos hslots hf) hbest
  | case4 f best t ts s next chars takes ih => exact ih (List.forall_mem_cons.1 hts).2 hf hbest
  | case5 f best t ts accept chars ih => exact ih (List.forall_mem_cons.1 hts).2 hf hbest

end

namespace Program

variable {p : Program}

/-- A new thread has noted nothing but places up to here. -/
theorem threadsWithin_start {here : Here} {f : Frontier} {best : Option Slots}
    (hf : ThreadsWithin here.pos f.threads) :
    ThreadsWithin here.pos (if best.isNone then
      follow p.code here p.start (Array.replicate p.slotCount none) f else f).threads := by
  split_ifs
  · exact threadsWithin_follow (Nat.le_refl _) (Within.none_noted _ _) hf
  · exact hf

/-- All places that are noted in a run lie in the text. -/
theorem within_run {pos : Nat} {before : Option Char} {text : Text} {f : Frontier}
    {best : Option Slots} (hf : ThreadsWithin pos f.threads) (hbest : ∀ s ∈ best, Within pos s) :
    ∀ s ∈ p.run pos before text f best, Within (pos + text.length) s := by
  fun_induction run p pos before text f best with
  | case1 pos before f best here f' =>
    have hthreads : ThreadsWithin here.pos f'.threads := threadsWithin_start hf
    have hpos : here.pos ≤ pos := Nat.le_refl pos
    have hstep := within_step p.code none hpos (f := ⟨[], f'.met⟩) hthreads.reverse (.nil _) hbest
    exact hstep.2
  | case2 pos before c rest f best here f' finished =>
    exact fun s hs => (hbest s hs).mono (Nat.le_add_right _ _)
  | case3 pos before c rest f best here f' going there f'' best' stepped ih =>
    have hthreads : ThreadsWithin here.pos f'.threads := threadsWithin_start hf
    have hpos : there.pos ≤ pos + 1 := Nat.le_refl (pos + 1)
    obtain ⟨hthreads', hbest'⟩ := within_step p.code (some c) hpos (f := ⟨[], f'.met⟩)
      (hthreads.reverse.mono (Nat.le_succ pos)) (.nil _)
      (fun s hs => (hbest s hs).mono (Nat.le_succ pos))
    rw [stepped] at hthreads' hbest'
    intro s hs
    have := ih hthreads' hbest' s hs
    rwa [Nat.add_assoc, Nat.add_comm 1] at this

theorem within_find? {before : Option Char} {text : Text} {slots : Slots}
    (h : p.find? before text = some slots) : Within text.length slots := by
  rw [Program.find?] at h
  have hrun : Within (0 + text.length) slots := within_run (.nil 0) (by simp) slots h
  rwa [Nat.zero_add] at hrun

end Program

/-! ### Matches in a text -/

namespace Hit

/-- Where a match ends. -/
def stop (h : Hit) : Nat := h.skip + h.length

/-- A match behind so many characters. -/
def behind (n : Nat) (h : Hit) : Hit :=
  { h with
    skip := n + h.skip
    groups := h.groups.map fun g => g.map fun (a, b) => (n + a, n + b) }

/-- What a match in this text matches. -/
def text (t : Text) (h : Hit) : Text := (t.drop h.skip).take h.length

/-- What its groups match. -/
def texts (t : Text) (h : Hit) : List (Option Text) :=
  h.groups.map fun g => g.map fun (a, b) => (t.drop a).take (b - a)

/-- A match behind one that ends at `stop`, and not just an empty one there. -/
structure Follows (h : Hit) (stop : Nat) : Prop where
  behind : stop ≤ h.skip
  further : stop < h.stop

theorem Follows.trans {h h' : Hit} {stop : Nat} (later : h'.Follows h.stop)
    (earlier : h.Follows stop) : h'.Follows stop where
  behind := Nat.le_trans (Nat.le_of_lt earlier.further) later.behind
  further := Nat.lt_trans earlier.further later.further

theorem shift_eq (h : Hit) : h.shift = h.behind 1 := by simp only [shift, behind, Nat.add_comm]

theorem behind_behind (m n : Nat) (h : Hit) : (h.behind m).behind n = h.behind (n + m) := by
  simp [behind, Function.comp_def, Nat.add_assoc]

@[simp] theorem skip_behind (n : Nat) (h : Hit) : (h.behind n).skip = n + h.skip := rfl

@[simp] theorem stop_behind (n : Nat) (h : Hit) : (h.behind n).stop = n + h.stop :=
  Nat.add_assoc n h.skip h.length

@[simp] theorem text_behind (done rest : Text) (h : Hit) :
    (h.behind done.length).text (done ++ rest) = h.text rest := by
  simp [text, behind]

@[simp] theorem texts_behind (done rest : Text) (h : Hit) :
    (h.behind done.length).texts (done ++ rest) = h.texts rest := by
  simp [texts, behind, Function.comp_def, Nat.add_sub_add_left]

end Hit

/-- A match that is found lies in the text. -/
theorem stop_le_of_find? {p : Pattern} {before : Option Char} {text : Text} {h : Hit}
    (hfind : p.find? before text = some h) : h.stop ≤ text.length := by
  unfold find? at hfind
  split at hfind
  · cases hfind
  · rename_i slots hslots
    split at hfind
    · rename_i a b ha hb
      obtain rfl := Option.some.inj hfind
      have hwithin := Program.within_find? hslots
      have := hwithin a (Array.mem_of_getElem? ha)
      have := hwithin b (Array.mem_of_getElem? hb)
      show a + (b - a) ≤ text.length
      omega
    · cases hfind

/-- The first match from a place on, with places in the whole text. -/
def search (p : Pattern) (text : Text) (start : Nat) : Option Hit :=
  (p.find? (text.take start).getLast? (text.drop start)).map (Hit.behind start)

/-- The first match behind one that ends here. An empty one here does not count. -/
def searchBehind (p : Pattern) (text : Text) (stop : Nat) : Option Hit :=
  match p.search text stop with
  | none => none
  | some h =>
    if stop < h.stop then some h
    else if stop < text.length then p.search text (stop + 1)
    else none

/-- These are the matches from a first one on, each the first one behind the one before. -/
inductive Successive (p : Pattern) (text : Text) : (first : Option Hit) → List Hit → Prop where
  | nil : Successive p text none []
  | cons {h : Hit} {next : Option Hit} {later : List Hit}
      (found : p.searchBehind text h.stop = next) (successive : Successive p text next later) :
      Successive p text (some h) (h :: later)

/-- The matches of a pattern in a text, from left to right. -/
def Matches (p : Pattern) (text : Text) (hits : List Hit) : Prop :=
  p.Successive text (p.search text 0) hits

/-- There is no choice among the matches. -/
theorem Successive.unique {p : Pattern} {text : Text} {first : Option Hit} {hits hits' : List Hit}
    (h : p.Successive text first hits) (h' : p.Successive text first hits') : hits = hits' := by
  induction h generalizing hits' with
  | nil =>
    cases h' with
    | nil => rfl
  | cons found successive ih =>
    cases h' with
    | cons found' successive' => rw [ih (found ▸ found' ▸ successive')]

/-- The text from a place on, cut at matches. -/
def cutAt (text : Text) : (start : Nat) → List Hit → List Piece
  | start, [] => [.plain (text.drop start)]
  | start, h :: later =>
    .plain ((text.drop start).take (h.skip - start)) :: .hit (h.text text) (h.texts text)
      :: cutAt text h.stop later

variable {p : Pattern} {text : Text}

theorem search_append (p : Pattern) (done rest : Text) :
    p.search (done ++ rest) done.length =
      (p.find? done.getLast? rest).map (Hit.behind done.length) := by
  simp [search]

theorem search_append_cons (p : Pattern) (done rest : Text) (c : Char) :
    p.search (done ++ c :: rest) (done.length + 1) =
      ((p.find? (some c) rest).map Hit.shift).map (Hit.behind done.length) := by
  have hseam := search_append p (done ++ [c]) rest
  rw [List.append_assoc, List.singleton_append, List.length_append, List.length_singleton,
    List.getLast?_concat] at hseam
  simp [hseam, Function.comp_def, Hit.shift_eq, Hit.behind_behind]

/-- The next match in what is left of a text is the next one in the whole text. -/
theorem map_next? (p : Pattern) (done rest : Text) (behindHit : Bool) :
    (next? p.find? behindHit done.getLast? rest).map (Hit.behind done.length) =
      if behindHit then p.searchBehind (done ++ rest) done.length
      else p.search (done ++ rest) done.length := by
  unfold next?
  simp only [searchBehind, search_append]
  cases hfind : p.find? done.getLast? rest with
  | none => simp
  | some h =>
    cases behindHit with
    | false => simp
    | true =>
      by_cases hempty : h.skip = 0 ∧ h.length = 0
      · have hstop : h.stop = 0 := by rw [Hit.stop, hempty.1, hempty.2]
        cases rest with
        | nil => simp [hempty, hstop]
        | cons c rest => simp [hempty, hstop, search_append_cons]
      · have hstop : 0 < h.stop := by
          rw [Hit.stop]
          omega
        simp [hempty, hstop]

/-- What is found next lies in the text, and is not passed already. -/
theorem next?_bounds {before : Option Char} {behindHit : Bool} {h : Hit}
    (hnext : next? p.find? behindHit before text = some h) :
    h.stop ≤ text.length ∧ (behindHit = true → 0 < h.stop) := by
  unfold next? at hnext
  cases hfind : p.find? before text with
  | none =>
    rw [hfind] at hnext
    cases hnext
  | some found =>
    rw [hfind] at hnext
    dsimp only at hnext
    split_ifs at hnext with hempty
    · cases text with
      | nil => cases hnext
      | cons c rest =>
        obtain ⟨g, hg, rfl⟩ := Option.map_eq_some_iff.1 hnext
        have := stop_le_of_find? hg
        rw [Hit.shift_eq, Hit.stop_behind, List.length_cons]
        omega
    · obtain rfl := Option.some.inj hnext
      refine ⟨stop_le_of_find? hfind, ?_⟩
      rintro rfl
      rw [Hit.stop]
      simp at hempty
      omega

/-- The pieces of what is left of a text are the whole text, cut at the matches in that rest. -/
theorem exists_successive_piecesFrom (p : Pattern) (behindHit : Bool) (done rest : Text) :
    ∃ hits, p.Successive (done ++ rest)
        (if behindHit then p.searchBehind (done ++ rest) done.length
          else p.search (done ++ rest) done.length) hits ∧
      piecesFrom p.find? behindHit done.getLast? rest = cutAt (done ++ rest) done.length hits := by
  generalize hbefore : done.getLast? = before
  fun_induction piecesFrom p.find? behindHit before rest generalizing done with
  | case1 behindHit before rest hnone =>
    subst hbefore
    refine ⟨[], ?_, ?_⟩
    · rw [← map_next?, hnone]
      exact .nil
    · simp [cutAt]
  | case2 behindHit before rest h hnext used onward groups ih =>
    subst hbefore
    have hused : used ≤ rest.length := (next?_bounds hnext).1
    have hseam : done ++ rest.take used ++ rest.drop used = done ++ rest := by simp
    have hplace : (done ++ rest.take used).length = (h.behind done.length).stop := by
      rw [List.length_append, List.length_take_of_le hused, Hit.stop_behind, Hit.stop]
    obtain ⟨later, hlater, hpieces⟩ := ih (done ++ rest.take used) List.getLast?_append
    rw [hseam, hplace] at hlater hpieces
    refine ⟨h.behind done.length :: later, ?_, ?_⟩
    · rw [← map_next?, hnext]
      exact .cons rfl hlater
    · rw [hpieces, cutAt, Hit.text_behind, Hit.texts_behind]
      simp [Hit.text, Hit.texts, groups]
  | case3 behindHit before rest h hnext used stuck =>
    have hbounds := next?_bounds hnext
    refine absurd (fun hbehind => ⟨hbounds.2 hbehind, ?_⟩) stuck
    rintro rfl
    have := hbounds.2 hbehind
    simp at hbounds
    omega

/-- The pieces of a text are the text cut at the matches of the pattern. -/
theorem exists_matches_pieces (p : Pattern) (text : Text) :
    ∃ hits, p.Matches text hits ∧ p.pieces text = cutAt text 0 hits :=
  exists_successive_piecesFrom p false [] text

/-! ### The order of the matches -/

theorem search_bounds {start : Nat} (hstart : start ≤ text.length) {h : Hit}
    (hsearch : p.search text start = some h) : start ≤ h.skip ∧ h.stop ≤ text.length := by
  obtain ⟨g, hg, rfl⟩ := Option.map_eq_some_iff.1 hsearch
  have hbound := stop_le_of_find? hg
  rw [List.length_drop] at hbound
  rw [Hit.skip_behind, Hit.stop_behind]
  omega

theorem searchBehind_follows {stop : Nat} (hstop : stop ≤ text.length) {h : Hit}
    (hsearch : p.searchBehind text stop = some h) : h.Follows stop ∧ h.stop ≤ text.length := by
  unfold searchBehind at hsearch
  split at hsearch
  · cases hsearch
  rename_i found hfound
  split_ifs at hsearch with hfurther hinside
  · obtain rfl := Option.some.inj hsearch
    obtain ⟨hskip, hbound⟩ := search_bounds hstop hfound
    exact ⟨⟨hskip, hfurther⟩, hbound⟩
  · obtain ⟨hskip, hbound⟩ := search_bounds hinside hsearch
    have : h.skip ≤ h.stop := Nat.le_add_right _ _
    exact ⟨⟨by omega, by omega⟩, hbound⟩

/-- Matches that are found behind a place all lie there, one behind the other. -/
theorem Successive.follows {stop : Nat} (hstop : stop ≤ text.length) {hits : List Hit}
    (h : p.Successive text (p.searchBehind text stop) hits) :
    (∀ hit ∈ hits, hit.Follows stop ∧ hit.stop ≤ text.length) ∧
      hits.Pairwise fun hit later => later.Follows hit.stop := by
  generalize hfirst : p.searchBehind text stop = first at h
  induction h generalizing stop with
  | nil => simp
  | @cons hit next later found successive ih =>
    obtain ⟨hfollows, hbound⟩ := searchBehind_follows hstop hfirst
    obtain ⟨hlater, hordered⟩ := ih hbound found
    refine ⟨List.forall_mem_cons.2 ⟨⟨hfollows, hbound⟩, fun g hg => ?_⟩,
      List.pairwise_cons.2 ⟨fun g hg => (hlater g hg).1, hordered⟩⟩
    exact ⟨(hlater g hg).1.trans hfollows, (hlater g hg).2⟩

/-- Matches do not overlap, and all of them lie in the text. -/
theorem Matches.ordered {hits : List Hit} (h : p.Matches text hits) :
    (∀ hit ∈ hits, hit.stop ≤ text.length) ∧
      hits.Pairwise fun hit later => later.Follows hit.stop := by
  unfold Matches at h
  generalize hfirst : p.search text 0 = first at h
  cases h with
  | nil => simp
  | @cons hit next later found successive =>
    have hbound := (search_bounds (Nat.zero_le _) hfirst).2
    subst found
    obtain ⟨hlater, hordered⟩ := successive.follows hbound
    exact ⟨List.forall_mem_cons.2 ⟨hbound, fun g hg => (hlater g hg).2⟩,
      List.pairwise_cons.2 ⟨fun g hg => (hlater g hg).1, hordered⟩⟩

/-- Cutting a text loses nothing of it. -/
theorem source_cutAt (text : Text) {start : Nat} {hits : List Hit}
    (hfirst : ∀ hit ∈ hits, start ≤ hit.skip)
    (hordered : hits.Pairwise fun hit later => later.Follows hit.stop) :
    (cutAt text start hits).flatMap Piece.source = text.drop start := by
  induction hits generalizing start with
  | nil => simp [cutAt, Piece.source]
  | cons hit later ih =>
    obtain ⟨hskip, -⟩ := List.forall_mem_cons.1 hfirst
    obtain ⟨hlater, hrest⟩ := List.pairwise_cons.1 hordered
    have hcut : text.drop hit.skip = hit.text text ++ text.drop hit.stop := by
      rw [Hit.text, Hit.stop, ← List.drop_drop, List.take_append_drop]
    have hgap : (text.drop start).take (hit.skip - start) ++ text.drop hit.skip =
        text.drop start := by
      conv => lhs; arg 2; rw [← Nat.add_sub_of_le hskip, ← List.drop_drop]
      rw [List.take_append_drop]
    rw [cutAt, List.flatMap_cons, List.flatMap_cons, ih (fun g hg => (hlater g hg).behind) hrest,
      Piece.source, Piece.source, ← hcut, hgap]

end PageBlocks.Pattern
