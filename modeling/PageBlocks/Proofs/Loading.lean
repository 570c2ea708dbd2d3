import Mathlib.Data.List.Forall2
import PageBlocks.Config.Load
import PageBlocks.Proofs.Accounting
import PageBlocks.Proofs.Body

/-!
# What a loaded configuration is good for

Options and entries are checked once, at the end, after the variables have been filled in and after
other settings have taken over. A processor checks its options a second time, and jobs are never
checked at all:

    text of the file ──▶ entries ──▶ entries, filled in ──▶ jobs
                                           │
    options ──▶ with other settings ──▶ checked ──▶ configuration
                                           │
                                   checked again by a processor

The two checks agree: what passes the first can only fail the second for a bad source of block
types. And the jobs are those of the entries that were checked (`Config.usable_of_load`), since
nothing that is done to options touches the entries.
-/

namespace PageBlocks

/-! ### The check of options -/

theorem Marker.accepts_iff {word : Text} :
    accepts word = true ↔ ∃ m, ofText? word = some m := by
  have hcases : accepts word = true ↔ word ≠ [] ∧ word.all isNameChar = true := by
    simp [accepts]
  rw [hcases, ofText?]
  split_ifs with h
  · exact iff_of_true h ⟨_, rfl⟩
  · exact iff_of_false h (by simp)

/-- What is required of options. -/
structure Options.Sound (o : Options) : Prop where
  marker : ∃ m, Marker.ofText? o.marker = some m
  depth : 1 ≤ o.maxIncludeDepth
  placeholders : ∃ t, Template.ofPattern o.interpolate = .ok t

/-- The check of options finds nothing just if all that is required holds. -/
theorem Config.optionsFault?_eq_none_iff {o : Options} : optionsFault? o = none ↔ o.Sound := by
  have hempty : o.marker.isEmpty = true → ¬ ∃ m, Marker.ofText? o.marker = some m := by
    rw [← Marker.accepts_iff, Marker.accepts]
    intro h
    simp [h]
  unfold optionsFault?
  split_ifs with hmarker haccepts hdepth
  · exact iff_of_false (by simp) fun h => hempty hmarker h.marker
  · refine iff_of_false (by simp) fun h => ?_
    rw [Marker.accepts_iff.2 h.marker] at haccepts
    cases haccepts
  · exact iff_of_false (by simp) fun h => absurd h.depth (by omega)
  · have hword : Marker.accepts o.marker = true := by simpa using haccepts
    cases hpattern : Template.ofPattern o.interpolate with
    | error e =>
      refine iff_of_false (by simp) fun h => ?_
      obtain ⟨t, ht⟩ := h.placeholders
      rw [hpattern] at ht
      cases ht
    | ok t =>
      exact iff_of_true rfl ⟨Marker.accepts_iff.1 hword, by omega, t, hpattern⟩

/-- With options as they are required, a processor can only fail for a source of block types. -/
theorem Options.Sound.ofOptions {o : Options} (h : o.Sound) (read : ReadFile)
    (transform : Transform) :
    (∃ p, Processor.ofOptions o read transform none = .ok p) ∨
      ∃ e, Processor.loadSources read o.blockSources .builtin = .error e ∧
        Processor.ofOptions o read transform none = .error (.source e) := by
  obtain ⟨m, hm⟩ := h.marker
  obtain ⟨t, ht⟩ := h.placeholders
  unfold Processor.ofOptions
  rw [hm]
  dsimp only
  rw [ht]
  cases hsources : Processor.loadSources read o.blockSources .builtin with
  | error e => exact .inr ⟨e, rfl, rfl⟩
  | ok registry => exact .inl ⟨_, rfl⟩

/-! ### The check of entries -/

/-- An entry with at least one source and without empty paths. -/
structure FileEntry.Sound (e : FileEntry) : Prop where
  some_source : e.sources ≠ []
  sources : ∀ s ∈ e.sources, s ≠ []
  dest : e.dest ≠ []

namespace Config

theorem entryFault?_eq_none_iff {i : Nat} {e : FileEntry} :
    entryFault? i e = none ↔ e.Sound := by
  have hsome : e.sources.isEmpty = false ↔ e.sources ≠ [] := by
    rw [← Bool.not_eq_true, List.isEmpty_iff]
  have hdest : e.dest.isEmpty = false ↔ e.dest ≠ [] := by
    rw [← Bool.not_eq_true, List.isEmpty_iff]
  have hsources : e.sources.findIdx? List.isEmpty = none ↔ ∀ s ∈ e.sources, s ≠ [] := by
    rw [List.findIdx?_eq_none_iff]
    refine forall₂_congr fun s _ => ?_
    rw [← Bool.not_eq_true, List.isEmpty_iff]
  unfold entryFault?
  constructor
  · intro h
    cases hnone : e.sources.isEmpty with
    | true => simp [hnone] at h
    | false =>
      cases hfound : e.sources.findIdx? List.isEmpty with
      | some j => simp [hnone, hfound] at h
      | none =>
        cases hempty : e.dest.isEmpty with
        | true => simp [hnone, hfound, hempty] at h
        | false => exact ⟨hsome.1 hnone, hsources.1 hfound, hdest.1 hempty⟩
  · intro h
    simp [hsome.2 h.some_source, hsources.2 h.sources, hdest.2 h.dest]

theorem entriesFault?_eq_none_iff {i : Nat} {es : List FileEntry} :
    entriesFault? i es = none ↔ ∀ e ∈ es, e.Sound := by
  induction es generalizing i with
  | nil => simp [entriesFault?]
  | cons e es ih => rw [entriesFault?, Option.or_eq_none_iff, entryFault?_eq_none_iff, ih,
      List.forall_mem_cons]

/-- A configuration passes its check just if its options and its entries are as required. -/
theorem fault?_eq_none_iff {c : Config} :
    c.fault? = none ↔ c.options.Sound ∧ ∀ e ∈ c.entries, e.Sound := by
  rw [fault?, Option.or_eq_none_iff, optionsFault?_eq_none_iff, entriesFault?_eq_none_iff]

/-! ### Filling in variables -/

/-- Applying a function along a list gives one result for each item, in order. -/
theorem mapFrom_eq_ok {α β : Type} {f : Nat → α → Except ConfigError β} {i : Nat} {as : List α}
    {bs : List β} (h : mapFrom f i as = .ok bs) :
    List.Forall₂ (fun a b => ∃ j, f j a = .ok b) as bs := by
  induction as generalizing i bs with
  | nil =>
    cases h
    exact .nil
  | cons a as ih =>
    rw [mapFrom] at h
    obtain ⟨b, hb, h⟩ := ok_bind_iff.1 h
    obtain ⟨later, hlater, h⟩ := ok_bind_iff.1 h
    cases h
    exact .cons ⟨i, hb⟩ (ih hlater)

theorem expandPath_eq_ok {vars : Variables} {field : String} {s t : Text}
    (h : expandPath vars field s = .ok t) : vars.expandPath s = .ok t := by
  rw [expandPath, inField] at h
  cases hs : vars.expandPath s with
  | error name =>
    rw [hs] at h
    cases h
  | ok t' =>
    rw [hs] at h
    cases h
    rfl

/-- An entry as it is written, and with its variables filled in. -/
structure Filled (vars : Variables) (e e' : FileEntry) : Prop where
  sources : List.Forall₂ (fun s t => vars.expandPath s = .ok t) e.sources e'.sources
  dest : vars.expandPath e.dest = .ok e'.dest

theorem expandEntry_eq_ok {vars : Variables} {i : Nat} {e e' : FileEntry}
    (h : expandEntry vars i e = .ok e') : Filled vars e e' := by
  rw [expandEntry] at h
  obtain ⟨sources, hsources, h⟩ := ok_bind_iff.1 h
  obtain ⟨dest, hdest, h⟩ := ok_bind_iff.1 h
  cases h
  refine ⟨(mapFrom_eq_ok hsources).imp fun s t => ?_, expandPath_eq_ok hdest⟩
  rintro ⟨j, hj⟩
  exact expandPath_eq_ok hj

theorem expand_eq_ok {vars : Variables} {c c' : Config} (h : expand vars c = .ok c') :
    List.Forall₂ (Filled vars) c.entries c'.entries := by
  have hentries : mapFrom (expandEntry vars) 0 c.entries = .ok c'.entries := by
    rw [expand] at h
    split at h <;>
    · obtain ⟨environment, -, h⟩ := ok_bind_iff.1 h
      obtain ⟨blockSources, -, h⟩ := ok_bind_iff.1 h
      obtain ⟨entries, hentries, h⟩ := ok_bind_iff.1 h
      cases h
      exact hentries
  refine (mapFrom_eq_ok hentries).imp fun e e' => ?_
  rintro ⟨i, hi⟩
  exact expandEntry_eq_ok hi

/-! ### Reading a file -/

variable {σ : Type} {fs : FileSystem (StateM σ)} {vars : Variables} {current : Path}
  {file? : Option Path}

/-- Where the entries of a configuration are from: there is no file and there are none, or they
stand in the text of a file, the one that was asked for if any was. -/
inductive Origin (fs : FileSystem (StateM σ)) (vars : Variables) (file? : Option Path) :
    Config → Prop where
  | none {c : Config} (asked : file? = none) (nowhere : c.file? = none) (nothing : c.entries = []) :
      Origin fs vars file? c
  | file {c written : Config} {file : Path} {s : σ} {text : Text} {es : Toml.Entries}
      (asked : ∀ f, file? = some f → f = file) (here : c.file? = some file)
      (directory : c.directory = (Path.parent? file).getD ['.'])
      (read : (fs.read file s).1 = .ok text) (parsed : Toml.parse text = .ok es)
      (fits : ofToml? es = some written)
      (filled : List.Forall₂ (Filled vars) written.entries c.entries) : Origin fs vars file? c

theorem ofText_eq_ok {file : Path} {text : Text} {c : Config} (h : ofText vars file text = .ok c) :
    ∃ es written, Toml.parse text = .ok es ∧ ofToml? es = some written ∧ c.file? = some file ∧
      List.Forall₂ (Filled vars) written.entries c.entries := by
  unfold ofText at h
  split at h
  · cases h
  · rename_i es hparse
    split at h
    · cases h
    · rename_i written hfits
      obtain ⟨filled, hfilled, h⟩ := ok_bind_iff.1 h
      have hentries := expand_eq_ok hfilled
      cases h
      exact ⟨es, written, hparse, hfits, rfl, hentries⟩

theorem origin_ofFile {file : Path} {s : σ} {c : Config} (asked : ∀ f, file? = some f → f = file)
    (h : (ofFile fs vars file s).1 = .ok c) : Origin fs vars file? c := by
  rw [ofFile, state_bind] at h
  cases hread : (fs.read file s).1 with
  | error cause =>
    rw [hread] at h
    cases h
  | ok text =>
    rw [hread] at h
    obtain ⟨es, written, hparse, hfits, hfile, hfilled⟩ := ofText_eq_ok h
    have hdirectory : c.directory = (Path.parent? file).getD ['.'] := by
      rw [directory, hfile]
    exact .file asked hfile hdirectory hread hparse hfits hfilled

theorem origin_locate {s : σ} {c : Config} (h : (locate fs vars current file? s).1 = .ok c) :
    Origin fs vars file? c := by
  cases file? with
  | some file =>
    rw [locate, state_bind] at h
    cases hpresent : (fs.isPresent file s).1 with
    | false =>
      rw [hpresent] at h
      cases h
    | true =>
      rw [hpresent] at h
      exact origin_ofFile (fun f hf => (Option.some.inj hf).symm) h
  | none =>
    rw [locate, state_bind] at h
    cases hfound : (discover fs current s).1 with
    | none =>
      rw [hfound] at h
      cases h
      exact .none rfl rfl rfl
    | some file =>
      rw [hfound] at h
      exact origin_ofFile (fun f hf => by cases hf) h

/-- Settings from elsewhere leave the origin of the entries as it is. -/
theorem Origin.override {c : Config} (h : Origin fs vars file? c) (o : Options) :
    Origin fs vars file? { c with options := o } := by
  cases h with
  | none asked nowhere nothing => exact .none asked nowhere nothing
  | file asked here directory read parsed fits filled =>
    exact .file asked here directory read parsed fits filled

/-! ### Loading -/

/-- The job that an entry stands for, its paths as seen from a directory. -/
structure JobOf (dir : Path) (e : FileEntry) (j : Job) : Prop where
  some_source : j.sources ≠ []
  sources : List.Forall₂ (fun s p => s ≠ [] ∧ p = Path.join dir s) e.sources j.sources
  dest : e.dest ≠ [] ∧ j.dest = Path.join dir e.dest

theorem jobOf_of_sound {dir : Path} {e : FileEntry} (h : e.Sound) :
    JobOf dir e ⟨e.sources.map (Path.join dir), Path.join dir e.dest⟩ := by
  refine ⟨fun hnone => h.some_source (List.map_eq_nil_iff.1 hnone), ?_, h.dest, rfl⟩
  rw [List.forall₂_map_right_iff, List.forall₂_same]
  exact fun s hs => ⟨h.sources s hs, rfl⟩

/-- A configuration that a run can start from. -/
structure Usable (fs : FileSystem (StateM σ)) (vars : Variables) (file? : Option Path)
    (c : Config) : Prop where
  /-- A processor is set up, unless a source of block types does not load. -/
  processor : ∀ read transform,
    (∃ p, Processor.ofOptions c.options read transform none = .ok p) ∨
      ∃ e, Processor.loadSources read c.options.blockSources .builtin = .error e ∧
        Processor.ofOptions c.options read transform none = .error (.source e)
  depth : 1 ≤ c.options.maxIncludeDepth
  origin : Origin fs vars file? c
  /-- One job for each entry, in order. -/
  jobs : List.Forall₂ (JobOf c.directory) c.entries c.jobs

theorem usable_of_finish {c c' : Config} {s : Overrides} (origin : Origin fs vars file? c)
    (h : c.finish s = .ok c') : Usable fs vars file? c' := by
  rw [finish] at h
  split at h
  · cases h
  · rename_i hfault
    cases h
    obtain ⟨hoptions, hentries⟩ := fault?_eq_none_iff.1 hfault
    refine ⟨hoptions.ofOptions, hoptions.depth, origin.override _, ?_⟩
    rw [jobs, List.forall₂_map_right_iff, List.forall₂_same]
    exact fun e he => jobOf_of_sound (hentries e he)

/-- A configuration that has been loaded can be used, whatever the files, the variables and the
settings from elsewhere are. -/
theorem usable_of_load {settings : Overrides} {s : σ} {c : Config}
    (h : (load fs vars current file? settings s).1 = .ok c) : Usable fs vars file? c := by
  rw [load, state_bind] at h
  cases hlocate : (locate fs vars current file? s).1 with
  | error e =>
    rw [hlocate] at h
    cases h
  | ok written =>
    rw [hlocate] at h
    exact usable_of_finish (origin_locate hlocate) h

/-- A tree with a settings file above the directory `/s/t`. -/
def settingsTree : FileTree where
  nodes := [(["s".toList], .directory), (["s".toList, "t".toList], .directory),
    (["s".toList, fileName], .file (some ("[options.template_settings]\n".toList ++
      "interpolate = '<%= ([a-z]+) %>'\n[[files]]\n".toList ++
      "src = ['$\x7bPAGES\x7d/a.html', 'b.html']\ndest = '$\x7bOUT:-out\x7d/'\n".toList)))]
  current := []

/-- The file is found from below, and its variables are filled in. -/
theorem usable_of_load_settingsTree :
    ∃ c, (load FileTree.system [("PAGES".toList, "/p".toList)] "/s/t".toList none
        { strip := some true } settingsTree).1 = .ok c ∧
      c.jobs = [⟨["/p/a.html".toList, "/s/b.html".toList], "/s/out/".toList⟩] ∧
      Usable FileTree.system [("PAGES".toList, "/p".toList)] none c := by
  have hjobs : (load FileTree.system [("PAGES".toList, "/p".toList)] "/s/t".toList none
      { strip := some true } settingsTree).1.toOption.map Config.jobs =
      some [⟨["/p/a.html".toList, "/s/b.html".toList], "/s/out/".toList⟩] := by decide +kernel
  cases hload : (load FileTree.system [("PAGES".toList, "/p".toList)] "/s/t".toList none
      { strip := some true } settingsTree).1 with
  | error e =>
    rw [hload] at hjobs
    cases hjobs
  | ok c =>
    rw [hload] at hjobs
    exact ⟨c, rfl, Option.some.inj hjobs, usable_of_load hload⟩

end Config

end PageBlocks
