/-
  The configuration file in effect is the nearest one.

  Three things may say which file that is, and the first that speaks is final: the file that is
  asked for, the file that a variable names, and the search from a directory up to the root.  If a
  file is asked for or named that does not exist, there is none, and nothing else is tried
  (`InEffect` is this table).

  The search goes through the chain of directories above its start.  A directory of the chain is a
  prefix of the start, and appending one name to a place puts one directory in front of its chain,
  so the search follows the start from its last name to its first.  What it finds is the file of the
  deepest directory that has one.  It depends on the files of that name in the chain and on nothing
  else, and it may as well start anywhere between.
-/
import Mathlib.Data.List.Infix
import DateCalc.Proofs.Config.Layering

namespace DateCalc.Config

/-! ## The chain of directories -/

theorem Place.ancestors_nil : Place.ancestors [] = [[]] := rfl

/-- The chain above a place, nearest first, is the place itself and the chain above the directory
that it lies in. -/
theorem Place.ancestors_concat (p : Place) (name : String) :
    Place.ancestors (p ++ [name]) = (p ++ [name]) :: p.ancestors := by
  have hlength : (p ++ [name]).length = p.length + 1 := List.length_append
  unfold Place.ancestors
  rw [hlength, List.range_succ_eq_map, List.map_cons, List.map_map]
  congr 1
  · rw [Nat.sub_zero, ← hlength, List.take_length]
  · apply List.map_congr_left
    intro up _
    show (p ++ [name]).take (p.length + 1 - (up + 1)) = p.take (p.length - up)
    rw [Nat.add_sub_add_right]
    exact List.take_append_of_le_length (Nat.sub_le _ _)

/-- The directories of the chain are the prefixes of the place. -/
theorem Place.mem_ancestors_iff {d p : Place} : d ∈ p.ancestors ↔ d <+: p := by
  induction p using List.reverseRecOn with
  | nil => rw [ancestors_nil, List.mem_singleton, List.prefix_nil]
  | append_singleton p name ih =>
    rw [ancestors_concat, List.mem_cons, ih, List.prefix_concat_iff]

/-! ## The nearest file -/

/-- The directory has a configuration file; a directory of that name is none. -/
def FileTree.HasFileIn (t : FileTree) (d : Place) : Prop :=
  (t.textAt? (d ++ [fileName])).isSome = true

instance (t : FileTree) (d : Place) : Decidable (t.HasFileIn d) :=
  inferInstanceAs (Decidable ((t.textAt? (d ++ [fileName])).isSome = true))

/-- Of the directories from a place up to the root that have a configuration file, the deepest. -/
structure FileTree.Nearest (t : FileTree) (start d : Place) : Prop where
  above : d <+: start
  hasFile : t.HasFileIn d
  deepest : ∀ d', d' <+: start → t.HasFileIn d' → d'.length ≤ d.length

instance (t : FileTree) (start d : Place) : Decidable (t.Nearest start d) :=
  decidable_of_iff
    (d <+: start ∧ t.HasFileIn d ∧
      ∀ d' ∈ start.ancestors, t.HasFileIn d' → d'.length ≤ d.length)
    ⟨fun h => ⟨h.1, h.2.1, fun d' hd' => h.2.2 d' (Place.mem_ancestors_iff.2 hd')⟩,
      fun h => ⟨h.above, h.hasFile, fun d' hd' => h.deepest d' (Place.mem_ancestors_iff.1 hd')⟩⟩

namespace FileTree

variable {t t' : FileTree} {start d : Place}

/-- A directory with a file is the nearest one to itself. -/
theorem nearest_self (h : t.HasFileIn start) : t.Nearest start start :=
  ⟨List.prefix_refl _, h, fun _ hd' _ => hd'.length_le⟩

/-- There is only one nearest directory, for two directories of one chain that are equally deep are
the same. -/
theorem Nearest.unique {d' : Place} (h : t.Nearest start d) (h' : t.Nearest start d') : d = d' := by
  have hle := h'.deepest d h.above h.hasFile
  have hge := h.deepest d' h'.above h'.hasFile
  exact (List.prefix_of_prefix_length_le h.above h'.above hle).eq_of_length_le hge

/-- Above a directory without a file, the nearest one is that of the directory it lies in. -/
theorem nearest_concat_iff {name : String} (hno : ¬ t.HasFileIn (start ++ [name])) :
    t.Nearest (start ++ [name]) d ↔ t.Nearest start d := by
  -- The directories with a file are the same in both chains.
  have habove : ∀ d', t.HasFileIn d' → (d' <+: start ++ [name] ↔ d' <+: start) := by
    intro d' hd'
    rw [List.prefix_concat_iff]
    constructor
    · rintro (rfl | h)
      · exact absurd hd' hno
      · exact h
    · exact Or.inr
  constructor
  · intro h
    exact ⟨(habove d h.hasFile).1 h.above, h.hasFile,
      fun d' hd' hfile => h.deepest d' ((habove d' hfile).2 hd') hfile⟩
  · intro h
    exact ⟨(habove d h.hasFile).2 h.above, h.hasFile,
      fun d' hd' hfile => h.deepest d' ((habove d' hfile).1 hd') hfile⟩

/-- A chain has a nearest directory, or no directory of it has a file. -/
theorem nearest_or_none (t : FileTree) (start : Place) :
    (∃ d, t.Nearest start d) ∨ ∀ d, d <+: start → ¬ t.HasFileIn d := by
  induction start using List.reverseRecOn with
  | nil =>
    by_cases hfile : t.HasFileIn []
    · exact .inl ⟨[], nearest_self hfile⟩
    · right
      intro d hd
      rwa [List.prefix_nil.1 hd]
  | append_singleton start name ih =>
    by_cases hfile : t.HasFileIn (start ++ [name])
    · exact .inl ⟨_, nearest_self hfile⟩
    · obtain ⟨d, hd⟩ | hnone := ih
      · exact .inl ⟨d, (nearest_concat_iff hfile).2 hd⟩
      · right
        intro d hd
        obtain rfl | habove := List.prefix_concat_iff.1 hd
        · exact hfile
        · exact hnone d habove

/-- Between a place and the nearest directory of its chain, that directory stays the nearest. -/
theorem Nearest.between {middle : Place} (h : t.Nearest start d) (hd : d <+: middle)
    (hmiddle : middle <+: start) : t.Nearest middle d :=
  ⟨hd, h.hasFile, fun d' hd' hfile => h.deepest d' (hd'.trans hmiddle) hfile⟩

/-- Only the chain counts. -/
theorem Nearest.congr (hsame : ∀ d', d' <+: start → (t'.HasFileIn d' ↔ t.HasFileIn d'))
    (h : t.Nearest start d) : t'.Nearest start d :=
  ⟨h.above, (hsame d h.above).2 h.hasFile,
    fun d' hd' hfile => h.deepest d' hd' ((hsame d' hd').1 hfile)⟩

end FileTree

namespace Environment

variable {env : Environment} {start d : Place}

/-- The search asks each directory of the chain in turn. -/
theorem nearestFile?_eq (env : Environment) (start : Place) :
    env.nearestFile? start = start.ancestors.findSome? fun d =>
      if env.tree.HasFileIn d then some (pathOf (d ++ [fileName])) else none :=
  rfl

/-- One step of the search: the file of the directory itself, or else what is found above it. -/
theorem nearestFile?_concat (env : Environment) (start : Place) (name : String) :
    env.nearestFile? (start ++ [name]) =
      if env.tree.HasFileIn (start ++ [name]) then some (pathOf (start ++ [name] ++ [fileName]))
      else env.nearestFile? start := by
  rw [nearestFile?_eq, Place.ancestors_concat, List.findSome?_cons]
  by_cases hfile : env.tree.HasFileIn (start ++ [name])
  · rw [if_pos hfile, if_pos hfile]
  · rw [if_neg hfile, if_neg hfile]
    rfl

/-- **The search finds the file of the nearest directory**, by induction on the start from its last
name. -/
theorem nearestFile?_of_nearest (h : env.tree.Nearest start d) :
    env.nearestFile? start = some (pathOf (d ++ [fileName])) := by
  induction start using List.reverseRecOn with
  | nil =>
    obtain rfl := List.prefix_nil.1 h.above
    rw [nearestFile?_eq, Place.ancestors_nil, List.findSome?_cons, if_pos h.hasFile]
  | append_singleton start name ih =>
    rw [nearestFile?_concat]
    by_cases hfile : env.tree.HasFileIn (start ++ [name])
    · rw [if_pos hfile, h.unique (FileTree.nearest_self hfile)]
    · rw [if_neg hfile]
      exact ih ((FileTree.nearest_concat_iff hfile).1 h)

/-- Where no directory of the chain has a file, none is found. -/
theorem nearestFile?_of_none (h : ∀ d, d <+: start → ¬ env.tree.HasFileIn d) :
    env.nearestFile? start = none := by
  rw [nearestFile?_eq, List.findSome?_eq_none_iff]
  intro d hd
  exact if_neg (h d (Place.mem_ancestors_iff.1 hd))

end Environment

/-! ## Reaching the file -/

/-- Following a path never brings two dots into a place. -/
theorem Place.dots_not_mem_follow {start : Place} (parts : List String) (h : ".." ∉ start) :
    ".." ∉ start.follow parts := by
  induction parts generalizing start with
  | nil => exact h
  | cons part more ih =>
    unfold follow
    split
    case isTrue => exact ih fun hmem => h (List.mem_of_mem_dropLast hmem)
    case isFalse hpart =>
      apply ih
      rw [List.mem_append, List.mem_singleton]
      rintro (hmem | heq)
      · exact h hmem
      · exact hpart heq.symm

/-- A path that is resolved in a place without steps up is a place without steps up. -/
theorem Path.dots_not_mem_resolve {cwd : Place} (p : Path) (h : ".." ∉ cwd) :
    ".." ∉ p.resolve cwd := by
  unfold resolve
  apply Place.dots_not_mem_follow
  split
  · exact List.not_mem_nil
  · exact h

namespace FileTree

variable {t : FileTree} {d : Place}

/-- What a file lies in is a directory. -/
theorem isDirectory_of_file {part : String} {more : List String}
    (h : (t.textAt? (d ++ part :: more)).isSome = true) : t.isDirectory d = true := by
  obtain ⟨⟨file, text⟩, hmem, heq⟩ := List.lookup_isSome_iff.1 h
  obtain rfl : d ++ part :: more = file := eq_of_beq heq
  have hne : d ≠ d ++ part :: more := fun heq => by
    have hlength := congrArg List.length heq
    rw [List.length_append, List.length_cons] at hlength
    omega
  unfold isDirectory
  rw [Bool.or_eq_true, List.any_eq_true]
  right
  refine ⟨_, hmem, ?_⟩
  rw [Bool.and_eq_true, List.isPrefixOf_iff_prefix, bne_iff_ne]
  exact ⟨List.prefix_append _ _, hne⟩

/-- The way to a file goes through directories of the tree only. -/
theorem walk_of_file {parts : List String} (hdots : ".." ∉ parts)
    (h : (t.textAt? (d ++ parts)).isSome = true) : t.walk d parts = some (d ++ parts) := by
  induction parts generalizing d with
  | nil =>
    rw [List.append_nil]
    rfl
  | cons part more ih =>
    rw [List.mem_cons, not_or] at hdots
    have hcons : d ++ part :: more = d ++ [part] ++ more := List.append_cons d part more
    unfold walk
    rw [if_neg (by rw [isDirectory_of_file h]; decide), if_neg (Ne.symm hdots.1), hcons]
    exact ih hdots.2 (by rwa [← hcons])

/-- The configuration file of a directory is reached by its path. -/
theorem read?_of_hasFileIn {cwd : Place} (hdots : ".." ∉ d) (h : t.HasFileIn d) :
    t.read? cwd (Environment.pathOf (d ++ [fileName])) = t.textAt? (d ++ [fileName]) := by
  have hparts : ".." ∉ d ++ [fileName] := by
    rw [List.mem_append, List.mem_singleton, not_or]
    exact ⟨hdots, by decide⟩
  have hwalk : t.walk [] (d ++ [fileName]) = some (d ++ [fileName]) := walk_of_file hparts h
  show (t.walk [] (d ++ [fileName])).bind t.textAt? = _
  rw [hwalk]
  rfl

end FileTree

/-! ## What says which file it is -/

/-- A text that says nothing: it is missing or empty. -/
def Unset (said : Option String) : Prop := ∀ text, said = some text → text = ""

theorem unset_none : Unset none := nofun

/-- A choice of a file is left open, or some text is said. -/
theorem unset_or_said (said : Option String) :
    Unset said ∨ ∃ text, said = some text ∧ text ≠ "" := by
  by_cases h : Unset said
  · exact .inl h
  · right
    obtain ⟨text, hnot⟩ := not_forall.1 h
    exact ⟨text, Classical.not_imp.1 hnot⟩

namespace Environment

/-- The configuration file in effect: the one asked for, else the one that the variable names, else
that of the nearest directory, where each of the first two is final even if its file is missing. -/
inductive InEffect (env : Environment) (asked : Option String) (start : Path) : Option Path → Prop
  | asked {text : String} : asked = some text → text ≠ "" → env.isFile (.ofText text) = true →
      InEffect env asked start (some (.ofText text))
  | askedMissing {text : String} : asked = some text → text ≠ "" →
      env.isFile (.ofText text) = false → InEffect env asked start none
  | named {text : String} : Unset asked → env.vars.lookup fileVariable = some text → text ≠ "" →
      env.isFile (.ofText text) = true → InEffect env asked start (some (.ofText text))
  | namedMissing {text : String} : Unset asked → env.vars.lookup fileVariable = some text →
      text ≠ "" → env.isFile (.ofText text) = false → InEffect env asked start none
  | nearest {d : Place} : Unset asked → Unset (env.vars.lookup fileVariable) →
      env.tree.Nearest (start.resolve env.cwd) d →
      InEffect env asked start (some (pathOf (d ++ [fileName])))
  | nowhere : Unset asked → Unset (env.vars.lookup fileVariable) →
      (∀ d, d <+: start.resolve env.cwd → ¬ env.tree.HasFileIn d) → InEffect env asked start none

variable {env : Environment} {asked : Option String} {start : Path} {file : Option Path}

/-- Where no file is asked for, the file is the one that is found. -/
theorem chooseFile?_of_unset (h : Unset asked) :
    Settings.chooseFile? env asked start = env.findFile? start := by
  unfold Settings.chooseFile?
  split
  case h_1 => rfl
  case h_2 => rfl
  case h_3 text hne => exact absurd (h text rfl) hne

/-- A file that is asked for is chosen if it is there, and no other takes its place. -/
theorem chooseFile?_of_asked {text : String} (h : asked = some text) (hne : text ≠ "") :
    Settings.chooseFile? env asked start =
      if env.isFile (.ofText text) then some (.ofText text) else none := by
  subst h
  unfold Settings.chooseFile?
  split
  case h_1 heq => cases heq
  case h_2 heq => exact absurd (Option.some.inj heq) hne
  case h_3 heq => rw [Option.some.inj heq]

/-- Where the variable names no file, the nearest one counts. -/
theorem findFile?_of_unset (h : Unset (env.vars.lookup fileVariable)) :
    env.findFile? start = env.nearestFile? (start.resolve env.cwd) := by
  unfold findFile?
  split
  case h_1 => rfl
  case h_2 => rfl
  case h_3 text hne heq => exact absurd (h text heq) hne

/-- A file that the variable names is found if it is there, and no other takes its place. -/
theorem findFile?_of_named {text : String} (h : env.vars.lookup fileVariable = some text)
    (hne : text ≠ "") :
    env.findFile? start = if env.isFile (.ofText text) then some (.ofText text) else none := by
  unfold findFile?
  rw [h]
  split
  case h_1 heq => cases heq
  case h_2 heq => exact absurd (Option.some.inj heq) hne
  case h_3 heq => rw [Option.some.inj heq]

/-- Every case of the table is what is chosen. -/
theorem InEffect.chooseFile?_eq (h : env.InEffect asked start file) :
    Settings.chooseFile? env asked start = file := by
  cases h with
  | asked hasked hne hfile => rw [chooseFile?_of_asked hasked hne, if_pos hfile]
  | askedMissing hasked hne hfile => rw [chooseFile?_of_asked hasked hne, hfile]; rfl
  | named hunset hnamed hne hfile =>
    rw [chooseFile?_of_unset hunset, findFile?_of_named hnamed hne, if_pos hfile]
  | namedMissing hunset hnamed hne hfile =>
    rw [chooseFile?_of_unset hunset, findFile?_of_named hnamed hne, hfile]; rfl
  | nearest hunset hunnamed hnearest =>
    rw [chooseFile?_of_unset hunset, findFile?_of_unset hunnamed, nearestFile?_of_nearest hnearest]
  | nowhere hunset hunnamed hnone =>
    rw [chooseFile?_of_unset hunset, findFile?_of_unset hunnamed, nearestFile?_of_none hnone]

/-- The table has a case for everything that is asked, named and found. -/
theorem exists_inEffect (env : Environment) (asked : Option String) (start : Path) :
    ∃ file, env.InEffect asked start file := by
  obtain hunset | ⟨text, hasked, hne⟩ := unset_or_said asked
  · obtain hunnamed | ⟨text, hnamed, hne⟩ := unset_or_said (env.vars.lookup fileVariable)
    · obtain ⟨d, hd⟩ | hnone := env.tree.nearest_or_none (start.resolve env.cwd)
      · exact ⟨_, .nearest hunset hunnamed hd⟩
      · exact ⟨_, .nowhere hunset hunnamed hnone⟩
    · cases hfile : env.isFile (.ofText text) with
      | true => exact ⟨_, .named hunset hnamed hne hfile⟩
      | false => exact ⟨_, .namedMissing hunset hnamed hne hfile⟩
  · cases hfile : env.isFile (.ofText text) with
    | true => exact ⟨_, .asked hasked hne hfile⟩
    | false => exact ⟨_, .askedMissing hasked hne hfile⟩

/-- **The table is what is chosen.** -/
theorem chooseFile?_eq_iff :
    Settings.chooseFile? env asked start = file ↔ env.InEffect asked start file := by
  constructor
  · intro h
    obtain ⟨file', h'⟩ := env.exists_inEffect asked start
    rwa [← h, h'.chooseFile?_eq]
  · exact InEffect.chooseFile?_eq

/-- Between the start and the nearest directory, everything is as at the start. -/
theorem InEffect.between {start' : Path} {d : Place} (h : env.InEffect asked start file)
    (hnearest : env.tree.Nearest (start.resolve env.cwd) d) (hd : d <+: start'.resolve env.cwd)
    (hstart : start'.resolve env.cwd <+: start.resolve env.cwd) :
    env.InEffect asked start' file := by
  cases h with
  | asked hasked hne hfile => exact .asked hasked hne hfile
  | askedMissing hasked hne hfile => exact .askedMissing hasked hne hfile
  | named hunset hnamed hne hfile => exact .named hunset hnamed hne hfile
  | namedMissing hunset hnamed hne hfile => exact .namedMissing hunset hnamed hne hfile
  | nearest hunset hunnamed hnearest' =>
    obtain rfl := hnearest.unique hnearest'
    exact .nearest hunset hunnamed (hnearest.between hd hstart)
  | nowhere hunset hunnamed hnone => exact absurd hnearest.hasFile (hnone d hnearest.above)

/-- Another tree with configuration files in the same directories of the chain. -/
theorem nearestFile?_congr {t' : FileTree} {start : Place}
    (hsame : ∀ d, d <+: start → (t'.HasFileIn d ↔ env.tree.HasFileIn d)) :
    nearestFile? { env with tree := t' } start = env.nearestFile? start := by
  obtain ⟨d, hd⟩ | hnone := env.tree.nearest_or_none start
  · have hd' : t'.Nearest start d := hd.congr hsame
    rw [nearestFile?_of_nearest hd, nearestFile?_of_nearest hd']
  · have hnone' : ∀ d, d <+: start → ¬ t'.HasFileIn d :=
      fun d hd hfile => hnone d hd ((hsame d hd).1 hfile)
    rw [nearestFile?_of_none hnone, nearestFile?_of_none hnone']

/-- Trees that have their files in the same directories of the chain lead to the same choice. -/
theorem chooseFile?_congr {t' : FileTree} (hunset : Unset asked)
    (hunnamed : Unset (env.vars.lookup fileVariable))
    (hsame : ∀ d, d <+: start.resolve env.cwd → (t'.HasFileIn d ↔ env.tree.HasFileIn d)) :
    Settings.chooseFile? { env with tree := t' } asked start =
      Settings.chooseFile? env asked start := by
  have hunnamed' : Unset (({ env with tree := t' } : Environment).vars.lookup fileVariable) :=
    hunnamed
  rw [chooseFile?_of_unset hunset, chooseFile?_of_unset hunset, findFile?_of_unset hunnamed,
    findFile?_of_unset hunnamed', nearestFile?_congr hsame]

end Environment

/-! ## The settings -/

namespace Settings

variable {env : Environment} {asked : Option String} {start : Path} {flags : Fields}

/-- Trouble with a file is reported about the very file that was to be read. -/
theorem readFile_eq_badFile {file : Option Path} {path : Path} {trouble : FileTrouble}
    (h : readFile env file = .error (.badFile path trouble)) : file = some path := by
  unfold readFile at h
  split at h
  case h_1 => cases h
  case h_2 =>
    split at h
    case h_1 => cases h
    case h_2 =>
      split at h
      case h_1 => cases h
      case h_2 =>
        cases h
        rfl

/-- A file that is wrong is the file in effect. -/
theorem load_eq_badFile {path : Path} {trouble : FileTrouble}
    (h : load env asked start flags = .error (.badFile path trouble)) :
    chooseFile? env asked start = some path := by
  unfold load at h
  simp only at h
  split at h
  case h_1 e hread =>
    obtain rfl := Except.error.inj h
    exact readFile_eq_badFile hread
  case h_2 =>
    -- Behind the file, an error is about a variable or about the settings.
    split at h
    case h_1 => cases h
    case h_2 => split at h <;> cases h

/-- Another tree with the same configuration files in the directories of the chain gives the same
settings, or fails in the same way. -/
theorem load_congr {t' : FileTree} (hcwd : ".." ∉ env.cwd) (hunset : Unset asked)
    (hunnamed : Unset (env.vars.lookup fileVariable))
    (hsame : ∀ d, d <+: start.resolve env.cwd →
      t'.textAt? (d ++ [fileName]) = env.tree.textAt? (d ++ [fileName])) :
    load { env with tree := t' } asked start flags = load env asked start flags := by
  have hfiles : ∀ d, d <+: start.resolve env.cwd → (t'.HasFileIn d ↔ env.tree.HasFileIn d) := by
    intro d hd
    show (t'.textAt? _).isSome = true ↔ _
    rw [hsame d hd]
    rfl
  have hread : readFile { env with tree := t' } (chooseFile? env asked start) =
      readFile env (chooseFile? env asked start) := by
    rw [Environment.chooseFile?_of_unset hunset, Environment.findFile?_of_unset hunnamed]
    obtain ⟨d, hd⟩ | hnone := env.tree.nearest_or_none (start.resolve env.cwd)
    · have hdots : ".." ∉ d := fun hmem =>
        start.dots_not_mem_resolve hcwd (hd.above.subset hmem)
      have htext : env.tree.read? env.cwd (Environment.pathOf (d ++ [fileName])) = _ :=
        FileTree.read?_of_hasFileIn hdots hd.hasFile
      have htext' : t'.read? env.cwd (Environment.pathOf (d ++ [fileName])) = _ :=
        FileTree.read?_of_hasFileIn hdots ((hfiles d hd.above).2 hd.hasFile)
      rw [Environment.nearestFile?_of_nearest hd]
      unfold readFile
      simp only [htext, htext', hsame d hd.above]
    · rw [Environment.nearestFile?_of_none hnone]
      rfl
  unfold load
  simp only [Environment.chooseFile?_congr hunset hunnamed hfiles, hread]

end Settings

/-- **The configuration file in effect is the nearest one.**  What is chosen, and what is found when
nothing is asked for, is what the table says: the file asked for or none, else the file that the
variable names or none, else the file of the deepest directory of the chain that has one, and none
if no directory has.  From a directory between the start and that one the choice is the same.
Where the search decides, what lies outside of the chain neither changes the choice nor the
settings.  The settings are those of the chosen file, and a file that is wrong is that one. -/
theorem Settings.nearest_file_in_effect (env : Environment) (asked : Option String) (start : Path) :
    (∀ file, chooseFile? env asked start = file ↔ env.InEffect asked start file) ∧
    (∀ file, env.findFile? start = file ↔ env.InEffect none start file) ∧
    (∀ (start' : Path) (d : Place), env.tree.Nearest (start.resolve env.cwd) d →
      d <+: start'.resolve env.cwd → start'.resolve env.cwd <+: start.resolve env.cwd →
      chooseFile? env asked start' = chooseFile? env asked start) ∧
    (Unset asked → Unset (env.vars.lookup fileVariable) → ∀ t' : FileTree,
      (∀ d, d <+: start.resolve env.cwd → (t'.HasFileIn d ↔ env.tree.HasFileIn d)) →
      chooseFile? { env with tree := t' } asked start = chooseFile? env asked start) ∧
    ∀ flags : Fields,
      (∀ s, load env asked start flags = .ok s → s.file = chooseFile? env asked start) ∧
      (∀ path trouble, load env asked start flags = .error (.badFile path trouble) →
        chooseFile? env asked start = some path) ∧
      (".." ∉ env.cwd → Unset asked → Unset (env.vars.lookup fileVariable) → ∀ t' : FileTree,
        (∀ d, d <+: start.resolve env.cwd →
          t'.textAt? (d ++ [fileName]) = env.tree.textAt? (d ++ [fileName])) →
        load { env with tree := t' } asked start flags = load env asked start flags) := by
  refine ⟨fun file => Environment.chooseFile?_eq_iff, fun file => ?_, ?_, ?_,
    fun flags => ⟨?_, ?_, ?_⟩⟩
  · have hunasked : chooseFile? env none start = file ↔ env.InEffect none start file :=
      Environment.chooseFile?_eq_iff
    exact hunasked
  · intro start' d hnearest hd hstart
    have hchosen := Environment.chooseFile?_eq_iff.1 (rfl : chooseFile? env asked start = _)
    exact (hchosen.between hnearest hd hstart).chooseFile?_eq
  · intro hunset hunnamed t' hsame
    exact Environment.chooseFile?_congr hunset hunnamed hsame
  · intro s h
    exact Call.load_eq_ok (c := ⟨env, asked, start, flags⟩) h
  · intro path trouble h
    exact load_eq_badFile h
  · intro hcwd hunset hunnamed t' hsame
    exact load_congr hcwd hunset hunnamed hsame

/-- A tree with a configuration file in the root and one further down, where one directory has its
name, and with what else there is. -/
def FileTree.nested (files : List (Place × String)) (directories : List Place) : FileTree where
  files := (["datemath.toml"], "") :: (["work", "datemath.toml"], "today = \"2022-01-31\"") :: files
  directories := ["work", "a", "datemath.toml"] :: directories

/-- The directory below the lower of the two files. -/
def Environment.nested (vars : List (String × String)) : Environment :=
  ⟨.nested [] [], ["work", "a"], vars⟩

/-- From a directory that does not exist, the file two directories further up is found, past the
directory of that name; a file that is asked for or named hides it, even if missing, and a file
beside the chain does not matter, even if wrong. -/
theorem Settings.nearest_file_in_effect_nested :
    (Environment.nested []).findFile? (.ofText "b/../b/c") = some ⟨"/", ["work", "datemath.toml"]⟩ ∧
    chooseFile? (Environment.nested []) none (.ofText ".") =
      chooseFile? (Environment.nested []) none (.ofText "b/../b/c") ∧
    chooseFile? (Environment.nested []) (some "missing") (.ofText "..") = none ∧
    (Environment.nested [("DATEMATH_CONFIG", "missing")]).findFile? (.ofText "..") = none ∧
    chooseFile? (Environment.nested [("DATEMATH_CONFIG", "missing")]) (some "../../datemath.toml")
      (.ofText "..") = some ⟨"", ["..", "..", "datemath.toml"]⟩ ∧
    load ⟨.nested [(["other", "datemath.toml"], "today = 5")] [["work", "a", "b"]], ["work", "a"], []⟩
      (some "") (.ofText "b/../b/c") [] =
        .ok ⟨some ⟨"/", ["work", "datemath.toml"]⟩, some "2022-01-31", false, false, false, false,
          false, false⟩ := by
  have hnearest : (Environment.nested []).tree.Nearest
      (Path.resolve (.ofText "b/../b/c") (Environment.nested []).cwd) ["work"] := by decide +kernel
  have hunnamed : Unset ((Environment.nested []).vars.lookup fileVariable) := unset_none
  have hempty : Unset (some "") := by
    intro text h
    exact (Option.some.inj h).symm
  have hmissing : (Environment.nested []).isFile (.ofText "missing") = false := by decide +kernel
  have hfile : (Environment.nested []).isFile (.ofText "../../datemath.toml") = true := by
    decide +kernel
  have hsame : ∀ d ∈ (Path.resolve (.ofText "b/../b/c") (Environment.nested []).cwd).ancestors,
      (FileTree.nested [(["other", "datemath.toml"], "today = 5")]
        [["work", "a", "b"]]).textAt? (d ++ [fileName]) =
      (Environment.nested []).tree.textAt? (d ++ [fileName]) := by decide +kernel
  refine ⟨?_, ?_, ?_, ?_, ?_, ?_⟩
  · rw [(nearest_file_in_effect _ none _).2.1]
    exact .nearest unset_none hunnamed hnearest
  · exact (nearest_file_in_effect _ none _).2.2.1 _ _ hnearest (by decide +kernel) (by decide +kernel)
  · rw [(nearest_file_in_effect _ _ _).1]
    exact .askedMissing rfl (by decide) hmissing
  · rw [(nearest_file_in_effect _ none _).2.1]
    exact .namedMissing unset_none rfl (by decide) hmissing
  · rw [(nearest_file_in_effect _ _ _).1]
    exact .asked rfl (by decide) hfile
  · have hload := ((nearest_file_in_effect (.nested []) (some "") (.ofText "b/../b/c")).2.2.2.2
      []).2.2 (by decide) hempty hunnamed
      (.nested [(["other", "datemath.toml"], "today = 5")] [["work", "a", "b"]])
      fun d hd => hsame d (Place.mem_ancestors_iff.2 hd)
    exact hload.trans (by decide +kernel)

end DateCalc.Config
