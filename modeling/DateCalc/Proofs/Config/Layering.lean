/-
  The settings are layered leaf by leaf.

  The three sources are the flags, the variables of the environment, and the document of the
  configuration file in effect.  Each is read as it is given (`Call.written?`), and each must be
  valid by itself.  Then there are settings, and every leaf of them has the value of the highest
  source that writes it, or its default (`Call.settings_layered`).

  The proof is one merge after another: each source makes a layer, layers merge to a layer, and
  what a merged layer has at a leaf is the choice of `Layer.in?_merge`.

  For the key of a section it takes more than its own variable to say what the environment writes: a
  JSON null for the section hides that variable, and a key spelled otherwise further on in the JSON
  object counts before it (`Call.section_before_key_variable`).
-/
import DateCalc.Proofs.Config.Sources
import DateCalc.Proofs.Config.Variables

namespace DateCalc.Config

/-! ## Running the checks -/

instance decidablePassed {α : Type} (a : Checked α) : Decidable (∃ x, a = .passed x) :=
  match a with
  | .passed x => isTrue ⟨x, rfl⟩
  | .rejected _ => isFalse nofun

instance decidableOk {ε α : Type} (a : Except ε α) (p : α → Prop) [DecidablePred p] :
    Decidable (∃ x, a = .ok x ∧ p x) :=
  match a with
  | .error _ => isFalse nofun
  | .ok x => decidable_of_iff (p x)
      ⟨fun h => ⟨x, rfl, h⟩, fun ⟨_, heq, h⟩ => Except.ok.inj heq ▸ h⟩

/-! ## Calls and their sources -/

/-- What settings are made from: the surroundings, the configuration file that is asked for, the
directory from which one is looked for, and the flags. -/
structure Call where
  env : Environment
  asked : Option String
  start : Path
  flags : Fields

/-- Where the value of a leaf may come from. -/
inductive Source where
  | flags
  | environment
  | file
  deriving DecidableEq

/-- The sources that come before another. -/
def Source.above : Source → List Source
  | flags => []
  | environment => [flags]
  | file => [flags, environment]

namespace Call

/-- The configuration file in effect. -/
def file? (c : Call) : Option Path := Settings.chooseFile? c.env c.asked c.start

/-- The settings of a call. -/
def load (c : Call) : Except LoadError Settings := Settings.load c.env c.asked c.start c.flags

/-- The document of the configuration file in effect, with nothing in it where there is none. -/
def document (c : Call) : Fields :=
  match (c.file?.bind (c.env.tree.read? c.env.cwd)).map Toml.read with
  | some (.ok doc) => doc
  | _ => []

/-- The value that a source writes at a leaf, if it sets it. -/
def written? (c : Call) : Source → Leaf → Option Value
  | .flags, ℓ => ℓ.slot.inFlags? c.flags
  | .environment, ℓ => ℓ.slot.inVariables? c.env.vars
  | .file, ℓ => ℓ.slot.in? c.document

/-- The value of the highest source that sets a leaf. -/
def highest? (c : Call) (ℓ : Leaf) : Option Value :=
  (c.written? .flags ℓ).or ((c.written? .environment ℓ).or (c.written? .file ℓ))

/-- Every source is valid by itself, and the sections among the flags have no key twice. -/
structure Valid (c : Call) : Prop where
  file : ∃ f, Settings.readFile c.env c.file? = .ok f
  environment : ∃ fields, variableFields c.env.vars = .ok fields ∧
    ∃ s, Settings.check none fields = .passed s
  flags : ∃ s, Settings.check none (flagFields c.flags) = .passed s
  distinct : ∀ name inner, (name, .object inner) ∈ c.flags → (inner.map Prod.fst).Nodup

variable {c : Call}

/-! ## The file -/

/-- A file that can be used is what its document says. -/
theorem check_document {f : File} (h : Settings.readFile c.env c.file? = .ok f) :
    File.check c.document = .passed f := by
  unfold Settings.readFile at h
  unfold document
  cases hfile : c.file? with
  | none =>
    rw [hfile] at h
    cases h
    rfl
  | some path =>
    rw [hfile] at h
    cases htext : c.env.tree.read? c.env.cwd path with
    | none =>
      simp only [htext] at h
      cases h
      simp only [Option.bind_some, htext]
      rfl
    | some text =>
      simp only [htext, File.read] at h
      simp only [Option.bind_some, htext, Option.map_some]
      cases hdoc : Toml.read text with
      | error trouble => rw [hdoc] at h; cases h
      | ok doc =>
        simp only [hdoc] at h
        cases hcheck : File.check doc with
        | rejected complaints => rw [hcheck] at h; cases h
        | passed f' => rw [hcheck] at h; cases h; rfl

theorem document_congr {d : Call} (hfile : d.file? = c.file?) (htree : d.env.tree = c.env.tree)
    (hcwd : d.env.cwd = c.env.cwd) : d.document = c.document := by
  rw [document, document, hfile, htree, hcwd]

/-- Of the variables only the one for it bears on which file is in effect, and this one only where no
file is asked for. -/
theorem file?_congr {vars : List (String × String)}
    (h : (∀ text, c.asked = some text → text = "") →
      vars.lookup fileVariable = c.env.vars.lookup fileVariable) :
    Call.file? ⟨{ c.env with vars := vars }, c.asked, c.start, c.flags⟩ = c.file? := by
  have hfind : vars.lookup fileVariable = c.env.vars.lookup fileVariable →
      ({ c.env with vars := vars } : Environment).findFile? c.start = c.env.findFile? c.start := by
    intro hsame
    rw [Environment.findFile?, Environment.findFile?, hsame]
    rfl
  show Settings.chooseFile? { c.env with vars := vars } c.asked c.start =
    Settings.chooseFile? c.env c.asked c.start
  unfold Settings.chooseFile?
  split
  case h_1 hasked => exact hfind (h fun text heq => by rw [hasked] at heq; cases heq)
  case h_2 hasked => exact hfind (h fun text heq => by rw [hasked] at heq; cases heq; rfl)
  case h_3 => rfl

/-! ## The merge -/

/-- Settings that are loaded name the file in effect. -/
theorem load_eq_ok {s : Settings} (h : c.load = .ok s) : s.file = c.file? := by
  unfold load Settings.load at h
  simp only at h
  split at h
  case h_1 => cases h
  case h_2 =>
    split at h
    case h_1 => cases h
    case h_2 =>
      split at h
      case h_1 s' hcheck =>
        obtain rfl := Except.ok.inj h
        exact (check_eq_passed_iff.1 hcheck).2.1
      case h_2 => cases h

/-- Where every source is valid, there are settings, and every leaf is read from the highest source
that sets it. -/
theorem load_of_valid (h : c.Valid) :
    ∃ s, c.load = .ok s ∧ ∀ ℓ : Leaf, ℓ.readOr (c.highest? ℓ) = .passed (s.at ℓ) := by
  obtain ⟨f, hfile⟩ := h.file
  obtain ⟨vars, hvars, sv, hcheckVars⟩ := h.environment
  obtain ⟨sf, hcheckFlags⟩ := h.flags
  obtain ⟨hlf, hreadFile⟩ := File.fields_layer (check_document hfile)
  obtain ⟨hlv, hwriteVars⟩ := variableFields_layer hvars hcheckVars
  obtain ⟨hlg, hwriteFlags⟩ := flagFields_layer hcheckFlags h.distinct
  have hupper := hlv.merge hlg
  have hall := hlf.merge hupper
  obtain ⟨s, hs⟩ := hall.passes c.file?
  refine ⟨s, ?_, fun ℓ => ?_⟩
  · unfold load Settings.load
    rw [show Settings.chooseFile? c.env c.asked c.start = c.file? from rfl]
    simp only [hfile, hvars, hs]
  · have hread := (check_eq_passed_iff.1 hs).2.2 ℓ
    rw [Layer.in?_merge hlf hupper, Layer.in?_merge hlv hlg, hwriteFlags, hwriteVars] at hread
    rw [← hread, highest?]
    show _ = ℓ.readOr (((c.written? .flags ℓ).or (c.written? .environment ℓ)).or _)
    cases c.written? .flags ℓ with
    | some v => rfl
    | none =>
      cases c.written? .environment ℓ with
      | some v => rfl
      | none => exact (hreadFile ℓ).symm

/-- A leaf has the same value wherever it is read from the same value. -/
theorem at_congr {d : Call} {s t : Settings} {ℓ : Leaf}
    (hs : ℓ.readOr (c.highest? ℓ) = .passed (s.at ℓ))
    (ht : ℓ.readOr (d.highest? ℓ) = .passed (t.at ℓ))
    (h : d.highest? ℓ = c.highest? ℓ) : t.at ℓ = s.at ℓ := by
  rw [h] at ht
  exact Checked.passed.inj (ht.symm.trans hs)

/-- Two calls whose sources write the same except one source at one leaf read the same at every
other leaf, and at that leaf too if a higher source sets it. -/
theorem highest?_congr {d : Call} {σ : Source} {ℓ : Leaf}
    (h : ∀ τ k, (τ, k) ≠ (σ, ℓ) → d.written? τ k = c.written? τ k) :
    (∀ k, k ≠ ℓ → d.highest? k = c.highest? k) ∧
      ((∃ τ ∈ σ.above, (c.written? τ ℓ).isSome) → d.highest? ℓ = c.highest? ℓ) := by
  constructor
  · intro k hk
    have hsame : ∀ τ, d.written? τ k = c.written? τ k := fun τ => h τ k fun heq =>
      hk (congrArg Prod.snd heq)
    rw [highest?, highest?, hsame, hsame, hsame]
  · rintro ⟨τ, hτ, hset⟩
    have hother : ∀ τ, τ ≠ σ → d.written? τ ℓ = c.written? τ ℓ := fun τ hne => h τ ℓ fun heq =>
      hne (congrArg Prod.fst heq)
    cases σ with
    | flags => cases hτ
    | environment =>
      obtain rfl := List.mem_singleton.1 hτ
      rw [highest?, highest?, hother .flags nofun, Option.or_of_isSome hset,
        Option.or_of_isSome hset]
    | file =>
      rw [highest?, highest?, hother .flags nofun, hother .environment nofun]
      cases hflags : c.written? .flags ℓ with
      | some v => rfl
      | none =>
        obtain rfl | hτ := List.mem_cons.1 hτ
        · rw [hflags] at hset
          cases hset
        · obtain rfl := List.mem_singleton.1 hτ
          rw [Option.none_or, Option.none_or, Option.or_of_isSome hset, Option.or_of_isSome hset]

/-- Settings are layered leaf by leaf.

Where every source is valid by itself there are settings, and each leaf of them is the value of the
highest source that sets it, as that leaf is read, or its default.  So a source that writes something
else at one leaf changes no other leaf, and not this one either if a higher source sets it.  The file
of the settings is always the one in effect, and of the environment at most one variable bears on
which that is.  A file that is wrong is an error whatever else is said. -/
theorem settings_layered (c : Call) :
    (c.Valid → ∃ s, c.load = .ok s ∧
      (∀ ℓ : Leaf, match c.highest? ℓ with
        | some v => ℓ.read v = .passed (s.at ℓ)
        | none => s.at ℓ = ℓ.absent) ∧
      ∀ (d : Call) (σ : Source) (ℓ : Leaf), d.Valid →
        (∀ τ k, (τ, k) ≠ (σ, ℓ) → d.written? τ k = c.written? τ k) →
        ∃ t, d.load = .ok t ∧ (∀ k, k ≠ ℓ → t.at k = s.at k) ∧
          ((∃ τ ∈ σ.above, (c.written? τ ℓ).isSome) → t.at ℓ = s.at ℓ)) ∧
    (∀ s, c.load = .ok s → s.file = c.file?) ∧
    (∀ vars, ((∀ text, c.asked = some text → text = "") →
        vars.lookup fileVariable = c.env.vars.lookup fileVariable) →
      Call.file? ⟨{ c.env with vars := vars }, c.asked, c.start, c.flags⟩ = c.file?) ∧
    ∀ path text trouble, c.file? = some path → c.env.tree.read? c.env.cwd path = some text →
      File.read text = .error trouble → c.load = .error (.badFile path trouble) := by
  refine ⟨fun hc => ?_, fun s => load_eq_ok, fun vars => file?_congr,
    fun path text trouble hfile htext htrouble => ?_⟩
  · obtain ⟨s, hs, hread⟩ := load_of_valid hc
    refine ⟨s, hs, fun ℓ => ?_, fun d σ ℓ hd hsame => ?_⟩
    · have hℓ := hread ℓ
      cases hv : c.highest? ℓ with
      | some v => rwa [hv] at hℓ
      | none =>
        rw [hv] at hℓ
        exact (Checked.passed.inj hℓ).symm
    · obtain ⟨t, ht, hread'⟩ := load_of_valid hd
      obtain ⟨hother, hhigher⟩ := highest?_congr hsame
      exact ⟨t, ht, fun k hk => at_congr (hread k) (hread' k) (hother k hk),
        fun hset => at_congr (hread ℓ) (hread' ℓ) (hhigher hset)⟩
  · unfold load Settings.load
    rw [show Settings.chooseFile? c.env c.asked c.start = c.file? from rfl, hfile]
    simp only [Settings.readFile, htext, htrouble]

/-- A call in a directory below the one with the configuration file. -/
def below (text : String) (vars : List (String × String)) (flags : Fields) : Call :=
  ⟨⟨⟨[(["datemath.toml"], text)], []⟩, ["work"], vars⟩, none, Path.ofText ".", flags⟩

/-- A call with something in every source: flags with a switch, a date that is null and a section
without its key, two variables for one key, and a date and a section in the file. -/
def mixed (vars : List (String × String)) : Call :=
  below "today = \"2022-01-31\"\n[output]\nshow_expression = true\n"
    (vars ++ [("DATEMATH_TODAY", "2021-01-01"), ("DATEMATH_PARSE", "\x7b\"strict\": false\x7d"),
      ("datemath_parse__strict", "yes")])
    [("quiet", .bool true), ("today", .null), ("parse", .object [])]

/-- No flag of these calls gives a key twice. -/
theorem mixed_distinct (vars : List (String × String)) (name : String) (inner : Fields)
    (h : (name, Value.object inner) ∈ (mixed vars).flags) : (inner.map Prod.fst).Nodup := by
  obtain ⟨-, rfl⟩ : name = "parse" ∧ inner = [] := by simpa [mixed, below] using h
  exact List.nodup_nil

/-- A variable for a switch that a flag sets changes nothing. -/
theorem settings_layered_mixed :
    (∃ s t, (mixed []).load = .ok s ∧ (mixed [("DATEMATH_QUIET", "0")]).load = .ok t ∧
      s = ⟨some ⟨"/", ["datemath.toml"]⟩, some "2021-01-01", false, true, false, false, true, true⟩ ∧
      ∀ ℓ : Leaf, t.at ℓ = s.at ℓ) ∧
    (below "today = 5" [] [("today", .str "2022-01-31")]).load =
      .error (.badFile ⟨"/", ["datemath.toml"]⟩ (.invalid [⟨["today"], .notText⟩])) := by
  have hvalid : ∀ vars ∈ [[], [("DATEMATH_QUIET", "0")]], (mixed vars).Valid := by
    intro vars hvars
    simp only [List.mem_cons, List.not_mem_nil, or_false] at hvars
    obtain rfl | rfl := hvars
    all_goals
      exact ⟨⟨⟨some "2022-01-31", none, some (some true)⟩, by decide +kernel⟩, by decide +kernel,
        by decide +kernel, mixed_distinct _⟩
  obtain ⟨s, hs, -, hsame⟩ := (settings_layered (mixed [])).1 (hvalid _ List.mem_cons_self)
  have hwritten : ∀ τ k, (τ, k) ≠ (Source.environment, Leaf.quiet) →
      (mixed [("DATEMATH_QUIET", "0")]).written? τ k = (mixed []).written? τ k := by
    intro τ k hne
    match τ with
    | .flags => rfl
    | .environment =>
      refine inVariables?_insert ?_ [] _
      cases k <;> first | decide +kernel | exact absurd rfl hne
    | .file =>
      have hfile : (mixed [("DATEMATH_QUIET", "0")]).file? = (mixed []).file? :=
        (settings_layered (mixed [])).2.2.1 _ fun _ => by decide +kernel
      rw [written?, written?, document_congr hfile rfl rfl]
  obtain ⟨t, ht, hother, hquiet⟩ := hsame (mixed [("DATEMATH_QUIET", "0")]) .environment .quiet
    (hvalid _ (List.mem_cons_of_mem _ List.mem_cons_self)) hwritten
  have hload : (mixed []).load = .ok ⟨some ⟨"/", ["datemath.toml"]⟩, some "2021-01-01", false, true,
      false, false, true, true⟩ := by decide +kernel
  refine ⟨⟨s, t, hs, ht, Except.ok.inj (hs.symm.trans hload), fun ℓ => ?_⟩, ?_⟩
  · by_cases hℓ : ℓ = .quiet
    · rw [hℓ]
      exact hquiet ⟨.flags, List.mem_cons_self, by decide +kernel⟩
    · exact hother ℓ hℓ
  · exact (settings_layered _).2.2.2 _ "today = 5" _ (by decide +kernel) (by decide +kernel)
      (by decide +kernel)

/-- A call without a file and without flags. -/
def bare (vars : List (String × String)) : Call :=
  ⟨⟨⟨[], []⟩, [], vars⟩, none, Path.ofText ".", []⟩

/-- The variable of a key does not always come before the JSON object of its section.  A null for
the section hides a variable that says yes, and the key in capitals counts before one that says
no. -/
theorem section_before_key_variable :
    (bare [("DATEMATH_PARSE", "null"), ("DATEMATH_PARSE__STRICT", "1")]).Valid ∧
    (∃ s, (bare [("DATEMATH_PARSE", "null"), ("DATEMATH_PARSE__STRICT", "1")]).load = .ok s ∧
      s.strict = false) ∧
    Leaf.strict.read (.str "1") = .passed (.bool true) ∧
    (bare [("DATEMATH_PARSE", "\x7b\"strict\": false, \"STRICT\": true\x7d"),
      ("DATEMATH_PARSE__STRICT", "0")]).Valid ∧
    (∃ s, (bare [("DATEMATH_PARSE", "\x7b\"strict\": false, \"STRICT\": true\x7d"),
      ("DATEMATH_PARSE__STRICT", "0")]).load = .ok s ∧ s.strict = true) ∧
    Leaf.strict.read (.str "0") = .passed (.bool false) := by
  have hnull : (bare [("DATEMATH_PARSE", "null"), ("DATEMATH_PARSE__STRICT", "1")]).Valid :=
    ⟨⟨.empty, by decide +kernel⟩, by decide +kernel, by decide +kernel, nofun⟩
  have hcapitals : (bare [("DATEMATH_PARSE", "\x7b\"strict\": false, \"STRICT\": true\x7d"),
      ("DATEMATH_PARSE__STRICT", "0")]).Valid :=
    ⟨⟨.empty, by decide +kernel⟩, by decide +kernel, by decide +kernel, nofun⟩
  exact ⟨hnull, by decide +kernel, rfl, hcapitals, by decide +kernel, rfl⟩

end Call

end DateCalc.Config
