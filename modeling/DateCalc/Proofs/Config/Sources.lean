/-
  What the flags say, and what the configuration file says, leaf by leaf.

  Of several flags for one setting the first that has a value counts (`get?_flagFields`).  Flags that
  pass the check are a layer as soon as their sections have no key twice (`flagFields_layer`): a flag
  for no setting at all would not pass, and for a setting only one flag is kept.

  The layer of a configuration file is made again from what was read of it.  It need not have the
  values that the file writes, but at every leaf it is read as they are (`fields_layer`).
-/
import Mathlib.Data.List.Induction
import Mathlib.Data.List.Nodup
import DateCalc.Proofs.Config.Leaves

namespace DateCalc.Config

/-! ## Flags -/

/-- The value that is given, null being none. -/
def given? : Value → Option Value
  | .null => none
  | v => some v

/-- The value of the first flag for a setting that has a value. -/
def flag? (flags : Fields) (setting : String) : Option Value :=
  flags.findSome? fun (name, v) => if Text.lowerCase name = setting then given? v else none

/-- The value that flags write at a place: a section is given as a whole, and may lack the key. -/
def Slot.inFlags? (flags : Fields) : Slot → Option Value
  | plain name => flag? flags name
  | keyed area key => (flag? flags area).bind (·.get? key)

/-- What one flag adds. -/
def addFlag (named : Fields) : String × Value → Fields
  | (_, .null) => named
  | (name, v) =>
    let setting := Text.lowerCase name
    if setting = fileSetting then named
    else if settingNames.contains setting then
      if (named.get? setting).isSome then named else named ++ [(setting, v)]
    else named ++ [(name, v)]

/-- The fields of some flags and one more are those of the flags, with the one added. -/
theorem flagFields_append (flags : Fields) (e : String × Value) :
    flagFields (flags ++ [e]) = addFlag (flagFields flags) e := by
  obtain ⟨name, v⟩ := e
  rw [flagFields, List.foldl_append]
  cases v <;> rfl

/-- Of some flags and one more the last one counts, if it is given and called like the setting in
any letter case. -/
theorem flag?_append (flags : Fields) (name setting : String) (v : Value) :
    flag? (flags ++ [(name, v)]) setting =
      (flag? flags setting).or (if Text.lowerCase name = setting then given? v else none) := by
  rw [flag?, List.findSome?_append, List.findSome?_singleton]
  rfl

theorem lowerCase_of_settingNames : ∀ k ∈ settingNames, Text.lowerCase k = k := by
  decide +kernel

/-- A flag adds nothing, or its value under the setting that it is for, or its value under a name
that is none of the settings. -/
theorem addFlag_cases (named : Fields) (name : String) (v : Value) :
    (given? v = none ∨ Text.lowerCase name ∉ settingNames ∨
        (named.get? (Text.lowerCase name)).isSome) ∧ addFlag named (name, v) = named ∨
    given? v = some v ∧ Text.lowerCase name ∈ settingNames ∧
      named.get? (Text.lowerCase name) = none ∧
        addFlag named (name, v) = named ++ [(Text.lowerCase name, v)] ∨
    Text.lowerCase name ∉ settingNames ∧ name ∉ settingNames ∧
      addFlag named (name, v) = named ++ [(name, v)] := by
  by_cases hgiven : given? v = none
  · cases v <;> cases hgiven
    exact .inl ⟨.inl rfl, rfl⟩
  · have hsome : given? v = some v := by cases v <;> first | rfl | exact absurd rfl hgiven
    have hadd : addFlag named (name, v) =
        if Text.lowerCase name = fileSetting then named
        else if settingNames.contains (Text.lowerCase name) then
          if (named.get? (Text.lowerCase name)).isSome then named
          else named ++ [(Text.lowerCase name, v)]
        else named ++ [(name, v)] := by
      cases v <;> first | rfl | exact absurd rfl hgiven
    rw [hadd]
    by_cases hfile : Text.lowerCase name = fileSetting
    · rw [if_pos hfile]
      exact .inl ⟨.inr (.inl (by rw [hfile]; decide)), rfl⟩
    rw [if_neg hfile]
    by_cases hmem : Text.lowerCase name ∈ settingNames
    · rw [if_pos (List.contains_iff_mem.2 hmem)]
      by_cases hthere : (named.get? (Text.lowerCase name)).isSome = true
      · rw [if_pos hthere]
        exact .inl ⟨.inr (.inr hthere), rfl⟩
      · rw [if_neg hthere]
        exact .inr (.inl ⟨hsome, hmem, Option.not_isSome_iff_eq_none.1 hthere, rfl⟩)
    · rw [if_neg fun hin => hmem (List.contains_iff_mem.1 hin)]
      refine .inr (.inr ⟨hmem, fun hin => hmem ?_, rfl⟩)
      rw [lowerCase_of_settingNames name hin]
      exact hin

/-- A setting has the value of the first flag for it that has one. -/
theorem get?_flagFields (flags : Fields) {k : String} (hk : k ∈ settingNames) :
    (flagFields flags).get? k = flag? flags k := by
  induction flags using List.reverseRecOn with
  | nil => rfl
  | append_singleton flags e ih =>
    obtain ⟨name, v⟩ := e
    rw [flagFields_append, flag?_append]
    obtain ⟨hwhy, hsame⟩ | ⟨hgiven, hmem, hnone, hadd⟩ | ⟨hlower, hname, hadd⟩ :=
      addFlag_cases (flagFields flags) name v
    · rw [hsame, ih]
      by_cases heq : Text.lowerCase name = k
      · rw [if_pos heq]
        rw [heq, ih] at hwhy
        obtain hnull | hnot | hthere := hwhy
        · rw [hnull, Option.or_none]
        · exact absurd hk hnot
        · rw [Option.or_of_isSome hthere]
      · rw [if_neg heq, Option.or_none]
    · rw [hadd, Fields.get?_append, ih]
      by_cases heq : Text.lowerCase name = k
      · rw [if_pos heq, hgiven, heq, Fields.get?_cons_self]
      · rw [if_neg heq, Fields.get?_cons_of_ne (Ne.symm heq)]
        rfl
    · have hne : k ≠ name := fun heq => hname (heq ▸ hk)
      have hother : Text.lowerCase name ≠ k := fun heq => hlower (heq ▸ hk)
      rw [hadd, Fields.get?_append, ih, Fields.get?_cons_of_ne hne, if_neg hother]
      rfl

/-- Of the flags that are kept no two are for the same setting. -/
theorem nodup_flagFields {flags : Fields} (h : ∀ f ∈ flagFields flags, f.1 ∈ settingNames) :
    ((flagFields flags).map Prod.fst).Nodup := by
  induction flags using List.reverseRecOn with
  | nil => exact List.nodup_nil
  | append_singleton flags e ih =>
    obtain ⟨name, v⟩ := e
    rw [flagFields_append] at h ⊢
    obtain ⟨-, hsame⟩ | ⟨-, -, hnone, hadd⟩ | ⟨-, hname, hadd⟩ :=
      addFlag_cases (flagFields flags) name v
    · rw [hsame] at h ⊢
      exact ih h
    · rw [hadd] at h ⊢
      rw [List.map_append, List.nodup_append]
      refine ⟨ih fun f hf => h f (List.mem_append_left _ hf), List.nodup_singleton _,
        fun a ha b hb heq => get?_eq_none_iff.1 hnone ?_⟩
      obtain rfl : b = Text.lowerCase name := List.mem_singleton.1 hb
      exact heq ▸ ha
    · rw [hadd] at h
      exact absurd (h (name, v) (List.mem_append_right _ List.mem_cons_self)) hname

/-- A setting that some flag has was given by one of the flags. -/
theorem mem_of_flag? {flags : Fields} {setting : String} {v : Value}
    (h : flag? flags setting = some v) : ∃ name, (name, v) ∈ flags := by
  obtain ⟨⟨name, w⟩, hmem, hw⟩ := List.exists_of_findSome?_eq_some h
  simp only at hw
  split at hw
  case isTrue =>
    obtain rfl : w = v := by cases w <;> cases hw <;> rfl
    exact ⟨name, hmem⟩
  case isFalse => cases hw

/-- Flags that pass the check are a layer, and write at every leaf what they say. -/
theorem flagFields_layer {flags : Fields} {file : Option Path} {s : Settings}
    (hcheck : Settings.check file (flagFields flags) = .passed s)
    (hdistinct : ∀ name inner, (name, .object inner) ∈ flags → (inner.map Prod.fst).Nodup) :
    Layer (flagFields flags) ∧ ∀ ℓ : Leaf, ℓ.in? (flagFields flags) = ℓ.slot.inFlags? flags := by
  obtain ⟨hshape, -⟩ := check_eq_passed_iff.1 hcheck
  refine ⟨Layer.of_check hcheck (nodup_flagFields hshape.known) fun area key hmem inner hv => ?_,
    fun ℓ => ?_⟩
  · rw [get?_flagFields flags (area_mem_settingNames hmem)] at hv
    obtain ⟨name, hname⟩ := mem_of_flag? hv
    exact hdistinct name inner hname
  · rw [Leaf.in?]
    cases hslot : ℓ.slot with
    | plain name =>
      exact get?_flagFields flags (List.mem_append_left _ (Leaf.slot_plain hslot))
    | keyed area key =>
      rw [Slot.in?, get?_flagFields flags (area_mem_settingNames (Leaf.slot_keyed hslot))]
      rfl

/-! ## The configuration file -/

namespace File

variable {f : File}

/-- The fields of a file come in a fixed order, each at most once. -/
theorem names_fields (f : File) :
    (f.fields.map Prod.fst).Sublist ["today", "parse", "output"] := by
  have hone : ∀ {α : Type} (o : Option α) (k : String) (g : α → Value),
      ((o.map fun a => (k, g a)).toList.map Prod.fst).Sublist [k] := by
    intro α o k g
    cases o with
    | none => exact List.nil_sublist _
    | some a => exact List.Sublist.refl _
  rw [fields, List.map_append, List.map_append]
  exact ((hone _ _ _).append (hone _ _ _)).append (hone _ _ _)

/-- The fields of a file are what was written in it, section by section. -/
theorem get?_fields (f : File) :
    f.fields.get? "today" = f.today.map .str ∧
      f.fields.get? "parse" = f.parse.map (fun b => .object (switchFields "strict" b)) ∧
        f.fields.get? "output" =
          f.output.map (fun b => .object (switchFields "show_expression" b)) := by
  obtain ⟨date, parse, output⟩ := f
  cases date <;> cases parse <;> cases output <;> exact ⟨rfl, rfl, rfl⟩

/-- A switch as it is written in a section makes a section. -/
theorem isSection_switchFields (key : String) (b : Option Bool) :
    IsSection key (.object (switchFields key b)) := by
  cases b with
  | none => exact .empty
  | some b => exact .single _

/-- A document passes as a file if it has no unknown name, with every field as it is checked by
itself. -/
theorem check_eq_passed {doc : Fields} (h : check doc = .passed f) :
    (∀ e ∈ doc, e.1 ∈ ["today", "parse", "output"]) ∧
      doc.optional "today" none Value.checkText? = .passed f.today ∧
      (doc.optional "parse" none fun v => (checkSwitch "strict" v).map some) = .passed f.parse ∧
      (doc.optional "output" none fun v => (checkSwitch "show_expression" v).map some) =
        .passed f.output := by
  simp only [check, Fields.onlyKeys_eq_passed, Checked.both_eq_passed, Checked.map_eq_passed] at h
  obtain ⟨hknown, _, ⟨_, ⟨_, ht, rfl⟩, _, hp, rfl⟩, _, ho, rfl⟩ := h
  exact ⟨hknown, ht, hp, ho⟩

/-- The key of a section has one value in the file and in what is made of it again. -/
theorem readOr_section {doc : Fields} {ℓ : Leaf} (hℓ : ℓ ≠ .today) {area key : String}
    {b : Option (Option Bool)}
    (h : (doc.optional area none fun v => (checkSwitch key v).map some) = .passed b) :
    ℓ.readOr ((b.map fun b => Value.object (switchFields key b)).bind (·.get? key)) =
        .passed (.bool (b.join.getD false)) ∧
      ℓ.readOr ((doc.get? area).bind (·.get? key)) = .passed (.bool (b.join.getD false)) := by
  constructor
  · match b with
    | none => exact congrArg Checked.passed (Leaf.absent_switch hℓ)
    | some none => exact congrArg Checked.passed (Leaf.absent_switch hℓ)
    | some (some c) =>
      have hget : (Value.object (switchFields key (some c))).get? key = some (.bool c) :=
        Fields.get?_cons_self _ _ _
      rw [Option.map_some, Option.bind_some, hget, Leaf.readOr, Leaf.read_switch hℓ]
      rfl
  · rw [Fields.optional_eq_passed] at h
    cases harea : doc.get? area with
    | none =>
      obtain rfl := h.2 harea
      exact congrArg Checked.passed (Leaf.absent_switch hℓ)
    | some v =>
      obtain ⟨c, hc, rfl⟩ := Checked.map_eq_passed.1 (h.1 v harea)
      have hvalue := ((checkSwitch_eq_passed (b := c.getD false)).1
        (Checked.map_eq_passed.2 ⟨c, hc, rfl⟩)).2
      rw [Option.bind_some]
      cases hw : v.get? key with
      | none =>
        rw [hw] at hvalue
        rw [Leaf.readOr, Leaf.absent_switch hℓ]
        exact hvalue
      | some w =>
        rw [hw] at hvalue
        rw [Leaf.readOr, Leaf.read_switch hℓ]
        exact hvalue

/-- A leaf is read alike from the file and from what is made of it again. -/
theorem readOr_fields {doc : Fields} (h : check doc = .passed f) (ℓ : Leaf) :
    ∃ v, ℓ.readOr (ℓ.in? f.fields) = .passed v ∧ ℓ.readOr (ℓ.in? doc) = .passed v := by
  obtain ⟨hknown, htoday, hparse, houtput⟩ := check_eq_passed h
  obtain ⟨hgetToday, hgetParse, hgetOutput⟩ := get?_fields f
  -- the settings that no file may set
  have hunset : ∀ (ℓ : Leaf) (name : String), ℓ.slot = .plain name →
      name ∉ ["today", "parse", "output"] →
        ∃ v, ℓ.readOr (ℓ.in? f.fields) = .passed v ∧ ℓ.readOr (ℓ.in? doc) = .passed v := by
    intro ℓ name hslot hname
    have hfields : f.fields.get? name = none :=
      get?_eq_none_iff.2 fun hin => hname ((names_fields f).subset hin)
    have hdoc : doc.get? name = none := get?_eq_none_iff.2 fun hin => by
      obtain ⟨e, he, rfl⟩ := List.mem_map.1 hin
      exact hname (hknown e he)
    rw [Leaf.in?, Leaf.in?, hslot, Slot.in?, Slot.in?, hfields, hdoc]
    exact ⟨_, rfl, rfl⟩
  cases ℓ with
  | today =>
    refine ⟨.ofText? f.today, ?_, optional_text.1 htoday⟩
    rw [Leaf.in?, Leaf.slot, Slot.in?, hgetToday]
    cases f.today <;> rfl
  | json => exact hunset .json _ rfl (by decide)
  | quiet => exact hunset .quiet _ rfl (by decide)
  | verbose => exact hunset .verbose _ rfl (by decide)
  | logJson => exact hunset .logJson _ rfl (by decide)
  | strict =>
    have hstrict := readOr_section (show Leaf.strict ≠ .today by decide) hparse
    exact ⟨_, by rw [Leaf.in?, Leaf.slot, Slot.in?, hgetParse]; exact hstrict.1, hstrict.2⟩
  | showExpression =>
    have hshow := readOr_section (show Leaf.showExpression ≠ .today by decide) houtput
    exact ⟨_, by rw [Leaf.in?, Leaf.slot, Slot.in?, hgetOutput]; exact hshow.1, hshow.2⟩

/-- What is made of a file again is a layer, and is read at every leaf as the file itself. -/
theorem fields_layer {doc : Fields} (h : check doc = .passed f) :
    Layer f.fields ∧ ∀ ℓ : Leaf, ℓ.readOr (ℓ.in? f.fields) = ℓ.readOr (ℓ.in? doc) := by
  obtain ⟨-, hgetParse, hgetOutput⟩ := get?_fields f
  have hsub := names_fields f
  refine ⟨⟨fun e he => ?_, List.Nodup.sublist hsub (by decide), fun area key hmem v hv => ?_,
    fun ℓ => ?_⟩, fun ℓ => ?_⟩
  · have hall : ∀ name ∈ ["today", "parse", "output"], name ∈ settingNames := by decide
    exact hall e.1 (hsub.subset (List.mem_map_of_mem he))
  · obtain ⟨rfl, rfl⟩ | ⟨rfl, rfl⟩ := mem_sections.1 hmem
    · rw [hgetParse] at hv
      obtain ⟨b, -, rfl⟩ := Option.map_eq_some_iff.1 hv
      exact isSection_switchFields _ b
    · rw [hgetOutput] at hv
      obtain ⟨b, -, rfl⟩ := Option.map_eq_some_iff.1 hv
      exact isSection_switchFields _ b
  · obtain ⟨v, hv, -⟩ := readOr_fields h ℓ
    exact ⟨v, hv⟩
  · obtain ⟨v, hv, hv'⟩ := readOr_fields h ℓ
    exact hv.trans hv'.symm

end File

end DateCalc.Config
