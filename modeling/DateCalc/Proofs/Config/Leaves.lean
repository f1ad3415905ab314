/-
  Leaves of the settings, and what merging does to them.

  A leaf is a setting with one value: one of the plain settings, or the key of a section.  The
  checks of the settings read leaf by leaf (`check_eq_passed_iff`): fields pass exactly if they have
  no key that is unknown, no section that is not an object, and a readable value at every leaf that
  they set.

  A layer is fields that pass and have no key twice.  In a layer a section is empty or holds its one
  key, so that merging two layers comes down to a choice at every leaf (`Layer.get?_merge`): the
  upper layer's value where it has one, and the lower layer's where it has none.  A layer's values
  are never objects at a leaf, and this is what stops the merging there.
-/
import Mathlib.Data.List.Nodup
import DateCalc.Config.Settings

namespace DateCalc

/-! ## Checks that pass -/

namespace Checked

variable {α β : Type}

theorem map_eq_passed {f : α → β} {a : Checked α} {b : β} :
    a.map f = .passed b ↔ ∃ x, a = .passed x ∧ f x = b := by
  cases a <;> simp [map]

theorem both_eq_passed {f : Checked (α → β)} {a : Checked α} {b : β} :
    f.both a = .passed b ↔ ∃ g, f = .passed g ∧ ∃ x, a = .passed x ∧ g x = b := by
  cases f <;> cases a <;> simp [both]

theorem within_eq_passed {key : String} {a : Checked α} {x : α} :
    a.within key = .passed x ↔ a = .passed x := by
  cases a <;> simp [within]

end Checked

namespace Fields

variable {α : Type}

/-- A check for unknown keys passes where there are none and what else is checked passes. -/
theorem onlyKeys_eq_passed {fields : Fields} {keys : List String} {checked : Checked α} {a : α} :
    fields.onlyKeys keys checked = .passed a ↔
      (∀ f ∈ fields, f.1 ∈ keys) ∧ checked = .passed a := by
  unfold onlyKeys
  simp only
  split
  case isTrue hempty =>
    have hnone := List.filter_eq_nil_iff.1 (List.map_eq_nil_iff.1 (List.isEmpty_iff.1 hempty))
    have hall : ∀ f ∈ fields, f.1 ∈ keys := fun f hf => by simpa using hnone f hf
    exact ⟨fun hp => ⟨hall, hp⟩, fun hp => hp.2⟩
  case isFalse hsome =>
    constructor
    · intro hp
      cases checked <;> cases hp
    · rintro ⟨hall, -⟩
      refine absurd (List.isEmpty_iff.2 (List.map_eq_nil_iff.2 (List.filter_eq_nil_iff.2 ?_))) hsome
      exact fun f hf => by simpa using hall f hf

/-- A check of a field that may be absent passes with what the check of its value says, or with what
absence means. -/
theorem optional_eq_passed {fields : Fields} {key : String} {absent : α}
    {check : Value → Checked α} {a : α} :
    fields.optional key absent check = .passed a ↔
      (∀ v, fields.get? key = some v → check v = .passed a) ∧
        (fields.get? key = none → absent = a) := by
  unfold optional
  cases fields.get? key <;> simp [Checked.within_eq_passed]

end Fields

namespace Config

/-! ## Leaves -/

/-- A setting with one value. -/
inductive Leaf where
  | today
  | json
  | quiet
  | verbose
  | logJson
  | strict
  | showExpression
  deriving DecidableEq

/-- Where a setting stands: alone, or as the key of a section. -/
inductive Slot where
  | plain (name : String)
  | keyed (area key : String)
  deriving DecidableEq

/-- The value that fields have there. -/
def Slot.in? (fields : Fields) : Slot → Option Value
  | plain name => fields.get? name
  | keyed area key => (fields.get? area).bind (·.get? key)

theorem mem_sections {area key : String} : (area, key) ∈ sections ↔
    area = "parse" ∧ key = "strict" ∨ area = "output" ∧ key = "show_expression" := by
  simp only [sections, List.mem_cons, List.not_mem_nil, Prod.mk.injEq, or_false]

namespace Leaf

/-- Where a leaf stands. -/
def slot : Leaf → Slot
  | today => .plain "today"
  | json => .plain "json_output"
  | quiet => .plain "quiet"
  | verbose => .plain "verbose"
  | logJson => .plain "log_json"
  | strict => .keyed "parse" "strict"
  | showExpression => .keyed "output" "show_expression"

/-- The value that fields write at a leaf, if they set it. -/
def in? (ℓ : Leaf) (fields : Fields) : Option Value := ℓ.slot.in? fields

/-- A value of a leaf as it is taken: the date as a text or null, any other as a truth value. -/
def read : Leaf → Value → Checked Value
  | today, v => v.checkText?.map .ofText?
  | _, v => v.checkBool.map .bool

/-- The default of a leaf. -/
def absent : Leaf → Value
  | today => .null
  | _ => .bool false

/-- The value of a leaf that is written or not. -/
def readOr (ℓ : Leaf) (written : Option Value) : Checked Value :=
  match written with
  | some v => ℓ.read v
  | none => .passed ℓ.absent

theorem slot_plain {ℓ : Leaf} {name : String} (h : ℓ.slot = .plain name) :
    name ∈ plainSettings := by
  cases ℓ <;> cases h <;> decide

theorem slot_keyed {ℓ : Leaf} {area key : String} (h : ℓ.slot = .keyed area key) :
    (area, key) ∈ sections := by
  cases ℓ <;> cases h <;> decide

/-- Every key of a section is a leaf. -/
theorem exists_slot_keyed {area key : String} (h : (area, key) ∈ sections) :
    ∃ ℓ : Leaf, ℓ.slot = .keyed area key := by
  obtain ⟨rfl, rfl⟩ | ⟨rfl, rfl⟩ := mem_sections.1 h
  · exact ⟨strict, rfl⟩
  · exact ⟨showExpression, rfl⟩

theorem read_switch {ℓ : Leaf} (h : ℓ ≠ today) (v : Value) :
    ℓ.read v = v.checkBool.map .bool := by
  cases ℓ <;> first | rfl | exact absurd rfl h

theorem absent_switch {ℓ : Leaf} (h : ℓ ≠ today) : ℓ.absent = .bool false := by
  cases ℓ <;> first | rfl | exact absurd rfl h

/-- No object is taken for the value of a leaf. -/
theorem read_object_ne (ℓ : Leaf) (fields : Fields) (v : Value) :
    ℓ.read (.object fields) ≠ .passed v := by
  cases ℓ <;> nofun

end Leaf

/-- The value of a leaf in the settings. -/
def Settings.at (s : Settings) : Leaf → Value
  | .today => .ofText? s.today
  | .json => .bool s.json
  | .quiet => .bool s.quiet
  | .verbose => .bool s.verbose
  | .logJson => .bool s.logJson
  | .strict => .bool s.strict
  | .showExpression => .bool s.showExpression

/-! ## The check, leaf by leaf -/

/-- The settings with a single value, and the sections. -/
def settingNames : List String := plainSettings ++ sections.map Prod.fst

theorem area_mem_settingNames {area key : String} (h : (area, key) ∈ sections) :
    area ∈ settingNames :=
  List.mem_append_right _ (List.mem_map.2 ⟨_, h, rfl⟩)

/-- A section that is an object with no other key than one. -/
def OnlyKey (key : String) (v : Value) : Prop :=
  ∃ inner : Fields, v = .object inner ∧ ∀ f ∈ inner, f.1 = key

/-- Fields whose keys are settings, and whose sections have no other keys than their own. -/
structure Shaped (fields : Fields) : Prop where
  known : ∀ f ∈ fields, f.1 ∈ settingNames
  sections : ∀ area key, (area, key) ∈ sections →
    ∀ v, fields.get? area = some v → OnlyKey key v

theorem ofText?_inj {a b : Option String} : Value.ofText? a = Value.ofText? b ↔ a = b := by
  cases a <;> cases b <;> simp [Value.ofText?]

section Check

variable {fields : Fields}

/-- A switch passes with the truth value that is read from it, and with false where it is absent. -/
theorem optional_switch {name : String} {b : Bool} :
    fields.optional name false Value.checkBool = .passed b ↔
      (match fields.get? name with
        | some v => v.checkBool.map Value.bool
        | none => .passed (.bool false)) = .passed (.bool b) := by
  rw [Fields.optional_eq_passed]
  cases fields.get? name <;> simp [Checked.map_eq_passed]

/-- The date passes with the text that is read from it, and with none where it is absent. -/
theorem optional_text {b : Option String} :
    fields.optional "today" none Value.checkText? = .passed b ↔
      (match fields.get? "today" with
        | some v => v.checkText?.map Value.ofText?
        | none => .passed .null) = .passed (.ofText? b) := by
  rw [Fields.optional_eq_passed]
  cases fields.get? "today" with
  | some v => simp [Checked.map_eq_passed, ofText?_inj]
  | none => cases b <;> simp [Value.ofText?]

/-- A section passes if it has no other key, with what its one key says, or else with false. -/
theorem checkSwitch_eq_passed {key : String} {v : Value} {b : Bool} :
    (File.checkSwitch key v).map (·.getD false) = .passed b ↔
      OnlyKey key v ∧
        (match v.get? key with
          | some w => w.checkBool.map Value.bool
          | none => .passed (.bool false)) = .passed (.bool b) := by
  cases v with
  | object inner =>
    have hobject : OnlyKey key (.object inner) ↔ ∀ f ∈ inner, f.1 = key := by simp [OnlyKey]
    simp only [File.checkSwitch, Value.checkSection, Checked.map_eq_passed,
      Fields.onlyKeys_eq_passed, Fields.optional_eq_passed, hobject, List.mem_singleton, Value.get?]
    cases Fields.get? inner key with
    | none => simp [and_assoc]
    | some w => cases hw : w.checkBool <;> simp [-Bool.exists_bool, Checked.map_eq_passed, hw, and_assoc]
  | _ =>
    constructor
    · intro h
      cases h
    · rintro ⟨⟨_, h, -⟩, -⟩
      cases h

/-- A section that may be absent passes if it has no other key, with what its one key says, or else
with false. -/
theorem optional_section {area key : String} {b : Bool} :
    (fields.optional area false fun v => (File.checkSwitch key v).map (·.getD false)) = .passed b ↔
      (∀ v, fields.get? area = some v → OnlyKey key v) ∧
        (match (fields.get? area).bind (·.get? key) with
          | some w => w.checkBool.map Value.bool
          | none => .passed (.bool false)) = .passed (.bool b) := by
  rw [Fields.optional_eq_passed]
  cases fields.get? area with
  | none => simp
  | some v => simp [checkSwitch_eq_passed]

end Check

/-- **What it takes for settings to pass**: no unknown name, and every field as it is checked by
itself. -/
theorem check_eq_passed {file : Option Path} {fields : Fields} {s : Settings} :
    Settings.check file fields = .passed s ↔
      (∀ f ∈ fields, f.1 ∈ settingNames) ∧ s.file = file ∧
        fields.optional "today" none Value.checkText? = .passed s.today ∧
        fields.optional "json_output" false Value.checkBool = .passed s.json ∧
        fields.optional "quiet" false Value.checkBool = .passed s.quiet ∧
        fields.optional "verbose" false Value.checkBool = .passed s.verbose ∧
        fields.optional "log_json" false Value.checkBool = .passed s.logJson ∧
        (fields.optional "parse" false fun v =>
          (File.checkSwitch "strict" v).map (·.getD false)) = .passed s.strict ∧
        (fields.optional "output" false fun v =>
          (File.checkSwitch "show_expression" v).map (·.getD false)) =
            .passed s.showExpression := by
  simp only [Settings.check, Fields.onlyKeys_eq_passed, Checked.both_eq_passed,
    Checked.map_eq_passed]
  constructor
  · rintro ⟨hknown, _, ⟨_, ⟨_, ⟨_, ⟨_, ⟨_, ⟨_, ht, rfl⟩, _, hj, rfl⟩, _, hq, rfl⟩, _, hv, rfl⟩,
      _, hl, rfl⟩, _, hp, rfl⟩, _, ho, rfl⟩
    exact ⟨hknown, rfl, ht, hj, hq, hv, hl, hp, ho⟩
  · rintro ⟨hknown, rfl, ht, hj, hq, hv, hl, hp, ho⟩
    exact ⟨hknown, _, ⟨_, ⟨_, ⟨_, ⟨_, ⟨_, ⟨_, ht, rfl⟩, _, hj, rfl⟩, _, hq, rfl⟩, _, hv, rfl⟩,
      _, hl, rfl⟩, _, hp, rfl⟩, _, ho, rfl⟩

/-- Fields pass exactly if they have the right shape and every leaf is readable; the settings then
have what is read. -/
theorem check_eq_passed_iff {file : Option Path} {fields : Fields} {s : Settings} :
    Settings.check file fields = .passed s ↔
      Shaped fields ∧ s.file = file ∧ ∀ ℓ : Leaf, ℓ.readOr (ℓ.in? fields) = .passed (s.at ℓ) := by
  rw [check_eq_passed]
  simp only [optional_text, optional_switch, optional_section]
  constructor
  · rintro ⟨hknown, hfile, ht, hj, hq, hv, hl, ⟨hps, hp⟩, hos, ho⟩
    refine ⟨⟨hknown, fun area key hmem => ?_⟩, hfile, fun ℓ => ?_⟩
    · obtain ⟨rfl, rfl⟩ | ⟨rfl, rfl⟩ := mem_sections.1 hmem
      · exact hps
      · exact hos
    · match ℓ with
      | .today => exact ht
      | .json => exact hj
      | .quiet => exact hq
      | .verbose => exact hv
      | .logJson => exact hl
      | .strict => exact hp
      | .showExpression => exact ho
  · rintro ⟨hshape, hfile, hread⟩
    exact ⟨hshape.known, hfile, hread .today, hread .json, hread .quiet, hread .verbose,
      hread .logJson, ⟨hshape.sections _ _ (by decide), hread .strict⟩,
      hshape.sections _ _ (by decide), hread .showExpression⟩

/-- Fields of the right shape pass if every leaf is readable. -/
theorem check_passes {file : Option Path} {fields : Fields} (hshape : Shaped fields)
    (hread : ∀ ℓ : Leaf, ∃ v, ℓ.readOr (ℓ.in? fields) = .passed v) :
    ∃ s, Settings.check file fields = .passed s := by
  have htext : ∃ d : Option String,
      Leaf.today.readOr (Leaf.today.in? fields) = .passed (.ofText? d) := by
    obtain ⟨v, hv⟩ := hread .today
    cases hw : Leaf.today.in? fields with
    | none => exact ⟨none, rfl⟩
    | some w =>
      rw [hw] at hv
      obtain ⟨d, hd, rfl⟩ := Checked.map_eq_passed.1 hv
      exact ⟨d, Checked.map_eq_passed.2 ⟨d, hd, rfl⟩⟩
  have hswitch : ∀ ℓ : Leaf, ℓ ≠ .today →
      ∃ b : Bool, ℓ.readOr (ℓ.in? fields) = .passed (.bool b) := by
    intro ℓ hℓ
    obtain ⟨v, hv⟩ := hread ℓ
    cases hw : ℓ.in? fields with
    | none => exact ⟨false, by rw [Leaf.readOr, Leaf.absent_switch hℓ]⟩
    | some w =>
      rw [hw, Leaf.readOr, Leaf.read_switch hℓ] at hv
      obtain ⟨b, hb, rfl⟩ := Checked.map_eq_passed.1 hv
      exact ⟨b, by rw [Leaf.readOr, Leaf.read_switch hℓ, hb]; rfl⟩
  obtain ⟨date, hdate⟩ := htext
  obtain ⟨json, hjson⟩ := hswitch .json nofun
  obtain ⟨quiet, hquiet⟩ := hswitch .quiet nofun
  obtain ⟨verbose, hverbose⟩ := hswitch .verbose nofun
  obtain ⟨logJson, hlog⟩ := hswitch .logJson nofun
  obtain ⟨strict, hstrict⟩ := hswitch .strict nofun
  obtain ⟨show_, hshow⟩ := hswitch .showExpression nofun
  refine ⟨⟨file, date, json, quiet, verbose, logJson, strict, show_⟩,
    check_eq_passed_iff.2 ⟨hshape, rfl, fun ℓ => ?_⟩⟩
  cases ℓ <;> assumption

/-! ## Merging -/

/-- A field that is set stays where it is if it is there, and is put last if it is new. -/
theorem map_fst_set (fields : Fields) (key : String) (v : Value) :
    (fields.set key v).map Prod.fst =
      if key ∈ fields.map Prod.fst then fields.map Prod.fst else fields.map Prod.fst ++ [key] := by
  have hany : fields.any (·.1 == key) = true ↔ key ∈ fields.map Prod.fst := by
    simp only [List.any_eq_true, List.mem_map, beq_iff_eq]
  unfold Fields.set
  by_cases h : key ∈ fields.map Prod.fst
  · rw [if_pos (hany.2 h), if_pos h, List.map_map]
    refine List.map_congr_left fun f _ => ?_
    rw [Function.comp_apply]
    split
    case isTrue heq => exact (eq_of_beq heq).symm
    case isFalse => rfl
  · rw [if_neg fun ha => h (hany.1 ha), if_neg h, List.map_append]
    rfl

/-- The keys after a field is set are that key and those from before. -/
theorem mem_map_fst_set {fields : Fields} {key k : String} {v : Value} :
    k ∈ (fields.set key v).map Prod.fst ↔ k = key ∨ k ∈ fields.map Prod.fst := by
  rw [map_fst_set]
  split
  case isTrue hmem => exact ⟨.inr, fun h => h.elim (fun heq => heq ▸ hmem) id⟩
  case isFalse => rw [List.mem_append, List.mem_singleton, or_comm]

/-- Keys stay distinct when a field is set. -/
theorem nodup_set {fields : Fields} (h : (fields.map Prod.fst).Nodup) (key : String) (v : Value) :
    ((fields.set key v).map Prod.fst).Nodup := by
  rw [map_fst_set]
  split
  case isTrue => exact h
  case isFalse hkey =>
    refine List.nodup_append.2 ⟨h, List.nodup_singleton key, fun k hk l hl => ?_⟩
    exact fun heq => hkey (List.mem_singleton.1 hl ▸ heq ▸ hk)

/-- What is no object replaces what it covers. -/
theorem covering_of_not_object {v : Value} (h : ∀ inner, v ≠ .object inner) (old : Value) :
    covering old v = v := by
  cases v with
  | object inner => exact absurd rfl (h inner)
  | _ =>
    rw [covering]
    intro inner heq
    cases heq

/-- A field is missing where its key is. -/
theorem get?_eq_none_iff {fields : Fields} {key : String} :
    fields.get? key = none ↔ key ∉ fields.map Prod.fst := by
  rw [Fields.get?, List.lookup_eq_none_iff, List.mem_map, not_exists]
  exact forall_congr' fun f => by rw [not_and, bne_iff_ne, ne_comm]

/-- What merging puts at a key that fields have already: the step that it takes for every field of
the upper ones. -/
def cover (old : Option Value) (v : Value) : Value :=
  match old with
  | some old => covering old v
  | none => v

/-- Fields are merged one by one from the front. -/
theorem merge_cons (lower : Fields) (key : String) (v : Value) (more : Fields) :
    merge lower ((key, v) :: more) = merge (lower.set key (cover (lower.get? key) v)) more := by
  rw [merge]
  rfl

/-- Keys stay distinct when fields are merged over others. -/
theorem nodup_merge {lower : Fields} (h : (lower.map Prod.fst).Nodup) (upper : Fields) :
    ((merge lower upper).map Prod.fst).Nodup := by
  induction upper generalizing lower with
  | nil => rwa [merge]
  | cons f more ih => rw [merge_cons]; exact ih (nodup_set h _ _)

/-- The keys of a merge are those of its two sides. -/
theorem mem_map_fst_merge {lower upper : Fields} {k : String} :
    k ∈ (merge lower upper).map Prod.fst ↔ k ∈ lower.map Prod.fst ∨ k ∈ upper.map Prod.fst := by
  induction upper generalizing lower with
  | nil => rw [merge, List.map_nil]; simp only [List.not_mem_nil, or_false]
  | cons f more ih =>
    rw [merge_cons, ih, mem_map_fst_set, List.map_cons, List.mem_cons, or_assoc, or_left_comm]

/-- A merge has no names but those of its two sides. -/
theorem mem_merge {lower upper : Fields} {names : List String} (hl : ∀ f ∈ lower, f.1 ∈ names)
    (hu : ∀ f ∈ upper, f.1 ∈ names) : ∀ f ∈ merge lower upper, f.1 ∈ names := by
  intro f hf
  obtain hmem | hmem := mem_map_fst_merge.1 (List.mem_map_of_mem hf)
  all_goals
    obtain ⟨g, hg, heq⟩ := List.mem_map.1 hmem
    rw [← heq]
  · exact hl g hg
  · exact hu g hg

/-- What is no object replaces whatever is there, if anything is. -/
theorem cover_of_not_object {v : Value} (h : ∀ inner, v ≠ .object inner) (old : Option Value) :
    cover old v = v := by
  cases old with
  | none => rfl
  | some old => exact covering_of_not_object h old

/-- Where no key of the upper fields occurs twice, each of them covers what the lower ones have. -/
theorem get?_merge {upper : Fields} (h : (upper.map Prod.fst).Nodup) (lower : Fields) (k : String) :
    (merge lower upper).get? k = match upper.get? k with
      | some v => some (cover (lower.get? k) v)
      | none => lower.get? k := by
  induction upper generalizing lower with
  | nil => rw [merge]; rfl
  | cons f more ih =>
    obtain ⟨key, v⟩ := f
    obtain ⟨hkey, hmore⟩ := List.nodup_cons.1 h
    rw [merge_cons, ih hmore]
    by_cases hk : k = key
    · subst hk
      rw [get?_eq_none_iff.2 hkey, Fields.get?_cons_self, Fields.get?_set, if_pos rfl]
    · rw [Fields.get?_cons_of_ne hk, Fields.get?_set, if_neg hk]

/-! ## Layers -/

/-- A section that is empty or has its one key. -/
inductive IsSection (key : String) : Value → Prop where
  | empty : IsSection key (.object [])
  | single (v : Value) : IsSection key (.object [(key, v)])

/-- Fields that pass the check and have no key twice, also in their sections. -/
structure Layer (fields : Fields) : Prop where
  known : ∀ f ∈ fields, f.1 ∈ settingNames
  distinct : (fields.map Prod.fst).Nodup
  sections : ∀ area key, (area, key) ∈ sections →
    ∀ v, fields.get? area = some v → IsSection key v
  readable : ∀ ℓ : Leaf, ∃ v, ℓ.readOr (ℓ.in? fields) = .passed v

/-- A section has no other key. -/
theorem IsSection.onlyKey {key : String} {v : Value} (h : IsSection key v) : OnlyKey key v := by
  cases h with
  | empty => exact ⟨[], rfl, nofun⟩
  | single w => exact ⟨[(key, w)], rfl, fun f hf => by rw [List.mem_singleton.1 hf]⟩

/-- An object is a section if it has distinct keys and none but this one. -/
theorem isSection_of_nodup {key : String} {inner : Fields} (hkey : ∀ f ∈ inner, f.1 = key)
    (h : (inner.map Prod.fst).Nodup) : IsSection key (.object inner) := by
  match inner with
  | [] => exact .empty
  | [(name, v)] =>
    have hname : name = key := hkey (name, v) List.mem_cons_self
    exact hname ▸ .single v
  | f :: g :: more =>
    have hsame : f.1 = g.1 :=
      (hkey f List.mem_cons_self).trans (hkey g (List.mem_cons_of_mem f List.mem_cons_self)).symm
    exact absurd (hsame ▸ List.mem_cons_self) (List.nodup_cons.1 h).1

namespace Layer

/-- Settings that pass a check are a layer, given that no key occurs twice in them or in a section.
-/
theorem of_check {file : Option Path} {fields : Fields} {s : Settings}
    (h : Settings.check file fields = .passed s) (hdistinct : (fields.map Prod.fst).Nodup)
    (hinner : ∀ area key, (area, key) ∈ Config.sections → ∀ inner,
      fields.get? area = some (.object inner) → (inner.map Prod.fst).Nodup) : Layer fields := by
  obtain ⟨hshape, -, hread⟩ := check_eq_passed_iff.1 h
  refine ⟨hshape.known, hdistinct, fun area key hmem v hv => ?_, fun ℓ => ⟨_, hread ℓ⟩⟩
  obtain ⟨inner, rfl, hkey⟩ := hshape.sections area key hmem v hv
  exact isSection_of_nodup hkey (hinner area key hmem inner hv)

variable {fields lower upper : Fields}

theorem shaped (h : Layer fields) : Shaped fields :=
  ⟨h.known, fun area key hmem v hv => (h.sections area key hmem v hv).onlyKey⟩

theorem passes (h : Layer fields) (file : Option Path) :
    ∃ s, Settings.check file fields = .passed s := check_passes h.shaped h.readable

/-- A leaf of a layer is never an object, so that nothing is merged into it. -/
theorem not_object (h : Layer fields) {ℓ : Leaf} {inner : Fields} :
    ℓ.in? fields ≠ some (.object inner) := by
  intro hv
  obtain ⟨v, hread⟩ := h.readable ℓ
  rw [hv] at hread
  exact ℓ.read_object_ne inner v hread

/-- A section has no key twice. -/
theorem nodup_section {key : String} {inner : Fields} (h : IsSection key (.object inner)) :
    (inner.map Prod.fst).Nodup := by
  cases h with
  | empty => exact List.nodup_nil
  | single v => exact List.nodup_singleton key

/-- Of two sections, the upper one has its way where it has its key. -/
theorem covering_section {key : String} {old new : Value} (hold : IsSection key old)
    (hnew : IsSection key new) (h : ∀ inner, new.get? key ≠ some (.object inner)) :
    IsSection key (covering old new) ∧
      (covering old new).get? key = (new.get? key).or (old.get? key) := by
  obtain ⟨a, rfl, ha⟩ := hold.onlyKey
  obtain ⟨b, rfl, hb⟩ := hnew.onlyKey
  rw [covering]
  constructor
  · refine isSection_of_nodup (fun f hf => ?_) (nodup_merge (nodup_section hold) b)
    refine List.mem_singleton.1 (mem_merge (fun g hg => ?_) (fun g hg => ?_) f hf)
    · exact List.mem_singleton.2 (ha g hg)
    · exact List.mem_singleton.2 (hb g hg)
  · rw [Value.get?, get?_merge (nodup_section hnew)]
    cases hv : Fields.get? b key with
    | none => rw [Value.get?, hv]; rfl
    | some v =>
      have hcover : cover (Fields.get? a key) v = v :=
        cover_of_not_object (fun inner heq => h inner (by rw [Value.get?, hv, heq])) _
      simp only [Value.get?, hv, hcover, Option.some_or]

/-- Of two layers, the upper one has its way at every leaf that it sets. -/
theorem in?_merge (hl : Layer lower) (hu : Layer upper) (ℓ : Leaf) :
    ℓ.in? (merge lower upper) = (ℓ.in? upper).or (ℓ.in? lower) := by
  have hnot : ∀ inner, ℓ.in? upper ≠ some (.object inner) := fun _ => hu.not_object
  unfold Leaf.in? at hnot ⊢
  cases hslot : ℓ.slot with
  | plain name =>
    rw [hslot] at hnot
    simp only [Slot.in?] at hnot ⊢
    rw [get?_merge hu.distinct]
    cases hv : upper.get? name with
    | none => rfl
    | some v =>
      have hobject : ∀ inner, v ≠ .object inner := fun inner heq => hnot inner (by rw [hv, heq])
      simp only [cover_of_not_object hobject, Option.some_or]
  | keyed area key =>
    have hmem := Leaf.slot_keyed hslot
    rw [hslot] at hnot
    simp only [Slot.in?] at hnot ⊢
    rw [get?_merge hu.distinct]
    cases hnew : upper.get? area with
    | none => rfl
    | some new =>
      cases hold : lower.get? area with
      | none => simp [cover]
      | some old =>
        have hsection := covering_section (hl.sections area key hmem old hold)
          (hu.sections area key hmem new hnew) fun inner heq => hnot inner (by rw [hnew]; exact heq)
        simpa [cover] using hsection.2

/-- **A layer over a layer is a layer.** -/
theorem merge (hl : Layer lower) (hu : Layer upper) : Layer (merge lower upper) := by
  refine ⟨mem_merge hl.known hu.known, nodup_merge hl.distinct upper,
    fun area key hmem v hv => ?_, fun ℓ => ?_⟩
  · rw [get?_merge hu.distinct] at hv
    cases hnew : upper.get? area with
    | none => exact hl.sections area key hmem v (by rwa [hnew] at hv)
    | some new =>
      rw [hnew] at hv
      obtain rfl := Option.some.inj hv
      cases hold : lower.get? area with
      | none => exact hu.sections area key hmem new hnew
      | some old =>
        refine (covering_section (hl.sections area key hmem old hold)
          (hu.sections area key hmem new hnew) fun inner heq => ?_).1
        obtain ⟨ℓ, hslot⟩ : ∃ ℓ : Leaf, ℓ.slot = .keyed area key := Leaf.exists_slot_keyed hmem
        have hnot : ℓ.in? upper ≠ some (.object inner) := hu.not_object
        refine hnot ?_
        rw [Leaf.in?, hslot, Slot.in?, hnew]
        exact heq
  · rw [in?_merge hl hu]
    cases h : ℓ.in? upper with
    | none => exact hl.readable ℓ
    | some v =>
      rw [Option.some_or, ← h]
      exact hu.readable ℓ

end Layer

end Config

end DateCalc
