/-
  What the variables of the environment say, leaf by leaf.

  The layer of the environment is made in steps: names are put in lower case, the variables of a
  section are collected under it, its JSON object is merged with them, and its keys are spelled as
  they should be.  `Slot.inVariables?` says the same of the variables as they are given:

    plain setting   the last variable with its name, in any letter case;
    key of section  the variable of the key, written over the section's JSON object.

  Three things about the second are easily overlooked.  A JSON null for the section hides the
  variable of the key.  The variable is written over the key as it is properly spelled, or behind
  the last key; and of several spellings of the key the last one counts.

  If the layer of the environment passes the check, then it is a layer, and it writes at every leaf
  what `Slot.inVariables?` says (`variableFields_layer`).
-/
import DateCalc.Proofs.Config.Leaves
import DateCalc.Proofs.Text.LowerCase

namespace DateCalc.Config

/-! ## Fields written one after the other -/

/-- The value that stands last under a name, in any letter case. -/
def lastCalled? {α : Type} (name : String) (entries : List (String × α)) : Option α :=
  ((entries.filter fun e => Text.lowerCase e.1 == name).getLast?).map Prod.snd

/-- Fields set one after the other. -/
def writeAll (entries : List (String × Value)) : Fields :=
  entries.foldl (fun fields e => fields.set e.1 e.2) []

/-- The last entry is written over all the others. -/
theorem writeAll_append (entries : List (String × Value)) (e : String × Value) :
    writeAll (entries ++ [e]) = (writeAll entries).set e.1 e.2 := by
  rw [writeAll, List.foldl_append]
  rfl

/-- Fields that are written one after the other have distinct keys. -/
theorem nodup_writeAll (entries : List (String × Value)) :
    ((writeAll entries).map Prod.fst).Nodup := by
  induction entries using List.reverseRecOn with
  | nil => exact List.nodup_nil
  | append_singleton entries e ih => rw [writeAll_append]; exact nodup_set ih _ _

/-- The keys that are written are those of the entries. -/
theorem mem_map_fst_writeAll {entries : List (String × Value)} {k : String} :
    k ∈ (writeAll entries).map Prod.fst ↔ k ∈ entries.map Prod.fst := by
  induction entries using List.reverseRecOn with
  | nil => rfl
  | append_singleton entries e ih =>
    rw [writeAll_append, mem_map_fst_set, ih, List.map_append, List.mem_append, List.map_singleton,
      List.mem_singleton, or_comm]

/-- **Of entries with one key the last one counts.** -/
theorem get?_writeAll (entries : List (String × Value)) (k : String) :
    (writeAll entries).get? k = ((entries.filter fun e => e.1 == k).getLast?).map Prod.snd := by
  induction entries using List.reverseRecOn with
  | nil => rfl
  | append_singleton entries e ih =>
    rw [writeAll_append, Fields.get?_set, List.filter_append, ih]
    by_cases hk : k = e.1
    · subst hk
      rw [if_pos rfl, List.filter_singleton, beq_self_eq_true, cond_true, List.getLast?_concat]
      rfl
    · rw [if_neg hk, List.filter_singleton, beq_eq_false_iff_ne.2 (Ne.symm hk), cond_false,
        List.append_nil]

/-! ## Names in lower case -/

/-- Texts under names, as fields. -/
def textFields (named : List (String × String)) : Fields := named.map fun e => (e.1, .str e.2)

/-- A variable among the fields has the text that it has among the variables. -/
theorem get?_textFields (named : List (String × String)) (k : String) :
    (textFields named).get? k = (named.lookup k).map .str := by
  induction named with
  | nil => rfl
  | cons e rest ih =>
    obtain ⟨name, v⟩ := e
    rw [textFields, List.map_cons]
    by_cases hk : k = name
    · rw [hk, Fields.get?_cons_self, List.lookup_cons_self]
      rfl
    · rw [Fields.get?_cons_of_ne hk, List.lookup_cons, beq_eq_false_iff_ne.2 hk]
      exact ih

/-- Variables under their names in lower case are all of them written in order, each over the one of
its name before it. -/
theorem textFields_lowerNames (vars : List (String × String)) :
    textFields (lowerNames vars) =
      writeAll (vars.map fun e => (Text.lowerCase e.1, .str e.2)) := by
  induction vars using List.reverseRecOn with
  | nil => rfl
  | append_singleton vars e ih =>
    rw [List.map_append, List.map_singleton, writeAll_append, ← ih, lowerNames, List.foldl_append]
    show textFields (if (lowerNames vars).any (·.1 == Text.lowerCase e.1) then _ else _) = _
    have hany : (textFields (lowerNames vars)).any (·.1 == Text.lowerCase e.1) =
        (lowerNames vars).any (·.1 == Text.lowerCase e.1) := by
      rw [textFields, List.any_map]
      rfl
    unfold Fields.set
    rw [hany]
    split
    case isTrue =>
      rw [textFields, textFields, List.map_map, List.map_map]
      refine List.map_congr_left fun f _ => ?_
      simp only [Function.comp_apply]
      split <;> rfl
    case isFalse =>
      rw [textFields, List.map_append]
      rfl

/-- Of the variables with one name the last counts. -/
theorem lookup_lowerNames (vars : List (String × String)) (name : String) :
    (lowerNames vars).lookup name = lastCalled? name vars := by
  have hstr : Function.Injective Value.str := fun _ _ h => Value.str.inj h
  refine Option.map_injective hstr ?_
  rw [← get?_textFields, textFields_lowerNames, get?_writeAll, List.filter_map, List.getLast?_map,
    lastCalled?, Option.map_map, Option.map_map]
  rfl

/-- In lower case no name occurs twice. -/
theorem nodup_lowerNames (vars : List (String × String)) :
    ((lowerNames vars).map Prod.fst).Nodup := by
  have h := nodup_writeAll (vars.map fun e => (Text.lowerCase e.1, .str e.2))
  rw [← textFields_lowerNames, textFields, List.map_map] at h
  exact h

/-- The names have no capitals any more. -/
theorem isUpper_of_mem_lowerNames {vars : List (String × String)} {e : String × String}
    (he : e ∈ lowerNames vars) {c : Char} (hc : c ∈ e.1.toList) : c.isUpper = false := by
  have hmem : (e.1, Value.str e.2) ∈ textFields (lowerNames vars) := List.mem_map_of_mem he
  rw [textFields_lowerNames] at hmem
  have hname := mem_map_fst_writeAll.1 (List.mem_map_of_mem hmem)
  rw [List.map_map] at hname
  obtain ⟨f, -, hname⟩ := List.mem_map.1 hname
  exact Text.isUpper_of_mem_lowerCase (hname ▸ hc)

/-! ## The variables of a section -/

/-- A name has at least one part. -/
theorem splitName_cons (s : List Char) : ∃ part more, splitName s = part :: more := by
  fun_induction splitName s with
  | case1 => exact ⟨_, _, rfl⟩
  | case2 => exact ⟨_, _, rfl⟩
  | case3 => exact ⟨_, _, rfl⟩
  | case4 => exact ⟨_, _, rfl⟩

/-- A name in one part is that part. -/
theorem splitName_eq_single {s part : List Char} (h : splitName s = [part]) : s = part := by
  fun_induction splitName s generalizing part with
  | case1 rest =>
    obtain ⟨first, more, heq⟩ := splitName_cons rest
    rw [heq] at h
    cases h
  | case2 c rest _ heq =>
    obtain ⟨first, more, heq'⟩ := splitName_cons rest
    rw [heq'] at heq
    cases heq
  | case3 c rest _ first more heq ih =>
    cases h
    rw [ih heq]
  | case4 => cases h; rfl

/-- The characters of a part are characters of the name. -/
theorem mem_of_mem_splitName {s part : List Char} (hpart : part ∈ splitName s) {c : Char}
    (hc : c ∈ part) : c ∈ s := by
  fun_induction splitName s generalizing part with
  | case1 rest ih =>
    obtain rfl | hpart := List.mem_cons.1 hpart
    · cases hc
    · exact List.mem_cons_of_mem _ (List.mem_cons_of_mem _ (ih hpart hc))
  | case2 d rest _ heq =>
    obtain rfl := List.mem_singleton.1 hpart
    exact List.mem_singleton.1 hc ▸ List.mem_cons_self
  | case3 d rest _ first more heq ih =>
    obtain rfl | hpart := List.mem_cons.1 hpart
    · obtain rfl | hc := List.mem_cons.1 hc
      · exact List.mem_cons_self
      · exact List.mem_cons_of_mem _ (ih (heq ▸ List.mem_cons_self) hc)
    · exact List.mem_cons_of_mem _ (ih (heq ▸ List.mem_cons_of_mem _ hpart) hc)
  | case4 => exact absurd hc (by rw [List.mem_singleton.1 hpart]; exact List.not_mem_nil)

/-- What the name of a variable for a key of a section begins with. -/
def keyStart (area : String) : String := variableStart ++ area ++ "__"

/-- What one variable adds to a section. -/
def addVariable (area : String) (fields : Fields) (e : String × String) : Fields :=
  if (keyStart area).toList.isPrefixOf e.1.toList then
    let parts := (splitName (e.1.toList.drop (keyStart area).toList.length)).map String.ofList
    setNested (parts.getLast?.getD "") (.str e.2) parts.dropLast fields
  else fields

/-- The fields that some variables set in a section, and one more variable, come of adding that one.
-/
theorem sectionVariables_append (area : String) (named : List (String × String))
    (e : String × String) :
    sectionVariables area (named ++ [e]) = addVariable area (sectionVariables area named) e := by
  rw [sectionVariables, List.foldl_append]
  rfl

/-- Setting a nested field leaves the fields alone, or puts an object where no text was. -/
theorem setNested_cons (last key : String) (v : Value) (path : List String) (fields : Fields) :
    setNested last v (key :: path) fields = fields ∨
      ∃ inner, setNested last v (key :: path) fields = fields.set key (.object inner) ∧
        ∀ s, fields.get? key ≠ some (.str s) := by
  rw [setNested]
  cases h : fields.get? key with
  | none => exact .inr ⟨_, rfl, nofun⟩
  | some old =>
    cases old with
    | object inner => exact .inr ⟨_, rfl, nofun⟩
    | _ => exact .inl rfl

/-- A key of one part: there are no double underscores in it. -/
def OnePart (key : String) : Prop := splitName key.toList = [key.toList]

/-- One variable sets the key that it names, or it names something within a key.  In that case it
leaves a key alone that has a text already. -/
theorem addVariable_cases (area : String) (fields : Fields) (e : String × String) :
    (∃ key, OnePart key ∧ e.1 = keyStart area ++ key ∧
      addVariable area fields e = fields.set key (.str e.2)) ∨
    (∀ key, OnePart key → e.1 ≠ keyStart area ++ key) ∧
      (addVariable area fields e = fields ∨
        ∃ key inner, (∀ c ∈ key.toList, c ∈ e.1.toList) ∧
          addVariable area fields e = fields.set key (.object inner) ∧
            ∀ s, fields.get? key ≠ some (.str s)) := by
  by_cases hprefix : (keyStart area).toList.isPrefixOf e.1.toList = true
  · obtain ⟨rest, hrest⟩ := List.isPrefixOf_iff_prefix.1 hprefix
    obtain ⟨first, more, hsplit⟩ := splitName_cons rest
    have hadd : addVariable area fields e =
        setNested ((((first :: more).map String.ofList).getLast?).getD "") (.str e.2)
          ((first :: more).map String.ofList).dropLast fields := by
      rw [addVariable, if_pos hprefix, ← hrest, List.drop_left, hsplit]
    cases more with
    | nil =>
      obtain rfl := splitName_eq_single hsplit
      refine .inl ⟨String.ofList rest, ?_, ?_, hadd⟩
      · rw [OnePart, String.toList_ofList, hsplit]
      · refine String.toList_injective ?_
        rw [String.toList_append, String.toList_ofList, hrest]
    | cons second more =>
      refine .inr ⟨fun key hkey heq => ?_, ?_⟩
      · have hkeyrest : rest = key.toList := by
          rw [heq, String.toList_append] at hrest
          exact List.append_cancel_left hrest
        rw [hkeyrest, hkey] at hsplit
        cases hsplit
      · rw [hadd]
        obtain hsame | ⟨inner, hset, hnot⟩ := setNested_cons
          (((((first :: second :: more)).map String.ofList).getLast?).getD "") (String.ofList first)
          (.str e.2) (((second :: more).map String.ofList).dropLast) fields
        · exact .inl hsame
        · refine .inr ⟨String.ofList first, inner, fun c hc => ?_, hset, hnot⟩
          rw [String.toList_ofList] at hc
          have hmem := mem_of_mem_splitName (hsplit ▸ List.mem_cons_self) hc
          exact hrest ▸ List.mem_append_right _ hmem
  · refine .inr ⟨fun key _ heq => hprefix ?_, .inl (by rw [addVariable, if_neg hprefix])⟩
    rw [heq, String.toList_append]
    exact List.isPrefixOf_iff_prefix.2 (List.prefix_append _ _)

/-- The fields that variables set in a section have distinct keys. -/
theorem nodup_sectionVariables (area : String) (named : List (String × String)) :
    ((sectionVariables area named).map Prod.fst).Nodup := by
  induction named using List.reverseRecOn with
  | nil => exact List.nodup_nil
  | append_singleton named e ih =>
    rw [sectionVariables_append]
    obtain ⟨key, -, -, hset⟩ | ⟨-, hsame | ⟨key, inner, -, hset, -⟩⟩ :=
      addVariable_cases area (sectionVariables area named) e
    · rw [hset]; exact nodup_set ih _ _
    · rw [hsame]; exact ih
    · rw [hset]; exact nodup_set ih _ _

/-- The keys that variables set are in lower case, as the names of the variables are by then. -/
theorem isUpper_of_mem_sectionVariables {area : String} {named : List (String × String)}
    (h : ∀ e ∈ named, ∀ c ∈ e.1.toList, c.isUpper = false) {k : String}
    (hk : k ∈ (sectionVariables area named).map Prod.fst) {c : Char} (hc : c ∈ k.toList) :
    c.isUpper = false := by
  induction named using List.reverseRecOn with
  | nil => cases hk
  | append_singleton named e ih =>
    have hnamed := ih fun e' he' => h e' (List.mem_append_left _ he')
    have he : ∀ c ∈ e.1.toList, c.isUpper = false := h e (by simp)
    rw [sectionVariables_append] at hk
    obtain ⟨key, -, hname, hset⟩ | ⟨-, hsame | ⟨key, inner, hkey, hset, -⟩⟩ :=
      addVariable_cases area (sectionVariables area named) e
    · rw [hset] at hk
      obtain rfl | hk := mem_map_fst_set.1 hk
      · exact he c (by rw [hname, String.toList_append]; exact List.mem_append_right _ hc)
      · exact hnamed hk
    · rw [hsame] at hk
      exact hnamed hk
    · rw [hset] at hk
      obtain rfl | hk := mem_map_fst_set.1 hk
      · exact he c (hkey c hc)
      · exact hnamed hk

/-- A key of a section has the text of its own variable, or else no text: nothing, or an object of
the variables that name something within it. -/
theorem get?_sectionVariables (area : String) {key : String} {named : List (String × String)}
    (hnodup : (named.map Prod.fst).Nodup) (hkey : OnePart key) :
    match named.lookup (keyStart area ++ key) with
    | some v => (sectionVariables area named).get? key = some (.str v)
    | none => (sectionVariables area named).get? key = none ∨
        ∃ inner, (sectionVariables area named).get? key = some (.object inner) := by
  induction named using List.reverseRecOn with
  | nil => exact .inl rfl
  | append_singleton named e ih =>
    rw [List.map_append, List.nodup_append] at hnodup
    specialize ih hnodup.1
    rw [sectionVariables_append, List.lookup_append]
    have hother : e.1 ≠ keyStart area ++ key →
        (named.lookup (keyStart area ++ key)).or (List.lookup (keyStart area ++ key) [e]) =
          named.lookup (keyStart area ++ key) := by
      intro hne
      rw [List.lookup_cons, beq_eq_false_iff_ne.2 hne.symm]
      exact Option.or_none
    obtain ⟨k, -, hname, hset⟩ | ⟨hnot, hcase⟩ :=
      addVariable_cases area (sectionVariables area named) e
    · rw [hset, Fields.get?_set]
      by_cases hk : key = k
      · subst hk
        have hnone : named.lookup (keyStart area ++ key) = none := by
          refine List.lookup_eq_none_iff.2 fun f hf => bne_iff_ne.2 fun heq => ?_
          exact hnodup.2.2 f.1 (List.mem_map_of_mem hf) e.1 List.mem_cons_self (heq ▸ hname.symm)
        rw [hnone, ← hname, List.lookup_cons_self, if_pos rfl]
        rfl
      · rw [hother fun heq => hk ?_, if_neg hk]
        · exact ih
        · exact (String.append_right_inj (keyStart area)).1 (heq ▸ hname)
    · rw [hother (hnot key hkey)]
      obtain hsame | ⟨k, inner, -, hset, htext⟩ := hcase
      · rwa [hsame]
      · rw [hset, Fields.get?_set]
        by_cases hk : key = k
        · subst hk
          rw [if_pos rfl]
          cases hlookup : named.lookup (keyStart area ++ key) with
          | none => exact .inr ⟨inner, rfl⟩
          | some v =>
            rw [hlookup] at ih
            exact absurd ih (htext v)
        · rwa [if_neg hk]

/-! ## Spelling -/

/-- A key of a section as it should be spelled: one part, in small letters. -/
structure IsKey (key : String) : Prop where
  onePart : OnePart key
  plain : key.toList.all Text.isWordLetter = true
  small : Text.lowerCase key = key

/-- The keys of the sections are spelled as they should be. -/
theorem isKey_of_mem {area key : String} (h : (area, key) ∈ sections) : IsKey key := by
  obtain ⟨-, rfl⟩ | ⟨-, rfl⟩ := mem_sections.1 h
  · exact ⟨by rw [OnePart]; decide, by decide, by decide +kernel⟩
  · exact ⟨by rw [OnePart]; decide, by decide, by decide +kernel⟩

section Spelling

variable {key : String} {fields : Fields}

/-- A field with its key spelled as it should be. -/
def spellAs (key : String) (e : String × Value) : String × Value :=
  (if Text.lowerCase e.1 = key then key else e.1, e.2)

/-- Respelling writes the entries again under their new keys. -/
theorem respell_eq_writeAll (key : String) (fields : Fields) :
    respell key fields = writeAll (fields.map (spellAs key)) := by
  rw [writeAll, List.foldl_map]
  rfl

/-- Respelled fields have distinct keys. -/
theorem nodup_respell (key : String) (fields : Fields) :
    ((respell key fields).map Prod.fst).Nodup := by
  rw [respell_eq_writeAll]
  exact nodup_writeAll _

/-- Of several spellings of the key the last counts. -/
theorem get?_respell (h : IsKey key) (fields : Fields) :
    (respell key fields).get? key = lastCalled? key fields := by
  have hspell : (fun e => e.1 == key) ∘ spellAs key = fun e => Text.lowerCase e.1 == key := by
    funext e
    rw [Function.comp_apply, spellAs]
    by_cases he : Text.lowerCase e.1 = key
    · rw [if_pos he, beq_self_eq_true, he, beq_self_eq_true]
    · have hne : e.1 ≠ key := fun heq => he (heq ▸ h.small)
      rw [if_neg he, beq_eq_false_iff_ne.2 he, beq_eq_false_iff_ne.2 hne]
  rw [respell_eq_writeAll, get?_writeAll, List.filter_map, hspell, List.getLast?_map,
    Option.map_map]
  rfl

/-- If all keys are respelled to the one key of a section, each of them is that key in some letter
case. -/
theorem lowerCase_of_respell (h : IsKey key) (honly : ∀ f ∈ respell key fields, f.1 = key) :
    ∀ e ∈ fields, Text.lowerCase e.1 = key := by
  intro e he
  by_contra hne
  have hmem : e.1 ∈ (respell key fields).map Prod.fst := by
    rw [respell_eq_writeAll, mem_map_fst_writeAll, List.map_map]
    exact List.mem_map.2 ⟨e, he, if_neg hne⟩
  obtain ⟨f, hf, heq⟩ := List.mem_map.1 hmem
  have hname : e.1 = key := heq.symm.trans (honly f hf)
  exact hne (by rw [hname, h.small])

/-- A key set as it should be spelled either counts itself or leaves what counted before. -/
theorem lastCalled?_set (h : IsKey key) (fields : Fields) (v : Value) :
    lastCalled? key (fields.set key v) = some v ∨
      lastCalled? key (fields.set key v) = lastCalled? key fields := by
  unfold Fields.set
  split
  case isTrue =>
    have hname : ∀ e : String × Value,
        (if e.1 == key then (key, v) else e).1 = e.1 := by
      intro e
      split
      case isTrue heq => exact (eq_of_beq heq).symm
      case isFalse => rfl
    rw [lastCalled?, List.filter_map, List.getLast?_map, lastCalled?]
    have hfilter : (fun e : String × Value => Text.lowerCase e.1 == key) ∘
        (fun f => if f.1 == key then (key, v) else f) = fun e => Text.lowerCase e.1 == key := by
      funext e
      rw [Function.comp_apply, hname]
    rw [hfilter]
    cases (fields.filter fun e => Text.lowerCase e.1 == key).getLast? with
    | none => exact .inr rfl
    | some e =>
      simp only [Option.map_some]
      split
      · exact .inl rfl
      · exact .inr rfl
  case isFalse =>
    refine .inl ?_
    rw [lastCalled?, List.filter_append, List.filter_singleton, h.small, beq_self_eq_true,
      cond_true, List.getLast?_concat]
    rfl

end Spelling

/-! ## The layer of the environment -/

/-- The value that variables write at a place.  A section is a JSON object, with its key written
over it where the key has a variable of its own. -/
def Slot.inVariables? (vars : List (String × String)) : Slot → Option Value
  | plain name => (lastCalled? (variableStart ++ name) vars).map .str
  | keyed area key =>
    let own := (lastCalled? (keyStart area ++ key) vars).map Value.str
    match lastCalled? (variableStart ++ area) vars with
    | none => own
    | some text =>
      match Value.ofJson? text with
      | some (.object fields) =>
        lastCalled? key (match own with
          | some v => Fields.set fields key v
          | none => fields)
      | _ => none

/-- The names of the variables that bear on what stands at a place. -/
def Slot.variableNames : Slot → List String
  | plain name => [variableStart ++ name]
  | keyed area key => [variableStart ++ area, keyStart area ++ key]

/-- An entry that is called otherwise makes no difference to the last one of a name. -/
theorem lastCalled?_insert {α : Type} {name : String} {e : String × α}
    (h : Text.lowerCase e.1 ≠ name) (before after : List (String × α)) :
    lastCalled? name (before ++ e :: after) = lastCalled? name (before ++ after) := by
  rw [lastCalled?, List.filter_append, List.filter_cons_of_neg (by simpa using h),
    ← List.filter_append]
  rfl

/-- A variable of another name changes nothing. -/
theorem inVariables?_insert {slot : Slot} {e : String × String}
    (h : Text.lowerCase e.1 ∉ slot.variableNames) (before after : List (String × String)) :
    slot.inVariables? (before ++ e :: after) = slot.inVariables? (before ++ after) := by
  cases slot with
  | plain name =>
    rw [Slot.inVariables?, Slot.inVariables?, lastCalled?_insert (List.ne_of_not_mem_cons h)]
  | keyed area key =>
    have hkey := List.ne_of_not_mem_cons (List.not_mem_of_not_mem_cons h)
    rw [Slot.inVariables?, Slot.inVariables?, lastCalled?_insert (List.ne_of_not_mem_cons h),
      lastCalled?_insert hkey]

section Section

variable {area key : String} {vars : List (String × String)}

/-- If all variables of a section are for its key, then they make a section. -/
theorem isSection_sectionVariables (h : IsKey key)
    (hall : ∀ e ∈ sectionVariables area (lowerNames vars), Text.lowerCase e.1 = key) :
    IsSection key (.object (sectionVariables area (lowerNames vars))) := by
  refine isSection_of_nodup (fun e he => ?_) (nodup_sectionVariables area _)
  refine Text.eq_of_lowerCase_eq (fun c hc => ?_) h.plain (hall e he)
  exact isUpper_of_mem_sectionVariables (fun _ => isUpper_of_mem_lowerNames)
    (List.mem_map_of_mem he) hc

/-- The key of a section has the text of its own variable, where it does not have an object. -/
theorem get?_own (h : IsKey key)
    (hread : ∀ inner, (sectionVariables area (lowerNames vars)).get? key ≠ some (.object inner)) :
    (sectionVariables area (lowerNames vars)).get? key =
      (lastCalled? (keyStart area ++ key) vars).map .str := by
  have hown := get?_sectionVariables area (nodup_lowerNames vars) h.onePart
  rw [lookup_lowerNames] at hown
  cases hv : lastCalled? (keyStart area ++ key) vars with
  | some v =>
    rw [hv] at hown
    exact hown
  | none =>
    rw [hv] at hown
    obtain hnone | ⟨inner, hinner⟩ := hown
    · exact hnone
    · exact absurd hinner (hread inner)

/-- An object over anything gives an object. -/
theorem cover_object (old : Option Value) (inner : Fields) :
    ∃ fields, cover old (.object inner) = .object fields := by
  cases old with
  | none => exact ⟨inner, rfl⟩
  | some old =>
    cases old with
    | object fields => exact ⟨merge fields inner, by rw [cover, covering]⟩
    | _ =>
      refine ⟨inner, ?_⟩
      rw [cover, covering]
      intro fields heq
      cases heq

/-- The variables of a section over its JSON object. -/
theorem lastCalled?_merge_own (h : IsKey key) (fields : Fields)
    (hall : ∀ e ∈ merge fields (sectionVariables area (lowerNames vars)),
      Text.lowerCase e.1 = key)
    (hread : ∀ inner, lastCalled? key (merge fields (sectionVariables area (lowerNames vars))) ≠
      some (.object inner)) :
    lastCalled? key (merge fields (sectionVariables area (lowerNames vars))) =
      lastCalled? key (match (lastCalled? (keyStart area ++ key) vars).map Value.str with
        | some v => fields.set key v
        | none => fields) := by
  have hsection : IsSection key (.object (sectionVariables area (lowerNames vars))) :=
    isSection_sectionVariables h fun e he => by
      obtain ⟨e', he', heq⟩ := List.mem_map.1
        (mem_map_fst_merge.2 (.inr (List.mem_map.2 ⟨e, he, rfl⟩)))
      exact heq ▸ hall e' he'
  have hown := get?_sectionVariables area (nodup_lowerNames vars) h.onePart
  rw [lookup_lowerNames] at hown
  generalize sectionVariables area (lowerNames vars) = own at *
  cases hsection with
  | empty =>
    cases hv : lastCalled? (keyStart area ++ key) vars with
    | none => rw [merge]; rfl
    | some v => rw [hv] at hown; cases hown
  | single w =>
    rw [merge_cons, merge] at hread ⊢
    rw [Fields.get?_cons_self] at hown
    cases hv : lastCalled? (keyStart area ++ key) vars with
    | some v =>
      rw [hv] at hown
      obtain rfl := Option.some.inj hown
      have hcover : cover (fields.get? key) (.str v) = .str v :=
        cover_of_not_object (fun _ heq => by cases heq) _
      rw [hcover]
      rfl
    | none =>
      rw [hv] at hown
      obtain hnone | ⟨inner, hinner⟩ := hown
      · cases hnone
      · obtain rfl := Option.some.inj hinner
        obtain ⟨inner', hcover⟩ := cover_object (fields.get? key) inner
        rw [hcover] at hread ⊢
        exact (lastCalled?_set h fields (.object inner')).resolve_left (hread inner')

/-- A section without a JSON object has at its key what the variable of the key writes. -/
theorem get?_section_without_json (h : IsKey key)
    (honly : OnlyKey key (.object (respell key (sectionVariables area (lowerNames vars)))))
    (hread : ∀ inner, (respell key (sectionVariables area (lowerNames vars))).get? key ≠
      some (.object inner)) :
    (respell key (sectionVariables area (lowerNames vars))).get? key =
      (lastCalled? (keyStart area ++ key) vars).map .str := by
  obtain ⟨_, heq, hkeys⟩ := honly
  obtain rfl := Value.object.inj heq
  have hsection := isSection_sectionVariables h (lowerCase_of_respell h hkeys)
  have hlast : lastCalled? key (sectionVariables area (lowerNames vars)) =
      (sectionVariables area (lowerNames vars)).get? key := by
    generalize sectionVariables area (lowerNames vars) = own at hsection
    cases hsection with
    | empty => rfl
    | single w =>
      rw [Fields.get?_cons_self, lastCalled?, List.filter_singleton, h.small, beq_self_eq_true]
      rfl
  rw [get?_respell h, hlast] at hread ⊢
  exact get?_own h hread

/-- A section with a JSON object has at its key what the object has there once the variable of the
key is written over it. -/
theorem get?_section_with_json (h : IsKey key) (fields : Fields)
    (honly : OnlyKey key
      (.object (respell key (merge fields (sectionVariables area (lowerNames vars))))))
    (hread : ∀ inner,
      (respell key (merge fields (sectionVariables area (lowerNames vars)))).get? key ≠
        some (.object inner)) :
    (respell key (merge fields (sectionVariables area (lowerNames vars)))).get? key =
      lastCalled? key (match (lastCalled? (keyStart area ++ key) vars).map Value.str with
        | some v => fields.set key v
        | none => fields) := by
  obtain ⟨_, heq, hkeys⟩ := honly
  obtain rfl := Value.object.inj heq
  rw [get?_respell h] at hread ⊢
  exact lastCalled?_merge_own h fields (lowerCase_of_respell h hkeys) hread

/-- A section that passes the check has what the variables write at its key. -/
theorem sectionValue_leaf (h : IsKey key) {o : Option Value}
    (hok : sectionValue area key (lowerNames vars) = .ok o)
    (honly : ∀ v, o = some v → OnlyKey key v)
    (hread : ∀ inner, o.bind (·.get? key) ≠ some (.object inner)) :
    o.bind (·.get? key) = (Slot.keyed area key).inVariables? vars ∧
      ∀ inner, o = some (.object inner) → (inner.map Prod.fst).Nodup := by
  have hnodup : ∀ fields inner : Fields, some (Value.object (respell key fields)) =
      some (.object inner) → (inner.map Prod.fst).Nodup := fun fields inner heq =>
    Value.object.inj (Option.some.inj heq) ▸ nodup_respell key fields
  rw [sectionValue, lookup_lowerNames] at hok
  rw [Slot.inVariables?]
  cases hjson : lastCalled? (variableStart ++ area) vars with
  | none =>
    rw [hjson] at hok
    obtain rfl := Except.ok.inj hok
    by_cases hempty : (sectionVariables area (lowerNames vars)).isEmpty = true
    · have hnone : (sectionVariables area (lowerNames vars)).get? key = none := by
        rw [List.isEmpty_iff.1 hempty]
        rfl
      rw [if_pos hempty]
      exact ⟨hnone.symm.trans (get?_own h fun inner heq => nomatch hnone.symm.trans heq), nofun⟩
    · rw [if_neg hempty] at honly hread ⊢
      exact ⟨get?_section_without_json h (honly _ rfl) hread, hnodup _⟩
  | some text =>
    rw [hjson] at hok
    simp only at hok ⊢
    cases hvalue : Value.ofJson? text with
    | none => rw [hvalue] at hok; cases hok
    | some v =>
      rw [hvalue] at hok
      cases v with
      | object fields =>
        obtain rfl := Except.ok.inj hok
        exact ⟨get?_section_with_json h fields (honly _ rfl) hread, hnodup _⟩
      | null =>
        obtain rfl := Except.ok.inj hok
        exact ⟨rfl, nofun⟩
      | _ =>
        obtain rfl := Except.ok.inj hok
        obtain ⟨_, heq, -⟩ := honly _ rfl
        cases heq

end Section

section Layer

variable {named : List (String × String)}

/-- The fields from variables for some names are the variables of these names. -/
theorem plainVariables_of (names : List String) (k : String) :
    Fields.get? (names.filterMap fun name =>
        (named.lookup (variableStart ++ name)).map fun v => (name, Value.str v)) k =
      if k ∈ names then (named.lookup (variableStart ++ k)).map .str else none := by
  induction names with
  | nil => rfl
  | cons name more ih =>
    rw [List.filterMap_cons]
    by_cases hk : k = name
    · subst hk
      rw [if_pos List.mem_cons_self]
      cases hv : named.lookup (variableStart ++ k) with
      | some v => exact Fields.get?_cons_self _ _ _
      | none =>
        refine ih.trans ?_
        rw [hv]
        exact ite_self none
    · have hmem : k ∈ name :: more ↔ k ∈ more := by rw [List.mem_cons, or_iff_right hk]
      simp only [hmem, ← ih]
      cases named.lookup (variableStart ++ name) with
      | some v => exact Fields.get?_cons_of_ne hk _ _
      | none => rfl

/-- The fields from variables come in the order of the names, each at most once. -/
theorem plainVariables_sublist (names : List String) :
    ((names.filterMap fun name =>
      (named.lookup (variableStart ++ name)).map fun v => (name, Value.str v)).map Prod.fst).Sublist
        names := by
  induction names with
  | nil => exact List.Sublist.slnil
  | cons name more ih =>
    rw [List.filterMap_cons]
    cases named.lookup (variableStart ++ name) with
    | some v => exact ih.cons_cons name
    | none => exact ih.cons name

/-- The sections that come of the variables are in their order, each at most once, and each of them
is what the variables about it come to. -/
theorem sectionsOf_eq_ok {areas : List (String × String)} (hnodup : (areas.map Prod.fst).Nodup)
    {fields : Fields} (h : sectionsOf named areas = .ok fields) :
    (fields.map Prod.fst).Sublist (areas.map Prod.fst) ∧
      ∀ area key, (area, key) ∈ areas → sectionValue area key named = .ok (fields.get? area) := by
  induction areas generalizing fields with
  | nil =>
    obtain rfl := Except.ok.inj h
    exact ⟨List.Sublist.slnil, nofun⟩
  | cons e more ih =>
    obtain ⟨area, key⟩ := e
    obtain ⟨hnot, hmore⟩ := List.nodup_cons.1 hnodup
    rw [sectionsOf] at h
    cases hv : sectionValue area key named with
    | error b => rw [hv] at h; cases h
    | ok v =>
      cases hrest : sectionsOf named more with
      | error b => rw [hv, hrest] at h; cases h
      | ok rest =>
        rw [hv, hrest] at h
        obtain rfl := Except.ok.inj h
        obtain ⟨hsub, hvalues⟩ := ih hmore hrest
        have hother : ∀ area' key', (area', key') ∈ more → area' ≠ area := fun area' key' hmem heq =>
          hnot (heq ▸ List.mem_map.2 ⟨_, hmem, rfl⟩)
        cases v with
        | none =>
          refine ⟨hsub.cons _, fun area' key' hmem => ?_⟩
          obtain heq | hmem := List.mem_cons.1 hmem
          · cases heq
            rw [hv, get?_eq_none_iff.2 fun hin => hnot (hsub.subset hin)]
          · exact hvalues area' key' hmem
        | some v =>
          refine ⟨hsub.cons_cons _, fun area' key' hmem => ?_⟩
          obtain heq | hmem := List.mem_cons.1 hmem
          · cases heq
            rw [hv, Fields.get?_cons_self]
          · rw [Fields.get?_cons_of_ne (hother area' key' hmem)]
            exact hvalues area' key' hmem

/-- The layer of the environment has the plain settings as texts, and the sections as they come. -/
theorem variableFields_eq_ok {vars : List (String × String)} {fields : Fields}
    (h : variableFields vars = .ok fields) :
    (fields.map Prod.fst).Nodup ∧
      (∀ name ∈ plainSettings,
        fields.get? name = (lastCalled? (variableStart ++ name) vars).map .str) ∧
      ∀ area key, (area, key) ∈ sections →
        sectionValue area key (lowerNames vars) = .ok (fields.get? area) := by
  have hnames : settingNames.Nodup := by decide
  have hdisjoint : ∀ name ∈ plainSettings, name ∉ sections.map Prod.fst := by decide
  cases hsections : sectionsOf (lowerNames vars) sections with
  | error b => exact absurd h (by simp [variableFields, hsections, bind, Except.bind])
  | ok sectionFields =>
    obtain rfl : plainVariables (lowerNames vars) ++ sectionFields = fields := by
      simpa [variableFields, hsections, bind, Except.bind, pure, Except.pure] using h
    obtain ⟨hsub, hvalues⟩ := sectionsOf_eq_ok (by decide) hsections
    refine ⟨?_, fun name hname => ?_, fun area key hmem => ?_⟩
    · rw [List.map_append]
      exact hnames.sublist ((plainVariables_sublist plainSettings).append hsub)
    · have hsection : sectionFields.get? name = none :=
        get?_eq_none_iff.2 fun hin => hdisjoint name hname (hsub.subset hin)
      rw [Fields.get?_append, hsection, Option.or_none, plainVariables, plainVariables_of,
        if_pos hname, lookup_lowerNames]
    · have hplain : area ∉ plainSettings := fun hin =>
        hdisjoint area hin (List.mem_map.2 ⟨_, hmem, rfl⟩)
      rw [Fields.get?_append, plainVariables, plainVariables_of, if_neg hplain, Option.none_or]
      exact hvalues area key hmem

/-- If the layer of the environment passes the check, it is a layer, and writes at every leaf what
the variables say. -/
theorem variableFields_layer {vars : List (String × String)} {fields : Fields}
    (h : variableFields vars = .ok fields) {file : Option Path} {s : Settings}
    (hcheck : Settings.check file fields = .passed s) :
    Layer fields ∧ ∀ ℓ : Leaf, ℓ.in? fields = ℓ.slot.inVariables? vars := by
  obtain ⟨hshape, -, hread⟩ := check_eq_passed_iff.1 hcheck
  obtain ⟨hnodup, hplain, hsection⟩ := variableFields_eq_ok h
  have hleaf : ∀ ℓ : Leaf, ∀ area key, ℓ.slot = .keyed area key →
      (fields.get? area).bind (·.get? key) = (Slot.keyed area key).inVariables? vars ∧
        ∀ inner, fields.get? area = some (.object inner) → (inner.map Prod.fst).Nodup := by
    intro ℓ area key hslot
    have hmem := Leaf.slot_keyed hslot
    refine sectionValue_leaf (isKey_of_mem hmem) (hsection area key hmem)
      (hshape.sections area key hmem) fun inner heq => ?_
    have hobject : ℓ.in? fields = some (.object inner) := by rw [Leaf.in?, hslot]; exact heq
    exact ℓ.read_object_ne inner _ (by have := hread ℓ; rwa [hobject] at this)
  refine ⟨Layer.of_check hcheck hnodup fun area key hmem => ?_, fun ℓ => ?_⟩
  · obtain ⟨ℓ, hslot⟩ := Leaf.exists_slot_keyed hmem
    exact (hleaf ℓ area key hslot).2
  · rw [Leaf.in?]
    cases hslot : ℓ.slot with
    | plain name => exact hplain name (Leaf.slot_plain hslot)
    | keyed area key => exact (hleaf ℓ area key hslot).1

end Layer

end DateCalc.Config
