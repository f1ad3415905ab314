/-
  JSON text is read back.

  What is written of a value and what is read of a text go the same way down the value, so the proof
  goes that way too: one case for each kind of value, and for lists and objects an induction on
  their elements.  Three things have to be kept apart while reading: a string ends at the first
  quote that was not written as part of it, a number ends where its digits do, and the blanks that
  set elements apart begin none of them.

  Some values are not read back, and they are left out (`Portable`): a floating-point number may be
  rounded, a moment is a text in JSON, there is a longest number, and of two fields of one name
  only one is left.

  The reader spends one unit of fuel for each step down and for each element.  The text of a value
  has more characters than that, so the length of the text is enough.
-/
import DateCalc.Proofs.Grammar.Canonical
import DateCalc.Value.Json
import DateCalc.Value.Reader

namespace DateCalc.Value

/-! ## Values that are read back -/

mutual

/-- The text of the value says everything about it. -/
def Portable : Value → Prop
  | null => True
  | bool _ => True
  | int n => (Text.decimal n.natAbs).length ≤ Text.longestNumber
  | float _ => False
  | str _ => True
  | moment _ => False
  | list items => PortableItems items
  | object fields => (fields.map Prod.fst).Nodup ∧ PortableFields fields

/-- The texts of the items say everything about them. -/
def PortableItems : List Value → Prop
  | [] => True
  | v :: more => Portable v ∧ PortableItems more

/-- The texts of the fields say everything about their values. -/
def PortableFields : List (String × Value) → Prop
  | [] => True
  | (_, v) :: more => Portable v ∧ PortableFields more

end

/-! ## Strings -/

/-- A character that is written by its number is read by it. -/
theorem hexValue?_hexadecimal {n : Nat} (h : n < 0x20) :
    ∃ a b c d, Text.hexadecimal 4 n = [a, b, c, d] ∧ hexValue? [a, b, c, d] = some n := by
  have hall : ∀ m : Fin 0x20, (Text.hexadecimal 4 m.val).length = 4 ∧
      hexValue? (Text.hexadecimal 4 m.val) = some m.val := by decide
  obtain ⟨hlength, hvalue⟩ := hall ⟨n, h⟩
  match hdigits : Text.hexadecimal 4 n, hlength with
  | [a, b, c, d], _ => exact ⟨a, b, c, d, rfl, by rw [← hdigits]; exact hvalue⟩

/-- A character that is neither the quote nor the backslash nor a control is read as it is. -/
theorem readString_cons {c : Char} (hquote : c ≠ '"') (hbackslash : c ≠ '\\')
    (hcontrol : ¬ c.toNat < 0x20) (t : List Char) (units : List Nat) :
    readString (c :: t) units = readString t (c.toNat :: units) := by
  rw [readString.eq_def]
  split
  case h_1 heq => cases heq
  case h_2 heq => exact absurd (List.cons.inj heq).1 hquote
  case h_3 heq => exact absurd (List.cons.inj heq).1 hbackslash
  case h_4 _ heq => exact absurd (List.cons.inj heq).1 hbackslash
  case h_5 heq =>
    cases heq
    exact if_neg hcontrol

/-- What is written of one character is read as its code. -/
theorem readString_escaped (c : Char) (t : List Char) (units : List Nat) :
    readString (jsonEscaped c ++ t) units = readString t (c.toNat :: units) := by
  unfold jsonEscaped
  split
  case isTrue h => subst h; simp [readString, simpleEscape?]
  split
  case isTrue h => subst h; simp [readString, simpleEscape?]
  split
  case isTrue h => subst h; simp [readString, simpleEscape?]
  split
  case isTrue h => subst h; simp [readString, simpleEscape?]
  split
  case isTrue h => subst h; simp [readString, simpleEscape?]
  split
  case isTrue h => simp [readString, simpleEscape?, h]
  split
  case isTrue h => simp [readString, simpleEscape?, h]
  split
  case isTrue h =>
    obtain ⟨a, b, c', d, hdigits, hvalue⟩ := hexValue?_hexadecimal h
    simp only [hdigits, List.cons_append, List.nil_append, readString, hvalue]
  case isFalse hquote hbackslash _ _ _ _ _ hcontrol =>
    exact readString_cons hquote hbackslash hcontrol t units

/-- A code of a character is never half of a pair. -/
theorem not_surrogate (c : Char) :
    isHighSurrogate c.toNat = false ∧ isLowSurrogate c.toNat = false := by
  have hvalid : c.toNat < 0xD800 ∨ 0xDFFF < c.toNat ∧ c.toNat < 0x110000 := c.valid
  simp only [isHighSurrogate, isLowSurrogate, Bool.and_eq_false_iff, decide_eq_false_iff_not]
  omega

/-- Codes of characters are joined to the characters. -/
theorem joinUnits_toNat (s : List Char) : joinUnits (s.map Char.toNat) = s := by
  have hunit : ∀ c : Char, unitChar c.toNat = c := by
    intro c
    simp only [unitChar, not_surrogate c, Bool.or_self, Bool.false_eq_true, if_false,
      Char.ofNat_toNat]
  induction s with
  | nil => rfl
  | cons c s ih =>
    cases s with
    | nil =>
      rw [List.map_singleton, joinUnits, hunit]
    | cons d s =>
      rw [List.map_cons, List.map_cons, joinUnits, (not_surrogate c).1, Bool.false_and,
        if_neg Bool.false_ne_true, hunit, ← List.map_cons, ih]

/-- **A string is read back**, up to its closing quote, by induction on its characters. -/
theorem readString_jsonString (s : String) (rest : List Char) :
    ∃ body, (jsonString s).toList = '"' :: body ∧
      readString (body ++ rest) [] = some (s, rest) := by
  have hchars : ∀ (cs : List Char) (units : List Nat),
      readString (cs.flatMap jsonEscaped ++ '"' :: rest) units =
        some (String.ofList (joinUnits (units.reverse ++ cs.map Char.toNat)), rest) := by
    intro cs
    induction cs with
    | nil =>
      intro units
      simp [readString]
    | cons c cs ih =>
      intro units
      rw [List.flatMap_cons, List.append_assoc, readString_escaped, ih]
      simp
  refine ⟨s.toList.flatMap jsonEscaped ++ ['"'], by rw [jsonString, String.toList_ofList], ?_⟩
  rw [List.append_assoc, List.singleton_append, hchars]
  simp [joinUnits_toNat]

/-! ## Numbers -/

/-- Nothing that could go on a number stands at the front. -/
def EndsNumber (rest : List Char) : Prop :=
  Stops (fun c => c.isDigit || c == '.' || c == 'e' || c == 'E') rest

theorem EndsNumber.ne {rest : List Char} (h : EndsNumber rest) {c : Char} {t : List Char}
    (heq : rest = c :: t) : c.isDigit = false ∧ c ≠ '.' ∧ c ≠ 'e' ∧ c ≠ 'E' := by
  subst heq
  simpa [EndsNumber, stops_cons, and_assoc] using h

/-- A number that starts with a zero is zero: with more digits it would be too small for them. -/
theorem decimal_of_head_zero {n : Nat} (h : (Text.decimal n).head? = some '0') :
    Text.decimal n = ['0'] := by
  obtain ⟨ds, hds⟩ : ∃ ds, Text.decimal n = '0' :: ds := by
    cases hdigits : Text.decimal n with
    | nil => exact absurd hdigits (Text.decimal_ne_nil n)
    | cons c ds =>
      rw [hdigits, List.head?_cons, Option.some_inj] at h
      exact ⟨ds, by rw [h]⟩
  by_cases hnil : ds = []
  · rw [hds, hnil]
  · exfalso
    have hlength := List.length_pos_iff.2 hnil
    have hall := Text.decimal_all_digits n
    rw [hds, List.all_cons, Bool.and_eq_true] at hall
    have hvalue : Nat.ofDigitChars 10 ds 0 = n := by
      have hread := Text.decimalValue_decimal n
      rwa [hds, Text.decimalValue, Nat.ofDigitChars_cons] at hread
    have hlt := Text.ofDigitChars_lt hall.2 0
    rw [hvalue, Nat.zero_add, Nat.one_mul] at hlt
    have hle := (Text.length_decimal_le_iff hlength).2 hlt
    rw [hds, List.length_cons] at hle
    omega

/-- **A number is read back** where nothing follows that could go on it. -/
theorem readNumber_decimal {n : Nat} {rest : List Char} (negative : Bool)
    (hn : (Text.decimal n).length ≤ Text.longestNumber) (hrest : EndsNumber rest) :
    readNumber negative (Text.decimal n ++ rest) =
      some (int (if negative then -(n : Int) else n), rest) := by
  have hall := Text.decimal_all_digits n
  have hstop : Stops Char.isDigit rest := by
    cases rest with
    | nil => exact stops_nil _
    | cons c t => exact stops_cons.2 (hrest.ne rfl).1
  have hne : (Text.decimal n).isEmpty = false := by
    rw [List.isEmpty_eq_false_iff]
    exact Text.decimal_ne_nil n
  have hdigits : someDigits? (Text.decimal n ++ rest) = some (Text.decimal n, rest) := by
    simp only [someDigits?, takeWhile_run hall hstop, dropWhile_run hall hstop, hne,
      Bool.false_eq_true, if_false]
  -- A leading zero is all there is of the number, so both ways read the same digits.
  have hwhole : (if (Text.decimal n).head? = some '0' then (['0'], (Text.decimal n ++ rest).drop 1)
      else (Text.decimal n, rest)) = (Text.decimal n, rest) := by
    split
    · rename_i hzero
      rw [decimal_of_head_zero hzero]
      rfl
    · rfl
  have hfraction : readFraction rest = ([], rest) := by
    unfold readFraction
    split
    · exact absurd rfl (hrest.ne rfl).2.1
    · rfl
  have hshort : ¬ Text.longestNumber < (Text.decimal n).length := Nat.not_lt.2 hn
  simp only [readNumber, hdigits, hwhole, hfraction, List.isEmpty_nil, Bool.true_and, hshort,
    decide_false, Bool.false_eq_true, if_false, if_true, Text.decimalValue_decimal]
  split
  · -- No exponent is read where neither letter stands.
    rename_i hexponent
    split at hexponent
    · exact absurd rfl (hrest.ne rfl).2.2.1
    · exact absurd rfl (hrest.ne rfl).2.2.2
    · cases hexponent
  · rfl

/-! ## Elements -/

/-- A text after its leading blanks, which are what is written to set it apart. -/
theorem skipJsonBlanks_append {w s : List Char} (hw : w.all isJsonBlank = true)
    (hs : Stops isJsonBlank s) : skipJsonBlanks (w ++ s) = s := dropWhile_run hw hs

/-- The blanks before an element at a depth. -/
def indentAt (depth : Nat) : List Char := List.replicate (2 * depth) ' '

/-- An indentation is blank. -/
theorem indentAt_blank (depth : Nat) : (indentAt depth).all isJsonBlank = true := by
  rw [List.all_eq_true]
  intro c hc
  rw [(List.mem_replicate.1 hc).2]
  rfl

/-- What is written behind an element at a depth: the other elements, each on a line of its own, and
the closing bracket one level up. -/
def behindElement (depth : Nat) (closing : Char) : List String → List Char
  | [] => '\n' :: (indentAt depth ++ [closing])
  | e :: more =>
    ',' :: '\n' :: (indentAt (depth + 1) ++ (e.toList ++ behindElement depth closing more))

/-- The elements between two brackets, from the first one on. -/
def elementsText (depth : Nat) (closing : Char) : List String → List Char
  | [] => []
  | e :: more => e.toList ++ behindElement depth closing more

theorem behindElement_cons (depth : Nat) (closing : Char) (e : String) (more : List String) :
    behindElement depth closing (e :: more) =
      ',' :: '\n' :: (indentAt (depth + 1) ++ elementsText depth closing (e :: more)) := rfl

/-- Whatever stands behind an element ends a number. -/
theorem endsNumber_behindElement (depth : Nat) (closing : Char) (more : List String)
    (rest : List Char) : EndsNumber (behindElement depth closing more ++ rest) := by
  cases more with
  | nil => exact stops_cons.2 (by decide)
  | cons e more => exact stops_cons.2 (by decide)

/-- Behind its opening bracket a text goes on with the first element, by induction on the
elements. -/
theorem toList_bracketed (opening closing : String) {d : Char} (hclosing : closing.toList = [d])
    (depth : Nat) (e : String) (more : List String) :
    (bracketed opening closing depth (e :: more)).toList =
      opening.toList ++ '\n' :: (indentAt (depth + 1) ++ elementsText depth d (e :: more)) := by
  have hall : ∀ (e : String) (more : List String),
      (",\n".intercalate ((e :: more).map
        (String.ofList (List.replicate (2 * (depth + 1)) ' ') ++ ·))).toList ++
          '\n' :: (indentAt depth ++ [d]) =
        indentAt (depth + 1) ++ elementsText depth d (e :: more) := by
    intro e more
    induction more generalizing e with
    | nil => simp [behindElement, elementsText, indentAt]
    | cons next more ih =>
      rw [List.map_cons, List.map_cons, String.intercalate_cons_cons, ← List.map_cons,
        String.toList_append, List.append_assoc, ih]
      simp [behindElement, elementsText, indentAt]
  have hne : (e :: more).isEmpty = false := rfl
  rw [← hall]
  simp only [bracketed, hne, Bool.false_eq_true, if_false, String.toList_append, hclosing,
    String.toList_ofList, List.append_assoc, indentAt]
  rfl

/-- The text of a value starts with a character that is neither a blank nor a closing bracket. -/
theorem jsonAt_front {v : Value} (hv : v.Portable) (depth : Nat) :
    ∃ c t, (jsonAt depth v).toList = c :: t ∧ isJsonBlank c = false ∧ c ≠ ']' := by
  have hbracketed : ∀ (opening closing : String) (c : Char) (elements : List String),
      opening.toList = [c] →
      ∃ t, (bracketed opening closing depth elements).toList = c :: t := by
    intro opening closing c elements hopening
    unfold bracketed
    split
    · exact ⟨closing.toList, by rw [String.toList_append, hopening]; rfl⟩
    · exact ⟨_, by simp only [String.toList_append, hopening, List.append_assoc]; rfl⟩
  have hdecimal : ∀ n : Nat, ∃ c t, Text.decimal n = c :: t ∧ c.isDigit = true := by
    intro n
    obtain ⟨c, t, heq, hc, -⟩ := eq_cons_of_run (Text.decimal_ne_nil n) (Text.decimal_all_digits n)
    exact ⟨c, t, heq, hc⟩
  cases v with
  | null => exact ⟨'n', "ull".toList, by rw [jsonAt]; rfl, by decide, by decide⟩
  | bool b =>
    cases b with
    | true => exact ⟨'t', "rue".toList, by rw [jsonAt]; rfl, by decide, by decide⟩
    | false => exact ⟨'f', "alse".toList, by rw [jsonAt]; rfl, by decide, by decide⟩
  | int n =>
    rw [jsonAt, String.toList_ofList]
    cases n with
    | ofNat n =>
      obtain ⟨c, t, heq, hc⟩ := hdecimal n
      refine ⟨c, t, heq, ?_, ?_⟩
      · rw [isDigit_iff] at hc
        simp only [isJsonBlank, Bool.or_eq_false_iff, beq_eq_false_iff_ne]
        refine ⟨⟨⟨?_, ?_⟩, ?_⟩, ?_⟩ <;> (rintro rfl; revert hc; decide)
      · rintro rfl
        cases hc
    | negSucc n => exact ⟨'-', _, rfl, by decide, by decide⟩
  | float x => exact hv.elim
  | str s => exact ⟨'"', _, by rw [jsonAt, jsonString, String.toList_ofList], by decide, by decide⟩
  | moment written => exact hv.elim
  | list items =>
    obtain ⟨t, ht⟩ := hbracketed "[" "]" '[' (jsonItems (depth + 1) items) rfl
    exact ⟨'[', t, ht, by decide, by decide⟩
  | object fields =>
    obtain ⟨t, ht⟩ := hbracketed "\x7b" "\x7d" '\x7b' (jsonFields (depth + 1) fields) rfl
    exact ⟨'\x7b', t, ht, by decide, by decide⟩

/-! ## Reading elements -/

/-- A list that does not end at once has items. -/
theorem readValue_list {fuel : Nat} {s t : List Char} {c : Char}
    (hskip : skipJsonBlanks s = c :: t) (hc : c ≠ ']') :
    readValue (fuel + 1) ('[' :: s) =
      (readItems fuel (c :: t)).map fun (items, r) => (list items, r) := by
  rw [readValue]
  split
  · rename_i hclosed
    rw [hskip] at hclosed
    exact absurd (List.cons.inj hclosed).1 hc
  · rw [hskip]

/-- An object that does not end at once has fields. -/
theorem readValue_object {fuel : Nat} {s t : List Char} {c : Char}
    (hskip : skipJsonBlanks s = c :: t) (hc : c ≠ '\x7d') :
    readValue (fuel + 1) ('\x7b' :: s) =
      (readFields fuel (c :: t) []).map fun (fields, r) => (object fields, r) := by
  rw [readValue]
  split
  · rename_i hclosed
    rw [hskip] at hclosed
    exact absurd (List.cons.inj hclosed).1 hc
  · rw [hskip]

/-- Behind an element stands the closing bracket. -/
theorem skip_behind_last {depth : Nat} (closing : Char) (hclosing : isJsonBlank closing = false)
    (rest : List Char) :
    skipJsonBlanks (behindElement depth closing [] ++ rest) = closing :: rest := by
  have hw : ('\n' :: indentAt depth).all isJsonBlank = true := by
    rw [List.all_cons, indentAt_blank]
    rfl
  have heq : behindElement depth closing [] ++ rest = ('\n' :: indentAt depth) ++ closing :: rest := by
    simp [behindElement]
  rw [heq]
  exact skipJsonBlanks_append hw (stops_cons.2 hclosing)

/-- Or else a comma and, behind blanks, the next element. -/
theorem skip_before_element {depth : Nat} {s : List Char} (hs : Stops isJsonBlank s) :
    skipJsonBlanks ('\n' :: (indentAt depth ++ s)) = s := by
  have hw : ('\n' :: indentAt depth).all isJsonBlank = true := by
    rw [List.all_cons, indentAt_blank]
    rfl
  exact skipJsonBlanks_append hw hs

/-- Behind an element that is not the last one no blank is skipped before the comma. -/
theorem skip_behind_element (depth : Nat) (closing : Char) (e : String) (more : List String)
    (rest : List Char) :
    skipJsonBlanks (behindElement depth closing (e :: more) ++ rest) =
      ',' :: '\n' :: (indentAt (depth + 1) ++ (elementsText depth closing (e :: more) ++ rest)) := by
  have heq : behindElement depth closing (e :: more) ++ rest =
      ',' :: '\n' :: (indentAt (depth + 1) ++ (elementsText depth closing (e :: more) ++ rest)) := by
    rw [behindElement_cons]
    simp
  rw [heq]
  exact skipJsonBlanks_append (w := []) rfl (stops_cons.2 (by decide))

/-! ## Reading values -/

/-- A text that starts with a digit is read as a number. -/
theorem readValue_of_digit {c : Char} (hc : c.isDigit = true) (fuel : Nat) (t : List Char) :
    readValue (fuel + 1) (c :: t) = readNumber false (c :: t) := by
  have hne : ∀ d : Char, d.isDigit = false → c ≠ d := by
    rintro d hd rfl
    rw [hc] at hd
    cases hd
  rw [readValue.eq_def]
  dsimp only
  split
  case h_11 => rfl
  all_goals
    rename_i heq
    exact absurd (List.cons.inj heq).1 (hne _ (by decide))

/-- A text that starts with a minus sign and a digit is read as a negative number. -/
theorem readValue_of_minus {c : Char} (hc : c.isDigit = true) (fuel : Nat) (t : List Char) :
    readValue (fuel + 1) ('-' :: c :: t) = readNumber true (c :: t) := by
  rw [readValue.eq_def]
  dsimp only
  split
  case h_4 heq =>
    cases heq
    cases hc
  case h_7 heq =>
    cases heq
    rfl
  case h_11 hminus _ _ _ => exact (hminus _ rfl).elim
  all_goals
    rename_i heq
    cases heq

/-- An integer is read back. -/
theorem readValue_int {n : Int} (hn : (int n).Portable) (fuel depth : Nat) {rest : List Char}
    (hrest : EndsNumber rest) :
    readValue (fuel + 1) ((jsonAt depth (int n)).toList ++ rest) = some (int n, rest) := by
  rw [jsonAt, String.toList_ofList]
  cases n with
  | ofNat n =>
    have hread := readNumber_decimal false hn hrest
    obtain ⟨c, t, heq, hc, -⟩ := eq_cons_of_run (Text.decimal_ne_nil n) (Text.decimal_all_digits n)
    have hsigned : Text.signedDecimal (.ofNat n) = c :: t := heq
    rw [hsigned, List.cons_append, readValue_of_digit hc, ← List.cons_append, ← heq]
    exact hread
  | negSucc n =>
    have hread := readNumber_decimal (n := n + 1) true hn hrest
    obtain ⟨c, t, heq, hc, -⟩ :=
      eq_cons_of_run (Text.decimal_ne_nil (n + 1)) (Text.decimal_all_digits (n + 1))
    have hsigned : Text.signedDecimal (.negSucc n) = '-' :: c :: t := by
      rw [← heq]
      rfl
    rw [hsigned, List.cons_append, List.cons_append, readValue_of_minus hc, ← List.cons_append,
      ← heq, hread]
    rfl

/-- A field of a new name is put behind the others. -/
theorem set_of_not_mem {fields : Fields} {key : String} (h : key ∉ fields.map Prod.fst)
    (v : Value) : fields.set key v = fields ++ [(key, v)] := by
  have hany : fields.any (fun f => f.1 == key) = false := by
    rw [List.any_eq_false]
    rintro f hf heq
    exact h (List.mem_map.2 ⟨f, hf, eq_of_beq heq⟩)
  rw [Fields.set, hany]
  rfl

mutual

/-- A value is read back from its text, one case for each kind. -/
theorem readValue_jsonAt (v : Value) (depth fuel : Nat) (rest : List Char) (hv : v.Portable)
    (hrest : EndsNumber rest) (hfuel : (jsonAt depth v).toList.length < fuel) :
    readValue fuel ((jsonAt depth v).toList ++ rest) = some (v, rest) := by
  obtain ⟨fuel, rfl⟩ := Nat.exists_eq_add_one_of_ne_zero (Nat.ne_zero_of_lt hfuel)
  cases v with
  | null =>
    rw [jsonAt]
    simp [readValue, afterJsonWord?]
  | bool b =>
    cases b with
    | true =>
      rw [jsonAt]
      simp [readValue, afterJsonWord?]
    | false =>
      rw [jsonAt]
      simp [readValue, afterJsonWord?]
  | int n => exact readValue_int hv fuel depth hrest
  | float x => exact hv.elim
  | str s =>
    obtain ⟨body, hbody, hread⟩ := readString_jsonString s rest
    rw [jsonAt, hbody, List.cons_append, readValue, hread]
    rfl
  | moment written => exact hv.elim
  | list items =>
    cases items with
    | nil =>
      have hnil : (jsonAt depth (list [])).toList = ['[', ']'] := by
        rw [jsonAt, jsonItems, bracketed, List.isEmpty_nil, if_pos rfl]
        rfl
      rw [hnil]
      simp [readValue, skipJsonBlanks, isJsonBlank]
    | cons v items =>
      have htext : (jsonAt depth (list (v :: items))).toList =
          '[' :: '\n' :: (indentAt (depth + 1) ++
            elementsText depth ']' (jsonItems (depth + 1) (v :: items))) := by
        rw [jsonAt, jsonItems]
        exact toList_bracketed "[" "]" rfl depth _ _
      rw [htext] at hfuel ⊢
      simp only [List.length_cons, List.length_append] at hfuel
      have hitems := readItems_jsonItems (v :: items) depth fuel rest (List.cons_ne_nil _ _) hv
        (by omega)
      obtain ⟨c, t, hfront, hblank, hc⟩ := jsonAt_front hv.1 (depth + 1)
      have hstart : elementsText depth ']' (jsonItems (depth + 1) (v :: items)) ++ rest =
          c :: (t ++ behindElement depth ']' (jsonItems (depth + 1) items) ++ rest) := by
        rw [jsonItems, elementsText, hfront]
        rfl
      rw [List.cons_append, List.cons_append, List.append_assoc]
      rw [hstart] at hitems ⊢
      rw [readValue_list (skip_before_element (stops_cons.2 hblank)) hc, hitems]
      rfl
  | object fields =>
    cases fields with
    | nil =>
      have hnil : (jsonAt depth (object [])).toList = ['\x7b', '\x7d'] := by
        rw [jsonAt, jsonFields, bracketed, List.isEmpty_nil, if_pos rfl]
        rfl
      rw [hnil]
      simp [readValue, skipJsonBlanks, isJsonBlank]
    | cons f fields =>
      obtain ⟨key, v⟩ := f
      have htext : (jsonAt depth (object ((key, v) :: fields))).toList =
          '\x7b' :: '\n' :: (indentAt (depth + 1) ++
            elementsText depth '\x7d' (jsonFields (depth + 1) ((key, v) :: fields))) := by
        rw [jsonAt, jsonFields]
        exact toList_bracketed "\x7b" "\x7d" rfl depth _ _
      rw [htext] at hfuel ⊢
      simp only [List.length_cons, List.length_append] at hfuel
      have hfields := readFields_jsonFields ((key, v) :: fields) [] depth fuel rest
        (List.cons_ne_nil _ _) hv.1 hv.2 (by omega)
      obtain ⟨body, hbody, -⟩ := readString_jsonString key []
      have hstart : ∃ t, elementsText depth '\x7d' (jsonFields (depth + 1) ((key, v) :: fields)) ++
          rest = '"' :: t := by
        rw [jsonFields, elementsText, String.toList_append, String.toList_append, hbody]
        exact ⟨_, rfl⟩
      obtain ⟨t, hstart⟩ := hstart
      rw [List.cons_append, List.cons_append, List.append_assoc]
      rw [hstart] at hfields ⊢
      rw [readValue_object (skip_before_element (stops_cons.2 (by decide))) (by decide), hfields]
      rfl

/-- Items are read back from their texts, by induction on the items. -/
theorem readItems_jsonItems (items : List Value) (depth fuel : Nat) (rest : List Char)
    (hne : items ≠ []) (hitems : PortableItems items)
    (hfuel : (elementsText depth ']' (jsonItems (depth + 1) items)).length < fuel) :
    readItems fuel (elementsText depth ']' (jsonItems (depth + 1) items) ++ rest) =
      some (items, rest) := by
  obtain ⟨fuel, rfl⟩ := Nat.exists_eq_add_one_of_ne_zero (Nat.ne_zero_of_lt hfuel)
  cases items with
  | nil => exact absurd rfl hne
  | cons v more =>
    cases more with
    | nil =>
      rw [jsonItems, jsonItems, elementsText, List.length_append] at hfuel
      have hlength : 0 < (behindElement depth ']' []).length := Nat.succ_pos _
      have hv := readValue_jsonAt v (depth + 1) fuel (behindElement depth ']' [] ++ rest) hitems.1
        (endsNumber_behindElement _ _ _ _) (by omega)
      rw [jsonItems, jsonItems, elementsText, List.append_assoc, readItems, hv]
      simp only [skip_behind_last ']' (by decide)]
    | cons w more =>
      rw [jsonItems, jsonItems, elementsText, behindElement_cons] at hfuel
      simp only [List.length_append, List.length_cons] at hfuel
      have hv := readValue_jsonAt v (depth + 1) fuel
        (behindElement depth ']' (jsonItems (depth + 1) (w :: more)) ++ rest) hitems.1
        (endsNumber_behindElement _ _ _ _) (by omega)
      have hmore := readItems_jsonItems (w :: more) depth fuel rest (List.cons_ne_nil _ _) hitems.2
        (by rw [jsonItems]; omega)
      obtain ⟨c, t, hfront, hblank, -⟩ := jsonAt_front hitems.2.1 (depth + 1)
      have hstops : Stops isJsonBlank
          (elementsText depth ']' (jsonItems (depth + 1) (w :: more)) ++ rest) := by
        rw [jsonItems, elementsText, hfront]
        exact stops_cons.2 hblank
      have hskip := skip_behind_element depth ']' (jsonAt (depth + 1) w)
        (jsonItems (depth + 1) more) rest
      rw [← jsonItems] at hskip
      rw [jsonItems, elementsText, List.append_assoc, readItems, hv]
      simp only [hskip, skip_before_element hstops, hmore]
      rfl

/-- Fields are read back from their texts, behind those that were read before them. -/
theorem readFields_jsonFields (fields before : Fields) (depth fuel : Nat) (rest : List Char)
    (hne : fields ≠ []) (hkeys : ((before ++ fields).map Prod.fst).Nodup)
    (hfields : PortableFields fields)
    (hfuel : (elementsText depth '\x7d' (jsonFields (depth + 1) fields)).length < fuel) :
    readFields fuel (elementsText depth '\x7d' (jsonFields (depth + 1) fields) ++ rest) before =
      some (before ++ fields, rest) := by
  obtain ⟨fuel, rfl⟩ := Nat.exists_eq_add_one_of_ne_zero (Nat.ne_zero_of_lt hfuel)
  cases fields with
  | nil => exact absurd rfl hne
  | cons f more =>
    obtain ⟨key, v⟩ := f
    -- The name is read up to its closing quote, and the value behind the colon.
    obtain ⟨body, hbody, hread⟩ := readString_jsonString key (':' :: ' ' ::
      ((jsonAt (depth + 1) v).toList ++
        (behindElement depth '\x7d' (jsonFields (depth + 1) more) ++ rest)))
    have htext : elementsText depth '\x7d' (jsonFields (depth + 1) ((key, v) :: more)) ++ rest =
        '"' :: (body ++ ':' :: ' ' :: ((jsonAt (depth + 1) v).toList ++
          (behindElement depth '\x7d' (jsonFields (depth + 1) more) ++ rest))) := by
      rw [jsonFields, elementsText, String.toList_append, String.toList_append, hbody]
      simp
    rw [jsonFields, elementsText, String.toList_append, String.toList_append] at hfuel
    simp only [List.length_append] at hfuel
    have hlength : 0 < (": ".toList).length := by decide
    have hv := readValue_jsonAt v (depth + 1) fuel
      (behindElement depth '\x7d' (jsonFields (depth + 1) more) ++ rest) hfields.1
      (endsNumber_behindElement _ _ _ _) (by omega)
    obtain ⟨c, t, hfront, hblank, -⟩ := jsonAt_front hfields.1 (depth + 1)
    have hcolon : ∀ u : List Char, skipJsonBlanks (':' :: u) = ':' :: u := fun u =>
      skipJsonBlanks_append (w := []) rfl (stops_cons.2 (by decide))
    have hspace : ∀ u : List Char, skipJsonBlanks (' ' :: ((jsonAt (depth + 1) v).toList ++ u)) =
        (jsonAt (depth + 1) v).toList ++ u := by
      intro u
      rw [hfront]
      exact skipJsonBlanks_append (w := [' ']) rfl (stops_cons.2 hblank)
    have hnew : key ∉ before.map Prod.fst := by
      rw [List.map_append, List.map_cons] at hkeys
      exact fun hmem => (List.nodup_append.1 hkeys).2.2 key hmem key List.mem_cons_self rfl
    rw [htext, readFields, hread]
    simp only [hcolon, hspace, hv, set_of_not_mem hnew]
    cases more with
    | nil =>
      rw [jsonFields]
      simp only [skip_behind_last '\x7d' (by decide)]
    | cons g more =>
      obtain ⟨key', w⟩ := g
      have hmore := readFields_jsonFields ((key', w) :: more) (before ++ [(key, v)]) depth fuel rest
        (List.cons_ne_nil _ _) (by rw [List.append_assoc]; exact hkeys) hfields.2 (by
          rw [jsonFields, behindElement_cons] at hfuel
          simp only [List.length_cons, List.length_append] at hfuel
          rw [jsonFields]
          omega)
      obtain ⟨body', hbody', -⟩ := readString_jsonString key' []
      have hstops : Stops isJsonBlank
          (elementsText depth '\x7d' (jsonFields (depth + 1) ((key', w) :: more)) ++ rest) := by
        rw [jsonFields, elementsText, String.toList_append, String.toList_append, hbody']
        exact stops_cons.2 (by decide)
      have hskip := skip_behind_element depth '\x7d' (jsonString key' ++ ": " ++ jsonAt (depth + 1) w)
        (jsonFields (depth + 1) more) rest
      rw [← jsonFields] at hskip
      simp only [hskip, skip_before_element hstops, hmore]
      rw [List.append_assoc]
      rfl

end

/-- **The text of a value is read as the value**, blanks behind it aside. -/
theorem ofJson?_json {v : Value} (hv : v.Portable) {w : List Char}
    (hw : w.all isJsonBlank = true) : ofJson? (v.json ++ String.ofList w) = some v := by
  have hchars : (v.json ++ String.ofList w).toList = (jsonAt 0 v).toList ++ w := by
    rw [String.toList_append, String.toList_ofList]
    rfl
  have hend : EndsNumber w := by
    cases w with
    | nil => exact stops_nil _
    | cons c w =>
      rw [List.all_cons, Bool.and_eq_true] at hw
      have hblank := hw.1
      simp only [isJsonBlank, Bool.or_eq_true, beq_iff_eq] at hblank
      rcases hblank with ((rfl | rfl) | rfl) | rfl <;> exact stops_cons.2 (by decide)
  obtain ⟨c, t, hfront, hblank, -⟩ := jsonAt_front hv 0
  have hskip : skipJsonBlanks ((jsonAt 0 v).toList ++ w) = (jsonAt 0 v).toList ++ w := by
    rw [hfront]
    exact skipJsonBlanks_append (w := []) rfl (stops_cons.2 hblank)
  have hread := readValue_jsonAt v 0 (((jsonAt 0 v).toList ++ w).length + 1) w hv hend (by
    rw [List.length_append]
    omega)
  have hrest : skipJsonBlanks w = [] := by
    rw [← List.append_nil w]
    exact skipJsonBlanks_append hw (stops_nil _)
  simp only [ofJson?, hchars, hskip, hread, hrest, List.isEmpty_nil, if_true]

/-! ## The characters of a text -/

/-- A newline, or no control character. -/
def IsJsonChar (c : Char) : Prop := c = '\n' ∨ 0x20 ≤ c.toNat

/-- None of the characters is a control character. -/
def noControls (s : List Char) : Bool := s.all fun c => 0x20 ≤ c.toNat

theorem le_of_noControls {s : List Char} (h : noControls s = true) {c : Char} (hc : c ∈ s) :
    0x20 ≤ c.toNat := of_decide_eq_true (List.all_eq_true.1 h c hc)

/-- Every control character of a string is written by its number or its letter. -/
theorem isJsonChar_jsonString {s : String} {c : Char} (hc : c ∈ (jsonString s).toList) :
    IsJsonChar c := by
  have hhex : ∀ n : Fin 0x20, noControls (Text.hexadecimal 4 n.val) = true := by decide
  have hescaped : ∀ d : Char, c ∈ jsonEscaped d → 0x20 ≤ c.toNat := by
    intro d hd
    unfold jsonEscaped at hd
    split at hd
    case isTrue => exact le_of_noControls (by decide) hd
    split at hd
    case isTrue => exact le_of_noControls (by decide) hd
    split at hd
    case isTrue => exact le_of_noControls (by decide) hd
    split at hd
    case isTrue => exact le_of_noControls (by decide) hd
    split at hd
    case isTrue => exact le_of_noControls (by decide) hd
    split at hd
    case isTrue => exact le_of_noControls (by decide) hd
    split at hd
    case isTrue => exact le_of_noControls (by decide) hd
    split at hd
    case isTrue h =>
      rw [List.mem_cons, List.mem_cons] at hd
      rcases hd with rfl | rfl | hd
      · decide
      · decide
      · exact le_of_noControls (hhex ⟨d.toNat, h⟩) hd
    case isFalse h =>
      rw [List.mem_singleton] at hd
      rw [hd]
      exact Nat.not_lt.1 h
  rw [jsonString, String.toList_ofList, List.mem_cons, List.mem_append, List.mem_flatMap,
    List.mem_singleton] at hc
  rcases hc with rfl | ⟨d, -, hd⟩ | rfl
  · exact Or.inr (by decide)
  · exact Or.inr (hescaped d hd)
  · exact Or.inr (by decide)

/-- What stands between brackets is elements and what sets them apart. -/
theorem isJsonChar_bracketed {opening closing : String} {depth : Nat} {elements : List String}
    (hopening : ∀ c ∈ opening.toList, IsJsonChar c) {d : Char} (hclosing : closing.toList = [d])
    (hd : IsJsonChar d) (h : ∀ e ∈ elements, ∀ c ∈ e.toList, IsJsonChar c) :
    ∀ c ∈ (bracketed opening closing depth elements).toList, IsJsonChar c := by
  have hnewline : IsJsonChar '\n' := Or.inl rfl
  have hcomma : IsJsonChar ',' := Or.inr (by decide)
  have hindent : ∀ depth, ∀ c ∈ indentAt depth, IsJsonChar c := by
    intro depth c hc
    rw [(List.mem_replicate.1 hc).2]
    exact Or.inr (by decide)
  have hbehind : ∀ more : List String, (∀ e ∈ more, ∀ c ∈ e.toList, IsJsonChar c) →
      ∀ c ∈ behindElement depth d more, IsJsonChar c := by
    intro more
    induction more with
    | nil =>
      intro _
      rw [behindElement, List.forall_mem_cons, List.forall_mem_append, List.forall_mem_singleton]
      exact ⟨hnewline, hindent depth, hd⟩
    | cons e more ih =>
      intro hmore
      rw [List.forall_mem_cons] at hmore
      rw [behindElement, List.forall_mem_cons, List.forall_mem_cons, List.forall_mem_append,
        List.forall_mem_append]
      exact ⟨hcomma, hnewline, hindent _, hmore.1, ih hmore.2⟩
  cases elements with
  | nil =>
    rw [bracketed, List.isEmpty_nil, if_pos rfl, String.toList_append, hclosing,
      List.forall_mem_append, List.forall_mem_singleton]
    exact ⟨hopening, hd⟩
  | cons e more =>
    rw [List.forall_mem_cons] at h
    rw [toList_bracketed opening closing hclosing, elementsText, List.forall_mem_append,
      List.forall_mem_cons, List.forall_mem_append, List.forall_mem_append]
    exact ⟨hopening, hnewline, hindent _, h.1, hbehind more h.2⟩

mutual

/-- No text of a value has a control character but the newline. -/
theorem isJsonChar_jsonAt (v : Value) (depth : Nat) (hv : v.Portable) :
    ∀ c ∈ (jsonAt depth v).toList, IsJsonChar c := by
  cases v with
  | null =>
    rw [jsonAt]
    exact fun c hc => Or.inr (le_of_noControls (by decide) hc)
  | bool b =>
    cases b with
    | true =>
      rw [jsonAt]
      exact fun c hc => Or.inr (le_of_noControls (by decide) hc)
    | false =>
      rw [jsonAt]
      exact fun c hc => Or.inr (le_of_noControls (by decide) hc)
  | int n =>
    have hdecimal : ∀ m : Nat, ∀ c ∈ Text.decimal m, IsJsonChar c := by
      intro m c hc
      have hdigit := isDigit_iff.1 (Text.isDigit_of_mem_decimal hc)
      exact Or.inr (by omega)
    rw [jsonAt, String.toList_ofList]
    cases n with
    | ofNat n => exact hdecimal n
    | negSucc n => exact List.forall_mem_cons.2 ⟨Or.inr (by decide), hdecimal (n + 1)⟩
  | float x => exact hv.elim
  | str s =>
    rw [jsonAt]
    exact fun c hc => isJsonChar_jsonString hc
  | moment written => exact hv.elim
  | list items =>
    rw [jsonAt]
    exact isJsonChar_bracketed (List.forall_mem_singleton.2 (Or.inr (by decide))) rfl
      (Or.inr (by decide)) (isJsonChar_jsonItems items (depth + 1) hv)
  | object fields =>
    rw [jsonAt]
    exact isJsonChar_bracketed (List.forall_mem_singleton.2 (Or.inr (by decide))) rfl
      (Or.inr (by decide)) (isJsonChar_jsonFields fields (depth + 1) hv.2)

/-- The texts of the items of a list have none but characters of JSON. -/
theorem isJsonChar_jsonItems (items : List Value) (depth : Nat) (h : PortableItems items) :
    ∀ e ∈ jsonItems depth items, ∀ c ∈ e.toList, IsJsonChar c := by
  cases items with
  | nil =>
    rw [jsonItems]
    exact List.forall_mem_nil _
  | cons v more =>
    rw [jsonItems, List.forall_mem_cons]
    exact ⟨isJsonChar_jsonAt v depth h.1, isJsonChar_jsonItems more depth h.2⟩

/-- The texts of the fields of an object have none but characters of JSON. -/
theorem isJsonChar_jsonFields (fields : Fields) (depth : Nat) (h : PortableFields fields) :
    ∀ e ∈ jsonFields depth fields, ∀ c ∈ e.toList, IsJsonChar c := by
  cases fields with
  | nil =>
    rw [jsonFields]
    exact List.forall_mem_nil _
  | cons f more =>
    obtain ⟨key, v⟩ := f
    rw [jsonFields, List.forall_mem_cons, String.toList_append, String.toList_append,
      List.forall_mem_append, List.forall_mem_append]
    refine ⟨⟨⟨fun c hc => isJsonChar_jsonString hc, ?_⟩, isJsonChar_jsonAt v depth h.1⟩,
      isJsonChar_jsonFields more depth h.2⟩
    exact fun c hc => Or.inr (le_of_noControls (by decide) hc)

end

end DateCalc.Value
