/-
  Rules never look behind their start.

  A rule at a position is given the whole text.  It could look at what stands before the position,
  and what it gives and reports are positions counted from the start of the text.  None of this is
  felt: the runs that tokens go through, the sign that ends a date, the part that is cut out and
  trimmed, the comparison with the length of the text, all start from the position and stay between
  it and the end (`Follows`, proved for every rule).

  So a text in front moves every position by its length.  Value, cause, alternative and what is left
  to read stay the same.
-/
import DateCalc.Proofs.Grammar.Placed.Expression
import DateCalc.Proofs.Grammar.Placed.ClockTime

namespace DateCalc

/-- The same failure, reported about the text with another one in front of it. -/
def Failure.behind (front : List Char) (f : Failure) : Failure where
  text := front ++ f.text
  position := f.position + front.length
  expected := f.expected
  rule := f.rule

/-- A text in front does not change what was left to read. -/
theorem Failure.remaining_behind (front : List Char) (f : Failure) :
    (f.behind front).remaining = f.remaining := by
  show String.ofList ((front ++ f.text).drop (f.position + front.length)) = f.remaining
  rw [Nat.add_comm, List.drop_length_add_append]
  rfl

namespace PlacedRule

variable {α : Type} {text : List Char} {position : Nat}

/-! ## Texts in front -/

/-- Where the same is left of a text with and without another one in front, the positions are apart
by the length of that one. -/
theorem eq_add_of_drop_eq {front : List Char} {place place' : Nat}
    (h : text.drop place = (front ++ text).drop place') (hend : place ≤ text.length)
    (hend' : place' ≤ (front ++ text).length) : place' = place + front.length := by
  have hlength := congrArg List.length h
  rw [List.length_drop, List.length_drop] at hlength
  rw [List.length_append] at hlength hend'
  omega

/-- **A text in front moves what a rule gives by its length**: the rest from the position on is the
same, so the rule that is followed is asked the same. -/
theorem Follows.moved {p : PlacedRule α} {r : Rule α} (h : Follows p r) (front : List Char)
    (hposition : position ≤ text.length) :
    p (front ++ text) (front.length + position) =
      match p text position with
      | .ok (a, finish) => .ok (a, finish + front.length)
      | .error failure => .error (failure.behind front) := by
  have hbehind : front.length + position ≤ (front ++ text).length := by
    rw [List.length_append]
    omega
  rcases h.ok_or_error hposition with ⟨a, finish, hp, hr, -, hend⟩ | ⟨stop, _, _, hp, hr, -, hend⟩
  · rcases h.ok_or_error hbehind with ⟨a', finish', hp', hr', -, hend'⟩ | ⟨_, _, _, _, hr', -⟩
    · rw [List.drop_length_add_append, hr] at hr'
      obtain ⟨rfl, hrest⟩ := Prod.mk.inj (Except.ok.inj hr')
      obtain rfl := eq_add_of_drop_eq hrest hend hend'
      rw [hp, hp']
    · rw [List.drop_length_add_append, hr] at hr'
      cases hr'
  · rcases h.ok_or_error hbehind with ⟨_, _, _, hr', -⟩ | ⟨stop', _, _, hp', hr', -, hend'⟩
    · rw [List.drop_length_add_append, hr] at hr'
      cases hr'
    · rw [List.drop_length_add_append, hr] at hr'
      obtain ⟨hrest, rfl, rfl⟩ := Mismatch.mk.inj (Except.error.inj hr')
      obtain rfl := eq_add_of_drop_eq hrest hend hend'
      rw [hp, hp']
      rfl

end PlacedRule

namespace Placed

/-! ## The rules of the grammar -/

/-- The rules of the grammar at a position, tokens and parts of rules among them, each with the rule
on what is left that it stands for. -/
inductive StandsFor (reference : Date) : {α : Type} → PlacedRule α → Rule α → Prop where
  | space0 : StandsFor reference space0 Token.space0
  | space1 : StandsFor reference space1 Token.space1
  | tag (word : String) : StandsFor reference (tag word) (Token.tag word)
  | oneOf {α : Type} (words : List (String × α)) (expected : Expected) :
      StandsFor reference (oneOf words expected) (Token.oneOf words expected)
  | digits : StandsFor reference digits Token.digits
  | figures (least most : Nat) : StandsFor reference (figures least most) (Token.figures least most)
  | endOfText : StandsFor reference endOfText Grammar.endOfText
  | quantity : StandsFor reference quantity Grammar.quantity
  | unit : StandsFor reference unit Grammar.unit
  | period : StandsFor reference period Grammar.period
  | sign : StandsFor reference sign Grammar.sign
  | shift : StandsFor reference shift Grammar.shift
  | shifts : StandsFor reference shifts Grammar.shifts
  | isoFields : StandsFor reference isoFields Grammar.isoFields
  | literal : StandsFor reference (literal reference) (Grammar.literal reference)
  | anchor : StandsFor reference (anchor reference) (Grammar.anchor reference)
  | conjunction : StandsFor reference conjunction Grammar.conjunction
  | listedPeriod : StandsFor reference listedPeriod Grammar.listedPeriod
  | nextListed : StandsFor reference nextListed Grammar.nextListed
  | commaList : StandsFor reference commaList Grammar.commaList
  | pair : StandsFor reference pair Grammar.pair
  | single : StandsFor reference single Grammar.single
  | sentence : StandsFor reference sentence Grammar.sentence
  | relative : StandsFor reference (relative reference) (Grammar.relative reference)
  | anchorWithShifts :
      StandsFor reference (anchorWithShifts reference) (Grammar.anchorWithShifts reference)
  | difference : StandsFor reference (difference reference) (Grammar.difference reference)
  | relativeExpression :
      StandsFor reference (relativeExpression reference) (Grammar.relativeExpression reference)
  | loneAnchor : StandsFor reference (loneAnchor reference) (Grammar.loneAnchor reference)
  | periodChain : StandsFor reference periodChain Grammar.periodChain
  | expression : StandsFor reference (expression reference) (Grammar.expression reference)
  | bounded (part : String) (least most low high : Nat) :
      StandsFor reference (bounded part least most low high)
        (Grammar.bounded part least most low high)
  | hour12 : StandsFor reference hour12 Grammar.hour12
  | minute : StandsFor reference minute Grammar.minute
  | second : StandsFor reference second Grammar.second
  | optionalColon : StandsFor reference optionalColon Grammar.optionalColon
  | suffix : StandsFor reference suffix Grammar.suffix
  | meridiem : StandsFor reference meridiem Grammar.meridiem
  | military : StandsFor reference military Grammar.military
  | hourWithSuffix : StandsFor reference hourWithSuffix Grammar.hourWithSuffix
  | hourMinuteWithSuffix : StandsFor reference hourMinuteWithSuffix Grammar.hourMinuteWithSuffix
  | hourMinute24 : StandsFor reference hourMinute24 Grammar.hourMinute24
  | hourMinuteSecondWithSuffix :
      StandsFor reference hourMinuteSecondWithSuffix Grammar.hourMinuteSecondWithSuffix
  | clockTime : StandsFor reference clockTime Grammar.clockTime

/-- **Every rule at a position follows the rule it stands for.** -/
theorem StandsFor.follows {reference : Date} {α : Type} {p : PlacedRule α} {r : Rule α}
    (h : StandsFor reference p r) : p.Follows r := by
  cases h with
  | space0 => exact space0_follows
  | space1 => exact space1_follows
  | tag word => exact tag_follows word
  | oneOf words expected => exact oneOf_follows words expected
  | digits => exact digits_follows
  | figures least most => exact figures_follows least most
  | endOfText => exact endOfText_follows
  | quantity => exact quantity_follows
  | unit => exact unit_follows
  | period => exact period_follows
  | sign => exact sign_follows
  | shift => exact shift_follows
  | shifts => exact shifts_follows
  | isoFields => exact isoFields_follows
  | literal => exact literal_follows reference
  | anchor => exact anchor_follows reference
  | conjunction => exact conjunction_follows
  | listedPeriod => exact listedPeriod_follows
  | nextListed => exact nextListed_follows
  | commaList => exact commaList_follows
  | pair => exact pair_follows
  | single => exact single_follows
  | sentence => exact sentence_follows
  | relative => exact relative_follows reference
  | anchorWithShifts => exact anchorWithShifts_follows reference
  | difference => exact difference_follows reference
  | relativeExpression => exact relativeExpression_follows reference
  | loneAnchor => exact loneAnchor_follows reference
  | periodChain => exact periodChain_follows
  | expression => exact expression_follows reference
  | bounded part least most low high => exact bounded_follows part least most low high
  | hour12 => exact hour12_follows
  | minute => exact minute_follows
  | second => exact second_follows
  | optionalColon => exact optionalColon_follows
  | suffix => exact suffix_follows
  | meridiem => exact meridiem_follows
  | military => exact military_follows
  | hourWithSuffix => exact hourWithSuffix_follows
  | hourMinuteWithSuffix => exact hourMinuteWithSuffix_follows
  | hourMinute24 => exact hourMinute24_follows
  | hourMinuteSecondWithSuffix => exact hourMinuteSecondWithSuffix_follows
  | clockTime => exact clockTime_follows

/-- **Rules never look behind their start.**  With any text in front, every rule of the grammar
gives at a position what it gives there without: the same value, with the end further back by the
length of that text, or the same failure, expected under the same alternative, further back by as
much, with the same text left to read.  And what it gives there, as what it reads of a whole text,
is what comes of the rule that is given nothing but the rest. -/
theorem rules_never_look_behind (reference : Date) {α : Type} {p : PlacedRule α} {r : Rule α}
    (hp : StandsFor reference p r) (front text : List Char) {position : Nat}
    (hposition : position ≤ text.length) :
    (∀ a finish, p text position = .ok (a, finish) →
      p (front ++ text) (front.length + position) = .ok (a, finish + front.length)) ∧
    (∀ failure, p text position = .error failure →
      p (front ++ text) (front.length + position) = .error (failure.behind front) ∧
        (failure.behind front).remaining = failure.remaining) ∧
    p text position = r.parseAt text position ∧ p.parse text = r.parse text := by
  have hmoved := hp.follows.moved front hposition
  refine ⟨fun a finish h => ?_, fun failure h => ?_, hp.follows.parseAt_eq hposition,
    hp.follows.parse_eq text⟩
  · rw [hmoved, h]
  · rw [hmoved, h]
    exact ⟨rfl, failure.remaining_behind front⟩

/-- A date behind a figure that would make another date of it, a time of day behind a word, and a
unit that is missing behind two more. -/
theorem rules_never_look_behind_noon :
    literal .first ("gate 1".toList ++ "2/3/2021 + 5 days".toList) 6 =
      .ok (⟨2021, 2, 3, by decide, by decide, by decide, by decide⟩, 14) ∧
    clockTime ("at ".toList ++ "12pm sharp".toList) 3 =
      .ok (⟨⟨12, by decide⟩, ⟨0, by decide⟩, ⟨0, by decide⟩⟩, 7) ∧
    unit ("in about ".toList ++ "ten moons".toList) 13 =
      .error ⟨"in about ten moons".toList, 13, "day, week, month or year", none⟩ := by
  obtain ⟨hdate, -, hdateAlone, -⟩ := rules_never_look_behind .first .literal "gate 1".toList
    "2/3/2021 + 5 days".toList (Nat.zero_le _)
  obtain ⟨htime, -, htimeAlone, -⟩ := rules_never_look_behind .first .clockTime "at ".toList
    "12pm sharp".toList (Nat.zero_le _)
  obtain ⟨-, hunit, hunitAlone, -⟩ := @rules_never_look_behind .first _ _ _ .unit
    "in about ".toList "ten moons".toList 4 (by decide)
  exact ⟨hdate _ 8 (hdateAlone.trans (by decide)), htime _ 4 (htimeAlone.trans (by decide)),
    (hunit ⟨"ten moons".toList, 4, "day, week, month or year", none⟩
      (hunitAlone.trans (by decide))).1⟩

end Placed

end DateCalc
