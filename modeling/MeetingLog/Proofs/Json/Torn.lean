import MeetingLog.Proofs.Json.Tagged

/-!
# Torn objects

A torn text is a proper beginning of a text. What is torn inside a text literal
has no closing quote, and what is torn inside an object has no closing brace.
A reader that gets through some part of a torn object has therefore left
something torn behind it, and no reader gets through the object.
-/

namespace MeetingLog.Json

open MeetingLog.Text

/-- `IsTorn front whole` means that `front` is a proper beginning of
`whole`. -/
def IsTorn (front whole : List Char) : Prop :=
  ∃ c rest, whole = front ++ c :: rest

namespace IsTorn

theorem not_nil (front : List Char) : ¬ IsTorn front [] := by
  rintro ⟨c, rest, equality⟩
  exact List.append_ne_nil_of_right_ne_nil front (List.cons_ne_nil c rest)
    equality.symm

theorem nil_cons (c : Char) (rest : List Char) : IsTorn [] (c :: rest) :=
  ⟨c, rest, rfl⟩

/-- What is torn is empty or has the first character of the whole. -/
theorem cons_iff {front : List Char} {c : Char} {rest : List Char} :
    IsTorn front (c :: rest) ↔
      front = [] ∨ ∃ others, front = c :: others ∧ IsTorn others rest := by
  constructor
  · rintro ⟨d, back, equality⟩
    cases front with
    | nil => exact .inl rfl
    | cons first others =>
        obtain ⟨rfl, same⟩ := List.cons.inj equality
        exact .inr ⟨others, rfl, d, back, same⟩
  · rintro (rfl | ⟨others, rfl, d, back, rfl⟩)
    · exact nil_cons c rest
    · exact ⟨d, back, rfl⟩

/-- Of two texts one after the other, either the first or the second is
torn. -/
theorem append_iff {front first second : List Char} :
    IsTorn front (first ++ second) ↔
      IsTorn front first ∨
        ∃ others, front = first ++ others ∧ IsTorn others second := by
  induction first generalizing front with
  | nil =>
      have none := not_nil front
      simp [none]
  | cons c rest inductionHypothesis =>
      rw [List.cons_append, cons_iff, cons_iff]
      constructor
      · rintro (empty | ⟨others, rfl, torn⟩)
        · exact .inl (.inl empty)
        · rcases inductionHypothesis.1 torn with (inFirst | ⟨back, rfl, inSecond⟩)
          · exact .inl (.inr ⟨others, rfl, inFirst⟩)
          · exact .inr ⟨back, rfl, inSecond⟩
      · rintro ((empty | ⟨others, rfl, torn⟩) | ⟨others, rfl, torn⟩)
        · exact .inl empty
        · exact .inr ⟨others, rfl, inductionHypothesis.2 (.inl torn)⟩
        · exact .inr
            ⟨rest ++ others, rfl,
              inductionHypothesis.2 (.inr ⟨others, rfl, torn⟩)⟩

/-- A beginning of what is torn is torn. -/
theorem of_prefix {front shorter whole : List Char}
    (torn : IsTorn front whole) (shortened : shorter <+: front) :
    IsTorn shorter whole := by
  obtain ⟨c, rest, rfl⟩ := torn
  obtain ⟨cut, rfl⟩ := shortened
  cases cut with
  | nil => exact ⟨c, rest, by rw [List.append_nil]⟩
  | cons d others =>
      exact ⟨d, others ++ c :: rest, by rw [List.append_assoc]; rfl⟩

theorem take {whole : List Char} {size : Nat} (short : size < whole.length) :
    IsTorn (whole.take size) whole :=
  ⟨whole[size], whole.drop (size + 1), by
    rw [← List.drop_eq_getElem_cons, List.take_append_drop]⟩

end IsTorn

/-! ## Text literals -/

theorem readUnits_torn_writeUnit {torn : List Char} {value : Nat}
    (isTorn : IsTorn torn (writeUnit value)) :
    ∃ fault, (readUnits torn).2 = .error fault := by
  simp only [writeUnit, IsTorn.cons_iff, IsTorn.not_nil, and_false,
    exists_false, or_false] at isTorn
  obtain rfl | ⟨_, rfl, rfl | ⟨_, rfl, rfl | ⟨_, rfl, rfl | ⟨_, rfl,
    rfl | ⟨_, rfl, rfl⟩⟩⟩⟩⟩ := isTorn
  all_goals exact ⟨_, rfl⟩

theorem readUnits_torn_writeLetter {asciiOnly : Bool} {c : Char}
    {torn : List Char} (isTorn : IsTorn torn (writeLetter asciiOnly c)) :
    ∃ fault, (readUnits torn).2 = .error fault := by
  have escape {letter : Char} (inside : IsTorn torn ['\\', letter]) :
      ∃ fault, (readUnits torn).2 = .error fault := by
    simp only [IsTorn.cons_iff, IsTorn.not_nil, and_false, exists_false,
      or_false] at inside
    obtain rfl | ⟨_, rfl, rfl⟩ := inside
    · exact ⟨_, rfl⟩
    · exact ⟨_, rfl⟩
  rw [writeLetter] at isTorn
  repeat' split at isTorn
  any_goals exact escape isTorn
  · exact readUnits_torn_writeUnit isTorn
  · rw [writeUnits] at isTorn
    split at isTorn
    · exact readUnits_torn_writeUnit isTorn
    · next large =>
        have bound := toNat_lt c
        rcases IsTorn.append_iff.1 isTorn with (high | ⟨others, rfl, low⟩)
        · exact readUnits_torn_writeUnit high
        · rw [readUnits_writeUnit (by omega)]
          exact readUnits_torn_writeUnit low
  · obtain rfl : torn = [] := by
      simpa [IsTorn.cons_iff, IsTorn.not_nil] using isTorn
    exact ⟨_, rfl⟩

/-- A written text without its closing quote ends too early. -/
theorem readUnits_torn {asciiOnly : Bool} {letters torn : List Char}
    (isTorn :
      IsTorn torn (letters.flatMap (writeLetter asciiOnly) ++ ['"'])) :
    ∃ fault, (readUnits torn).2 = .error fault := by
  induction letters generalizing torn with
  | nil =>
      obtain rfl : torn = [] := by
        simpa [IsTorn.cons_iff, IsTorn.not_nil] using isTorn
      exact ⟨_, rfl⟩
  | cons c others inductionHypothesis =>
      rw [List.flatMap_cons, List.append_assoc] at isTorn
      rcases IsTorn.append_iff.1 isTorn with (inside | ⟨rest, rfl, behind⟩)
      · exact readUnits_torn_writeLetter inside
      · rw [readUnits_writeLetter]
        exact inductionHypothesis behind

theorem joinUnits_error (fault : Fault) (units : List TextUnit) :
    ∃ found, joinUnits (.error fault) units = .error found := by
  have mapped {α β : Type} {reading : Except Fault α} (f : α → β)
      (failed : ∃ found, reading = .error found) :
      ∃ found, reading.map f = .error found := by
    obtain ⟨found, rfl⟩ := failed
    exact ⟨found, rfl⟩
  fun_induction joinUnits (.error fault) units with
  | case1 | case3 | case5 | case6 | case7 | case10 | case11 =>
      exact ⟨_, rfl⟩
  | case4 value high ending impossible => cases impossible
  | case2 _ _ inductionHypothesis | case8 _ _ _ _ inductionHypothesis
  | case9 _ _ _ _ _ inductionHypothesis
  | case12 _ _ _ _ _ inductionHypothesis =>
      exact mapped _ inductionHypothesis

/-- If a torn literal can be read, it was not the literal that was torn, but
what stands behind it. -/
theorem readLiteral_torn {asciiOnly : Bool} {text found : String}
    {torn rest more : List Char}
    (isTorn : IsTorn torn
      (text.toList.flatMap (writeLetter asciiOnly) ++ '"' :: more))
    (read : readLiteral torn = .ok (found, rest)) :
    found = text ∧ IsTorn rest more := by
  rw [← List.singleton_append, ← List.append_assoc] at isTorn
  rcases IsTorn.append_iff.1 isTorn with (inside | ⟨others, rfl, behind⟩)
  · obtain ⟨fault, ending⟩ := readUnits_torn inside
    obtain ⟨later, failed⟩ := joinUnits_error fault (readUnits torn).1
    have joined : readLiteral torn =
        (joinUnits (readUnits torn).2 (readUnits torn).1).map
          fun result => (String.ofList result.1, result.2) :=
      rfl
    rw [joined, ending, failed] at read
    cases read
  · rw [List.append_assoc, List.singleton_append,
      readLiteral_writeLiteral] at read
    obtain ⟨rfl, rfl⟩ := Prod.mk.inj (Except.ok.inj read)
    exact ⟨rfl, behind⟩

/-! ## Numerals and values -/

/-- What follows a numeral and does not continue it is left. -/
theorem rest_readExponent {significand : Nat} {exponent : Int}
    {letters rest : List Char} {size : Number.Magnitude}
    (stops : continuesNumber letters = false)
    (read : readExponent significand exponent letters = .ok (size, rest)) :
    rest = letters := by
  unfold readExponent at read
  cases letters with
  | nil =>
      simp only at read
      split at read
      · cases read
      · exact (Prod.mk.inj (Except.ok.inj read)).2.symm
  | cons c others =>
      simp only [continuesNumber, Bool.or_eq_false_iff,
        decide_eq_false_iff_not] at stops
      have noExponent : ¬ (c = 'e' ∨ c = 'E') :=
        not_or.2 ⟨stops.1.2, stops.2⟩
      simp only [if_neg noExponent] at read
      split at read
      · cases read
      · exact (Prod.mk.inj (Except.ok.inj read)).2.symm

theorem rest_readReal {significand dropped : Nat} {letters rest : List Char}
    {size : Number.Magnitude} (stops : continuesNumber letters = false)
    (read : readReal significand dropped letters = .ok (size, rest)) :
    rest = letters := by
  rw [readReal.eq_def] at read
  split at read
  · simp [continuesNumber] at stops
  · exact rest_readExponent stops read

theorem rest_readUnsigned {digits rest left : List Char} {number : Numeral}
    (all : ∀ c ∈ digits, isDigit c = true) (ends : endsDigits rest = true)
    (stops : continuesNumber rest = false)
    (read : readUnsigned false (digits ++ rest) = .ok (number, left)) :
    left = rest := by
  rw [readUnsigned, spanDigits_append all ends] at read
  cases digits with
  | nil => cases read
  | cons c others =>
      simp only at read
      split at read
      · cases read
      split at read
      · exact (Prod.mk.inj (Except.ok.inj read)).2.symm
      · cases outcome : readReal (absorb 0 (c :: others)).1
            (absorb 0 (c :: others)).2.length rest with
        | error fault =>
            rw [outcome] at read
            cases read
        | ok result =>
            rw [outcome] at read
            obtain ⟨-, rfl⟩ := Prod.mk.inj (Except.ok.inj read)
            exact rest_readReal stops outcome

theorem endsValue_torn {torn more : List Char} (ends : EndsValue more)
    (isTorn : IsTorn torn more) :
    endsDigits torn = true ∧ continuesNumber torn = false := by
  cases torn with
  | nil => exact ⟨rfl, rfl⟩
  | cons c others =>
      have itself : EndsValue (c :: others) := by
        obtain ⟨d, rest, rfl⟩ := isTorn
        obtain ⟨back, shape⟩ := ends
        simp only [List.cons_append, List.cons.injEq] at shape
        rcases shape with (⟨rfl, -⟩ | ⟨rfl, -⟩ | ⟨rfl, -⟩)
        · exact ⟨others, .inl rfl⟩
        · exact ⟨others, .inr (.inl rfl)⟩
        · exact ⟨others, .inr (.inr rfl)⟩
      exact ⟨itself.endsDigits, itself.continuesNumber⟩

/-- A numeral may be read although it is torn, but then it was cut inside or
just behind its digits, and nothing is left. -/
theorem readUnsigned_torn {digits torn rest more : List Char}
    {number : Numeral} (all : ∀ c ∈ digits, isDigit c = true)
    (ends : EndsValue more) (isTorn : IsTorn torn (digits ++ more))
    (read : readUnsigned false torn = .ok (number, rest)) :
    IsTorn rest more := by
  rcases IsTorn.append_iff.1 isTorn with (⟨c, back, rfl⟩ | ⟨others, rfl, behind⟩)
  · have front : ∀ d ∈ torn, isDigit d = true := fun d member =>
      all d (List.mem_append_left _ member)
    rw [← List.append_nil torn] at read
    obtain rfl := rest_readUnsigned front rfl rfl read
    obtain ⟨others, (rfl | rfl | rfl)⟩ := ends
    all_goals exact IsTorn.nil_cons _ others
  · obtain ⟨endsToo, stops⟩ := endsValue_torn ends behind
    obtain rfl := rest_readUnsigned all endsToo stops read
    exact behind

theorem readValue_nil (depth : Nat) :
    readValue depth [] = .error .truncated := by
  cases depth <;> rfl

theorem readValue_space (depth : Nat) :
    readValue depth [' '] = .error .truncated := by
  cases depth <;> rfl

/-- A text that is read although its value is torn was not torn itself. -/
theorem readValue_torn_text {asciiOnly : Bool} {content : String} {depth : Nat}
    {found : Value} {torn rest more : List Char}
    (isTorn : IsTorn torn (writeLiteral asciiOnly content ++ more))
    (read : readValue depth (' ' :: torn) = .ok (found, rest)) :
    IsTorn rest more := by
  rw [writeLiteral, List.append_assoc, List.cons_append,
    List.singleton_append, IsTorn.cons_iff] at isTorn
  rcases isTorn with (rfl | ⟨others, rfl, inside⟩)
  · rw [readValue_space] at read
    cases read
  · rw [readValue_eq_readScalar (by decide) (by decide) (by decide),
      readScalar] at read
    obtain ⟨⟨text, left⟩, success, same⟩ := ok_of_map read
    obtain ⟨-, rfl⟩ := Prod.mk.inj same
    exact (readLiteral_torn inside success).2

theorem readValue_torn_natural {number depth : Nat} {found : Value}
    {torn rest more : List Char} (ends : EndsValue more)
    (isTorn : IsTorn torn (decimal number ++ more))
    (read : readValue depth (' ' :: torn) = .ok (found, rest)) :
    IsTorn rest more := by
  cases torn with
  | nil =>
      rw [readValue_space] at read
      cases read
  | cons c others =>
      have digit : isDigit c = true := by
        obtain ⟨d, back, shape, digit⟩ := decimal_cons number
        rw [shape, List.cons_append, IsTorn.cons_iff] at isTorn
        obtain empty | ⟨_, equality, -⟩ := isTorn
        · cases empty
        · rw [(List.cons.inj equality).1]
          exact digit
      obtain ⟨visible, notList, notObject⟩ : isSpace c = false ∧ c ≠ '[' ∧
          c ≠ '{' := by
        obtain ⟨value, rfl⟩ := exists_digitChar digit
        rw [← digitChar_mod]
        obtain ⟨visible, -, -, -, -, -, notList, notObject⟩ :=
          digit_starts (value % 10) (Nat.mod_lt _ (by decide))
        exact ⟨visible, notList, notObject⟩
      rw [readValue_eq_readScalar visible notList notObject,
        readScalar_digit digit] at read
      obtain ⟨⟨numeral, left⟩, success, same⟩ := ok_of_map read
      obtain ⟨-, rfl⟩ := Prod.mk.inj same
      exact readUnsigned_torn (isDigit_decimal number) ends isTorn success

/-- What is read of a torn text or whole number leaves something torn. -/
theorem readValue_torn {style : LineStyle} {value found : Value}
    (scalar : value.IsScalar) {depth : Nat} {torn rest more : List Char}
    (ends : EndsValue more)
    (isTorn : IsTorn torn (' ' :: (writeValue style value ++ more)))
    (read : readValue depth torn = .ok (found, rest)) : IsTorn rest more := by
  rcases IsTorn.cons_iff.1 isTorn with (rfl | ⟨others, rfl, inside⟩)
  · rw [readValue_nil] at read
    cases read
  cases value with
  | text content =>
      rw [writeValue] at inside
      exact readValue_torn_text inside read
  | number numeral =>
      cases numeral with
      | natural value =>
          rw [writeValue, writeNumeral] at inside
          exact readValue_torn_natural ends inside read
      | negative | real => exact scalar.elim
  | null | boolean | list | object => exact scalar.elim

/-! ## Members -/

/-- If a torn member has a name, the name was not torn. -/
theorem readName_torn {member : String × Value} {torn more : List Char}
    {found : NextMember} (isTorn : IsTorn torn (writeMember member ++ more))
    (read : readName readLiteral torn = .ok found) :
    ∃ rest, found = .member member.1 rest ∧
      IsTorn rest (afterName member more) := by
  rw [writeMember_append, IsTorn.cons_iff] at isTorn
  rcases isTorn with (rfl | ⟨others, rfl, inside⟩)
  · cases read
  · rw [readName] at read
    obtain ⟨⟨name, rest⟩, success, rfl⟩ := ok_of_map read
    obtain ⟨rfl, behind⟩ := readLiteral_torn inside success
    exact ⟨rest, rfl, behind⟩

theorem nextMember_torn_first {member : String × Value}
    {torn more : List Char} {found : NextMember}
    (isTorn : IsTorn torn (writeMember member ++ more))
    (read : nextMember readLiteral true torn = .ok found) :
    ∃ rest, found = .member member.1 rest ∧
      IsTorn rest (afterName member more) := by
  have inside := isTorn
  rw [writeMember_append, IsTorn.cons_iff] at inside
  rcases inside with (rfl | ⟨others, rfl, -⟩)
  · cases read
  · rw [nextMember, skipSpaces_cons (by decide)] at read
    exact readName_torn isTorn read

theorem nextMember_torn_later {member : String × Value}
    {torn more : List Char} {found : NextMember}
    (isTorn : IsTorn torn (',' :: ' ' :: (writeMember member ++ more)))
    (read : nextMember readLiteral false torn = .ok found) :
    ∃ rest, found = .member member.1 rest ∧
      IsTorn rest (afterName member more) := by
  rcases IsTorn.cons_iff.1 isTorn with (rfl | ⟨others, rfl, behind⟩)
  · cases read
  rw [nextMember_comma] at read
  rcases IsTorn.cons_iff.1 behind with (rfl | ⟨others, rfl, inside⟩)
  · cases read
  rw [skipSpaces_space] at read
  have start := inside
  rw [writeMember_append, IsTorn.cons_iff] at start
  rcases start with (rfl | ⟨others, rfl, -⟩)
  · cases read
  · rw [skipSpaces_cons (by decide)] at read
    exact readName_torn inside read

theorem readColon_torn {member : String × Value} {torn rest more : List Char}
    (isTorn : IsTorn torn (afterName member more))
    (read : readColon torn = .ok rest) :
    IsTorn rest (' ' :: (writeValue recordStyle member.2 ++ more)) := by
  rw [afterName, IsTorn.cons_iff] at isTorn
  rcases isTorn with (rfl | ⟨others, rfl, behind⟩)
  · cases read
  · rw [readColon, skipSpaces_cons (by decide)] at read
    obtain rfl := Except.ok.inj read
    exact behind

section Tagged

variable {τ : Type} {tagName : String} {tagOf? : String → Option τ}
variable {torn rest more : List Char}

/-- A member that is kept although it is torn leaves something torn. -/
theorem readTaggedMember_torn_other {member : String × Value}
    (other : member.1 ≠ tagName) (scalar : member.2.IsScalar)
    (ends : EndsValue more) {state found : TaggedMembers τ}
    (isTorn : IsTorn torn (afterName member more))
    (read : readTaggedMember tagName tagOf? state member.1 torn =
      .ok (found, rest)) :
    IsTorn rest more := by
  rw [readTaggedMember, if_neg other] at read
  obtain ⟨behind, colon, value⟩ := ok_of_bind read
  obtain ⟨⟨content, left⟩, success, same⟩ := ok_of_map value
  obtain ⟨-, rfl⟩ := Prod.mk.inj same
  exact readValue_torn scalar ends (readColon_torn isTorn colon) success

theorem readTag_torn {name : String} {tag : τ}
    (isTorn : IsTorn torn
      (' ' :: (writeValue recordStyle (.text name) ++ more)))
    (read : readTag tagOf? torn = .ok (tag, rest)) : IsTorn rest more := by
  rcases IsTorn.cons_iff.1 isTorn with (rfl | ⟨others, rfl, inside⟩)
  · cases read
  rw [writeValue, writeLiteral, List.append_assoc, List.cons_append,
    List.singleton_append, IsTorn.cons_iff] at inside
  rcases inside with (rfl | ⟨letters, rfl, inside⟩)
  · cases read
  rw [readTag, skipSpaces_space, skipSpaces_cons (by decide)] at read
  obtain ⟨⟨text, left⟩, success, found⟩ := ok_of_bind read
  have same : left = rest := by
    simp only at found
    split at found
    · cases found
    · exact (Prod.mk.inj (Except.ok.inj found)).2
  rw [← same]
  exact (readLiteral_torn inside success).2

theorem readTaggedMember_torn_tag {name : String}
    {state found : TaggedMembers τ}
    (isTorn : IsTorn torn (afterName (tagName, .text name) more))
    (read : readTaggedMember tagName tagOf? state tagName torn =
      .ok (found, rest)) :
    IsTorn rest more := by
  rw [readTaggedMember, if_pos rfl] at read
  split at read
  · cases read
  · obtain ⟨behind, colon, value⟩ := ok_of_bind read
    obtain ⟨⟨tag, left⟩, success, same⟩ := ok_of_map value
    obtain ⟨-, rfl⟩ := Prod.mk.inj same
    exact readTag_torn (readColon_torn isTorn colon) success

/-- Members behind the tag are never all read if they are torn, as the closing
brace is missing. -/
theorem foldMembers_torn {members : List (String × Value)}
    (other : ∀ member ∈ members, member.1 ≠ tagName)
    (scalar : ∀ member ∈ members, member.2.IsScalar)
    {state : TaggedMembers τ} {bound : Nat}
    (isTorn : IsTorn torn
      ((members.flatMap fun member => ',' :: ' ' :: writeMember member) ++
        ['}']))
    (result : TaggedMembers τ × List Char) :
    foldMembers readLiteral (readTaggedMember tagName tagOf?) bound false state
      torn ≠ .ok result := by
  intro read
  induction members generalizing state bound torn with
  | nil =>
      obtain rfl : torn = [] := by
        simpa [IsTorn.cons_iff, IsTorn.not_nil] using isTorn
      cases bound <;> cases read
  | cons member others inductionHypothesis =>
      cases bound with
      | zero => cases read
      | succ bound =>
          rw [List.flatMap_cons, List.append_assoc, List.cons_append,
            List.cons_append] at isTorn
          obtain ⟨next, member?, steps⟩ := ok_of_bind read
          obtain ⟨left, rfl, behind⟩ := nextMember_torn_later isTorn member?
          obtain ⟨⟨later, rest⟩, step, steps⟩ := ok_of_bind steps
          rw [List.forall_mem_cons] at other scalar
          have ends := endsValue_members others []
          exact inductionHypothesis other.2 scalar.2
            (readTaggedMember_torn_other other.1 scalar.1 ends behind step)
            steps

/-- No torn tagged object is read. -/
theorem decodeTagged_torn {α : Type} {ofBody? : τ → Body → Option α}
    {name : String} {members : List (String × Value)}
    (other : ∀ member ∈ members, member.1 ≠ tagName)
    (scalar : ∀ member ∈ members, member.2.IsScalar)
    (isTorn : IsTorn torn
      (writeValue recordStyle (.object ((tagName, .text name) :: members))))
    (result : α) :
    decodeTagged tagName tagOf? ofBody? torn ≠ .ok result := by
  intro read
  rw [writeValue, writeMembers_cons, List.cons_append, List.append_assoc,
    IsTorn.cons_iff] at isTorn
  obtain ⟨⟨found, left⟩, decoded, -⟩ := ok_of_bind read
  obtain ⟨⟨⟨tag, body⟩, rest⟩, tagged, -⟩ := ok_of_bind decoded
  rcases isTorn with (rfl | ⟨letters, rfl, inside⟩)
  · cases tagged
  rw [readTagged, skipSpaces_cons (by decide)] at tagged
  obtain ⟨⟨state, left⟩, folded, -⟩ := ok_of_bind tagged
  obtain ⟨next, first, steps⟩ := ok_of_bind folded
  obtain ⟨left, rfl, behind⟩ := nextMember_torn_first inside first
  obtain ⟨⟨later, rest⟩, step, steps⟩ := ok_of_bind steps
  exact foldMembers_torn other scalar
    (readTaggedMember_torn_tag behind step) _ steps

end Tagged

end MeetingLog.Json
