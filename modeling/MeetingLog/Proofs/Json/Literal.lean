import MeetingLog.Json.Literal

/-!
# Text literals read back

A character inside a literal is written as one character, one escape or the two
halves of a surrogate pair. Each of these is cut into units in the same way
whatever follows it, and the units of a text are joined to the text.
-/

namespace MeetingLog.Json

/-- The units that a character is written as. -/
def unitsOf (asciiOnly : Bool) (c : Char) : List TextUnit :=
  if c = '"' ∨ c = '\\' ∨ c = '\x08' ∨ c = '\x0c' ∨ c = '\n' ∨ c = '\r' ∨
      c = '\t' then [.plain c]
  else if c < ' ' then [.code c.toNat]
  else if asciiOnly && 0x80 ≤ c.toNat then
    if c.toNat < 0x10000 then [.code c.toNat]
    else
      [.code (0xD800 + (c.toNat - 0x10000) / 0x400),
        .code (0xDC00 + (c.toNat - 0x10000) % 0x400)]
  else [.plain c]

theorem hexValue?_hexDigit : ∀ value < 16,
    hexValue? (hexDigit value) = some value := by
  decide

theorem hexQuad?_writeUnit {value : Nat} (small : value < 0x10000) :
    hexQuad? (hexDigit (value / 4096 % 16)) (hexDigit (value / 256 % 16))
      (hexDigit (value / 16 % 16)) (hexDigit (value % 16)) = some value := by
  have digit (number : Nat) :
      hexValue? (hexDigit (number % 16)) = some (number % 16) :=
    hexValue?_hexDigit _ (Nat.mod_lt _ (by decide))
  rw [hexQuad?]
  simp only [digit, Option.bind_eq_bind, Option.bind_some]
  refine congrArg some ?_
  omega

theorem toNat_lt (c : Char) : c.toNat < 0x110000 := by
  rcases c.valid with (low | high)
  · exact Nat.lt_trans low (by decide)
  · exact high.2

theorem toNat_not_surrogate (c : Char) :
    c.toNat < 0xD800 ∨ 0xDFFF < c.toNat := by
  rcases c.valid with (low | high)
  · exact .inl low
  · exact .inr high.1

/-- A unit in front of a literal is cut off first. -/
theorem readUnits_writeUnit {value : Nat} (small : value < 0x10000)
    (rest : List Char) :
    readUnits (writeUnit value ++ rest) =
      (.code value :: (readUnits rest).1, (readUnits rest).2) := by
  rw [writeUnit]
  simp only [List.cons_append, List.nil_append]
  rw [readUnits, hexQuad?_writeUnit small]

theorem readUnits_plain {c : Char} (notQuote : c ≠ '"')
    (notEscape : c ≠ '\\') (notControl : ¬ c < ' ') (rest : List Char) :
    readUnits (c :: rest) =
      (.plain c :: (readUnits rest).1, (readUnits rest).2) := by
  rw [readUnits.eq_def]
  split
  · next equality => cases equality
  · next other equality =>
      exact absurd (List.cons.inj equality).1 notQuote
  · next equality => exact absurd (List.cons.inj equality).1 notEscape
  · next equality => exact absurd (List.cons.inj equality).1 notEscape
  · next equality => exact absurd (List.cons.inj equality).1 notEscape
  · next equality => exact absurd (List.cons.inj equality).1 notEscape
  · next first others _ _ _ _ _ equality =>
      obtain ⟨rfl, rfl⟩ := List.cons.inj equality
      rw [if_neg notControl]

theorem readUnits_escape {c letter : Char} (escaped : escaped? letter = some c)
    (notUnit : letter ≠ 'u') (rest : List Char) :
    readUnits ('\\' :: letter :: rest) =
      (.plain c :: (readUnits rest).1, (readUnits rest).2) := by
  rw [readUnits.eq_def]
  split
  · next equality => cases equality
  · next other equality => cases (List.cons.inj equality).1
  · next equality => cases (List.cons.inj equality).2
  · next equality =>
      exact absurd (List.cons.inj (List.cons.inj equality).2).1 notUnit
  · next equality =>
      exact absurd (List.cons.inj (List.cons.inj equality).2).1 notUnit
  · next other others _ _ _ equality =>
      obtain ⟨rfl, rfl⟩ := List.cons.inj (List.cons.inj equality).2
      rw [escaped]
  · next first others _ _ _ _ notEscape equality =>
      obtain ⟨first, others⟩ := List.cons.inj equality
      exact (notEscape _ _ first.symm others.symm).elim

/-- A written character in front of a literal is cut off first. -/
theorem readUnits_writeLetter (asciiOnly : Bool) (c : Char)
    (rest : List Char) :
    readUnits (writeLetter asciiOnly c ++ rest) =
      (unitsOf asciiOnly c ++ (readUnits rest).1, (readUnits rest).2) := by
  by_cases named : c = '"' ∨ c = '\\' ∨ c = '\x08' ∨ c = '\x0c' ∨ c = '\n' ∨
      c = '\r' ∨ c = '\t'
  · rw [unitsOf, if_pos named]
    rcases named with (rfl | rfl | rfl | rfl | rfl | rfl | rfl)
    all_goals exact readUnits_escape (by decide) (by decide) rest
  have letter : writeLetter asciiOnly c =
      if c < ' ' then writeUnit c.toNat
      else if asciiOnly && 0x80 ≤ c.toNat then writeUnits c
      else [c] := by
    simp only [not_or] at named
    simp only [writeLetter, named, if_false]
  have notQuote : c ≠ '"' := fun equality => named (.inl equality)
  have notEscape : c ≠ '\\' := fun equality => named (.inr (.inl equality))
  rw [letter, unitsOf, if_neg named]
  by_cases control : c < ' '
  · rw [if_pos control, if_pos control]
    have small : c.toNat < ' '.toNat := control
    exact readUnits_writeUnit (Nat.lt_trans small (by decide)) rest
  rw [if_neg control, if_neg control]
  by_cases wide : (asciiOnly && decide (0x80 ≤ c.toNat)) = true
  · rw [if_pos wide, if_pos wide, writeUnits]
    split
    · next small => exact readUnits_writeUnit small rest
    · next large =>
        have bound : c.toNat < 0x110000 := toNat_lt c
        rw [List.append_assoc, readUnits_writeUnit (by omega),
          readUnits_writeUnit (by omega)]
        rfl
  · rw [if_neg wide, if_neg wide]
    exact readUnits_plain notQuote notEscape control rest

/-- A unit that is no half of a character is joined to the character it
names. -/
theorem joinUnits_code (c : Char) (ending : Except Fault (List Char))
    (units : List TextUnit) :
    joinUnits ending (.code c.toNat :: units) =
      (joinUnits ending units).map fun (text, rest) => (c :: text, rest) := by
  have notHigh : isHighSurrogate c.toNat = false := by
    have place := toNat_not_surrogate c
    rw [isHighSurrogate, Bool.and_eq_false_iff, decide_eq_false_iff_not,
      decide_eq_false_iff_not]
    omega
  have notLow : isLowSurrogate c.toNat = false := by
    have place := toNat_not_surrogate c
    rw [isLowSurrogate, Bool.and_eq_false_iff, decide_eq_false_iff_not,
      decide_eq_false_iff_not]
    omega
  rcases units with (_ | ⟨unit, others⟩)
  · cases ending <;> simp [joinUnits, notHigh, notLow, Except.map]
  · cases unit with
    | plain other =>
        rw [joinUnits, joinUnits]
        cases joinUnits ending others <;> simp [notHigh, notLow, Except.map]
    | code next => simp [joinUnits, notHigh, notLow]

/-- The two halves of a character are joined to it. -/
theorem joinUnits_halves {c : Char} (large : ¬ c.toNat < 0x10000)
    (ending : Except Fault (List Char)) (units : List TextUnit) :
    joinUnits ending
        (.code (0xD800 + (c.toNat - 0x10000) / 0x400) ::
          .code (0xDC00 + (c.toNat - 0x10000) % 0x400) :: units) =
      (joinUnits ending units).map fun (text, rest) => (c :: text, rest) := by
  have bound : c.toNat < 0x110000 := toNat_lt c
  have high :
      isHighSurrogate (0xD800 + (c.toNat - 0x10000) / 0x400) = true := by
    rw [isHighSurrogate, Bool.and_eq_true, decide_eq_true_iff,
      decide_eq_true_iff]
    omega
  have low :
      isLowSurrogate (0xDC00 + (c.toNat - 0x10000) % 0x400) = true := by
    rw [isLowSurrogate, Bool.and_eq_true, decide_eq_true_iff,
      decide_eq_true_iff]
    omega
  have whole :
      joinSurrogates (0xD800 + (c.toNat - 0x10000) / 0x400)
        (0xDC00 + (c.toNat - 0x10000) % 0x400) = c := by
    have value :
        0x10000 + (0xD800 + (c.toNat - 0x10000) / 0x400 - 0xD800) * 0x400 +
          (0xDC00 + (c.toNat - 0x10000) % 0x400 - 0xDC00) = c.toNat := by
      omega
    rw [joinSurrogates, value, Char.ofNat_toNat]
  rw [joinUnits, if_pos high, if_pos low, whole]

/-- The units of a character are joined to it. -/
theorem joinUnits_unitsOf (asciiOnly : Bool) (c : Char)
    (ending : Except Fault (List Char)) (units : List TextUnit) :
    joinUnits ending (unitsOf asciiOnly c ++ units) =
      (joinUnits ending units).map fun (text, rest) => (c :: text, rest) := by
  rw [unitsOf]
  split
  · rw [List.singleton_append, joinUnits]
  split
  · exact joinUnits_code c ending units
  split
  · split
    · exact joinUnits_code c ending units
    · next large => exact joinUnits_halves large ending units
  · rw [List.singleton_append, joinUnits]

/-- The units of a written text are those of its characters. -/
theorem readUnits_flatMap (asciiOnly : Bool) (letters rest : List Char) :
    readUnits (letters.flatMap (writeLetter asciiOnly) ++ '"' :: rest) =
      (letters.flatMap (unitsOf asciiOnly), .ok rest) := by
  induction letters with
  | nil => rw [List.flatMap_nil, List.nil_append, readUnits, List.flatMap_nil]
  | cons c others inductionHypothesis =>
      rw [List.flatMap_cons, List.append_assoc, readUnits_writeLetter,
        inductionHypothesis, List.flatMap_cons]

theorem joinUnits_flatMap (asciiOnly : Bool) (letters rest : List Char) :
    joinUnits (.ok rest) (letters.flatMap (unitsOf asciiOnly)) =
      .ok (letters, rest) := by
  induction letters with
  | nil => rfl
  | cons c others inductionHypothesis =>
      rw [List.flatMap_cons, joinUnits_unitsOf, inductionHypothesis]
      rfl

/-- A text is read back from its literal, whatever follows. -/
theorem readLiteral_writeLiteral (asciiOnly : Bool) (text : String)
    (rest : List Char) :
    readLiteral
        (text.toList.flatMap (writeLetter asciiOnly) ++ '"' :: rest) =
      .ok (text, rest) := by
  rw [readLiteral, readUnits_flatMap]
  change (joinUnits (.ok rest)
    (text.toList.flatMap (unitsOf asciiOnly))).map _ = _
  rw [joinUnits_flatMap]
  exact congrArg (fun result => Except.ok (result, rest))
    String.ofList_toList

end MeetingLog.Json
