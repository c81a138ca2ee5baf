import Mathlib.Tactic.SplitIfs
import MeetingLog.Text.Utf8

/-!
# Texts read back from their bytes

The bytes of a character are read back as that character whatever follows them.
Hence the bytes of a text are well-formed and are read back as the text. Texts
are in the same order as their bytes. In any bytes, a character of ASCII is only
read where its byte is.
-/

namespace MeetingLog.Text

theorem toNat_byte {code : Nat} (small : code < 256) :
    (UInt8.ofNat code).toNat = code := by
  rw [UInt8.toNat_ofNat']
  exact Nat.mod_eq_of_lt small

/-- A byte of a character is a continuation if it has the form of one. -/
theorem isContinuation_byte {payloadBits : Nat} (small : payloadBits < 64) :
    isContinuation (UInt8.ofNat (payloadBits + 128)) = true := by
  have value :
      (UInt8.ofNat (payloadBits + 128)).toNat = payloadBits + 128 :=
    toNat_byte (by omega)
  simp only [isContinuation, Bool.and_eq_true, decide_eq_true_eq,
    UInt8.le_iff_toNat_le, value]
  exact ⟨Nat.le_add_left _ _, by show payloadBits + 128 ≤ 191; omega⟩

theorem payload_byte {payloadBits : Nat} (small : payloadBits < 64) :
    payload (UInt8.ofNat (payloadBits + 128)) = payloadBits := by
  rw [payload, toNat_byte (by omega)]
  omega

theorem char_ofNat_eq (letter : Char) {code : Nat}
    (same : code = letter.val.toNat) : Char.ofNat code = letter := by
  subst same
  exact Char.ofNat_toNat letter

theorem decodePieces_one {code : Nat} (small : code < 128)
    (rest : List UInt8) :
    decodePieces (UInt8.ofNat code :: rest) =
      some (Char.ofNat code) :: decodePieces rest := by
  have lead : (UInt8.ofNat code).toNat = code :=
    toNat_byte (by omega)
  have ascii : UInt8.ofNat code < 0x80 := by
    rw [UInt8.lt_iff_toNat_lt, lead]
    exact small
  rw [decodePieces.eq_def]
  simp only [if_pos ascii, lead]

theorem decodePieces_two {lead second : UInt8} (notAscii : ¬ lead < 0x80)
    (leads : (0xC2 ≤ lead && lead ≤ 0xDF) = true)
    (continues : isContinuation second = true) (rest : List UInt8) :
    decodePieces (lead :: second :: rest) =
      some (Char.ofNat (lead.toNat % 0x20 * 0x40 + payload second)) ::
        decodePieces rest := by
  rw [decodePieces.eq_def]
  simp only [if_neg notAscii, leads, if_true, continues]

theorem decodePieces_three {lead second third : UInt8}
    (notAscii : ¬ lead < 0x80)
    (notTwo : ¬ (0xC2 ≤ lead && lead ≤ 0xDF) = true)
    (leads : (0xE0 ≤ lead && lead ≤ 0xEF) = true)
    (continues : inRange second (secondOfThree lead) = true)
    (continuesToo : isContinuation third = true) (rest : List UInt8) :
    decodePieces (lead :: second :: third :: rest) =
      some (Char.ofNat ((lead.toNat % 0x10 * 0x40 + payload second) * 0x40 +
        payload third)) :: decodePieces rest := by
  rw [decodePieces.eq_def]
  simp only [if_neg notAscii, if_neg notTwo, leads, if_true, continues,
    continuesToo]

theorem decodePieces_four {lead second third fourth : UInt8}
    (notAscii : ¬ lead < 0x80)
    (notTwo : ¬ (0xC2 ≤ lead && lead ≤ 0xDF) = true)
    (notThree : ¬ (0xE0 ≤ lead && lead ≤ 0xEF) = true)
    (leads : (0xF0 ≤ lead && lead ≤ 0xF4) = true)
    (continues : inRange second (secondOfFour lead) = true)
    (continuesToo : isContinuation third = true)
    (continuesFurther : isContinuation fourth = true)
    (rest : List UInt8) :
    decodePieces (lead :: second :: third :: fourth :: rest) =
      some (Char.ofNat (((lead.toNat % 0x8 * 0x40 + payload second) * 0x40 +
        payload third) * 0x40 + payload fourth)) :: decodePieces rest := by
  rw [decodePieces.eq_def]
  simp only [if_neg notAscii, if_neg notTwo, if_neg notThree, leads, if_true,
    continues, continuesToo, continuesFurther]

/-! ## Characters -/

theorem between_byte {code : Nat} (small : code < 256) (low high : UInt8) :
    (low ≤ UInt8.ofNat code && UInt8.ofNat code ≤ high) = true ↔
      low.toNat ≤ code ∧ code ≤ high.toNat := by
  simp only [Bool.and_eq_true, decide_eq_true_eq, UInt8.le_iff_toNat_le,
    toNat_byte small]

theorem byte_not_ascii {code : Nat} (small : code < 256)
    (large : 128 ≤ code) : ¬ UInt8.ofNat code < 0x80 := by
  rw [UInt8.lt_iff_toNat_lt, toNat_byte small]
  exact Nat.not_lt.2 large

theorem byte_eq_iff {code : Nat} (small : code < 256) (byte : UInt8) :
    UInt8.ofNat code = byte ↔ code = byte.toNat := by
  rw [← UInt8.toNat_inj, toNat_byte small]

/-- The second of three bytes is as it has to be: neither is the character
written longer than needed, nor is it a surrogate. -/
theorem inRange_secondOfThree {high middle : Nat} (highSmall : high < 16)
    (middleSmall : middle < 64) (notLonger : high = 0 → 32 ≤ middle)
    (notSurrogate : high = 13 → middle < 32) :
    inRange (UInt8.ofNat (middle + 128))
      (secondOfThree (UInt8.ofNat (high + 224))) = true := by
  have small : high + 224 < 256 := by
    omega
  rw [inRange, between_byte (by omega), secondOfThree]
  simp only [byte_eq_iff small]
  split
  · next same =>
      have := notLonger (by simpa using same)
      exact ⟨by show 160 ≤ middle + 128; omega,
        by show middle + 128 ≤ 191; omega⟩
  · split
    · next same =>
        have zero : high = 13 := by
          simpa using same
        have := notSurrogate zero
        exact ⟨by show 128 ≤ middle + 128; omega,
          by show middle + 128 ≤ 159; omega⟩
    · exact ⟨by show 128 ≤ middle + 128; omega,
        by show middle + 128 ≤ 191; omega⟩

/-- The second of four bytes is as it has to be: neither is the character
written longer than needed, nor is it too large. -/
theorem inRange_secondOfFour {high middle : Nat} (highSmall : high < 8)
    (middleSmall : middle < 64) (notLonger : high = 0 → 16 ≤ middle)
    (notLarge : high = 4 → middle < 16) :
    inRange (UInt8.ofNat (middle + 128))
      (secondOfFour (UInt8.ofNat (high + 240))) = true := by
  have small : high + 240 < 256 := by
    omega
  rw [inRange, between_byte (by omega), secondOfFour]
  simp only [byte_eq_iff small]
  split
  · next same =>
      have := notLonger (by simpa using same)
      exact ⟨by show 144 ≤ middle + 128; omega,
        by show middle + 128 ≤ 191; omega⟩
  · split
    · next same =>
        have four : high = 4 := by
          simpa using same
        have := notLarge four
        exact ⟨by show 128 ≤ middle + 128; omega,
          by show middle + 128 ≤ 143; omega⟩
    · exact ⟨by show 128 ≤ middle + 128; omega,
        by show middle + 128 ≤ 191; omega⟩

/-- The bytes of a character are read back as that character. -/
theorem decodePieces_char (letter : Char) (rest : List UInt8) :
    decodePieces (String.utf8EncodeChar letter ++ rest) =
      some letter :: decodePieces rest := by
  have valid : letter.val.toNat < 55296 ∨
      57343 < letter.val.toNat ∧ letter.val.toNat < 1114112 :=
    letter.valid
  unfold String.utf8EncodeChar
  simp only
  generalize code_eq : letter.val.toNat = code at valid
  split
  · next one =>
      refine (decodePieces_one (by omega) rest).trans ?_
      rw [char_ofNat_eq letter code_eq.symm]
  · split
    · next two =>
        refine (decodePieces_two (byte_not_ascii (by omega) (by omega))
          ((between_byte (by omega) _ _).2
            ⟨by show 194 ≤ _; omega, by show _ ≤ 223; omega⟩)
          (isContinuation_byte (by omega)) rest).trans ?_
        rw [char_ofNat_eq letter]
        rw [toNat_byte (by omega), payload_byte (by omega)]
        omega
    · split
      · next three =>
          refine (decodePieces_three (byte_not_ascii (by omega) (by omega))
            (fun short => ?_)
            ((between_byte (by omega) _ _).2
              ⟨by show 224 ≤ _; omega, by show _ ≤ 239; omega⟩)
            (inRange_secondOfThree (by omega) (by omega) (by omega)
              (by omega))
            (isContinuation_byte (by omega)) rest).trans ?_
          · have bound := ((between_byte (by omega) _ _).1 short).2
            have : code / 4096 % 16 + 224 ≤ 223 := bound
            omega
          · rw [char_ofNat_eq letter]
            rw [toNat_byte (by omega), payload_byte (by omega),
              payload_byte (by omega)]
            omega
      · next four =>
          refine (decodePieces_four (byte_not_ascii (by omega) (by omega))
            (fun short => ?_) (fun short => ?_)
            ((between_byte (by omega) _ _).2
              ⟨by show 240 ≤ _; omega, by show _ ≤ 244; omega⟩)
            (inRange_secondOfFour (by omega) (by omega) (by omega)
              (by omega))
            (isContinuation_byte (by omega))
            (isContinuation_byte (by omega)) rest).trans ?_
          · have bound := ((between_byte (by omega) _ _).1 short).2
            have : code / 262144 % 8 + 240 ≤ 223 := bound
            omega
          · have bound := ((between_byte (by omega) _ _).1 short).2
            have : code / 262144 % 8 + 240 ≤ 239 := bound
            omega
          · rw [char_ofNat_eq letter]
            rw [toNat_byte (by omega), payload_byte (by omega),
              payload_byte (by omega), payload_byte (by omega)]
            omega

theorem toNat_val_lt (letter : Char) : letter.val.toNat < 0x110000 := by
  have valid : letter.val.toNat < 0xD800 ∨
      0xDFFF < letter.val.toNat ∧ letter.val.toNat < 0x110000 :=
    letter.valid
  omega

/-! ## Texts -/

theorem decodePieces_encode (letters : List Char) :
    decodePieces (encode letters) = letters.map some := by
  induction letters with
  | nil => rfl
  | cons letter others inductionHypothesis =>
      rw [encode, List.flatMap_cons, decodePieces_char]
      rw [encode] at inductionHypothesis
      rw [inductionHypothesis, List.map_cons]

theorem allPresent_map_some (letters : List Char) :
    allPresent (letters.map some) = some letters := by
  induction letters with
  | nil => rfl
  | cons letter others inductionHypothesis =>
      rw [List.map_cons, allPresent, inductionHypothesis]
      rfl

theorem decode?_encode (letters : List Char) :
    decode? (encode letters) = some letters := by
  rw [decode?, decodePieces_encode, allPresent_map_some]

/-- What is well-formed is shown as it is. -/
theorem decodeLenient_encode (letters : List Char) :
    decodeLenient (encode letters) = letters := by
  rw [decodeLenient, decodePieces_encode, List.map_map]
  exact List.map_id _

/-- A text is read back from its bytes. -/
theorem decode?_bytesOf (text : String) :
    decode? (bytesOf text) = some text.toList :=
  decode?_encode text.toList

theorem bytesOf_append (front back : String) :
    bytesOf (front ++ back) = bytesOf front ++ bytesOf back := by
  rw [bytesOf, String.toList_append, encode_append]
  rfl

/-! ## ASCII -/

theorem encode_cons (letter : Char) (others : List Char) :
    encode (letter :: others) =
      String.utf8EncodeChar letter ++ encode others :=
  List.flatMap_cons

/-- An ASCII character is one byte. -/
theorem utf8EncodeChar_ascii {letter : Char} (ascii : letter.toNat < 0x80) :
    String.utf8EncodeChar letter = [UInt8.ofNat letter.toNat] :=
  if_pos (Nat.le_of_lt_succ ascii)

theorem length_encode_ascii {letters : List Char}
    (ascii : ∀ c ∈ letters, c.toNat < 0x80) :
    (encode letters).length = letters.length := by
  induction letters with
  | nil => rfl
  | cons letter others inductionHypothesis =>
      rw [List.forall_mem_cons] at ascii
      rw [encode_cons, utf8EncodeChar_ascii ascii.1, List.singleton_append,
        List.length_cons, List.length_cons, inductionHypothesis ascii.2]

/-- ASCII texts can be cut at every byte. -/
theorem take_encode_ascii {letters : List Char}
    (ascii : ∀ c ∈ letters, c.toNat < 0x80) (size : Nat) :
    (encode letters).take size = encode (letters.take size) := by
  induction letters generalizing size with
  | nil => rw [List.take_nil]; exact List.take_nil
  | cons letter others inductionHypothesis =>
      rw [List.forall_mem_cons] at ascii
      cases size with
      | zero => rfl
      | succ size =>
          rw [encode_cons, utf8EncodeChar_ascii ascii.1,
            List.singleton_append, List.take_succ_cons, List.take_succ_cons,
            encode_cons, utf8EncodeChar_ascii ascii.1,
            inductionHypothesis ascii.2]
          rfl

/-! ## ASCII in bytes -/

theorem inRange_iff (byte : UInt8) (bounds : UInt8 × UInt8) :
    inRange byte bounds = true ↔
      bounds.1.toNat ≤ byte.toNat ∧ byte.toNat ≤ bounds.2.toNat := by
  simp only [inRange, Bool.and_eq_true, decide_eq_true_eq,
    UInt8.le_iff_toNat_le]

/-- A byte of ASCII in a text is one of its characters. -/
theorem mem_of_mem_encode {letters : List Char} {byte : UInt8}
    (ascii : byte.toNat < 0x80) (member : byte ∈ encode letters) :
    Char.ofNat byte.toNat ∈ letters := by
  obtain ⟨letter, letterMember, among⟩ := List.mem_flatMap.1 member
  suffices same : letter.toNat = byte.toNat by
    rw [← same, Char.ofNat_toNat]
    exact letterMember
  have bound := toNat_val_lt letter
  -- All bytes of a longer character are at least 128.
  unfold String.utf8EncodeChar at among
  simp only at among
  show letter.val.toNat = byte.toNat
  generalize letter.val.toNat = code at among bound ⊢
  split_ifs at among <;>
    simp only [List.mem_cons, List.not_mem_nil, or_false] at among
  · rw [among, toNat_byte (by omega)]
  · rcases among with rfl | rfl <;>
      rw [toNat_byte (by omega)] at ascii <;> omega
  · rcases among with rfl | rfl | rfl <;>
      rw [toNat_byte (by omega)] at ascii <;> omega
  · rcases among with rfl | rfl | rfl | rfl <;>
      rw [toNat_byte (by omega)] at ascii <;> omega

/-- What is written with two bytes is not ASCII. -/
theorem notAscii_of_two {lead : UInt8}
    (leads : (0xC2 ≤ lead && lead ≤ 0xDF) = true) (second : UInt8) :
    0x80 ≤ lead.toNat % 0x20 * 0x40 + payload second := by
  have bounds := (inRange_iff lead (0xC2, 0xDF)).1 leads
  have : 194 ≤ lead.toNat ∧ lead.toNat ≤ 223 := bounds
  omega

/-- Nor is what is written with three bytes. -/
theorem notAscii_of_three {lead second : UInt8}
    (leads : (0xE0 ≤ lead && lead ≤ 0xEF) = true)
    (continues : inRange second (secondOfThree lead) = true)
    (third : UInt8) :
    0x80 ≤ (lead.toNat % 0x10 * 0x40 + payload second) * 0x40 +
      payload third := by
  have bounds : 224 ≤ lead.toNat ∧ lead.toNat ≤ 239 :=
    (inRange_iff lead (0xE0, 0xEF)).1 leads
  rw [inRange_iff, secondOfThree] at continues
  by_cases first : lead = 0xE0
  · rw [if_pos first] at continues
    have longer : 160 ≤ second.toNat ∧ second.toNat ≤ 191 := continues
    unfold payload
    omega
  · have : lead.toNat ≠ 224 := fun same =>
      first (UInt8.toNat_inj.1 same)
    omega

/-- Nor is what is written with four bytes. -/
theorem notAscii_of_four {lead second : UInt8}
    (leads : (0xF0 ≤ lead && lead ≤ 0xF4) = true)
    (continues : inRange second (secondOfFour lead) = true)
    (third fourth : UInt8) :
    0x80 ≤ ((lead.toNat % 0x8 * 0x40 + payload second) * 0x40 +
      payload third) * 0x40 + payload fourth := by
  have bounds : 240 ≤ lead.toNat ∧ lead.toNat ≤ 244 :=
    (inRange_iff lead (0xF0, 0xF4)).1 leads
  rw [inRange_iff, secondOfFour] at continues
  by_cases first : lead = 0xF0
  · rw [if_pos first] at continues
    have longer : 144 ≤ second.toNat ∧ second.toNat ≤ 191 := continues
    unfold payload
    omega
  · have : lead.toNat ≠ 240 := fun same =>
      first (UInt8.toNat_inj.1 same)
    omega

/-- Only its own code stands for a character other than zero. -/
theorem eq_toNat_of_ofNat {letter : Char} (notZero : letter.toNat ≠ 0)
    {code : Nat} (same : Char.ofNat code = letter) :
    code = letter.toNat := by
  subst same
  by_cases valid : code.isValidChar
  · rw [Char.ofNat, dif_pos valid]
    rfl
  · rw [Char.ofNat, dif_neg valid] at notZero
    exact absurd rfl notZero

/-- An ASCII character is only read where its byte is. -/
theorem mem_of_some_mem_decodePieces {letter : Char}
    (ascii : letter.toNat < 0x80) (notZero : letter.toNat ≠ 0)
    {bytes : List UInt8} (member : some letter ∈ decodePieces bytes) :
    UInt8.ofNat letter.toNat ∈ bytes := by
  have larger {code : Nat} (large : 0x80 ≤ code) :
      some letter ≠ some (Char.ofNat code) := by
    intro same
    have := eq_toNat_of_ofNat notZero (Option.some.inj same).symm
    omega
  fun_induction decodePieces bytes with
  | case1 => cases member
  | case2 lead rest _ inductionHypothesis =>
      -- A byte of ASCII is read as its own character.
      rcases List.mem_cons.1 member with same | later
      · have code := eq_toNat_of_ofNat notZero (Option.some.inj same).symm
        rw [← code, UInt8.ofNat_toNat]
        exact List.mem_cons_self
      · exact List.mem_cons_of_mem _ (inductionHypothesis later)
  | case4 lead _ leads second rest _ inductionHypothesis =>
      rcases List.mem_cons.1 member with same | later
      · exact absurd same (larger (notAscii_of_two leads second))
      · simp only [List.mem_cons, inductionHypothesis later, or_true]
  | case8 lead _ _ leads second continues third rest _
      inductionHypothesis =>
      rcases List.mem_cons.1 member with same | later
      · exact absurd same (larger (notAscii_of_three leads continues third))
      · simp only [List.mem_cons, inductionHypothesis later, or_true]
  | case14 lead _ _ _ leads second continues third _ fourth rest _
      inductionHypothesis =>
      rcases List.mem_cons.1 member with same | later
      · exact absurd same
          (larger (notAscii_of_four leads continues third fourth))
      · simp only [List.mem_cons, inductionHypothesis later, or_true]
  | case3 | case6 | case7 | case11 | case12 | case13 =>
      cases List.mem_singleton.1 member
  | case5 _ _ _ _ _ _ inductionHypothesis
  | case9 _ _ _ _ _ _ _ _ _ inductionHypothesis
  | case10 _ _ _ _ _ _ _ inductionHypothesis
  | case15 _ _ _ _ _ _ _ _ _ _ _ _ inductionHypothesis
  | case16 _ _ _ _ _ _ _ _ _ _ inductionHypothesis
  | case17 _ _ _ _ _ _ _ _ inductionHypothesis
  | case18 _ _ _ _ _ _ inductionHypothesis =>
      -- An ill-formed piece is no character.
      rcases List.mem_cons.1 member with same | later
      · cases same
      · simp only [List.mem_cons] at inductionHypothesis ⊢
        simp only [inductionHypothesis later, or_true]

theorem mem_of_mem_decodeLenient {letter : Char}
    (ascii : letter.toNat < 0x80) (notZero : letter.toNat ≠ 0)
    {bytes : List UInt8} (member : letter ∈ decodeLenient bytes) :
    UInt8.ofNat letter.toNat ∈ bytes := by
  obtain ⟨piece, pieceMember, shown⟩ := List.mem_map.1 member
  cases piece with
  | none =>
      obtain rfl : replacement = letter := shown
      exact absurd ascii (by decide)
  | some other =>
      obtain rfl : other = letter := shown
      exact mem_of_some_mem_decodePieces ascii notZero pieceMember

/-! ## Order -/

theorem byte_cons_lt {code other : Nat} (small : code < 256)
    (otherSmall : other < 256) (rest others : List UInt8) :
    UInt8.ofNat code :: rest < UInt8.ofNat other :: others ↔
      code < other ∨ code = other ∧ rest < others := by
  rw [List.cons_lt_cons_iff, UInt8.lt_iff_toNat_lt, ← UInt8.toNat_inj,
    toNat_byte small, toNat_byte otherSmall]

/-- The bytes of the larger of two characters are larger, whatever follows. -/
theorem utf8EncodeChar_append_lt {letter other : Char} (below : letter < other)
    (rest others : List UInt8) :
    String.utf8EncodeChar letter ++ rest <
      String.utf8EncodeChar other ++ others := by
  have belowCode : letter.val.toNat < other.val.toNat := below
  have bound := toNat_val_lt letter
  have otherBound := toNat_val_lt other
  unfold String.utf8EncodeChar
  simp only
  generalize letter.val.toNat = code at belowCode bound ⊢
  generalize other.val.toNat = otherCode at belowCode otherBound ⊢
  have thirds : code / 4096 ≤ otherCode / 4096 :=
    Nat.div_le_div_right (Nat.le_of_lt belowCode)
  -- The larger character does not have fewer bytes. If it has as many, the
  -- first difference is in the byte where the quotients become different.
  split_ifs
  all_goals
    first
    | omega
    | simp (disch := omega) only [List.cons_append, List.nil_append,
        byte_cons_lt]
      rcases Nat.lt_or_eq_of_le thirds with higher | same
      · by_cases sameFourths : code / 262144 = otherCode / 262144 <;> omega
      · by_cases sameSeconds : code / 64 = otherCode / 64 <;> omega

/-- Bytes are in the order of the characters. -/
theorem encode_lt {letters others : List Char} (below : letters < others) :
    encode letters < encode others := by
  induction below with
  | @nil letter others =>
      rw [encode_cons]
      cases bytes : String.utf8EncodeChar letter with
      | nil => exact absurd bytes String.utf8EncodeChar_ne_nil
      | cons byte rest => exact .nil
  | cons later inductionHypothesis =>
      rw [encode_cons, encode_cons]
      exact List.append_left_lt inductionHypothesis
  | rel below =>
      rw [encode_cons, encode_cons]
      exact utf8EncodeChar_append_lt below _ _

/-- Texts are ordered as their bytes are. -/
theorem bytesOf_lt {text other : String} (below : text < other) :
    bytesOf text < bytesOf other :=
  encode_lt (String.lt_iff.1 below)

end MeetingLog.Text
