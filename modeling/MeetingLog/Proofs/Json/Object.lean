import MeetingLog.Json.Stream
import MeetingLog.Json.Tagged
import MeetingLog.Proofs.Json.Scalar

/-!
# Objects read back

An object is written as its members with separators between them, and it is
read by a loop that takes one step for each member. If every step gets through
the value of its member and leaves what stands behind it, the loop gets through
the object and leaves what stands behind the closing brace. Values and
structures are read by such loops, in every style that puts nothing but spaces
behind commas and colons.
-/

namespace MeetingLog.Json

/-! ## Styles -/

/-- `AreSpaces letters` means that all the letters may stand between the parts
of a JSON text. -/
def AreSpaces (letters : List Char) : Prop :=
  ∀ c ∈ letters, isSpace c = true

instance (letters : List Char) : Decidable (AreSpaces letters) :=
  List.decidableBAll _ letters

theorem AreSpaces.skip {spaces : List Char} (blank : AreSpaces spaces)
    (letters : List Char) :
    skipSpaces (spaces ++ letters) = skipSpaces letters :=
  List.dropWhile_append_of_pos blank

theorem AreSpaces.readValue {spaces : List Char} (blank : AreSpaces spaces)
    (depth : Nat) (letters : List Char) :
    readValue depth (spaces ++ letters) = Json.readValue depth letters := by
  cases depth with
  | zero => rw [Json.readValue, Json.readValue, blank.skip]
  | succ depth => rw [Json.readValue, Json.readValue, blank.skip]

/-- `style.IsSpaced` means that commas and colons are followed by nothing but
spaces. -/
structure LineStyle.IsSpaced (style : LineStyle) : Prop where
  separator : ∃ spaces, AreSpaces spaces ∧ style.separator = ',' :: spaces
  colon : ∃ spaces, AreSpaces spaces ∧ style.colon = ':' :: spaces

theorem isSpaced_compactStyle : compactStyle.IsSpaced :=
  ⟨⟨[], by decide, rfl⟩, ⟨[], by decide, rfl⟩⟩

theorem isSpaced_recordStyle : recordStyle.IsSpaced :=
  ⟨⟨[' '], by decide, rfl⟩, ⟨[' '], by decide, rfl⟩⟩

/-! ## Writing -/

namespace LineStyle

variable (style : LineStyle)

/-- A member as it is written in a style. -/
def writeMember (member : String × Value) : List Char :=
  writeLiteral style.asciiOnly member.1 ++ style.colon ++
    writeValue style member.2

/-- What stands behind the name of a written member. -/
def afterName (member : String × Value) (rest : List Char) : List Char :=
  style.colon ++ (writeValue style member.2 ++ rest)

/-- Members behind the first, each with a separator in front of it. -/
def writeLater (members : List (String × Value)) : List Char :=
  members.flatMap fun member => style.separator ++ style.writeMember member

theorem writeMember_append (member : String × Value) (rest : List Char) :
    style.writeMember member ++ rest =
      '"' :: (member.1.toList.flatMap (writeLetter style.asciiOnly) ++
        '"' :: style.afterName member rest) := by
  simp [writeMember, writeLiteral, afterName]

theorem writeMembers_cons (member : String × Value)
    (members : List (String × Value)) :
    writeMembers style (member :: members) =
      style.writeMember member ++ style.writeLater members := by
  induction members generalizing member with
  | nil =>
      obtain ⟨name, value⟩ := member
      rw [writeLater, List.flatMap_nil, List.append_nil]
      rfl
  | cons next others inductionHypothesis =>
      obtain ⟨name, value⟩ := member
      have first :
          writeMembers style ((name, value) :: next :: others) =
            style.writeMember (name, value) ++
              (style.separator ++ writeMembers style (next :: others)) := by
        rw [writeMembers.eq_def]
        simp [writeMember]
      rw [first, inductionHypothesis next, writeLater, writeLater,
        List.flatMap_cons, List.append_assoc]

theorem writeValue_object (members : List (String × Value))
    (rest : List Char) :
    writeValue style (.object members) ++ rest =
      '{' :: (writeMembers style members ++ '}' :: rest) := by
  rw [writeValue, List.cons_append, List.cons_append, List.append_assoc,
    List.singleton_append]

/-- Every member takes at least one letter. -/
theorem length_le_writeLater (members : List (String × Value)) :
    members.length ≤ (style.writeLater members).length := by
  induction members with
  | nil => exact Nat.le_refl 0
  | cons member others inductionHypothesis =>
      have quoted := style.writeMember_append member []
      rw [List.append_nil] at quoted
      rw [writeLater, List.flatMap_cons, List.length_append,
        List.length_append, quoted, List.length_cons, List.length_cons]
      rw [writeLater] at inductionHypothesis
      omega

end LineStyle

section Styled

variable {style : LineStyle}

theorem endsValue_writeLater (spaced : style.IsSpaced)
    (members : List (String × Value)) (rest : List Char) :
    EndsValue (style.writeLater members ++ '}' :: rest) := by
  cases members with
  | nil => exact endsValue_brace rest
  | cons member others =>
      obtain ⟨spaces, -, separator⟩ := spaced.separator
      rw [LineStyle.writeLater, List.flatMap_cons, separator]
      exact endsValue_comma _

/-! ## Names -/

theorem readName_written (style : LineStyle) (member : String × Value)
    (rest : List Char) :
    readName readLiteral (style.writeMember member ++ rest) =
      .ok (.member member.1 (style.afterName member rest)) := by
  rw [LineStyle.writeMember_append, readName, readLiteral_writeLiteral]
  rfl

/-- The first member of an object begins with its name. -/
theorem nextMember_written (member : String × Value) (rest : List Char) :
    nextMember readLiteral true (style.writeMember member ++ rest) =
      .ok (.member member.1 (style.afterName member rest)) := by
  have name := readName_written style member rest
  rw [LineStyle.writeMember_append] at name ⊢
  rw [nextMember, skipSpaces_cons (by decide)]
  exact name

/-- Every other member begins with a separator. -/
theorem nextMember_separated (spaced : style.IsSpaced)
    (member : String × Value) (rest : List Char) :
    nextMember readLiteral false
        (style.separator ++ (style.writeMember member ++ rest)) =
      .ok (.member member.1 (style.afterName member rest)) := by
  obtain ⟨spaces, blank, separator⟩ := spaced.separator
  have name := readName_written style member rest
  rw [separator, List.cons_append, nextMember, skipSpaces_cons (by decide)]
  show readName readLiteral (skipSpaces (spaces ++ _)) = _
  rw [blank.skip]
  rw [LineStyle.writeMember_append] at name ⊢
  rw [skipSpaces_cons (by decide)]
  exact name

theorem readColon_afterName (spaced : style.IsSpaced)
    (member : String × Value) (rest : List Char) :
    ∃ spaces, AreSpaces spaces ∧
      readColon (style.afterName member rest) =
        .ok (spaces ++ (writeValue style member.2 ++ rest)) := by
  obtain ⟨spaces, blank, colon⟩ := spaced.colon
  refine ⟨spaces, blank, ?_⟩
  rw [LineStyle.afterName, colon, List.cons_append, readColon,
    skipSpaces_cons (by decide)]
  rfl

/-! ## Loops over members -/

variable {σ : Type} {step : σ → String → List Char → Reading σ}
variable {state last : σ} {members : List (String × Value)}

/-- `Steps style step state members last` means that `step` leads from `state`
to `last` when it is taken at each of the written members: it gets through the
value of a member and leaves what stands behind it. -/
inductive Steps (style : LineStyle)
    (step : σ → String → List Char → Reading σ) :
    σ → List (String × Value) → σ → Prop
  | nil (state : σ) : Steps style step state [] state
  | cons {state next last : σ} {member : String × Value}
      {members : List (String × Value)}
      (first : ∀ rest, EndsValue rest →
        step state member.1 (style.afterName member rest) = .ok (next, rest))
      (others : Steps style step next members last) :
      Steps style step state (member :: members) last

/-- The steps behind the first member lead to the closing brace. -/
theorem Steps.foldMembers_writeLater
    (steps : Steps style step state members last) (spaced : style.IsSpaced)
    {bound : Nat} (enough : members.length < bound) (rest : List Char) :
    foldMembers readLiteral step bound false state
        (style.writeLater members ++ '}' :: rest) = .ok (last, rest) := by
  induction steps generalizing bound with
  | nil =>
      obtain ⟨bound, rfl⟩ := Nat.exists_eq_succ_of_ne_zero (Nat.ne_of_gt enough)
      rw [LineStyle.writeLater, List.flatMap_nil, List.nil_append, foldMembers,
        nextMember, skipSpaces_cons (by decide)]
      rfl
  | @cons state _ _ member others first _ inductionHypothesis =>
      obtain ⟨bound, rfl⟩ := Nat.exists_eq_succ_of_ne_zero
        (Nat.ne_of_gt (Nat.lt_of_le_of_lt (Nat.zero_le _) enough))
      have split : style.writeLater (member :: others) ++ '}' :: rest =
          style.separator ++ (style.writeMember member ++
            (style.writeLater others ++ '}' :: rest)) := by
        simp [LineStyle.writeLater]
      rw [split, foldMembers, nextMember_separated spaced]
      show (step state member.1 _).bind _ = _
      rw [first _ (endsValue_writeLater spaced others rest)]
      exact inductionHypothesis (Nat.lt_of_succ_lt_succ enough)

/-- The steps lead from behind the opening brace to behind the closing one. -/
theorem Steps.foldMembers_writeMembers
    (steps : Steps style step state members last) (spaced : style.IsSpaced)
    (rest : List Char) :
    foldMembers readLiteral step
        ((writeMembers style members ++ '}' :: rest).length + 1) true state
        (writeMembers style members ++ '}' :: rest) = .ok (last, rest) := by
  cases steps with
  | nil =>
      rw [writeMembers, List.nil_append, foldMembers, nextMember,
        skipSpaces_cons (by decide)]
      rfl
  | @cons _ _ _ member others first later =>
      have enough : others.length <
          (writeMembers style (member :: others) ++ '}' :: rest).length := by
        have long := style.length_le_writeLater others
        rw [LineStyle.writeMembers_cons, List.length_append,
          List.length_append, List.length_cons]
        omega
      rw [foldMembers]
      have written :
          writeMembers style (member :: others) ++ '}' :: rest =
            style.writeMember member ++
              (style.writeLater others ++ '}' :: rest) := by
        rw [LineStyle.writeMembers_cons, List.append_assoc]
      rw [written] at enough ⊢
      rw [nextMember_written]
      show (step state member.1 _).bind _ = _
      rw [first _ (endsValue_writeLater spaced others rest)]
      exact later.foldMembers_writeLater spaced enough rest

/-! ## Values -/

/-- `value.FitsIn depth` means that the value is made of words, texts, whole
numbers that are not below zero, and objects that are nested at most `depth`
levels deep. -/
inductive Value.FitsIn : Nat → Value → Prop
  | null {depth : Nat} : FitsIn depth .null
  | boolean {depth : Nat} (value : Bool) : FitsIn depth (.boolean value)
  | scalar {depth : Nat} {value : Value} (scalar : value.IsScalar) :
      FitsIn depth value
  | object {depth : Nat} {members : List (String × Value)}
      (parts : ∀ member ∈ members, FitsIn depth member.2) :
      FitsIn (depth + 1) (.object members)

theorem readValue_null (depth : Nat) (rest : List Char) :
    readValue depth (writeValue style .null ++ rest) = .ok (.null, rest) := by
  cases depth <;> rfl

theorem readValue_boolean (depth : Nat) (value : Bool) (rest : List Char) :
    readValue depth (writeValue style (.boolean value) ++ rest) =
      .ok (.boolean value, rest) := by
  cases value <;> cases depth <;> rfl

/-- Members whose values are read back are all kept, in reversed order. -/
theorem steps_readMembers (spaced : style.IsSpaced) {depth : Nat}
    (values : ∀ member ∈ members, ∀ rest, EndsValue rest →
      readValue depth (writeValue style member.2 ++ rest) =
        .ok (member.2, rest))
    (found : List (String × Value)) :
    Steps style
      (fun found name rest =>
        (readColon rest).bind fun rest =>
          (readValue depth rest).map fun (value, rest) =>
            ((name, value) :: found, rest))
      found members (members.reverse ++ found) := by
  induction members generalizing found with
  | nil => exact .nil found
  | cons member others inductionHypothesis =>
      rw [List.forall_mem_cons] at values
      rw [List.reverse_cons, List.append_assoc]
      refine .cons (fun rest ends => ?_)
        (inductionHypothesis values.2 (member :: found))
      obtain ⟨spaces, blank, colon⟩ := readColon_afterName spaced member rest
      rw [colon]
      show (readValue depth _).map _ = _
      rw [blank.readValue, values.1 rest ends]
      rfl

/-- A value is read back in front of anything that can follow it. -/
theorem Value.FitsIn.readValue_writeValue (spaced : style.IsSpaced)
    {depth : Nat} {value : Value} (fits : value.FitsIn depth)
    {rest : List Char} (ends : EndsValue rest) :
    readValue depth (writeValue style value ++ rest) = .ok (value, rest) := by
  induction fits generalizing rest with
  | @null depth => exact readValue_null depth rest
  | @boolean depth value => exact readValue_boolean depth value rest
  | @scalar depth value scalar =>
      have space : AreSpaces [' '] := by decide
      rw [← space.readValue]
      exact Json.readValue_writeValue style scalar depth ends
  | @object depth members _ inductionHypothesis =>
      have steps := steps_readMembers spaced
        (fun member inside rest ends => inductionHypothesis member inside ends)
        []
      rw [List.append_nil] at steps
      rw [LineStyle.writeValue_object, Json.readValue,
        skipSpaces_cons (by decide)]
      show (readMembers _ _).map _ = _
      rw [readMembers, steps.foldMembers_writeMembers spaced]
      show Except.ok (Value.object members.reverse.reverse, rest) = _
      rw [List.reverse_reverse]

/-! ## Structures -/

namespace MemberReader

variable {reader : MemberReader σ}

/-- A field that has not been read yet is read where it comes. -/
theorem steps_cons (member : String × Value) (next : σ)
    (isField : reader.fields.contains member.1 = true)
    (isNew : reader.isSet member.1 state = false)
    (read : ∀ rest, reader.readField member.1 state
      (writeValue compactStyle member.2 ++ rest) = .ok (next, rest))
    (others : Steps compactStyle reader.readMember next members last) :
    Steps compactStyle reader.readMember state (member :: members) last := by
  refine .cons (fun rest _ => ?_) others
  have notSet : ¬ reader.isSet member.1 state = true := by simp [isNew]
  rw [readMember, if_pos isField, if_neg notSet]
  exact read rest

/-- A structure is read back from its members. -/
theorem read_writeValue (mayStop : Bool) (spaced : style.IsSpaced)
    (steps : Steps style reader.readMember state members last)
    (rest : List Char) :
    reader.read mayStop state (writeValue style (.object members) ++ rest) =
      .ok (last, rest) := by
  rw [LineStyle.writeValue_object, read, skipSpaces_cons (by decide)]
  exact steps.foldMembers_writeMembers spaced rest

end MemberReader

theorem wantText_writeValue (text : String) (rest : List Char) :
    wantText (writeValue style (.text text) ++ rest) = .ok (text, rest) := by
  have literal : writeValue style (.text text) ++ rest =
      '"' :: (text.toList.flatMap (writeLetter style.asciiOnly) ++
        '"' :: rest) := by
    simp [writeValue, writeLiteral]
  rw [literal, wantText, skipSpaces_cons (by decide)]
  exact readLiteral_writeLiteral style.asciiOnly text rest

theorem wantBoolean_writeValue (value : Bool) (rest : List Char) :
    wantBoolean (writeValue style (.boolean value) ++ rest) =
      .ok (value, rest) := by
  cases value <;> rfl

end Styled

end MeetingLog.Json
