import MeetingLog.Proofs.Json.Object

/-!
# Tagged objects read back

An object whose first member is the tag is read back if its other members have
other names and values that are read back.
-/

namespace MeetingLog.Json

theorem ok_of_map {ε α β : Type} {reading : Except ε α} {f : α → β}
    {result : β} (success : reading.map f = .ok result) :
    ∃ found, reading = .ok found ∧ f found = result := by
  cases reading with
  | error fault => cases success
  | ok found => exact ⟨found, rfl, Except.ok.inj success⟩

theorem ok_of_bind {ε α β : Type} {reading : Except ε α}
    {next : α → Except ε β} {result : β}
    (success : reading.bind next = .ok result) :
    ∃ found, reading = .ok found ∧ next found = .ok result := by
  cases reading with
  | error fault => cases success
  | ok found => exact ⟨found, rfl, success⟩

/-! ## Writing records -/

/-- A member as it is written in a record. -/
def writeMember (member : String × Value) : List Char :=
  writeLiteral true member.1 ++ [':', ' '] ++ writeValue recordStyle member.2

/-- Members are written with a comma and a space in front of all but the
first. -/
theorem writeMembers_cons (member : String × Value)
    (members : List (String × Value)) :
    writeMembers recordStyle (member :: members) =
      writeMember member ++
        members.flatMap fun other => ',' :: ' ' :: writeMember other :=
  recordStyle.writeMembers_cons member members

theorem endsValue_members (members : List (String × Value))
    (rest : List Char) :
    EndsValue
      ((members.flatMap fun member => ',' :: ' ' :: writeMember member) ++
        '}' :: rest) :=
  endsValue_writeLater isSpaced_recordStyle members rest

/-- What stands behind the name of a written member. -/
def afterName (member : String × Value) (rest : List Char) : List Char :=
  ':' :: ' ' :: (writeValue recordStyle member.2 ++ rest)

theorem writeMember_append (member : String × Value) (rest : List Char) :
    writeMember member ++ rest =
      '"' :: (member.1.toList.flatMap (writeLetter true) ++
        '"' :: afterName member rest) :=
  recordStyle.writeMember_append member rest

theorem nextMember_comma (letters : List Char) :
    nextMember readLiteral false (',' :: letters) =
      readName readLiteral (skipSpaces letters) := by
  rw [nextMember, skipSpaces_cons (by decide)]
  rfl

/-! ## Reading -/

section Tagged

variable {style : LineStyle} {τ : Type} {tagName name : String}
variable {tagOf? : String → Option τ} {tag : τ}
variable {members : List (String × Value)}

/-- The tag is read where it comes first. -/
theorem readTaggedMember_tag (spaced : style.IsSpaced)
    (tagFound : tagOf? name = some tag) (rest : List Char) :
    readTaggedMember tagName tagOf? ⟨none, []⟩ tagName
        (style.afterName (tagName, .text name) rest) =
      .ok (⟨some tag, []⟩, rest) := by
  obtain ⟨spaces, blank, colon⟩ :=
    readColon_afterName spaced (tagName, .text name) rest
  have literal : writeValue style (.text name) ++ rest =
      '"' :: (name.toList.flatMap (writeLetter style.asciiOnly) ++
        '"' :: rest) := by
    simp [writeValue, writeLiteral]
  rw [readTaggedMember, if_pos rfl, colon, literal]
  show (readTag tagOf? _).map _ = _
  rw [readTag, blank.skip, skipSpaces_cons (by decide)]
  show ((readLiteral _).bind _).map _ = _
  rw [readLiteral_writeLiteral]
  simp only [Except.bind, tagFound]
  rfl

/-- A member that is not the tag is kept. -/
theorem readTaggedMember_other (spaced : style.IsSpaced)
    (state : TaggedMembers τ) {member : String × Value}
    (other : member.1 ≠ tagName) (fits : member.2.FitsIn (depthLimit - 1))
    {rest : List Char} (ends : EndsValue rest) :
    readTaggedMember tagName tagOf? state member.1
        (style.afterName member rest) =
      .ok ({ state with reversed := member :: state.reversed }, rest) := by
  obtain ⟨spaces, blank, colon⟩ := readColon_afterName spaced member rest
  rw [readTaggedMember, if_neg other, colon]
  show (readValue _ _).map _ = _
  rw [blank.readValue, fits.readValue_writeValue spaced ends]
  rfl

/-- Members that are not the tag are all kept, in reversed order. -/
theorem steps_readTaggedMember (spaced : style.IsSpaced)
    (other : ∀ member ∈ members, member.1 ≠ tagName)
    (fits : ∀ member ∈ members, member.2.FitsIn (depthLimit - 1))
    (state : TaggedMembers τ) :
    Steps style (readTaggedMember tagName tagOf?) state members
      { state with reversed := members.reverse ++ state.reversed } := by
  induction members generalizing state with
  | nil => exact .nil state
  | cons member others inductionHypothesis =>
      rw [List.forall_mem_cons] at other fits
      rw [List.reverse_cons, List.append_assoc]
      exact .cons
        (fun rest ends =>
          readTaggedMember_other spaced state other.1 fits.1 ends)
        (inductionHypothesis other.2 fits.2
          { state with reversed := member :: state.reversed })

/-- A tagged object is read back as its tag and its other members. -/
theorem decodeTagged_writeValue {α : Type}
    {ofBody? : τ → Body → Option α} {result : α} (spaced : style.IsSpaced)
    (tagFound : tagOf? name = some tag)
    (other : ∀ member ∈ members, member.1 ≠ tagName)
    (fits : ∀ member ∈ members, member.2.FitsIn (depthLimit - 1))
    (found : ofBody? tag (.members members) = some result) :
    decodeTagged tagName tagOf? ofBody?
        (writeValue style (.object ((tagName, .text name) :: members))) =
      .ok result := by
  have steps : Steps style (readTaggedMember tagName tagOf?) ⟨none, []⟩
      ((tagName, .text name) :: members)
      ⟨some tag, members.reverse ++ []⟩ :=
    .cons (fun rest _ => readTaggedMember_tag spaced tagFound rest)
      (steps_readTaggedMember spaced other fits ⟨some tag, []⟩)
  have written := style.writeValue_object ((tagName, .text name) :: members) []
  have tagged : readTagged tagName tagOf?
      (writeValue style (.object ((tagName, .text name) :: members))) =
      .ok ((tag, .members members), []) := by
    rw [List.append_nil] at written
    rw [written, readTagged, skipSpaces_cons (by decide)]
    show (Except.bind _ _) = _
    rw [steps.foldMembers_writeMembers spaced, List.append_nil]
    show Except.ok ((tag, Body.members members.reverse.reverse), []) = _
    rw [List.reverse_reverse]
  rw [decodeTagged, tagged]
  simp only [Except.bind, found]
  rfl

end Tagged

end MeetingLog.Json
