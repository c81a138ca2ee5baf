import MeetingLog.Record.Basic

/-!
# Signatures

Two records tell of the same thing when their signatures are equal. The
signature of a transcript keeps the letters of its text without anything blank
between them, so that a word split in two makes no difference, and it forgets
the number of words.
-/

namespace MeetingLog

open MeetingLog.Calendar

/-- What a signature keeps besides time and participant. -/
inductive SignatureContent where
  | change (kind : LifecycleKind)
  | speech (letters : String)
  deriving DecidableEq, Repr

/-- What makes two records tell of the same thing. -/
structure Signature where
  time : ClockTime
  participant : String
  content : SignatureContent
  deriving DecidableEq, Repr

namespace Signature

def ofRecord : CoreRecord → Signature
  | .lifecycle entry => ⟨entry.time, entry.participant, .change entry.kind⟩
  | .transcript entry =>
      ⟨entry.time, entry.participant, .speech (Text.squeeze entry.text)⟩

/-- The signature of a lifecycle record had it happened one second earlier. A
record is stamped before it is noted, so that the note may fall on the next
second. -/
def ofPreviousSecond? : CoreRecord → Option Signature
  | .lifecycle entry =>
      some ⟨entry.time.previousSecond, entry.participant,
        .change entry.kind⟩
  | .transcript _ => none

end Signature

end MeetingLog
