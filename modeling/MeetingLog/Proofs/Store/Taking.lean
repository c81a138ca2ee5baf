import MeetingLog.Store.Basic

/-!
# Taking records

A store is given records one after another, and takes every one of them.
-/

namespace MeetingLog.Store

open MeetingLog.Files

/-- `Accepts recorder store files records after written` means that the store,
given the records one after another by the recorder, takes all of them; what it
and the files are like then is `after` and `written`. -/
inductive Accepts (recorder : Recorder) :
    Store → FileTree → List CoreRecord → Store → FileTree → Prop
  | nothing (store : Store) (files : FileTree) :
      Accepts recorder store files [] store files
  | record {store after : Store} {files written : FileTree}
      {record : CoreRecord} {records : List CoreRecord} :
      (recorder store files record).result = .ok () →
      Accepts recorder (recorder store files record).store
        (recorder store files record).files records after written →
      Accepts recorder store files (record :: records) after written

/-- `Takes store files records after written` means that the store, given the
records one after another, takes all of them. -/
abbrev Takes :
    Store → FileTree → List CoreRecord → Store → FileTree → Prop :=
  Accepts appendCore

namespace Accepts

variable {recorder : Recorder}

theorem single {store : Store} {files : FileTree} {record : CoreRecord}
    (taken : (recorder store files record).result = .ok ()) :
    Accepts recorder store files [record] (recorder store files record).store
      (recorder store files record).files :=
  .record taken (.nothing _ _)

theorem append {store between after : Store}
    {files kept written : FileTree} {front back : List CoreRecord}
    (first : Accepts recorder store files front between kept)
    (second : Accepts recorder between kept back after written) :
    Accepts recorder store files (front ++ back) after written := by
  induction first with
  | nothing => exact second
  | record taken _ inductionHypothesis =>
      exact .record taken (inductionHypothesis second)

end Accepts

theorem Takes.single {store : Store} {files : FileTree}
    {record : CoreRecord}
    (taken : (store.appendCore files record).result = .ok ()) :
    Takes store files [record] (store.appendCore files record).store
      (store.appendCore files record).files :=
  Accepts.single taken

end MeetingLog.Store
