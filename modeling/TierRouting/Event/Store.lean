import TierRouting.Event.Log

/-! The event logs of a program, of which those for one path are shared. -/
namespace TierRouting

structure EventStore where
  /-- Every log in the order of opening; its place is its number. -/
  logs : List EventLog := []
  /-- The log that is shared for a path, whatever the spelling of the path. -/
  shared : List (List Path.Component × Nat) := []
  /-- Something runs that writes to the logs. -/
  isRunning : Bool := true

namespace EventStore

/-- Opens a log that nobody shares, and gives its number. -/
def openLog (s : EventStore) (path : String) : EventStore × Nat × List Notice :=
  let (state, notice) :=
    if s.isRunning then (LogState.accepting [] none, Notice.logStarted path)
    else (.closed, .logDisabled path)
  ({ s with logs := s.logs ++ [⟨path, state⟩] }, s.logs.length, [notice])

def sharedFor? (s : EventStore) (path : String) : Option Nat :=
  (s.shared.find? (·.1 == Path.components path)).map (·.2)

/-- The shared log of a path, which is opened when it is first asked for. -/
def logFor (s : EventStore) (path : String) : EventStore × Nat × List Notice :=
  match s.sharedFor? path with
  | some i => (s, i, [])
  | none =>
    let (s, i, notices) := s.openLog path
    ({ s with shared := s.shared ++ [(Path.components path, i)] }, i, notices)

def record (s : EventStore) (i : Nat) (e : Event) : EventStore × List Notice :=
  match s.logs[i]? with
  | some l =>
    let (l, notices) := l.record e
    ({ s with logs := s.logs.set i l }, notices)
  | none => (s, [])

/-- Does one log's work, which may write to the files. -/
def work (s : EventStore) (i : Nat) (files : FileTree)
    (f : EventLog → EventLog × FileTree × List Notice) : EventStore × FileTree × List Notice :=
  match s.logs[i]? with
  | some l =>
    let (l, files, notices) := f l
    ({ s with logs := s.logs.set i l }, files, notices)
  | none => (s, files, [])

def writeNext (s : EventStore) (i : Nat) (files : FileTree) (directory : Place) :
    EventStore × FileTree × List Notice :=
  s.work i files (·.writeNext files directory)

def close (s : EventStore) (i : Nat) (files : FileTree) (directory : Place) :
    EventStore × FileTree × List Notice :=
  s.work i files (·.close files directory)

def closeAll (s : EventStore) (files : FileTree) (directory : Place) :
    List Nat → EventStore × FileTree × List Notice
  | [] => (s, files, [])
  | i :: r =>
    let (s, files, notices) := s.close i files directory
    let (s, files, later) := s.closeAll files directory r
    (s, files, notices ++ later)

/-- Closes the shared logs; a path that is asked for later gets a new one. What the writers of the
others write while one of them is being closed counts as turns of theirs before it. -/
def shutdown (s : EventStore) (files : FileTree) (directory : Place) :
    EventStore × FileTree × List Notice :=
  let unshared : EventStore := { s with shared := [] }
  unshared.closeAll files directory (s.shared.map (·.2))

/-- What writes to the logs goes away, and new logs are closed from the start. -/
def stopRunning (s : EventStore) : EventStore :=
  { s with logs := s.logs.map EventLog.abandon, isRunning := false }

end EventStore
end TierRouting
