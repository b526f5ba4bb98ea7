import TierRouting.Notice
import TierRouting.Text.Shown

/-! A log of events: it collects them, and its writer appends them to a file one by one. -/
namespace TierRouting

/-- How far a log is in its life. -/
inductive LogState where
  /-- It takes events. Those in `queue` wait for the writer, whose file is open once it has a
  `sink`. -/
  | accepting (queue : List Event) (sink : Option Place)
  /-- Still open, but nothing writes what it is given. -/
  | abandoned
  | closed

structure EventLog where
  path : String
  state : LogState

namespace EventLog

def isActive (l : EventLog) : Bool :=
  match l.state with
  | .closed => false
  | _ => true

/-- What the log shows of itself. -/
def described (l : EventLog) : String :=
  "AnalyticsLogger \x7b path: " ++ Text.shown l.path ++ ", active: " ++ toString l.isActive ++
    " \x7d"

/-- Opens the file of a log, and makes the directories above it. -/
def openFile (files : FileTree) (directory : Place) (path : String) :
    FileTree × Except FileError Place :=
  match files.makeDirectories directory (Path.components path).reverse.tail with
  | (files, .error e) => (files, .error e)
  | (files, .ok ()) =>
    match files.openAppend directory path with
    | .ok (files, p) => (files, .ok p)
    | .error e => (files, .error e)

/-- Appends the line of an event to the open file of a log. If there is none, the file is opened
first; an event for which that fails is lost, and the next one tries again. -/
def writeEvent (files : FileTree) (directory : Place) (path : String) (sink : Option Place)
    (e : Event) : FileTree × Option Place × List Notice :=
  match sink with
  | some p => (files.append p e.line.toUTF8, some p, [])
  | none =>
    match openFile files directory path with
    | (files, .ok p) => (files.append p e.line.toUTF8, some p, [])
    | (files, .error error) => (files, none, [.writeFailed (.sink path error.message)])

/-- Writes events in order. -/
def write (files : FileTree) (directory : Place) (path : String) (sink : Option Place) :
    List Event → FileTree × List Notice
  | [] => (files, [])
  | e :: r =>
    let (files, sink, notices) := writeEvent files directory path sink e
    let (files, later) := write files directory path sink r
    (files, notices ++ later)

/-- Takes an event, or reports why it is lost. -/
def record (l : EventLog) (e : Event) : EventLog × List Notice :=
  match l.state with
  | .accepting queue sink => ({ l with state := .accepting (queue ++ [e]) sink }, [])
  | .abandoned => (l, [.logAbandoned l.path])
  | .closed => (l, [.logClosed e.kind])

/-- The writer's turn: it writes the event that has waited longest. -/
def writeNext (l : EventLog) (files : FileTree) (directory : Place) :
    EventLog × FileTree × List Notice :=
  match l.state with
  | .accepting (e :: queue) sink =>
    let (files, sink, notices) := writeEvent files directory l.path sink e
    ({ l with state := .accepting queue sink }, files, notices)
  | _ => (l, files, [])

/-- The log takes nothing from now on, and its writer writes what is left. -/
def close (l : EventLog) (files : FileTree) (directory : Place) :
    EventLog × FileTree × List Notice :=
  let shut := { l with state := .closed }
  match l.state with
  | .accepting queue sink =>
    let (files, notices) := write files directory l.path sink queue
    (shut, files, notices)
  | .abandoned => (shut, files, [.writerFailed l.path])
  | .closed => (shut, files, [])

/-- Loses what the writer has not written yet. -/
def abandon (l : EventLog) : EventLog :=
  match l.state with
  | .accepting .. => { l with state := .abandoned }
  | _ => l

end EventLog
end TierRouting
