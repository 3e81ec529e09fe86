import Access.Protocol
import Access.Std.LineJournal

/-! # The file replay journal

`FileReplayStateBackend` of `protocol.rs`. The file is a line of hexadecimal digits for each
identifier. What the file system does with a call is given with the backend: `faults n` is the
fault of the `n`-th call. A call that is cut off, by an error or by the end of the process, leaves
a prefix of the bytes it writes. -/

namespace Access

open LineJournal

/-- What can go wrong in one call; each with the text of the error. -/
inductive Fault where
  | none
  /-- The file cannot be opened. -/
  | open (detail : String)
  /-- Reading fails, or writing stops after `written` bytes of the record. -/
  | transfer (written : Nat) (detail : String)
  /-- The record is written, and synchronizing it fails. -/
  | sync (detail : String)
  deriving DecidableEq, Repr

structure FileReplayStateBackend where
  /-- The file at the path of the backend, if there is one. -/
  file : Option Bytes
  faults : Nat → Fault
  calls : Nat

/-- The record of an identifier: `writeln!(file, "\x7b\x7d", hex::encode(value))`. -/
def journalRecord (value : Bytes) : Bytes := Hex.digits value ++ [newline]

/-- One line as `load` reads it. -/
def parseJournalLine (line : Bytes) : Except String Bytes :=
  match line.toUtf8? with
  | none => .error "stream did not contain valid UTF-8"
  | some _ => (Hex.decode line).mapError Hex.FromHexError.display

namespace FileReplayStateBackend

/-- The file after a call that may have created it. -/
def contents (backend : FileReplayStateBackend) : Bytes := backend.file.getD []

def load (backend : FileReplayStateBackend) :
    Except String (List Bytes) × FileReplayStateBackend :=
  (match backend.file with
    | none => .ok []
    | some text =>
      match backend.faults backend.calls with
      | .open detail | .transfer _ detail => .error detail
      | .none | .sync _ => LineJournal.read parseJournalLine text,
   { backend with calls := backend.calls + 1 })

def appendAndSync (value : Bytes) (backend : FileReplayStateBackend) :
    Except String Unit × FileReplayStateBackend :=
  let next := { backend with calls := backend.calls + 1 }
  let written (n : Nat) :=
    { next with file := some (backend.contents ++ (journalRecord value).take n) }
  match backend.faults backend.calls with
  | .open detail => (.error detail, next)
  | .transfer n detail => (.error detail, written n)
  | .sync detail => (.error detail, written (journalRecord value).length)
  | .none => (.ok (), written (journalRecord value).length)

instance : ReplayStateBackend FileReplayStateBackend where
  load := load
  appendAndSync := appendAndSync

end FileReplayStateBackend

end Access
