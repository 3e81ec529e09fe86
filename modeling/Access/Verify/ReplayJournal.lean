import Access.FileReplayState
import Access.Std.Run
import Access.Theory.Storage
import Access.Verify.Protocol

/-! # The file journal forgets nothing it finished

A record that is written to the journal is recorded for good, unless the file ended with an
unfinished line that reads as a part of it (`Clean`). An append to such a file returns success, and
the identifier is lost. -/

namespace Access

open LineJournal

/-! ## Records -/

theorem newline_notMem_digits (value : Bytes) : newline ∉ Hex.digits value := by
  intro h
  have := (Hex.digits_range h).1
  simp [newline] at this

/-- What a record may be appended to: nothing unfinished, or something unfinished that spoils the
record instead of changing it. -/
def Clean (text : Bytes) : Prop :=
  unfinished text = [] ∨
    (unfinished text).length % 2 = 1 ∧ (unfinished text).getLast? ≠ some carriageReturn

instance (text : Bytes) : Decidable (Clean text) := inferInstanceAs (Decidable (_ ∨ _))

theorem parseJournalLine_eq_ok {line value : Bytes} (h : parseJournalLine line = .ok value) :
    Hex.decode line = .ok value := by
  unfold parseJournalLine at h
  split at h
  · cases h
  · exact Except.mapError_eq_ok.mp h

theorem getLast?_digits_ne (value : Bytes) :
    (Hex.digits value).getLast? ≠ some carriageReturn := by
  intro h
  have := (Hex.digits_range (List.mem_of_getLast? h)).1
  simp [carriageReturn] at this

/-- A line that a record ends is read without its newline. -/
theorem content_joined {text : Bytes} (h : Clean text) (value : Bytes) :
    content (unfinished text ++ Hex.digits value, true) = unfinished text ++ Hex.digits value := by
  refine if_neg fun hlast => ?_
  rw [List.getLast?_append] at hlast
  cases hvalue : (Hex.digits value).getLast? with
  | some d => exact getLast?_digits_ne value (hvalue.trans (by simpa [hvalue] using hlast))
  | none =>
    rw [hvalue, Option.none_or] at hlast
    rcases h with h | ⟨-, h⟩
    · simp [h] at hlast
    · exact h hlast

theorem recorded_journalRecord {text : Bytes} (h : Clean text) (value : Bytes) :
    Recorded parseJournalLine value (text ++ journalRecord value) := by
  refine recorded_of_joined text (newline_notMem_digits value) fun w hw => ?_
  rw [content_joined h value] at hw
  have hdecode := parseJournalLine_eq_ok hw
  rcases h with h | ⟨h, -⟩
  · rw [h, List.nil_append, Hex.decode_digits] at hdecode
    exact (Except.ok.inj hdecode).symm
  · have hodd : (unfinished text ++ Hex.digits value).length % 2 = 1 := by
      rw [List.length_append, Hex.length_digits]
      omega
    rw [Hex.decode_odd hodd] at hdecode
    cases hdecode

/-! ## The backend -/

namespace FileReplayStateBackend

variable {b : FileReplayStateBackend} {value : Bytes}

/-- The identifier is in the journal for good. -/
def HasRecorded (value : Bytes) (b : FileReplayStateBackend) : Prop :=
  b.file.isSome ∧ Recorded parseJournalLine value b.contents

/-- An append only ever adds to the file. -/
theorem exists_appended (value : Bytes) (b : FileReplayStateBackend) :
    (appendAndSync value b).2.file = b.file ∨
      ∃ n, (appendAndSync value b).2.file = some (b.contents ++ (journalRecord value).take n) := by
  unfold appendAndSync
  cases b.faults b.calls with
  | «open» detail => exact .inl rfl
  | transfer n detail => exact .inr ⟨n, rfl⟩
  | sync detail | none => exact .inr ⟨_, rfl⟩

theorem appendAndSync_ok (h : (appendAndSync value b).1 = .ok ()) :
    b.faults b.calls = .none ∧
      (appendAndSync value b).2.file = some (b.contents ++ journalRecord value) := by
  unfold appendAndSync at h ⊢
  cases hfault : b.faults b.calls with
  | none => exact ⟨rfl, by simp⟩
  | «open» detail | transfer n detail | sync detail => simp [hfault] at h

theorem HasRecorded.appendAndSync (H : HasRecorded value b) (other : Bytes) :
    HasRecorded value (appendAndSync other b).2 := by
  rcases exists_appended other b with h | ⟨n, h⟩
  · exact ⟨h ▸ H.1, by rw [contents, h]; exact H.2⟩
  · exact ⟨by rw [h]; rfl, by rw [contents, h]; exact H.2.append _⟩

theorem HasRecorded.mem_load (H : HasRecorded value b) {values : List Bytes}
    (h : b.load.1 = .ok values) : value ∈ values := by
  obtain ⟨text, htext⟩ := Option.isSome_iff_exists.mp H.1
  have hrecorded := H.2
  rw [contents, htext, Option.getD_some] at hrecorded
  simp only [load, htext] at h
  split at h
  · cases h
  · cases h
  all_goals exact hrecorded.mem_of_read h

theorem hasRecorded_of_ok (hclean : Clean b.contents) (h : (appendAndSync value b).1 = .ok ()) :
    HasRecorded value (appendAndSync value b).2 := by
  obtain ⟨-, hfile⟩ := appendAndSync_ok h
  exact ⟨by rw [hfile]; rfl, by rw [contents, hfile]; exact recorded_journalRecord hclean value⟩

end FileReplayStateBackend

/-! ## Runs of the journal -/

inductive JournalCall where
  | append (value : Bytes)
  | load

inductive JournalReply where
  | appended (result : Except String Unit)
  | loaded (result : Except String (List Bytes))

/-- A call of the backend; a restart is a `load` by the next process. -/
def journalStep (b : FileReplayStateBackend) :
    JournalCall → JournalReply × FileReplayStateBackend
  | .append value => (.appended (b.appendAndSync value).1, (b.appendAndSync value).2)
  | .load => (.loaded b.load.1, b.load.2)

abbrev JournalEvent := Run.Event FileReplayStateBackend JournalCall JournalReply

/-- The identifiers whose append succeeded. -/
def accepted (es : List JournalEvent) : List Bytes :=
  es.filterMap fun e =>
    match e.call, e.reply with
    | .append value, .appended (.ok ()) => some value
    | _, _ => none

def JournalCall.isAppend : JournalCall → Bool
  | .append _ => true
  | .load => false

/-- Every append that the file system lets through starts on a clean file. -/
def AppendsClean (es : List JournalEvent) : Prop :=
  ∀ e ∈ es, e.call.isAppend → e.before.faults e.before.calls = .none → Clean e.before.contents

instance (es : List JournalEvent) : Decidable (AppendsClean es) :=
  inferInstanceAs (Decidable (∀ e ∈ es, _))

/-- The journal forgets nothing that was accepted: no load misses it, and no cache restarted from
the journal takes it again. -/
def Remembers (es : List JournalEvent) (b : FileReplayStateBackend) : Prop :=
  ∀ value ∈ accepted es, (∀ values, b.load.1 = .ok values → value ∈ values) ∧
    ∀ cache, ReplayCache.persistent (.ok b) = .ok cache →
      ReplayCache.consume value cache = .error .replay cache

theorem mem_accepted_cons {e : JournalEvent} {es : List JournalEvent} {value : Bytes} :
    value ∈ accepted (e :: es) ↔
      (e.call = .append value ∧ e.reply = .appended (.ok ())) ∨ value ∈ accepted es := by
  obtain ⟨before, call, reply, after⟩ := e
  rcases call with other | _ <;> rcases reply with (_ | ⟨⟨⟩⟩) | _ <;> simp [accepted, eq_comm]

/-- One call keeps what is recorded, and records what it accepts. -/
theorem hasRecorded_step {b : FileReplayStateBackend} {c : JournalCall} {value : Bytes}
    (hclean : c.isAppend → b.faults b.calls = .none → Clean b.contents)
    (h : (c = .append value ∧ (journalStep b c).1 = .appended (.ok ())) ∨ b.HasRecorded value) :
    (journalStep b c).2.HasRecorded value := by
  rcases h with ⟨rfl, hok⟩ | h
  · have hok : (b.appendAndSync value).1 = .ok () := by
      rcases hr : (b.appendAndSync value).1 with _ | ⟨⟨⟩⟩ <;> simp_all [journalStep]
    exact FileReplayStateBackend.hasRecorded_of_ok
      (hclean rfl (FileReplayStateBackend.appendAndSync_ok hok).1) hok
  · cases c with
    | append other => exact h.appendAndSync other
    | load => exact h

/-- In every run whose appends start on a clean file, whatever is cut off in it and however often
it restarts, the journal remembers what it accepted. -/
theorem journal_remembers (start : FileReplayStateBackend) (calls : List JournalCall)
    (h : AppendsClean (Run.history journalStep start calls)) :
    Remembers (Run.history journalStep start calls) (Run.state journalStep start calls) := by
  have hrecorded := Run.invariant journalStep start
    (I := fun es b => AppendsClean es → ∀ value ∈ accepted es, b.HasRecorded value)
    (fun _ _ hv => absurd hv List.not_mem_nil) (fun es b c ih hclean value hv => ?_) calls
  · intro value hv
    have H := hrecorded h value hv
    refine ⟨fun values hload => H.mem_load hload, fun cache hcache => ReplayCache.consume_of_mem ?_⟩
    obtain ⟨values, hload, rfl⟩ :=
      ReplayCache.withBackend_eq_ok.mp (ReplayCache.persistent_eq_ok.mp hcache)
    exact List.mem_toFinset.mpr (H.mem_load hload)
  · refine hasRecorded_step (hclean _ (.head _)) ?_
    exact (mem_accepted_cons.mp hv).imp_right
      (ih (fun e he => hclean e (.tail _ he)) value)

/-- Two identifiers, a restart, and one more. -/
theorem journal_remembers_three :
    let start : FileReplayStateBackend := ⟨none, fun _ => .none, 0⟩
    let calls : List JournalCall := [.append [3], .load, .append [171, 205], .append [1]]
    accepted (Run.history journalStep start calls) = [[3], [171, 205], [1]] ∧
      Remembers (Run.history journalStep start calls) (Run.state journalStep start calls) :=
  ⟨by decide, journal_remembers _ _ (by decide)⟩

/-- The first append is cut off after one byte of the identifier; the second succeeds, and the
journal has neither. -/
theorem journal_forgets :
    ¬∀ (start : FileReplayStateBackend) (calls : List JournalCall),
      Remembers (Run.history journalStep start calls) (Run.state journalStep start calls) := by
  intro h
  have hforgotten := (h
    ⟨none, fun n => if n = 0 then .transfer 2 "no space left on device" else .none, 0⟩
    [.append [205], .append [171]] [205] (by decide)).1 [[171, 205]] (by decide +kernel)
  exact absurd hforgotten (by decide)

end Access
