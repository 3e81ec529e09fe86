import Access.Std.Control
import Access.Std.Text

/-! # Line journals

A file that only grows and is read line by line. A reader of a journal sees its lines, and a
record that was cut off leaves an unfinished line, which the next record continues.

`Recorded parse v text` is what makes a value permanent: some line of `text` that a newline ends
can be read as nothing but `v`. It survives everything appended later (`Recorded.append`), and a
reader that accepts the text returns `v` (`Recorded.mem_of_read`). A record appended to an
unfinished line is recorded if the joined line can be read as nothing else
(`recorded_of_joined`). -/

namespace LineJournal

def newline : UInt8 := 10

def carriageReturn : UInt8 := 13

/-- The lines of a text, each with whether a newline ends it. -/
def rawLines : Bytes → List (Bytes × Bool)
  | [] => []
  | c :: text =>
    if c = newline then ([], true) :: rawLines text
    else match rawLines text with
      | [] => [([c], false)]
      | (line, ended) :: lines => (c :: line, ended) :: lines

/-- What a line reader returns for a line: a carriage return before the newline is dropped. -/
def content : Bytes × Bool → Bytes
  | (line, true) => if line.getLast? = some carriageReturn then line.dropLast else line
  | (line, false) => line

/-- What follows the last newline. -/
def unfinished : Bytes → Bytes
  | [] => []
  | c :: text => if newline ∈ c :: text then unfinished text else c :: text

def read (parse : Bytes → Except ε α) (text : Bytes) : Except ε (List α) :=
  (rawLines text).mapM (parse ∘ content)

/-! ## Lines -/

theorem rawLines_ended {d : Bytes} (hd : newline ∉ d) : rawLines (d ++ [newline]) = [(d, true)] := by
  induction d with
  | nil => rfl
  | cons c d ih =>
    obtain ⟨hc, hd⟩ := not_or.mp (List.mem_cons.not.mp hd)
    rw [List.cons_append, rawLines, if_neg (Ne.symm hc), ih hd]

theorem rawLines_ne_nil {text : Bytes} (h : text ≠ []) : rawLines text ≠ [] := by
  cases text with
  | nil => exact absurd rfl h
  | cons c text =>
    rw [rawLines]
    split
    · exact List.cons_ne_nil _ _
    · split <;> exact List.cons_ne_nil _ _

/-- A newline separates the lines before it from those after it. -/
theorem rawLines_append (a b : Bytes) :
    rawLines (a ++ newline :: b) = rawLines (a ++ [newline]) ++ rawLines b := by
  induction a with
  | nil => simp [rawLines]
  | cons c a ih =>
    simp only [List.cons_append, rawLines, ih]
    split
    · rfl
    · cases h : rawLines (a ++ [newline]) with
      | nil => exact absurd h (rawLines_ne_nil (by simp))
      | cons line lines => rfl

theorem newline_notMem_unfinished (text : Bytes) : newline ∉ unfinished text := by
  induction text with
  | nil => exact List.not_mem_nil
  | cons c text ih =>
    rw [unfinished]
    split
    · exact ih
    · assumption

theorem eq_unfinished_or (text : Bytes) :
    text = unfinished text ∨ ∃ a, text = a ++ newline :: unfinished text := by
  induction text with
  | nil => exact .inl rfl
  | cons c text ih =>
    rw [unfinished]
    split
    · refine .inr ?_
      rcases ih with ih | ⟨a, ih⟩
      · have hc : newline ∉ text := ih ▸ newline_notMem_unfinished text
        have : newline = c := (List.mem_cons.mp ‹_›).resolve_right hc
        exact ⟨[], by rw [← ih, this]; rfl⟩
      · exact ⟨c :: a, congrArg (c :: ·) ih⟩
    · exact .inl rfl

theorem unfinished_newline (text : Bytes) : unfinished (text ++ [newline]) = [] := by
  induction text with
  | nil => rfl
  | cons c text ih => rw [List.cons_append, unfinished, if_pos (by simp), ih]

/-- A record that ends with a newline continues the unfinished line. -/
theorem mem_rawLines_append (text : Bytes) {d : Bytes} (hd : newline ∉ d) :
    (unfinished text ++ d, true) ∈ rawLines (text ++ (d ++ [newline])) := by
  have hline : newline ∉ unfinished text ++ d := by
    simp [newline_notMem_unfinished, hd]
  rcases eq_unfinished_or text with h | ⟨a, h⟩
  · have hlines := rawLines_ended hline
    rw [← h] at hlines ⊢
    rw [← List.append_assoc, hlines]
    exact .head _
  · have : text ++ (d ++ [newline]) = a ++ newline :: (unfinished text ++ d ++ [newline]) := by
      conv => lhs; rw [h]
      simp
    rw [this, rawLines_append, rawLines_ended hline]
    exact List.mem_append_right _ (.head _)

/-! ## Recorded values -/

variable {ε α : Type} {parse : Bytes → Except ε α} {v : α} {text : Bytes}

/-- A finished line of the text can be read as nothing but `v`. -/
def Recorded (parse : Bytes → Except ε α) (v : α) (text : Bytes) : Prop :=
  ∃ a b line, text = a ++ newline :: b ∧ line ∈ rawLines (a ++ [newline]) ∧
    ∀ w, parse (content line) = .ok w → w = v

theorem Recorded.append (H : Recorded parse v text) (more : Bytes) :
    Recorded parse v (text ++ more) := by
  obtain ⟨a, b, line, rfl, hline, hv⟩ := H
  exact ⟨a, b ++ more, line, by simp, hline, hv⟩

theorem exists_of_read {vs : List α} {line : Bytes × Bool} (h : read parse text = .ok vs)
    (hline : line ∈ rawLines text) : ∃ w ∈ vs, parse (content line) = .ok w := by
  unfold read at h
  generalize rawLines text = lines at h hline
  induction lines generalizing vs with
  | nil => cases hline
  | cons first lines ih =>
    simp only [List.mapM_cons, Except.bind_eq_ok, Except.pure_eq_ok] at h
    obtain ⟨w, hw, ws, hws, rfl⟩ := h
    rcases List.mem_cons.mp hline with rfl | hline
    · exact ⟨w, .head _, hw⟩
    · obtain ⟨w', hmem, hparse⟩ := ih hws hline
      exact ⟨w', .tail _ hmem, hparse⟩

theorem Recorded.mem_of_read {vs : List α} (H : Recorded parse v text)
    (h : read parse text = .ok vs) : v ∈ vs := by
  obtain ⟨a, b, line, rfl, hline, hv⟩ := H
  have hmem : line ∈ rawLines (a ++ newline :: b) := by
    rw [rawLines_append]
    exact List.mem_append_left _ hline
  obtain ⟨w, hw, hparse⟩ := exists_of_read h hmem
  exact hv w hparse ▸ hw

/-- A record appended to an unfinished line is recorded if the joined line reads as nothing
else. -/
theorem recorded_of_joined (text : Bytes) {d : Bytes} (hd : newline ∉ d)
    (h : ∀ w, parse (content (unfinished text ++ d, true)) = .ok w → w = v) :
    Recorded parse v (text ++ (d ++ [newline])) :=
  ⟨text ++ d, [], _, by simp, by simpa using mem_rawLines_append text hd, h⟩

end LineJournal
