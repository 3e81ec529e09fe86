import Access.Std.Ensures
import Access.Std.Json
import Mathlib.Data.List.Infix

/-! # Python on JSON values

What Python's operations do on a value that `json.loads` returned, with the exceptions they raise.
A dictionary is an object, and a Boolean is also the integer 0 or 1. -/

namespace Python

inductive ErrorKind where
  | os
  | runtime
  | recursion
  | value
  | jsonDecode
  | key
  | type
  | attribute
  | overflow
  | assertion
  deriving DecidableEq, Repr

/-- The class an exception class is derived from, where a program names both. -/
def ErrorKind.base? : ErrorKind → Option ErrorKind
  | recursion => some runtime
  | jsonDecode => some value
  | _ => none

/-- An exception; `text` is what `str` makes of it, where a program reads that. -/
structure Error where
  kind : ErrorKind
  text : String := ""
  deriving DecidableEq

/-- `isinstance(error, kinds)` -/
def Error.isInstance (error : Error) (kinds : List ErrorKind) : Bool :=
  decide (error.kind ∈ kinds) || error.kind.base?.any (decide <| · ∈ kinds)

/-! ## Numbers -/

/-- The value of a number; a Boolean is one. -/
def number? : Json → Option JsonFloat
  | .bool b => some (.finite b.toNat)
  | .int n => some (.finite n)
  | .float x => some x
  | _ => none

/-- `x == y` of numbers. -/
def floatEq : JsonFloat → JsonFloat → Bool
  | .nan, _ => false
  | x, y => decide (x = y)

/-- The digits zero of Unicode; each is followed by the other nine. -/
def zeros : List Nat :=
  [0x30, 0x660, 0x6F0, 0x7C0, 0x966, 0x9E6, 0xA66, 0xAE6, 0xB66, 0xBE6, 0xC66, 0xCE6, 0xD66, 0xDE6,
   0xE50, 0xED0, 0xF20, 0x1040, 0x1090, 0x17E0, 0x1810, 0x1946, 0x19D0, 0x1A80, 0x1A90, 0x1B50,
   0x1BB0, 0x1C40, 0x1C50, 0xA620, 0xA8D0, 0xA900, 0xA9D0, 0xA9F0, 0xAA50, 0xABF0, 0xFF10, 0x104A0,
   0x10D30, 0x11066, 0x110F0, 0x11136, 0x111D0, 0x112F0, 0x11450, 0x114D0, 0x11650, 0x116C0,
   0x11730, 0x118E0, 0x11950, 0x11C50, 0x11D50, 0x11DA0, 0x16A60, 0x16B50, 0x1D7CE, 0x1D7D8,
   0x1D7E2, 0x1D7EC, 0x1D7F6, 0x1E140, 0x1E2F0, 0x1E950, 0x1FBF0]

def digit? (c : Char) : Option Nat :=
  (zeros.find? fun first => first ≤ c.toNat ∧ c.toNat < first + 10).map (c.toNat - ·)

/-- Digits, with single underscores between them. -/
def digits? : List Char → Option (List Nat)
  | [] => none
  | [c] => (digit? c).map ([·])
  | c :: '_' :: cs => do pure ((← digit? c) :: (← digits? cs))
  | c :: cs => do pure ((← digit? c) :: (← digits? cs))

/-- The space that `int` ignores around a number. -/
def isSpace (c : Char) : Bool :=
  let n := c.toNat
  (9 ≤ n && n ≤ 13) || n == 0x20 || n == 0x85 || n == 0xA0 || n == 0x1680 ||
    (0x2000 ≤ n && n ≤ 0x200A) || n == 0x2028 || n == 0x2029 || n == 0x202F || n == 0x205F ||
    n == 0x3000

/-- `int(text)`, with the default limit of 4300 digits. -/
def intOfText (text : String) : Except Error Int :=
  let text := ((text.toList.dropWhile isSpace).reverse.dropWhile isSpace).reverse
  let (sign, digits) : Int × List Char := match text with
    | '-' :: digits => (-1, digits)
    | '+' :: digits => (1, digits)
    | digits => (1, digits)
  match digits? digits with
  | none => .error { kind := .value }
  | some digits =>
    if digits.length ≤ 4300 then .ok (sign * (digits.foldl (fun n d => 10 * n + d) 0 : Nat))
    else .error { kind := .value }

/-- `int(x)` -/
def toInt : Json → Except Error Int
  | .bool b => .ok b.toNat
  | .int n => .ok n
  | .float (.finite q) => .ok (if 0 ≤ q then q.floor else q.ceil)
  | .float .nan => .error { kind := .value }
  | .float _ => .error { kind := .overflow }
  | .str text => intOfText text
  | .null | .arr _ | .obj _ => .error { kind := .type }

/-! ## Values -/

/-- `bool(x)` -/
def truthy : Json → Bool
  | .null => false
  | .bool b => b
  | .int n => decide (n ≠ 0)
  | .float x => decide (x ≠ .finite 0)
  | .str s => decide (s ≠ "")
  | .arr items => !items.isEmpty
  | .obj fields => !fields.isEmpty

/-- `x or y` -/
def or (x y : Json) : Json := if truthy x then x else y

mutual

/-- `x == y` -/
def eq : Json → Json → Bool
  | .null, y => match y with | .null => true | _ => false
  | .str s, y => match y with | .str t => decide (s = t) | _ => false
  | .arr items, y => match y with | .arr others => eqItems items others | _ => false
  | .obj fields, y => match y with
    | .obj others => fields.length == others.length && eqFields fields others
    | _ => false
  | .bool b, y => (number? y).any (floatEq (.finite b.toNat))
  | .int n, y => (number? y).any (floatEq (.finite n))
  | .float x, y => (number? y).any (floatEq x)

def eqItems : List Json → List Json → Bool
  | [], others => others.isEmpty
  | item :: items, others => match others with
    | [] => false
    | other :: others => eq item other && eqItems items others

def eqFields : List (String × Json) → List (String × Json) → Bool
  | [], _ => true
  | (name, value) :: fields, others => match others.lookup name with
    | some other => eq value other && eqFields fields others
    | none => false

end

/-- `hash(x)` -/
def hash : Json → Except Error Unit
  | .arr _ | .obj _ => .error { kind := .type }
  | _ => .ok ()

/-- `x.get(name, fallback)` -/
def get (x : Json) (name : String) (fallback : Json := .null) : Except Error Json :=
  match x with
  | .obj _ => .ok ((x.field? name).getD fallback)
  | _ => .error { kind := .attribute }

/-- `x[name]` -/
def item (x : Json) (name : String) : Except Error Json :=
  match x with
  | .obj _ => Except.okOr (x.field? name) { kind := .key }
  | _ => .error { kind := .type }

/-- `iter(x)` -/
def iter : Json → Except Error (List Json)
  | .arr items => .ok items
  | .obj fields => .ok (fields.map fun field => .str field.1)
  | .str s => .ok (s.toList.map fun c => .str (String.singleton c))
  | _ => .error { kind := .type }

/-- `len(x)`; only whether there is one. -/
def len : Json → Except Error Unit
  | .arr _ | .obj _ | .str _ => .ok ()
  | _ => .error { kind := .type }

/-- An element of a list that `dict` is to read as a field. -/
def toField (x : Json) : Except Error Unit := do
  match ← iter x with
  | [name, _] => hash name
  | _ => .error { kind := .value }

/-- `dict(x)`; only whether there is one. -/
def toDict : Json → Except Error Unit
  | .obj _ => .ok ()
  | x => do (← iter x).forM toField

/-- `needle in text` -/
def contains (text needle : String) : Bool := decide (needle.toList <:+: text.toList)

/-- The use of a method of strings. -/
def asText : Json → Except Error String
  | .str s => .ok s
  | _ => .error { kind := .attribute }

/-! ## Dictionaries -/

def IsDict : Json → Prop
  | .obj _ => True
  | _ => False

/-- The field of a dictionary, or a value in its place. -/
def fieldOr (x : Json) (name : String) (fallback : Json := .null) : Json :=
  (x.field? name).getD fallback

theorem get_of_isDict {x : Json} (h : IsDict x) (name : String) (fallback : Json) :
    get x name fallback = .ok (fieldOr x name fallback) := by
  cases x with
  | obj fields => rfl
  | _ => cases h

theorem get_of_not_isDict {x : Json} (h : ¬IsDict x) (name : String) (fallback : Json) :
    get x name fallback = .error { kind := .attribute } := by
  cases x with
  | obj fields => exact absurd trivial h
  | _ => rfl

theorem isDict_of_get {x value fallback : Json} {name : String}
    (h : get x name fallback = .ok value) : IsDict x := by
  by_contra other
  cases h.symm.trans (get_of_not_isDict other name fallback)

theorem item_eq_ok {x value : Json} {name : String} :
    item x name = .ok value ↔ x.field? name = some value := by
  cases x with
  | obj fields => exact Except.okOr_eq_ok
  | _ => simp [item, Json.field?]

theorem isDict_of_field? {x value : Json} {name : String} (h : x.field? name = some value) :
    IsDict x := by
  cases x with
  | obj fields => trivial
  | _ => cases h

theorem item_of_isDict {x : Json} (h : IsDict x) (name : String) :
    item x name = Except.okOr (x.field? name) { kind := .key } := by
  cases x with
  | obj fields => rfl
  | _ => cases h

theorem item_of_not_isDict {x : Json} (h : ¬IsDict x) (name : String) :
    item x name = .error { kind := .type } := by
  cases x with
  | obj fields => exact absurd trivial h
  | _ => rfl

theorem fieldOr_of_field? {x value : Json} {name : String} (h : x.field? name = some value) :
    fieldOr x name = value := by
  rw [fieldOr, h]
  rfl

theorem field?_of_fieldOr {x value : Json} {name : String} (h : fieldOr x name = value)
    (ne : value ≠ .null) : x.field? name = some value := by
  unfold fieldOr at h
  cases found : x.field? name with
  | none =>
    rw [found] at h
    exact absurd h.symm ne
  | some other =>
    rw [found] at h
    exact congrArg some h

theorem item_of_isSome {x : Json} {name : String} (h : (x.field? name).isSome) :
    (item x name).Succeeds := by
  obtain ⟨value, found⟩ := Option.isSome_iff_exists.mp h
  exact ⟨value, item_eq_ok.mpr found⟩

theorem item_missing {x : Json} {name : String} (dict : IsDict x) (h : x.field? name = none) :
    item x name = .error { kind := .key } := by
  rw [item_of_isDict dict, h]
  rfl

theorem iter_of_not_len {x : Json} {e : Error} (h : len x = .error e) :
    e = { kind := .type } ∧ iter x = .error e := by
  cases x <;> cases h <;> exact ⟨rfl, rfl⟩

/-- No other exceptions than these are raised. -/
def RaisesOnly (kinds : List ErrorKind) (x : Except Error α) : Prop :=
  ∀ e, x = .error e → e.isInstance kinds = true

theorem get_of_field? {x value : Json} {name : String} (h : x.field? name = some value)
    (fallback : Json) : get x name fallback = .ok value := by
  cases x <;> first | cases h | simp only [get, h, Option.getD_some]

/-- What is not the fallback is in the dictionary. -/
theorem field?_of_get {x value fallback : Json} {name : String} (h : get x name fallback = .ok value)
    (hne : value ≠ fallback) : x.field? name = some value := by
  cases x with
  | obj fields =>
    cases hfield : (Json.obj fields).field? name with
    | none =>
      rw [get, hfield] at h
      exact absurd (Except.ok.inj h).symm hne
    | some value' =>
      rw [get, hfield] at h
      exact congrArg some (Except.ok.inj h)
  | _ => cases h

theorem or_of_ne_empty {s : String} (h : s ≠ "") (y : Json) : or (.str s) y = .str s := by
  simp [or, truthy, h]

end Python

namespace EStateM

open Python

variable {σ α : Type}

/-- `try: body except kinds`: an exception of these kinds is a result, and what was assigned before
it stays assigned. -/
def attempt (kinds : List ErrorKind) (body : EStateM Error σ α) :
    EStateM Error σ (Except Error α) := fun s =>
  match body s with
  | .ok a s => .ok (.ok a) s
  | .error e s => if e.isInstance kinds then .ok (.error e) s else .error e s

theorem ensures_attempt {kinds : List ErrorKind} {body : EStateM Error σ α} {s : σ}
    {Q : Except Error α → σ → Prop} {E : Error → σ → Prop} :
    Ensures (attempt kinds body) s Q E ↔ Ensures body s (fun a t => Q (.ok a) t) fun e t =>
      (e.isInstance kinds = true → Q (.error e) t) ∧ (e.isInstance kinds = false → E e t) := by
  unfold Ensures attempt
  cases body s with
  | ok a t => exact Iff.rfl
  | error e t => by_cases h : e.isInstance kinds = true <;> simp [h]

/-- A block that may only raise what is caught. -/
theorem ensures_attempt_never {kinds : List ErrorKind} {body : EStateM Error σ α} {s : σ}
    {Q : Except Error α → σ → Prop} :
    Ensures (attempt kinds body) s Q (fun _ _ => False) ↔
      Ensures body s (fun a t => Q (.ok a) t) fun e t =>
        e.isInstance kinds = true ∧ Q (.error e) t := by
  unfold Ensures attempt
  cases body s with
  | ok a t => exact Iff.rfl
  | error e t => by_cases h : e.isInstance kinds = true <;> simp [h]

theorem Steps.attempt {kinds : List ErrorKind} {body : EStateM Error σ α} {R : σ → σ → Prop}
    (H : Steps R body) : Steps R (attempt kinds body) := by
  intro s
  have h := H s
  unfold EStateM.attempt
  cases hbody : body s with
  | ok a t =>
    rw [hbody] at h
    exact h
  | error e t =>
    rw [hbody] at h
    dsimp only
    split <;> exact h

end EStateM
