import Mathlib.Data.Rat.Defs

/-! # JSON values

Values as a permissive parser reads them: a number may also be `NaN` or an infinity, and a number
without a fraction is an integer of any size. `Json.strict` are the values whose text is JSON to a
strict parser as well. -/

/-- A binary floating-point number. Rounding is not modelled. -/
inductive JsonFloat where
  | nan
  | negInf
  | posInf
  | finite (q : Rat)
  deriving DecidableEq

/-- No two fields of an object have one name. -/
inductive Json where
  | null
  | bool (b : Bool)
  | int (n : Int)
  | float (x : JsonFloat)
  | str (s : String)
  | arr (items : List Json)
  | obj (fields : List (String × Json))

namespace Json

/-- The value of a field. -/
def field? : Json → String → Option Json
  | obj fields, name => fields.lookup name
  | _, _ => none

@[simp] theorem field?_nil (name : String) : (obj []).field? name = none := rfl

@[simp] theorem field?_cons (name name' : String) (value : Json) (fields : List (String × Json)) :
    (obj ((name', value) :: fields)).field? name =
      if name = name' then some value else (obj fields).field? name := by
  by_cases h : name = name'
  · simp [field?, h]
  · simp [field?, List.lookup_cons, beq_eq_false_iff_ne.mpr h, h]

/-- An optional value: `null` for none. -/
def opt (f : α → Json) : Option α → Json
  | some a => f a
  | none => null

@[simp] theorem opt_some (f : α → Json) (a : α) : opt f (some a) = f a := rfl

@[simp] theorem opt_none (f : α → Json) : opt f none = null := rfl

mutual

/-- Whether every number in a value is finite. -/
def strict : Json → Bool
  | float (.finite _) | null | bool _ | int _ | str _ => true
  | float _ => false
  | arr items => strictItems items
  | obj fields => strictFields fields

def strictItems : List Json → Bool
  | [] => true
  | item :: items => item.strict && strictItems items

def strictFields : List (String × Json) → Bool
  | [] => true
  | (_, value) :: fields => value.strict && strictFields fields

end

end Json
