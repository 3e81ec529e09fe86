import Mathlib.Order.Defs.PartialOrder
import Access.Std.Control

/-! # Policies

A language of authorization policies about the facts of a request. A policy permits or forbids the
requests in its scope whose facts satisfy its condition. A request is allowed if a policy permits it
and none forbids it; a condition that cannot be evaluated is not satisfied, and reported.

A condition that is well typed can be evaluated on facts of the expected types (`eval_of_infer`), so
nothing is reported about a well typed set of policies (`errors_eq_nil`). A condition that is made of
facts and of upper limits stays true when the facts get better (`Positive.mono`). -/

namespace Policies

variable {ρ α κ : Type}

inductive Value (κ : Type) where
  | bool (b : Bool)
  | number (n : κ)
  deriving DecidableEq

inductive Ty where
  | bool
  | number
  deriving DecidableEq

def Value.ty : Value κ → Ty
  | .bool _ => .bool
  | .number _ => .number

/-- What is known about a request, by name. -/
abbrev Facts (α κ : Type) := α → Option (Value κ)

inductive Expr (α κ : Type) where
  | lit (v : Value κ)
  | fact (name : α)
  | and (left right : Expr α κ)
  | le (left right : Expr α κ)

inductive EvalError where
  | missing
  | mistyped
  deriving DecidableEq

def Value.asBool : Value κ → Except EvalError Bool
  | .bool b => .ok b
  | .number _ => .error .mistyped

def Value.asNumber : Value κ → Except EvalError κ
  | .number n => .ok n
  | .bool _ => .error .mistyped

theorem asBool_eq_ok {v : Value κ} {b : Bool} : v.asBool = .ok b ↔ v = .bool b := by
  cases v <;> simp [Value.asBool]

theorem asNumber_eq_ok {v : Value κ} {n : κ} : v.asNumber = .ok n ↔ v = .number n := by
  cases v <;> simp [Value.asNumber]

theorem exists_of_ty_bool {v : Value κ} (h : v.ty = .bool) : ∃ b, v = .bool b := by
  cases v with
  | bool b => exact ⟨b, rfl⟩
  | number n => cases h

theorem exists_of_ty_number {v : Value κ} (h : v.ty = .number) : ∃ n, v = .number n := by
  cases v with
  | number n => exact ⟨n, rfl⟩
  | bool b => cases h

/-! ## Evaluation -/

section

variable [LE κ] [DecidableLE κ]

/-- A conjunction is decided by its left side, if that is false. -/
def eval (facts : Facts α κ) : Expr α κ → Except EvalError (Value κ)
  | .lit v => .ok v
  | .fact name => Except.okOr (facts name) .missing
  | .and left right => do
    if ← (← eval facts left).asBool then
      pure (.bool (← (← eval facts right).asBool))
    else pure (.bool false)
  | .le left right => do
    let m ← (← eval facts left).asNumber
    let n ← (← eval facts right).asNumber
    pure (.bool (m ≤ n))

/-- The condition evaluates to true. -/
def Holds (facts : Facts α κ) (e : Expr α κ) : Prop := eval facts e = .ok (.bool true)

variable {facts facts' : Facts α κ}

@[simp] theorem holds_fact {name : α} :
    Holds facts (.fact name) ↔ facts name = some (.bool true) := by
  simp only [Holds, eval]
  exact Except.okOr_eq_ok

@[simp] theorem holds_and {left right : Expr α κ} :
    Holds facts (.and left right) ↔ Holds facts left ∧ Holds facts right := by
  simp only [Holds, eval]
  constructor
  · intro holds
    obtain ⟨v, hleft, tested⟩ := Except.bind_eq_ok.mp holds
    obtain ⟨b, isBool, decided⟩ := Except.bind_eq_ok.mp tested
    cases asBool_eq_ok.mp isBool
    cases b with
    | false => cases decided
    | true =>
      obtain ⟨v', hright, tested'⟩ := Except.bind_eq_ok.mp decided
      obtain ⟨b', isBool', decided'⟩ := Except.bind_eq_ok.mp tested'
      cases asBool_eq_ok.mp isBool'
      cases decided'
      exact ⟨hleft, hright⟩
  · rintro ⟨hleft, hright⟩
    rw [hleft, hright]
    rfl

/-- An upper limit. -/
@[simp] theorem holds_le {name : α} {limit : κ} :
    Holds facts (.le (.fact name) (.lit (.number limit))) ↔
      ∃ n, facts name = some (.number n) ∧ n ≤ limit := by
  simp only [Holds, eval]
  constructor
  · intro holds
    obtain ⟨v, known, compared⟩ := Except.bind_eq_ok.mp holds
    obtain ⟨n, isNumber, decided⟩ := Except.bind_eq_ok.mp compared
    cases asNumber_eq_ok.mp isNumber
    have within : Value.bool (decide (n ≤ limit)) = .bool true := Except.ok.inj decided
    rw [Value.bool.injEq, decide_eq_true_eq] at within
    exact ⟨n, Except.okOr_eq_ok.mp known, within⟩
  · rintro ⟨n, known, within⟩
    rw [known]
    show Except.ok (Value.bool (decide (n ≤ limit))) = _
    rw [decide_eq_true within]

/-- `e && e' && ..`, from the left. -/
def Expr.all (e : Expr α κ) (es : List (Expr α κ)) : Expr α κ := es.foldl .and e

theorem holds_all {e : Expr α κ} {es : List (Expr α κ)} :
    Holds facts (e.all es) ↔ ∀ e' ∈ e :: es, Holds facts e' := by
  induction es generalizing e with
  | nil => simp [Expr.all]
  | cons e' es ih =>
    show Holds facts ((Expr.and e e').all es) ↔ _
    rw [ih]
    simp only [List.forall_mem_cons, holds_and, and_assoc]

/-! ## Types -/

/-- The type of an expression, from the types of the facts. -/
def infer (types : α → Option Ty) : Expr α κ → Option Ty
  | .lit v => some v.ty
  | .fact name => types name
  | .and left right =>
    if infer types left = some .bool ∧ infer types right = some .bool then some .bool else none
  | .le left right =>
    if infer types left = some .number ∧ infer types right = some .number then some .bool else none

/-- There is a fact of each type that is expected. -/
def Provides (facts : Facts α κ) (types : α → Option Ty) : Prop :=
  ∀ name τ, types name = some τ → ∃ v, facts name = some v ∧ v.ty = τ

/-- What is well typed evaluates, to a value of its type. -/
theorem eval_of_infer {types : α → Option Ty} (provides : Provides facts types) {e : Expr α κ}
    {τ : Ty} (h : infer types e = some τ) : ∃ v, eval facts e = .ok v ∧ v.ty = τ := by
  induction e generalizing τ with
  | lit v =>
    cases h
    exact ⟨v, rfl, rfl⟩
  | fact name =>
    obtain ⟨v, known, typed⟩ := provides name τ h
    exact ⟨v, Except.okOr_eq_ok.mpr known, typed⟩
  | and left right ihl ihr =>
    simp only [infer, Option.ite_none_right_eq_some, Option.some.injEq] at h
    obtain ⟨⟨hleft, hright⟩, rfl⟩ := h
    obtain ⟨_, evaluated, typed⟩ := ihl hleft
    obtain ⟨b, rfl⟩ := exists_of_ty_bool typed
    obtain ⟨_, evaluated', typed'⟩ := ihr hright
    obtain ⟨b', rfl⟩ := exists_of_ty_bool typed'
    simp only [eval, evaluated, evaluated']
    cases b with
    | false => exact ⟨_, rfl, rfl⟩
    | true => exact ⟨_, rfl, rfl⟩
  | le left right ihl ihr =>
    simp only [infer, Option.ite_none_right_eq_some, Option.some.injEq] at h
    obtain ⟨⟨hleft, hright⟩, rfl⟩ := h
    obtain ⟨_, evaluated, typed⟩ := ihl hleft
    obtain ⟨m, rfl⟩ := exists_of_ty_number typed
    obtain ⟨_, evaluated', typed'⟩ := ihr hright
    obtain ⟨n, rfl⟩ := exists_of_ty_number typed'
    simp only [eval, evaluated, evaluated']
    exact ⟨_, rfl, rfl⟩

end

/-! ## Sets of policies -/

inductive Effect where
  | permit
  | forbid
  deriving DecidableEq

structure Policy (ρ α κ : Type) where
  effect : Effect
  scope : ρ → Bool
  condition : Expr α κ

section

variable [LE κ] [DecidableLE κ]

/-- What becomes of a policy for a request in its scope. A condition is to be a truth value. -/
def Policy.verdict (policy : Policy ρ α κ) (facts : Facts α κ) : Except EvalError Bool := do
  (← eval facts policy.condition).asBool

def Policy.satisfied (policy : Policy ρ α κ) (facts : Facts α κ) (request : ρ) : Bool :=
  policy.scope request && (policy.verdict facts).toOption.getD false

def allows (policies : List (Policy ρ α κ)) (facts : Facts α κ) (request : ρ) : Bool :=
  policies.any (fun policy => policy.effect = .permit && policy.satisfied facts request) &&
    !policies.any fun policy => policy.effect = .forbid && policy.satisfied facts request

/-- The policies whose conditions cannot be evaluated. -/
def errors (policies : List (Policy ρ α κ)) (facts : Facts α κ) (request : ρ) :
    List (Policy ρ α κ) :=
  policies.filter fun policy => policy.scope request && !(policy.verdict facts).isOk

variable {facts facts' : Facts α κ} {policies : List (Policy ρ α κ)} {request : ρ}

theorem satisfied_iff {policy : Policy ρ α κ} : policy.satisfied facts request = true ↔
    policy.scope request = true ∧ Holds facts policy.condition := by
  simp only [Policy.satisfied, Bool.and_eq_true]
  apply and_congr_right
  intro _
  constructor
  · intro satisfied
    cases verdict : policy.verdict facts with
    | error e =>
      rw [verdict] at satisfied
      cases satisfied
    | ok b =>
      obtain ⟨v, evaluated, isBool⟩ := Except.bind_eq_ok.mp verdict
      cases asBool_eq_ok.mp isBool
      rw [verdict] at satisfied
      exact evaluated.trans (congrArg (Except.ok ∘ Value.bool) satisfied)
  · intro evaluated
    have verdict : policy.verdict facts = .ok true := by
      rw [Policy.verdict, evaluated]
      rfl
    rw [verdict]
    rfl

/-- Without a policy that forbids, a request is allowed that one permits. -/
theorem allows_iff (permits : ∀ policy ∈ policies, policy.effect = .permit) :
    allows policies facts request = true ↔
      ∃ policy ∈ policies, policy.scope request = true ∧ Holds facts policy.condition := by
  have unforbidden : (policies.any fun policy =>
      policy.effect = .forbid && policy.satisfied facts request) = false := by
    rw [List.any_eq_false]
    intro policy mem
    simp [permits policy mem]
  simp only [allows, unforbidden, Bool.not_false, Bool.and_true, List.any_eq_true,
    Bool.and_eq_true, decide_eq_true_eq, satisfied_iff]
  constructor
  · rintro ⟨policy, mem, -, holds⟩
    exact ⟨policy, mem, holds⟩
  · rintro ⟨policy, mem, holds⟩
    exact ⟨policy, mem, permits policy mem, holds⟩

theorem errors_eq_nil {types : α → Option Ty} (provides : Provides facts types)
    (typed : ∀ policy ∈ policies, infer types policy.condition = some .bool) :
    errors policies facts request = [] := by
  rw [errors, List.filter_eq_nil_iff]
  intro policy mem
  obtain ⟨v, evaluated, isBool⟩ := eval_of_infer provides (typed policy mem)
  obtain ⟨b, rfl⟩ := exists_of_ty_bool isBool
  have verdict : policy.verdict facts = .ok b := by
    simp only [Policy.verdict, evaluated]
    rfl
  rw [verdict]
  simp [Except.isOk, Except.toBool]

end

/-! ## Better facts -/

/-- A truth value may become true, and a number smaller. -/
inductive Value.Le [LE κ] : Value κ → Value κ → Prop where
  | bool {b b' : Bool} (h : b = true → b' = true) : Le (.bool b) (.bool b')
  | number {n n' : κ} (h : n' ≤ n) : Le (.number n) (.number n')

def Better [LE κ] (facts facts' : Facts α κ) : Prop :=
  ∀ name v, facts name = some v → ∃ v', facts' name = some v' ∧ v.Le v'

/-- A conjunction of facts and upper limits. -/
inductive Positive : Expr α κ → Prop where
  | fact (name : α) : Positive (.fact name)
  | le (name : α) (limit : κ) : Positive (.le (.fact name) (.lit (.number limit)))
  | and {left right : Expr α κ} : Positive left → Positive right → Positive (.and left right)

theorem Positive.all {e : Expr α κ} {es : List (Expr α κ)} (h : ∀ e' ∈ e :: es, Positive e') :
    Positive (e.all es) := by
  induction es generalizing e with
  | nil => exact h e (.head _)
  | cons e' es ih =>
    show Positive ((Expr.and e e').all es)
    apply ih
    simp only [List.forall_mem_cons] at h ⊢
    exact ⟨.and h.1 h.2.1, h.2.2⟩

section

variable [Preorder κ] [DecidableLE κ] {facts facts' : Facts α κ}

theorem Positive.mono {e : Expr α κ} (h : Positive e) (better : Better facts facts')
    (holds : Holds facts e) : Holds facts' e := by
  induction h with
  | fact name =>
    rw [holds_fact] at holds ⊢
    obtain ⟨_, known, le⟩ := better name _ holds
    cases le with
    | bool implied => rw [known, implied rfl]
  | le name limit =>
    rw [holds_le] at holds ⊢
    obtain ⟨n, known, within⟩ := holds
    obtain ⟨_, known', le⟩ := better name _ known
    cases le with
    | number smaller => exact ⟨_, known', le_trans smaller within⟩
  | and _ _ ihl ihr =>
    rw [holds_and] at holds ⊢
    exact ⟨ihl holds.1, ihr holds.2⟩

theorem allows_mono {policies : List (Policy ρ α κ)} {request request' : ρ}
    (permits : ∀ policy ∈ policies, policy.effect = .permit)
    (positive : ∀ policy ∈ policies, Positive policy.condition)
    (scopes : ∀ policy ∈ policies, policy.scope request' = policy.scope request)
    (better : Better facts facts') (h : allows policies facts request = true) :
    allows policies facts' request' = true := by
  rw [allows_iff permits] at h ⊢
  obtain ⟨policy, mem, scope, holds⟩ := h
  exact ⟨policy, mem, (scopes policy mem).trans scope, (positive policy mem).mono better holds⟩

end

end Policies
