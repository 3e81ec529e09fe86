import Mathlib.Tactic.Common

/-! # Durable storage

Storage of values that is appended to and loaded, and may fail in either. `Honours` is the contract
of durable storage: a value whose append succeeded is in the result of every load from then on
(`Durable`), whatever is called in between (`Later`). -/

namespace Storage

variable {σ ν ε : Type}

structure Ops (σ ν ε : Type) where
  load : σ → Except ε (List ν) × σ
  append : ν → σ → Except ε Unit × σ

variable (ops : Ops σ ν ε)

/-- The second state is reached from the first by calls of the storage. -/
inductive Later : σ → σ → Prop where
  | refl (s) : Later s s
  | load {s t} : Later s t → Later s (ops.load t).2
  | append {s t} (v) : Later s t → Later s (ops.append v t).2

/-- Every load from now on has the value. -/
def Durable (s : σ) (v : ν) : Prop :=
  ∀ t, Later ops s t → ∀ vs, (ops.load t).1 = .ok vs → v ∈ vs

/-- From now on, what is appended successfully is durable. -/
def Honours (s : σ) : Prop :=
  ∀ t, Later ops s t → ∀ v, (ops.append v t).1 = .ok () → Durable ops (ops.append v t).2 v

variable {ops} {s t u : σ}

theorem Later.trans (H : Later ops s t) (h : Later ops t u) : Later ops s u := by
  induction h with
  | refl => exact H
  | load _ ih => exact ih.load
  | append v _ ih => exact ih.append v

theorem Durable.later {v : ν} (H : Durable ops s v) (h : Later ops s t) : Durable ops t v :=
  fun u hu => H u (h.trans hu)

theorem Honours.later (H : Honours ops s) (h : Later ops s t) : Honours ops t :=
  fun u hu => H u (h.trans hu)

theorem Honours.durable (H : Honours ops s) {v : ν} (h : (ops.append v s).1 = .ok ()) :
    Durable ops (ops.append v s).2 v :=
  H s (.refl s) v h

/-- The contract from a state invariant of the storage: it is kept by every call, and an append
that succeeds makes the value permanent, which every call keeps and every load shows. -/
theorem honours_of_invariant (I : σ → Prop) (P : ν → σ → Prop) (hs : I s)
    (load : ∀ t, I t → I (ops.load t).2) (append : ∀ t v, I t → I (ops.append v t).2)
    (recorded : ∀ t v, I t → (ops.append v t).1 = .ok () → P v (ops.append v t).2)
    (keptLoad : ∀ t v, P v t → P v (ops.load t).2)
    (keptAppend : ∀ t v w, P v t → P v (ops.append w t).2)
    (shown : ∀ t v vs, P v t → (ops.load t).1 = .ok vs → v ∈ vs) : Honours ops s := by
  have hI {t} (h : Later ops s t) : I t := by
    induction h with
    | refl => exact hs
    | load _ ih => exact load _ ih
    | append v _ ih => exact append _ v ih
  intro t ht v hok u hu
  have hP : P v u := by
    induction hu with
    | refl => exact recorded t v (hI ht) hok
    | load _ ih => exact keptLoad _ v ih
    | append w _ ih => exact keptAppend _ v w ih
  exact fun vs => shown u v vs hP

end Storage
