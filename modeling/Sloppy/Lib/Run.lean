import Mathlib.Data.List.Basic
import Mathlib.Tactic.Common

/-! # Runs of a step function

A component is a step function on a state. A run keeps the events, newest first, so that "since" is the front of a
list. The invariant rule below is the only induction over runs the developments need.
-/

namespace Sloppy.Lib.Run

open List

universe u v w

variable {S : Type u} {O : Type v} {E : Type w}

/-- The state reached from `start` by the operations in order, with the events newest first. -/
def runFrom (step : S → O → S × E) : S × List (O × E) → List O → S × List (O × E)
  | start, [] => start
  | (s, events), op :: ops => runFrom step ((step s op).1, (op, (step s op).2) :: events) ops

def run (step : S → O → S × E) (s : S) (ops : List O) : S × List (O × E) :=
  runFrom step (s, []) ops

@[simp] lemma runFrom_nil (step : S → O → S × E) (start : S × List (O × E)) : runFrom step start [] = start := by
  rfl

lemma runFrom_invariant (step : S → O → S × E) (P : S → List (O × E) → Prop)
    (hStep : ∀ s events op, P s events → P (step s op).1 ((op, (step s op).2) :: events))
    (start : S × List (O × E)) (hStart : P start.1 start.2) (ops : List O) :
    P (runFrom step start ops).1 (runFrom step start ops).2 := by
  induction ops generalizing start with
  | nil => simpa using hStart
  | cons op ops ih =>
    obtain ⟨s, events⟩ := start
    exact ih _ (hStep s events op hStart)

lemma run_invariant (step : S → O → S × E) (P : S → List (O × E) → Prop)
    (hStep : ∀ s events op, P s events → P (step s op).1 ((op, (step s op).2) :: events))
    (s : S) (hStart : P s []) (ops : List O) : P (run step s ops).1 (run step s ops).2 :=
  runFrom_invariant step P hStep (s, []) hStart ops

variable {step : S → O → S × E} {P : S → List (O × E) → Prop} {R : O → O → Prop} {ok : O → Prop} {ops : List O}

lemma runFrom_pairwise (hStep : ∀ s events op, P s events → ok op → (∀ event ∈ events, R event.1 op) →
      P (step s op).1 ((op, (step s op).2) :: events)) (start : S × List (O × E)) (hStart : P start.1 start.2)
    (hOps : ops.Pairwise R) (hOk : ∀ op ∈ ops, ok op) (hAfter : ∀ event ∈ start.2, ∀ op ∈ ops, R event.1 op) :
    P (runFrom step start ops).1 (runFrom step start ops).2 := by
  induction ops generalizing start with
  | nil => simpa using hStart
  | cons op ops ih =>
    obtain ⟨s, events⟩ := start
    rw [pairwise_cons] at hOps
    rw [forall_mem_cons] at hOk
    have hPast : ∀ event ∈ events, R event.1 op := fun event hEvent => hAfter event hEvent op mem_cons_self
    refine ih _ (hStep s events op hStart hOk.1 hPast) hOps.2 hOk.2 ?_
    intro event hEvent later hLater
    rcases mem_cons.mp hEvent with rfl | hOld
    · exact hOps.1 later hLater
    · exact hAfter event hOld later (mem_cons_of_mem _ hLater)

lemma run_pairwise (hStep : ∀ s events op, P s events → ok op → (∀ event ∈ events, R event.1 op) →
      P (step s op).1 ((op, (step s op).2) :: events)) {s : S} (hStart : P s []) (hOps : ops.Pairwise R)
    (hOk : ∀ op ∈ ops, ok op) : P (run step s ops).1 (run step s ops).2 :=
  runFrom_pairwise hStep (s, []) hStart hOps hOk fun _ hEvent => absurd hEvent not_mem_nil

/-- Every operation of the run meets the condition in the state it starts from. -/
def Admits (ok : S → O → Prop) (step : S → O → S) : S → List O → Prop
  | _, [] => True
  | s, op :: ops => ok s op ∧ Admits ok step (step s op) ops

instance Admits.decidable {ok : S → O → Prop} [∀ s op, Decidable (ok s op)] {step : S → O → S} :
    (s : S) → (ops : List O) → Decidable (Admits ok step s ops)
  | _, [] => .isTrue trivial
  | s, op :: ops =>
    have : Decidable (Admits ok step (step s op) ops) := Admits.decidable (step s op) ops
    inferInstanceAs (Decidable (_ ∧ _))

lemma foldl_invariant {ok : S → O → Prop} {step : S → O → S} {P : S → Prop}
    (hStep : ∀ s op, P s → ok s op → P (step s op)) {s : S} (hStart : P s) {ops : List O}
    (hOps : Admits ok step s ops) : P (ops.foldl step s) := by
  induction ops generalizing s with
  | nil => exact hStart
  | cons op ops ih => exact ih (hStep s op hStart hOps.1) hOps.2

end Sloppy.Lib.Run
