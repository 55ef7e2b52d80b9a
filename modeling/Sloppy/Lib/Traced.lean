import Mathlib.Tactic.Common

/-! # Computations that leave a trace

A computation fails or returns, and leaves the list of what it did. `Spec` is the rule for both: everything done is
safe, and a returned value satisfies a postcondition. `Returns` is its total form.
-/

namespace Sloppy.Lib

structure Traced (A E α : Type) where
  trace : List A
  result : Except E α

namespace Traced

variable {A E α β : Type}

instance : Monad (Traced A E) where
  pure a := ⟨[], .ok a⟩
  bind m f :=
    match m.result with
    | .error e => ⟨m.trace, .error e⟩
    | .ok a => ⟨m.trace ++ (f a).trace, (f a).result⟩

def fail (e : E) : Traced A E α := ⟨[], .error e⟩

def emit (a : A) : Traced A E Unit := ⟨[a], .ok ()⟩

def require (c : Prop) [Decidable c] (e : E) : Traced A E Unit := if c then pure () else fail e

lemma bind_result (m : Traced A E α) (f : α → Traced A E β) :
    (m >>= f).result =
      match m.result with
      | .error e => .error e
      | .ok a => (f a).result := by
  change (match m.result with
    | .error e => (⟨m.trace, .error e⟩ : Traced A E β)
    | .ok a => ⟨m.trace ++ (f a).trace, (f a).result⟩).result = _
  split <;> simp_all

variable {a : A} {f : α → Traced A E β} {m : Traced A E α}

lemma mem_bind_trace (h : a ∈ (m >>= f).trace) : a ∈ m.trace ∨ ∃ x, m.result = .ok x ∧ a ∈ (f x).trace := by
  change a ∈ (match m.result with
    | .error e => (⟨m.trace, .error e⟩ : Traced A E β)
    | .ok a => ⟨m.trace ++ (f a).trace, (f a).result⟩).trace at h
  split at h
  · exact Or.inl h
  rename_i x hResult
  rcases List.mem_append.mp h with hFirst | hSecond
  · exact Or.inl hFirst
  · exact Or.inr ⟨x, hResult, hSecond⟩

/-- Everything the computation does is safe, and what it returns satisfies `Q`. -/
structure Spec (P : A → Prop) (m : Traced A E α) (Q : α → Prop) : Prop where
  safe : ∀ a ∈ m.trace, P a
  post : ∀ x, m.result = .ok x → Q x

variable {P : A → Prop}

variable {Q : α → Prop} {x : α}

lemma Spec.pure (h : Q x) : Spec P (pure x : Traced A E α) Q := by
  constructor
  · intro a ha
    cases ha
  · intro y hy
    cases hy
    exact h

lemma Spec.fail (e : E) : Spec P (fail e : Traced A E α) Q := by
  constructor
  · intro a ha
    cases ha
  · intro y hy
    cases hy

lemma Spec.emit (h : P a) : Spec P (emit a : Traced A E Unit) (fun _ => True) := by
  constructor
  · intro b hb
    rw [List.mem_singleton.mp hb]
    exact h
  · intro _ _
    trivial

lemma Spec.bind {R : β → Prop} (hm : Spec P m Q) (hf : ∀ x, Q x → Spec P (f x) R) : Spec P (m >>= f) R := by
  constructor
  · intro a ha
    rcases mem_bind_trace ha with hFirst | ⟨x, hx, hSecond⟩
    · exact hm.safe a hFirst
    · exact (hf x (hm.post x hx)).safe a hSecond
  · intro y hy
    rw [bind_result] at hy
    split at hy
    · cases hy
    next x hx =>
      exact (hf x (hm.post x hx)).post y hy

lemma Spec.require (c : Prop) [Decidable c] (e : E) :
    Spec P (require c e : Traced A E Unit) (fun _ => c) := by
  unfold Traced.require
  split
  · exact Spec.pure ‹c›
  · exact Spec.fail e

lemma Spec.mono {R : α → Prop} (h : Spec P m Q) (hQR : ∀ x, Q x → R x) : Spec P m R :=
  ⟨h.safe, fun x hx => hQR x (h.post x hx)⟩

/-- The computation is safe and returns `x`. -/
structure Returns (P : A → Prop) (m : Traced A E α) (x : α) : Prop where
  safe : ∀ a ∈ m.trace, P a
  result : m.result = .ok x

lemma Returns.spec (h : Returns P m x) : Spec P m (fun y => y = x) :=
  ⟨h.safe, fun _ hy => Except.ok.inj (hy.symm.trans h.result)⟩

lemma Returns.pure (x : α) : Returns P (pure x : Traced A E α) x :=
  ⟨(Spec.pure (Q := fun _ => True) trivial).safe, rfl⟩

lemma Returns.emit (h : P a) : Returns P (emit a : Traced A E Unit) () :=
  ⟨(Spec.emit h).safe, rfl⟩

lemma Returns.bind {y : β} (hm : Returns P m x) (hf : Returns P (f x) y) : Returns P (m >>= f) y := by
  constructor
  · exact (hm.spec.bind (fun z hz => hz ▸ hf.spec)).safe
  · rw [bind_result, hm.result]
    exact hf.result

lemma Returns.require {c : Prop} [Decidable c] (h : c) (e : E) :
    Returns P (require c e : Traced A E Unit) () := by
  rw [Traced.require, if_pos h]
  exact Returns.pure ()

end Traced

end Sloppy.Lib
