import Mathlib.Tactic.Common

/-!
# Computations that may fail half-way

`EStateM` keeps the state that a computation has reached when it fails. `Leaves` says what holds in the state
that a run leaves, for a run that returns and for one that fails.
-/

namespace MailBaby.Lib

variable {ε σ α β : Type}

def Leaves (r : EStateM.Result ε σ α) (Q : α → σ → Prop) (E : σ → Prop) : Prop :=
  match r with
  | .ok a s => Q a s
  | .error _ s => E s

lemma get_bind_apply (f : σ → EStateM ε σ α) (s : σ) : (get >>= f) s = f s s := rfl

namespace Leaves

variable {r : EStateM.Result ε σ α} {p : EStateM ε σ α} {f : α → EStateM ε σ β} {s : σ}
  {Q Q' : α → σ → Prop} {R : β → σ → Prop} {E E' : σ → Prop}

lemma bind (hp : Leaves (p s) Q E) (hf : ∀ a t, Q a t → Leaves (f a t) R E) : Leaves ((p >>= f) s) R E := by
  have hbind : (p >>= f) s = match p s with
      | .ok a t => f a t
      | .error e t => .error e t := rfl
  rw [hbind]
  cases hr : p s with
  | ok a t =>
    rw [hr] at hp
    exact hf a t hp
  | error e t =>
    rw [hr] at hp
    exact hp

lemma imp (h : Leaves r Q E) (hQ : ∀ a s, Q a s → Q' a s) (hE : ∀ s, E s → E' s) : Leaves r Q' E' := by
  cases r with
  | ok a s => exact hQ a s h
  | error e s => exact hE s h

lemma of_ok {a : α} (h : Leaves r Q E) (hr : r = .ok a s) : Q a s := by
  rw [hr] at h
  exact h

end Leaves

def finalState : EStateM.Result ε σ α → σ
  | .ok _ s => s
  | .error _ s => s

lemma Leaves.finalState {r : EStateM.Result ε σ α} {I : σ → Prop} (h : Leaves r (fun _ => I) I) :
    I (finalState r) := by
  cases r with
  | ok a s => exact h
  | error e s => exact h

end MailBaby.Lib
