import Mathlib.Tactic.Common

/-!
# Stateful computations that may panic

`Eff ε σ α` reads an environment, updates a state and either returns or panics. A panic keeps the state
reached so far, as an unwinding call stack does: what was done before the panic has been done.
-/

namespace MailBaby.Lib

/-- A computation over environment `ε` and state `σ`; panics carry a text. -/
def Eff (ε σ α : Type) : Type := ε → σ → Except String α × σ

namespace Eff

variable {ε σ α β : Type}

def bind (p : Eff ε σ α) (f : α → Eff ε σ β) : Eff ε σ β := fun env s =>
  match p env s with
  | (.ok a, t) => f a env t
  | (.error v, t) => (.error v, t)

instance : Monad (Eff ε σ) where
  pure a := fun _ s => (.ok a, s)
  bind := bind

def query (f : ε → σ → α) : Eff ε σ α := fun env s => (.ok (f env s), s)

def update (f : σ → σ) : Eff ε σ Unit := fun _ s => (.ok (), f s)

def panic (v : String) : Eff ε σ α := fun _ s => (.error v, s)

/-- A deferred `recover()`: a panic of `p` becomes the value `handler v`. -/
def recover (p : Eff ε σ α) (handler : String → α) : Eff ε σ α := fun env s =>
  match p env s with
  | (.ok a, t) => (.ok a, t)
  | (.error v, t) => (.ok (handler v), t)

/-- A deferred state update, run on return and on panic. -/
def ensure (p : Eff ε σ α) (f : σ → σ) : Eff ε σ α := fun env s =>
  ((p env s).1, f (p env s).2)

variable (env : ε) (s t : σ)

@[simp] lemma pure_apply (a : α) : (Pure.pure a : Eff ε σ α) env s = (.ok a, s) := rfl

lemma bind_apply (p : Eff ε σ α) (f : α → Eff ε σ β) :
    (p >>= f) env s = match p env s with
      | (.ok a, t) => f a env t
      | (.error v, t) => (.error v, t) := rfl

@[simp] lemma query_apply (f : ε → σ → α) : query f env s = (.ok (f env s), s) := rfl

@[simp] lemma update_apply (f : σ → σ) : (update f : Eff ε σ Unit) env s = (.ok (), f s) := rfl

variable {env s t}

lemma bind_of_ok {p : Eff ε σ α} {a : α} (h : p env s = (.ok a, t)) (f : α → Eff ε σ β) :
    (p >>= f) env s = f a env t := by
  rw [bind_apply, h]

lemma bind_of_error {p : Eff ε σ α} {v : String} (h : p env s = (.error v, t))
    (f : α → Eff ε σ β) : (p >>= f) env s = (.error v, t) := by
  rw [bind_apply, h]

lemma bind_assoc {γ : Type} (p : Eff ε σ α) (f : α → Eff ε σ β) (g : β → Eff ε σ γ) :
    p >>= f >>= g = p >>= fun a => f a >>= g := by
  funext env s
  rw [bind_apply, bind_apply, bind_apply]
  rcases p env s with ⟨_ | a, t⟩ <;> rfl

lemma bind_congr (env : ε) (s : σ) (p : Eff ε σ α) {f g : α → Eff ε σ β} (h : ∀ a t, f a env t = g a env t) :
    (p >>= f) env s = (p >>= g) env s := by
  rw [bind_apply, bind_apply]
  rcases p env s with ⟨_ | a, t⟩
  · rfl
  · exact h a t

lemma recover_of_ok {p : Eff ε σ α} {a : α} (h : p env s = (.ok a, t)) (handler : String → α) :
    recover p handler env s = (.ok a, t) := by
  unfold recover
  rw [h]

lemma recover_of_error {p : Eff ε σ α} {v : String} (h : p env s = (.error v, t))
    (handler : String → α) : recover p handler env s = (.ok (handler v), t) := by
  unfold recover
  rw [h]

lemma recover_congr {p q : Eff ε σ α} {env env' : ε} {s t : σ} (h : (p env s).1 = (q env' t).1)
    (handler : String → α) : (recover p handler env s).1 = (recover q handler env' t).1 := by
  unfold recover
  obtain ⟨r, s', hp⟩ : ∃ r s', p env s = (r, s') := ⟨_, _, rfl⟩
  obtain ⟨r', t', hq⟩ : ∃ r' t', q env' t = (r', t') := ⟨_, _, rfl⟩
  rw [hp, hq] at h ⊢
  obtain rfl : r = r' := h
  cases r <;> rfl

lemma ensure_congr {p q : Eff ε σ α} {env env' : ε} {s t : σ} (h : p env s = q env' t) (f : σ → σ) :
    ensure p f env s = ensure q f env' t := by
  unfold ensure
  rw [h]

lemma bind_pure_apply (p : Eff ε σ α) (f : α → β) (env : ε) (s : σ) :
    (p >>= fun a => Pure.pure (f a)) env s = ((p env s).1.map f, (p env s).2) := by
  rw [bind_apply]
  rcases p env s with ⟨_ | _, t⟩ <;> rfl

end Eff

end MailBaby.Lib
