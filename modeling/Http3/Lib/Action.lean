import Mathlib.Logic.Basic

/-! Actions on a state that may fail half-way and leave the state as it is then: what holds
of the state afterwards, whether the action succeeds or not. -/

namespace Http3

abbrev Action (ε σ α : Type) := ExceptT ε (StateM σ) α

namespace Action

variable {ε σ α β : Type} {P Q R : σ → Prop}

def after (m : Action ε σ α) (s : σ) : σ := (m.run.run s).2

/-- From a state with `P` an action leads to one with `Q`, also when it fails. -/
def Ensures (P : σ → Prop) (m : Action ε σ α) (Q : σ → Prop) : Prop :=
  ∀ s, P s → Q (m.after s)

/-- An action that keeps an invariant, also when it fails. -/
abbrev Keeps (P : σ → Prop) (m : Action ε σ α) : Prop := Ensures P m P

theorem ensures_pure (h : ∀ s, P s → Q s) (a : α) : Ensures P (pure a : Action ε σ α) Q :=
  fun s hs => h s hs

theorem keeps_pure (a : α) : Keeps P (pure a : Action ε σ α) := fun _ hs => hs

theorem keeps_throw (e : ε) : Keeps P (throw e : Action ε σ α) := fun _ hs => hs

theorem keeps_get : Keeps P (get : Action ε σ σ) := fun _ hs => hs

theorem ensures_modify {f : σ → σ} (h : ∀ s, P s → Q (f s)) :
    Ensures P (modify f : Action ε σ Unit) Q :=
  fun s hs => h s hs

theorem ensures_modifyGet {f : σ → α × σ} (h : ∀ s, P s → Q (f s).2) :
    Ensures P (modifyGet f : Action ε σ α) Q :=
  fun s hs => h s hs

theorem Ensures.bind {m : Action ε σ α} {f : α → Action ε σ β} (hm : Ensures P m R)
    (hf : ∀ a, Ensures R (f a) Q) (hfail : ∀ s, R s → Q s) : Ensures P (m >>= f) Q := by
  intro s hs
  have hmid : R (m.after s) := hm s hs
  show Q ((m.run.run s >>= fun (r, s') => ExceptT.bindCont f r s').2)
  unfold after at hmid
  rcases hrun : m.run.run s with ⟨r, s'⟩
  rw [hrun] at hmid
  cases r with
  | ok a => exact hf a s' hmid
  | error e => exact hfail s' hmid

theorem Keeps.bind {m : Action ε σ α} {f : α → Action ε σ β} (hm : Keeps P m)
    (hf : ∀ a, Keeps P (f a)) : Keeps P (m >>= f) :=
  Ensures.bind hm hf fun _ h => h

theorem ensures_modifyGet_bind {g : σ → α × σ} {f : α → Action ε σ β}
    (h : ∀ s, P s → Q ((f (g s).1).after (g s).2)) :
    Ensures P (modifyGet g >>= f) Q :=
  fun s hs => h s hs

theorem Keeps.tryCatch {m : Action ε σ α} {f : ε → Action ε σ α} (hm : Keeps P m)
    (hf : ∀ e, Keeps P (f e)) : Keeps P (tryCatch m f) := by
  intro s hs
  have hmid : P (m.after s) := hm s hs
  unfold after at hmid ⊢
  rw [ExceptT.run_tryCatch, StateT.run_bind]
  rcases hrun : m.run.run s with ⟨r, s'⟩
  rw [hrun] at hmid
  cases r with
  | ok a => exact hmid
  | error e => exact hf e s' hmid

theorem Ensures.ite {c : Prop} [Decidable c] {m m' : Action ε σ α} (hm : Ensures P m Q)
    (hm' : Ensures P m' Q) : Ensures P (if c then m else m') Q := by
  split
  · exact hm
  · exact hm'

end Action

end Http3
