import Mathlib.Tactic.SplitIfs

/-!
# Computations that throw

A computation reads and changes a state, and either returns a value or throws.  What it has done
to the state by then stays done, so a handler finds the state the exception left.

* `Triple`: what holds before, after a return, and after an exception.
* `Triple.bind`, `Triple.tryCatch`: a computation is as good as its parts.
* `Keeps`: a predicate on the state that survives a return and an exception alike.
-/

/-- A computation on a state that may throw. -/
abbrev Effect (σ ε : Type) : Type → Type := ExceptT ε (StateM σ)

namespace Effect

variable {σ ε α β : Type}

/-- How a computation ends, and the state it leaves. -/
def outcome (x : Effect σ ε α) (s : σ) : Except ε α × σ := (ExceptT.run x).run s

/-- A value that may not be there. -/
def lift (r : Except ε α) : Effect σ ε α :=
  match r with
  | .ok a => pure a
  | .error e => throw e

/-- What holds after a return and after an exception. -/
def After (Q : α → σ → Prop) (E : ε → σ → Prop) : Except ε α × σ → Prop
  | (.ok a, s) => Q a s
  | (.error e, s) => E e s

/-- From every state with `P`, a return leaves `Q` and an exception `E`. -/
def Triple (P : σ → Prop) (x : Effect σ ε α) (Q : α → σ → Prop) (E : ε → σ → Prop) : Prop :=
  ∀ s, P s → After Q E (x.outcome s)

variable {P P' : σ → Prop} {x : Effect σ ε α} {f : α → Effect σ ε β} {h : ε → Effect σ ε α}
  {Q Q' : α → σ → Prop} {R : β → σ → Prop} {E E' : ε → σ → Prop}

/-! ## Outcomes -/

theorem outcome_bind (x : Effect σ ε α) (f : α → Effect σ ε β) (s : σ) :
    (x >>= f).outcome s =
      match x.outcome s with
      | (.ok a, s') => (f a).outcome s'
      | (.error e, s') => (.error e, s') := by
  unfold outcome
  rw [ExceptT.run_bind]
  show (match (ExceptT.run x) s with
    | (r, t) => (match r with
      | .ok a => ExceptT.run (f a)
      | .error e => Pure.pure (.error e) : StateM σ (Except ε β)) t) = _
  cases hx : (ExceptT.run x) s with
  | mk r t =>
    show _ = match (ExceptT.run x) s with
      | (.ok a, s') => (ExceptT.run (f a)).run s'
      | (.error e, s') => (.error e, s')
    rw [hx]
    cases r <;> rfl

/-- What the state is, is known. -/
theorem outcome_get_bind (f : σ → Effect σ ε β) (s : σ) :
    ((MonadState.get : Effect σ ε σ) >>= f).outcome s = (f s).outcome s := rfl

theorem outcome_tryCatch (x : Effect σ ε α) (h : ε → Effect σ ε α) (s : σ) :
    (tryCatch x h).outcome s =
      match x.outcome s with
      | (.ok a, s') => (Except.ok a, s')
      | (.error e, s') => (h e).outcome s' := by
  unfold outcome
  show (match (ExceptT.run x) s with
    | (r, t) => (match r with
      | .ok a => Pure.pure (.ok a)
      | .error e => ExceptT.run (h e) : StateM σ (Except ε α)) t) = _
  cases hx : (ExceptT.run x) s with
  | mk r t =>
    show _ = match (ExceptT.run x) s with
      | (.ok a, s') => (Except.ok a, s')
      | (.error e, s') => (ExceptT.run (h e)).run s'
    rw [hx]
    cases r <;> rfl

/-! ## Rules -/

theorem Triple.pure {a : α} (hQ : ∀ s, P s → Q a s) : Triple P (pure a : Effect σ ε α) Q E :=
  hQ

theorem Triple.throw {e : ε} (hE : ∀ s, P s → E e s) : Triple P (throw e : Effect σ ε α) Q E :=
  hE

theorem Triple.get {Q : σ → σ → Prop} (hQ : ∀ s, P s → Q s s) :
    Triple P (get : Effect σ ε σ) Q E :=
  hQ

theorem Triple.set {Q : PUnit → σ → Prop} {t : σ} (hQ : ∀ s, P s → Q ⟨⟩ t) :
    Triple P (set t : Effect σ ε PUnit) Q E :=
  hQ

theorem Triple.modify {Q : PUnit → σ → Prop} {g : σ → σ} (hQ : ∀ s, P s → Q ⟨⟩ (g s)) :
    Triple P (modify g : Effect σ ε PUnit) Q E :=
  hQ

theorem Triple.lift {r : Except ε α} (hQ : ∀ a s, r = .ok a → P s → Q a s)
    (hE : ∀ e s, r = .error e → P s → E e s) : Triple P (lift r : Effect σ ε α) Q E := by
  cases r with
  | ok a => exact fun s hs => hQ a s rfl hs
  | error e => exact fun s hs => hE e s rfl hs

/-- One computation after another. -/
theorem Triple.bind (hx : Triple P x Q E) (hf : ∀ a, Triple (Q a) (f a) R E) :
    Triple P (x >>= f) R E := by
  intro s hs
  have hx := hx s hs
  rw [outcome_bind]
  split
  · rename_i a t heq
    rw [heq] at hx
    exact hf a t hx
  · rename_i e t heq
    rw [heq] at hx
    exact hx

/-- An exception is handled where it left the state. -/
theorem Triple.tryCatch (hx : Triple P x Q E) (hh : ∀ e, Triple (E e) (h e) Q E') :
    Triple P (tryCatch x h) Q E' := by
  intro s hs
  have hx := hx s hs
  rw [outcome_tryCatch]
  split
  · rename_i a t heq
    rw [heq] at hx
    exact hx
  · rename_i e t heq
    rw [heq] at hx
    exact hh e t hx

/-- Less may be asked for, and more known. -/
theorem Triple.conseq (hx : Triple P x Q E) (hP : ∀ s, P' s → P s)
    (hQ : ∀ a s, Q a s → Q' a s) (hE : ∀ e s, E e s → E' e s) : Triple P' x Q' E' := by
  intro s hs
  have hx := hx s (hP s hs)
  cases hr : x.outcome s with
  | mk r t =>
    rw [hr] at hx
    cases r with
    | ok a => exact hQ a t hx
    | error e => exact hE e t hx

/-- Each state to start from by itself. -/
theorem Triple.each (hx : ∀ s₀, P s₀ → Triple (fun s => s = s₀) x Q E) : Triple P x Q E :=
  fun s hs => hx s hs s rfl

/-- Two things known of one computation. -/
theorem Triple.and (hx : Triple P x Q E) (hx' : Triple P' x Q' E') :
    Triple (fun s => P s ∧ P' s) x (fun a s => Q a s ∧ Q' a s) (fun e s => E e s ∧ E' e s) := by
  intro s hs
  have hx := hx s hs.1
  have hx' := hx' s hs.2
  cases hr : x.outcome s with
  | mk r t =>
    rw [hr] at hx hx'
    cases r with
    | ok a => exact ⟨hx, hx'⟩
    | error e => exact ⟨hx, hx'⟩

/-- A fact that does not depend on the state. -/
theorem Triple.of_fact {φ : Prop} (hx : φ → Triple P x Q E) :
    Triple (fun s => φ ∧ P s) x Q E := fun s hs => hx hs.1 s hs.2

/-- What is read first may be used in the rest. -/
theorem Triple.get_bind {f : σ → Effect σ ε β}
    (hf : ∀ s₀, P s₀ → Triple (fun s => s = s₀) (f s₀) R E) :
    Triple P ((MonadState.get : Effect σ ε σ) >>= f) R E := fun s hs => hf s hs s rfl

/-- A test on what does not depend on the state. -/
theorem Triple.ite {c : Prop} [Decidable c] {y : Effect σ ε α} (hx : c → Triple P x Q E)
    (hy : ¬c → Triple P y Q E) : Triple P (if c then x else y) Q E := by
  split_ifs with hc
  · exact hx hc
  · exact hy hc

/-- What the state is in the end, however the computation ends. -/
theorem Triple.state {F : σ → Prop} (hx : Triple P x (fun _ => F) (fun _ => F)) {s : σ}
    (hs : P s) : F (x.outcome s).2 := by
  have hx := hx s hs
  cases hr : x.outcome s with
  | mk r t =>
    rw [hr] at hx
    cases r with
    | ok a => exact hx
    | error e => exact hx

/-! ## What survives -/

/-- The predicate survives, however the computation ends. -/
def Keeps (P : σ → Prop) (x : Effect σ ε α) : Prop := Triple P x (fun _ => P) (fun _ => P)

theorem Keeps.state (hx : Keeps P x) {s : σ} (hs : P s) : P (x.outcome s).2 := Triple.state hx hs

theorem Keeps.of_state (hx : ∀ s, P s → P (x.outcome s).2) : Keeps P x := by
  intro s hs
  have hx := hx s hs
  cases hr : x.outcome s with
  | mk r t =>
    rw [hr] at hx
    cases r with
    | ok a => exact hx
    | error e => exact hx

theorem Keeps.bind (hx : Keeps P x) (hf : ∀ a, Keeps P (f a)) : Keeps P (x >>= f) :=
  Triple.bind hx hf

theorem Keeps.tryCatch (hx : Keeps P x) (hh : ∀ e, Keeps P (h e)) : Keeps P (tryCatch x h) :=
  Triple.tryCatch hx hh

theorem Keeps.pure {a : α} : Keeps P (pure a : Effect σ ε α) := fun _ hs => hs

theorem Keeps.throw {e : ε} : Keeps P (throw e : Effect σ ε α) := fun _ hs => hs

theorem Keeps.lift {r : Except ε α} : Keeps P (lift r : Effect σ ε α) :=
  Triple.lift (fun _ _ _ hs => hs) (fun _ _ _ hs => hs)

theorem Keeps.modify {g : σ → σ} (hg : ∀ s, P s → P (g s)) :
    Keeps P (modify g : Effect σ ε PUnit) := hg

theorem Keeps.get : Keeps P (MonadState.get : Effect σ ε σ) := fun _ hs => hs

theorem Keeps.ite {c : Prop} [Decidable c] {y : Effect σ ε α} (hx : Keeps P x) (hy : Keeps P y) :
    Keeps P (if c then x else y) := Triple.ite (fun _ => hx) (fun _ => hy)

/-- What is read first may be used in the rest, where the predicate still holds. -/
theorem Keeps.get_bind {f : σ → Effect σ ε β} (hf : ∀ s₀, P s₀ → Keeps P (f s₀)) :
    Keeps P ((MonadState.get : Effect σ ε σ) >>= f) := fun s hs => hf s hs s hs

end Effect
