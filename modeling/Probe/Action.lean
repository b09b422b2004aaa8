namespace Probe

/-- A step over a state `σ` that yields an `α` or fails with an `ε`. -/
def Action (σ ε α : Type) : Type := σ → Except ε α × σ

namespace Action

variable {σ τ ε δ α β : Type}

protected def pure (a : α) : Action σ ε α := fun s => (.ok a, s)

protected def bind (x : Action σ ε α) (f : α → Action σ ε β) : Action σ ε β := fun s =>
  match x s with
  | (.ok a, s') => f a s'
  | (.error e, s') => (.error e, s')

instance : Monad (Action σ ε) where
  pure := Action.pure
  bind := Action.bind

def fail (e : ε) : Action σ ε α := fun s => (.error e, s)

/-- Stops with an error unless a condition holds. -/
def require (c : Prop) [Decidable c] (e : ε) : Action σ ε Unit := fun s =>
  (if c then .ok () else .error e, s)

def read (f : σ → α) : Action σ ε α := fun s => (.ok (f s), s)

def modify (f : σ → σ) : Action σ ε Unit := fun s => (.ok (), f s)

/-- Continues with a result that is already known. -/
def ofExcept (r : Except ε α) : Action σ ε α := fun s => (r, s)

/-- Reads a part of the state that may be missing. -/
def demand (f : σ → Option α) (e : ε) : Action σ ε α := fun s =>
  match f s with
  | some a => (.ok a, s)
  | none => (.error e, s)

/-- Turns a failure into an ordinary result. -/
def attempt (x : Action σ ε α) : Action σ δ (Except ε α) := fun s => (.ok (x s).1, (x s).2)

/-- Runs an action on one part of a larger state and renames its errors. -/
def zoom (part : σ → τ) (replace : τ → σ → σ) (rename : ε → δ) (x : Action τ ε α) :
    Action σ δ α :=
  fun s => ((x (part s)).1.mapError rename, replace (x (part s)).2 s)

def mapError (rename : ε → δ) (x : Action σ ε α) : Action σ δ α :=
  fun s => ((x s).1.mapError rename, (x s).2)

@[simp]
theorem pure_apply (a : α) (s : σ) : (pure a : Action σ ε α) s = (.ok a, s) := rfl

@[simp]
theorem bind_apply (x : Action σ ε α) (f : α → Action σ ε β) (s : σ) :
    (x >>= f) s = match x s with
      | (.ok a, s') => f a s'
      | (.error e, s') => (.error e, s') := rfl

end Action

end Probe
