import Probe.Proofs.Evaluator.Stages

namespace Probe.Evaluator

abbrev Outcome := Except (Abrupt Failure) Value

/-- A program cut into pieces, between which others may have their turn. -/
inductive Process (η κ : Type) : Type → Type 1 where
  | done {α : Type} (result : α) : Process η κ α
  /-- One piece of work; it leaves the leases alone. -/
  | work {α : Type} (act : World η κ → World η κ) (keeps : ∀ w, (act w).leases = w.leases)
    (next : World η κ → Process η κ α) : Process η κ α
  /-- Evaluates and waits for the outcome; the body is what is done under the lease. -/
  | evaluate {α : Type} (e : Evaluator) (thread : ThreadId) (body : Process η κ Outcome)
    (next : Outcome → Process η κ α) : Process η κ α
  /-- Starts a session and goes on with the number of its job. -/
  | start {α : Type} (e : Evaluator) (thread : ThreadId) (body : Process η κ Outcome)
    (next : Except (Abrupt Failure) Nat → Process η κ α) : Process η κ α
  /-- Waits for the outcome of a session. -/
  | join {α : Type} (session : Nat) (next : Outcome → Process η κ α) : Process η κ α

/-- A process under way: inside an evaluation that has its lease, or in none. -/
inductive Activity (η κ : Type) : Type → Type 1 where
  | outside {α : Type} (p : Process η κ α) : Activity η κ α
  | inside {α : Type} (e : Evaluator) (thread : ThreadId) (inner : Activity η κ Outcome)
    (next : Outcome → Process η κ α) : Activity η κ α

/-- How far the job of a session has come. -/
inductive Stage (η κ : Type) : Type 1 where
  | running (body : Activity η κ Outcome)
  /-- The outcome is sent, the lease not yet given back. -/
  | sent (outcome : Outcome)
  | over (outcome : Outcome)

inductive Worker (η κ : Type) : Type 1 where
  | client (a : Activity η κ Unit)
  | job (e : Evaluator) (thread : ThreadId) (stage : Stage η κ)

/-- What a worker sees of the others: the world, and the outcomes that jobs have sent. -/
structure View (η κ : Type) where
  world : World η κ
  /-- One place for each worker. -/
  outcomes : List (Option Outcome)

structure Turn (η κ : Type) (α : Type 1) where
  next : α
  world : World η κ
  /-- The job of a session that was started. -/
  jobs : List (Worker η κ) := []

structure System (η κ : Type) : Type 1 where
  world : World η κ
  workers : List (Worker η κ)

variable {η κ α β : Type}

def Turn.map {α β : Type 1} (f : α → β) (t : Turn η κ α) : Turn η κ β :=
  { t with next := f t.next }

namespace Activity

def result? : Activity η κ α → Option α
  | .outside (.done result) => some result
  | _ => none

/-- The turn of an activity, which has none when it is done or waits for a session. -/
def turn? : {α : Type} → Activity η κ α → View η κ → Option (Turn η κ (Activity η κ α))
  | _, .outside (.done _), _ => none
  | _, .outside (.work act _ next), view =>
    some { next := .outside (next view.world), world := act view.world }
  | _, .outside (.evaluate e thread body next), view =>
    match e.acquire thread view.world with
    | (.ok (), world) => some { next := .inside e thread (.outside body) next, world }
    | (.error stop, world) => some { next := .outside (next (.error stop)), world }
  | _, .outside (.start e thread body next), view =>
    match e.acquire thread view.world with
    | (.ok (), world) =>
      some
        { next := .outside (next (.ok view.outcomes.length)), world
          jobs := [.job e thread (.running (.outside body))] }
    | (.error stop, world) => some { next := .outside (next (.error stop)), world }
  | _, .outside (.join session next), view =>
    match view.outcomes[session]? with
    | some (some outcome) => some { next := .outside (next outcome), world := view.world }
    | _ => none
  | _, .inside e thread inner next, view =>
    match inner.result? with
    | some outcome =>
      some { next := .outside (next outcome), world := (e.release thread view.world).2 }
    | none => (inner.turn? view).map (·.map (.inside e thread · next))

/-- The leases of the evaluations that the activity is inside of. -/
def held : {α : Type} → Activity η κ α → List Lease
  | _, .outside _ => []
  | _, .inside e thread inner _ => ⟨e.id, thread⟩ :: inner.held

/-- The evaluation that the next turn asks for. -/
def call? : {α : Type} → Activity η κ α → Option (Evaluator × ThreadId)
  | _, .outside (.evaluate e thread _ _) => some (e, thread)
  | _, .outside (.start e thread _ _) => some (e, thread)
  | _, .outside _ => none
  | _, .inside _ _ inner _ => inner.call?

/-- Goes on after the evaluation asked for is refused. -/
def refused : {α : Type} → Activity η κ α → Activity η κ α
  | _, .outside (.evaluate _ thread _ next) =>
    .outside (next (.error (.error (.threadBusy thread))))
  | _, .outside (.start _ thread _ next) => .outside (next (.error (.error (.threadBusy thread))))
  | _, .outside p => .outside p
  | _, .inside e thread inner next => .inside e thread inner.refused next

/-- The lease that the next turn gives back: the body of the innermost evaluation is done. -/
def ending? : {α : Type} → Activity η κ α → Option Lease
  | _, .outside _ => none
  | _, .inside e thread inner _ =>
    match inner.result? with
    | some _ => some ⟨e.id, thread⟩
    | none => inner.ending?

end Activity

namespace Worker

/-- The outcome that a job has sent. -/
def outcome? : Worker η κ → Option Outcome
  | .job _ _ (.sent outcome) => some outcome
  | .job _ _ (.over outcome) => some outcome
  | _ => none

/-- The turn of a worker. A job runs its body, sends the outcome and gives the lease back. -/
def turn? : Worker η κ → View η κ → Option (Turn η κ (Worker η κ))
  | .client a, view => (a.turn? view).map (·.map .client)
  | .job e thread (.running body), view =>
    match body.result? with
    | some outcome =>
      some
        { next := .job e thread (.sent (Manner.inSession.report outcome))
          world := view.world }
    | none => (body.turn? view).map (·.map (.job e thread <| .running ·))
  | .job e thread (.sent outcome), view =>
    some { next := .job e thread (.over outcome), world := (e.release thread view.world).2 }
  | .job _ _ (.over _), _ => none

def held : Worker η κ → List Lease
  | .client a => a.held
  | .job e thread (.running body) => ⟨e.id, thread⟩ :: body.held
  | .job e thread (.sent _) => [⟨e.id, thread⟩]
  | .job _ _ (.over _) => []

def call? : Worker η κ → Option (Evaluator × ThreadId)
  | .client a => a.call?
  | .job _ _ (.running body) => body.call?
  | .job _ _ _ => none

def refused : Worker η κ → Worker η κ
  | .client a => .client a.refused
  | .job e thread (.running body) => .job e thread (.running body.refused)
  | worker => worker

def ending? : Worker η κ → Option Lease
  | .client a => a.ending?
  | .job _ _ (.running body) => body.ending?
  | .job e thread (.sent _) => some ⟨e.id, thread⟩
  | .job _ _ (.over _) => none

end Worker

namespace System

/-- Clients in a world where nothing is evaluated yet. -/
def initial (w : World η κ) (clients : List (Process η κ Unit)) : System η κ where
  world := { w with leases := [] }
  workers := clients.map fun p => .client (.outside p)

def view (sys : System η κ) : View η κ := ⟨sys.world, sys.workers.map Worker.outcome?⟩

def step (sys : System η κ) (i : Nat) : System η κ :=
  match sys.workers[i]? with
  | none => sys
  | some worker =>
    match worker.turn? sys.view with
    | none => sys
    | some t => ⟨t.world, sys.workers.set i t.next ++ t.jobs⟩

def run (sys : System η κ) (schedule : List Nat) : System η κ := schedule.foldl step sys

/-- The leases of all evaluations under way. -/
def held (sys : System η κ) : List Lease := sys.workers.flatMap Worker.held

end System

end Probe.Evaluator
