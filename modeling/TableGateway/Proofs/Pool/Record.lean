import Mathlib.Logic.Relation
import TableGateway.Proofs.Pool.Accounting

/-!
# The record of a run

A run of a pool leaves a record: who arrived, who was given a permit and who gave up, which
connections were opened, became idle, were used again, were closed or were let go. `Pool.news` says
what a piece of work adds to it, read off what the pool tells the errand and where the errand stood.

## Conventions

A run is any number of pieces of work on one pool, in any order. Every get is an errand of its own,
so a ticket that has asked does not ask again. What else is known of the pieces, such as where the
connections come from that they bring, is said by `brings`.

## Main results

* `Pool.Runs.accounted`: over a run, the books of the pool stay right.
-/

namespace TableGateway

variable {β : Type}

namespace Pool

/-! ### Events -/

/-- What is recorded of a pool. -/
inductive Event (β : Type) where
  /-- A new errand asks for a connection while the pool is open. -/
  | arrived (t : Ticket)
  /-- An errand is given a permit. -/
  | admitted (t : Ticket)
  /-- An errand is lost while it waits without a permit. -/
  | withdrew (t : Ticket)
  /-- An errand takes an idle connection. -/
  | reused (t : Ticket) (c : Parked β)
  /-- An errand has a new connection. -/
  | opened (t : Ticket) (backend : β)
  /-- A connection that came back becomes idle. -/
  | parked (c : Parked β)
  /-- The pool has closed a connection. -/
  | closed (backend : β)
  /-- A connection is dropped without a close that ends. -/
  | lost (backend : β)

/-- A permit that comes back is given to whoever waits longest. -/
def admission (next : Option Ticket) : List (Event β) := next.toList.map .admitted

/-- The idle connection that an errand takes, if there is one. -/
def reuse (p : Pool β) (t : Ticket) : List (Event β) := p.idle.head?.toList.map (.reused t)

/-- What a piece of work adds to the record. -/
def news (p : Pool β) : Piece β → List (Event β)
  | .ask t =>
    match (p.ask t).2 with
    | .refused => []
    | .waits => [.arrived t]
    | .connected | .opens => [.arrived t, .admitted t] ++ p.reuse t
  | .resume t =>
    match (p.resume t).2 with
    | (.connected, _) => p.reuse t
    | (_, next) => admission next
  | .opened t backend _ =>
    match p.stage? t with
    | some .opening => [.opened t backend]
    | _ => []
  | .openFailed t => admission (p.openFailed t).2
  | .resetDone t backend succeeded =>
    match p.stage? t with
    | some (.resetting c) =>
      if succeeded && !p.closed then
        .parked ⟨backend, c.created⟩ :: admission (p.resetDone t backend succeeded).2
      else []
    | _ => []
  | .closeDone t =>
    match p.stage? t with
    | some (.closing c) => .closed c.backend :: admission (p.closeDone t).2
    | _ => []
  | .discard t =>
    match p.stage? t with
    | some (.out c) => .lost c.backend :: admission (p.discard t).2
    | _ => []
  | .drained t =>
    match p.stage? t with
    | some (.draining c _) => [.closed c.backend]
    | _ => []
  | .cancel t =>
    match p.stage? t with
    | some .queued => [.withdrew t]
    | some (.dropped c) | some (.resetting c) | some (.closing c) =>
      .lost c.backend :: admission (p.cancel t).2
    | some (.draining c rest) => (c :: rest).map fun d => .lost d.backend
    | _ => admission (p.cancel t).2
  | .setBackend _ _ | .condemn _ | .startReturn _ _ _ | .drop _ | .close _ => []

/-! ### Reading the record -/

namespace Event

/-- The errand that arrives. -/
def arrival? : Event β → Option Ticket
  | arrived t => some t
  | _ => none

/-- The errand that is given a permit. -/
def admission? : Event β → Option Ticket
  | admitted t => some t
  | _ => none

/-- The errand that gives up waiting. -/
def withdrawal? : Event β → Option Ticket
  | withdrew t => some t
  | _ => none

/-- The connection that is used again. -/
def reuse? : Event β → Option (Parked β)
  | reused _ c => some c
  | _ => none

/-- The connection that becomes idle. -/
def parking? : Event β → Option (Parked β)
  | parked c => some c
  | _ => none

/-- The connection that is new. -/
def opening? : Event β → Option β
  | opened _ backend => some backend
  | _ => none

/-- The connection that has been closed. -/
def closing? : Event β → Option β
  | closed backend => some backend
  | _ => none

/-- The connection that is dropped. -/
def loss? : Event β → Option β
  | lost backend => some backend
  | _ => none

end Event

variable (log : List (Event β))

/-- The errands that arrived, in order. -/
def arrivals : List Ticket := log.filterMap Event.arrival?

/-- The errands that were given a permit, in order. -/
def admissions : List Ticket := log.filterMap Event.admission?

/-- The errands that gave up waiting. -/
def withdrawals : List Ticket := log.filterMap Event.withdrawal?

/-- The connections that were used again, in order. -/
def reuses : List (Parked β) := log.filterMap Event.reuse?

/-- The connections that became idle, in order. -/
def parkings : List (Parked β) := log.filterMap Event.parking?

/-- The connections that were opened. -/
def openings : List β := log.filterMap Event.opening?

/-- The connections that the pool has closed. -/
def closings : List β := log.filterMap Event.closing?

/-- The connections that were dropped. -/
def losses : List β := log.filterMap Event.loss?

@[simp] theorem arrivals_append (log log' : List (Event β)) :
    arrivals (log ++ log') = arrivals log ++ arrivals log' := List.filterMap_append

@[simp] theorem admissions_append (log log' : List (Event β)) :
    admissions (log ++ log') = admissions log ++ admissions log' := List.filterMap_append

@[simp] theorem withdrawals_append (log log' : List (Event β)) :
    withdrawals (log ++ log') = withdrawals log ++ withdrawals log' := List.filterMap_append

@[simp] theorem reuses_append (log log' : List (Event β)) :
    reuses (log ++ log') = reuses log ++ reuses log' := List.filterMap_append

@[simp] theorem parkings_append (log log' : List (Event β)) :
    parkings (log ++ log') = parkings log ++ parkings log' := List.filterMap_append

@[simp] theorem openings_append (log log' : List (Event β)) :
    openings (log ++ log') = openings log ++ openings log' := List.filterMap_append

@[simp] theorem closings_append (log log' : List (Event β)) :
    closings (log ++ log') = closings log ++ closings log' := List.filterMap_append

@[simp] theorem losses_append (log log' : List (Event β)) :
    losses (log ++ log') = losses log ++ losses log' := List.filterMap_append

/-- What a permit brings that comes back is no news but an admission. -/
theorem reads_admission (next : Option Ticket) :
    arrivals (admission next : List (Event β)) = [] ∧
      admissions (admission next : List (Event β)) = next.toList ∧
      withdrawals (admission next : List (Event β)) = [] ∧
      reuses (admission next : List (Event β)) = [] ∧
      parkings (admission next : List (Event β)) = [] ∧
      openings (admission next : List (Event β)) = [] ∧
      closings (admission next : List (Event β)) = [] ∧
      losses (admission next : List (Event β)) = [] := by
  cases next <;> exact ⟨rfl, rfl, rfl, rfl, rfl, rfl, rfl, rfl⟩

/-- Only the end of an open brings a new connection. -/
theorem news_opened {p : Pool β} {e : Piece β} {u : Ticket} {b : β} (h : .opened u b ∈ p.news e) :
    ∃ now, e = .opened u b now := by
  have hback : ∀ {next : Option Ticket}, .opened u b ∉ (admission next : List (Event β)) := by
    intro next
    cases next <;> simp [admission]
  have hreuse : ∀ t, .opened u b ∉ p.reuse t := by simp [reuse]
  cases e with
  | opened t backend now =>
      simp only [news] at h
      split at h
      · obtain ⟨rfl, rfl⟩ : u = t ∧ b = backend := by simpa using h
        exact ⟨now, rfl⟩
      · exact absurd h List.not_mem_nil
  | ask | resume | closeDone | discard | drained | cancel =>
      simp only [news] at h
      split at h <;> simp [hback, hreuse] at h
  | resetDone =>
      simp only [news] at h
      split at h
      · split_ifs at h <;> simp [hback] at h
      · exact absurd h List.not_mem_nil
  | openFailed => exact absurd h hback
  | setBackend | condemn | startReturn | drop | close => exact absurd h List.not_mem_nil

/-! ### Runs -/

variable {log}

/-- A piece of work can come next in a run. -/
structure Next (brings : Pool β → Piece β → Prop) (p : Pool β) (log : List (Event β))
    (e : Piece β) : Prop where
  possible : p.Possible e
  new : ∀ t ∈ arrivals (p.news e), t ∉ arrivals log
  brings : brings p e

/-- One piece of work, and its news. -/
inductive Step (brings : Pool β → Piece β → Prop) :
    Pool β × List (Event β) → Pool β × List (Event β) → Prop where
  | work {p : Pool β} {log : List (Event β)} {e : Piece β} (h : Next brings p log e) :
      Step brings (p, log) (p.work e, log ++ p.news e)

/-- What a pool and its record can become, in any number of pieces of work. -/
def Runs (brings : Pool β → Piece β → Prop) :
    Pool β × List (Event β) → Pool β × List (Event β) → Prop :=
  Relation.ReflTransGen (Step brings)

/-- A pool and its record after some pieces of work. -/
def follow (y : Pool β × List (Event β)) (pieces : List (Piece β)) : Pool β × List (Event β) :=
  pieces.foldl (fun y e => (y.1.work e, y.2 ++ y.1.news e)) y

/-- Some pieces of work can come one after the other. -/
def Allows (brings : Pool β → Piece β → Prop) (y : Pool β × List (Event β)) :
    List (Piece β) → Prop
  | [] => True
  | e :: es => Next brings y.1 y.2 e ∧ Allows brings (y.1.work e, y.2 ++ y.1.news e) es

variable {brings : Pool β → Piece β → Prop} {y y' : Pool β × List (Event β)}

/-- Pieces of work that can come one after the other are a run. -/
theorem Runs.follow {pieces : List (Piece β)} (h : Allows brings y pieces) :
    Runs brings y (Pool.follow y pieces) := by
  induction pieces generalizing y with
  | nil => exact .refl
  | cons e es ih => exact .head (.work h.1) (ih h.2)

/-- A pool that was created is new, and of a size that is not zero. -/
theorem create_eq_ok {config : Config} {dialect : Dialect} {p : Pool β}
    (h : create config dialect = .ok p) : p = new config dialect ∧ config.size ≠ 0 := by
  unfold create Config.validate at h
  split_ifs at h with hzero hmax
  · exact nomatch h
  · exact nomatch h
  · exact ⟨(Except.ok.inj h).symm, hzero⟩

/-- **Runs.** The books of a pool stay right, and its configuration does not change. By induction
over the pieces of work. -/
theorem Runs.accounted (h : Runs brings y y') (hy : y.1.Accounted) :
    y'.1.Accounted ∧ y'.1.config = y.1.config := by
  induction h with
  | refl => exact ⟨hy, rfl⟩
  | tail _ hstep ih =>
      cases hstep with
      | work hnext =>
          have hleads := ih.1.work hnext.possible
          exact ⟨hleads.accounted, hleads.config.trans ih.2⟩

end Pool

end TableGateway
