import TableGateway.Proofs.Pool.Effects

/-!
# The connections of a pool

A pool keeps connections in its idle queue, and others stand at the stages of the errands that hold
them. Here one property of the idle connections and one of the others are carried through every
piece of work, given that what the piece brings has them. A piece of work of one errand also leaves
every other errand where it stands, except that one that waits may be granted a permit.

## Conventions

`held` is what is asked of the connections of errands, `idle` of those nobody uses, and `usable`
tells whether a connection can still be used. An idle connection has both properties.

## Main results

* `Pool.ask_stands`, `Pool.resume_stands`: where an errand gets that wants a connection.
* `Pool.Holds.work`: one piece of work.
-/

namespace TableGateway

variable {β : Type}

/-- The connections of an errand have the property `held`, and one that is being reset can still be
used. -/
def Stage.Holds (held : β → Prop) (usable : β → Bool) : Stage β → Prop
  | .out c | .dropped c | .closing c => held c.backend
  | .resetting c => held c.backend ∧ usable c.backend = true
  | .draining current rest => held current.backend ∧ ∀ c ∈ rest, held c.backend
  | .queued | .granted | .opening => True

/-- Whether they have it can be found out where it can be of a connection. -/
instance {held : β → Prop} [DecidablePred held] {usable : β → Bool} :
    DecidablePred (Stage.Holds held usable)
  | .out c | .dropped c | .closing c => inferInstanceAs (Decidable (held c.backend))
  | .resetting c => inferInstanceAs (Decidable (held c.backend ∧ usable c.backend = true))
  | .draining current rest =>
    inferInstanceAs (Decidable (held current.backend ∧ ∀ c ∈ rest, held c.backend))
  | .queued | .granted | .opening => .isTrue trivial

namespace Pool

/-- The idle connections of a pool have the property `idle`, and those of its errands the property
`held`. -/
structure Holds (held idle : β → Prop) (usable : β → Bool) (p : Pool β) : Prop where
  idle : ∀ c ∈ p.idle, idle c.backend
  stages : ∀ t s, p.stage? t = some s → s.Holds held usable

/-- What a piece of work brings into a pool has the properties. -/
def Suits (held idle : β → Prop) (usable : β → Bool) (p : Pool β) : Piece β → Prop
  | .opened _ backend _ | .setBackend _ backend => held backend
  | .startReturn t _ answer =>
    ∀ c, p.stage? t = some (.out c) ∨ p.stage? t = some (.dropped c) → answer = usable c.backend
  | .resetDone _ backend succeeded => held backend ∧ (succeeded = true → idle backend)
  | _ => True

/-- A piece of work of the errand `t` leads from `p` to `p'`: the connections have the properties,
and the other errands stand where they stood. -/
structure Passes (held idle : β → Prop) (usable : β → Bool) (t : Ticket) (p p' : Pool β) :
    Prop where
  holds : p'.Holds held idle usable
  beside : ∀ u, u ≠ t → Beside p p' u

variable {held idle : β → Prop} {usable : β → Bool} {p p' : Pool β} {t : Ticket} {s : Stage β}

/-- A new pool has no connections. -/
theorem Holds.new (config : Config) (dialect : Dialect) :
    (Pool.new config dialect).Holds held idle usable where
  idle := fun _ hc => absurd hc List.not_mem_nil
  stages := fun t s h => by simp [Pool.new, Pool.stage?, Registry.get?, Registry.empty] at h

/-- A pool whose entries have the properties. -/
theorem Holds.of_entries (hidle : ∀ c ∈ p.idle, idle c.backend)
    (hstages : ∀ e ∈ p.errands.entries, e.2.Holds held usable) : p.Holds held idle usable where
  idle := hidle
  stages := fun t s h => by
    obtain ⟨l₁, l₂, hl, -⟩ := List.lookup_eq_some_iff.mp h
    exact hstages (t, s) (by simp [hl])

namespace Holds

variable (h : p.Holds held idle usable)

include h

/-- No errand moves. -/
theorem stay (he : p'.errands = p.errands) (hidle : ∀ c ∈ p'.idle, idle c.backend) :
    Passes held idle usable t p p' := by
  have hstage : ∀ u, p'.stage? u = p.stage? u := fun u => by rw [stage?, stage?, he]
  refine ⟨⟨hidle, fun u s hu => h.stages u s ?_⟩, fun u _ => .inl (hstage u)⟩
  rw [← hstage u, hu]

/-- The errand moves to a stage. -/
theorem move (he : p'.errands = p.errands.insert t s) (hidle : ∀ c ∈ p'.idle, idle c.backend)
    (hs : s.Holds held usable) : Passes held idle usable t p p' := by
  have hstage : ∀ u, p'.stage? u = if u = t then some s else p.stage? u := fun u => by
    rw [stage?, he, Registry.get?_insert]
    rfl
  refine ⟨⟨hidle, fun u s' hu => ?_⟩, fun u hu => .inl (by rw [hstage, if_neg hu])⟩
  rw [hstage] at hu
  split at hu
  · obtain rfl := Option.some.inj hu
    exact hs
  · exact h.stages u s' hu

/-- The errand ends. -/
theorem leave (he : p'.errands = p.errands.erase t) (hidle : ∀ c ∈ p'.idle, idle c.backend) :
    Passes held idle usable t p p' := by
  have hstage : ∀ u, p'.stage? u = if u = t then none else p.stage? u := fun u => by
    rw [stage?, he, Registry.get?_erase]
    rfl
  refine ⟨⟨hidle, fun u s' hu => ?_⟩, fun u hu => .inl (by rw [hstage, if_neg hu])⟩
  rw [hstage] at hu
  split at hu
  · exact absurd hu (by simp)
  · exact h.stages u s' hu

end Holds

/-- A permit that comes back may be granted to an errand that waits. -/
theorem Passes.putPermit (h : Passes held idle usable t p p')
    (hqueue : ∀ u ∈ p'.queue, u ∈ p.queue) :
    Passes held idle usable t p p'.putPermit.1 := by
  refine ⟨?_, fun u hu => ?_⟩
  · unfold Pool.putPermit
    split
    · exact ⟨h.holds.idle, h.holds.stages⟩
    · next v rest hq =>
        have hgrant : Passes held idle usable v p'
            (({ p' with queue := rest } : Pool β).setStage v .granted) :=
          h.holds.move rfl h.holds.idle trivial
        exact hgrant.holds
  · rcases putPermit_beside p' u with hsame | ⟨hwaits, hgranted⟩
    · rw [Beside, hsame]
      exact h.beside u hu
    · exact .inr ⟨hqueue u hwaits, hgranted⟩

/-! ### Getting a connection -/

/-- Where an errand stands that wants a connection, by how far it got. -/
def Stands (idle : β → Prop) (p : Pool β) (t : Ticket) : Progress → Prop
  | .refused => True
  | .waits => p.stage? t = some .queued
  | .connected => ∃ c, p.stage? t = some (.out c) ∧ idle c.backend
  | .opens => p.stage? t = some .opening

/-- An errand that holds a permit has an idle connection, or it is to open one. -/
theorem proceed_stands (hidle : ∀ c ∈ p.idle, idle c.backend) :
    (p.proceed t).1.Stands idle t (p.proceed t).2 := by
  unfold Pool.proceed
  split
  · next c rest hi =>
      refine ⟨⟨c.backend, c.created, false⟩, ?_, hidle c (by rw [hi]; exact List.mem_cons_self)⟩
      rw [stage?_setStage, if_pos rfl]
  · exact stage?_setStage_self _ t _

/-- A new errand that asks. -/
theorem ask_stands (hidle : ∀ c ∈ p.idle, idle c.backend) :
    (p.ask t).1.Stands idle t (p.ask t).2 := by
  unfold Pool.ask
  split
  · trivial
  · split
    · exact stage?_setStage_self _ t _
    · exact proceed_stands hidle

/-- An errand that looks again while it waits for a permit or has been granted one. -/
theorem resume_stands (hidle : ∀ c ∈ p.idle, idle c.backend)
    (ht : p.stage? t = some .queued ∨ p.stage? t = some .granted) :
    (p.resume t).1.Stands idle t (p.resume t).2.1 := by
  unfold Pool.resume
  rcases ht with ht | ht
  · rw [ht]
    dsimp only
    split
    · trivial
    · exact ht
  · rw [ht]
    dsimp only
    split
    · trivial
    · exact proceed_stands hidle

namespace Holds

variable (h : p.Holds held idle usable) (hheld : ∀ b, idle b → held b)

include h

/-! ### Pieces of work -/

/-- The errand ends, and its slot and its permit are free. -/
theorem leaveFree : Passes held idle usable t p (p.endErrand t).vacate.putPermit.1 := by
  have hleft : Passes held idle usable t p (p.endErrand t).vacate := h.leave rfl h.idle
  exact hleft.putPermit fun _ hu => hu

/-- The errand ends, and its permit is free. -/
theorem leavePermit : Passes held idle usable t p (p.endErrand t).putPermit.1 := by
  have hleft : Passes held idle usable t p (p.endErrand t) := h.leave rfl h.idle
  exact hleft.putPermit fun _ hu => hu

include hheld in
/-- An errand that holds a permit goes on: it takes an idle connection or has to open one. -/
theorem proceed (q : Pool β) (hq : q.errands = p.errands) (hidle : q.idle = p.idle) :
    Passes held idle usable t p (q.proceed t).1 := by
  have hall : ∀ c ∈ q.idle, idle c.backend := by
    rw [hidle]
    exact h.idle
  unfold Pool.proceed
  split
  · next c rest hi =>
      rw [hi] at hall
      have hc : (Stage.out ⟨c.backend, c.created, false⟩).Holds held usable :=
        hheld _ (hall c List.mem_cons_self)
      exact h.move (by rw [← hq]; rfl) (fun d hd => hall d (List.mem_cons_of_mem _ hd)) hc
  · have hopening : (Stage.opening : Stage β).Holds held usable := trivial
    exact h.move (by rw [← hq]; rfl) hall hopening

include hheld in
/-- A new errand asks. -/
theorem ask : Passes held idle usable t p (p.ask t).1 := by
  unfold Pool.ask
  split
  · exact h.stay rfl h.idle
  · split
    · exact h.move rfl h.idle trivial
    · exact h.proceed hheld _ rfl rfl

include hheld in
/-- A waiting errand looks again. -/
theorem resume : Passes held idle usable t p (p.resume t).1 := by
  unfold Pool.resume
  split
  · split
    · exact h.leave rfl h.idle
    · exact h.stay rfl h.idle
  · split
    · exact h.leavePermit
    · exact h.proceed hheld p rfl rfl
  · exact h.stay rfl h.idle

/-- An open ends with a connection. -/
theorem opened {backend : β} (hb : held backend) (now : Nat) :
    Passes held idle usable t p (p.opened t backend now) := by
  unfold Pool.opened
  split
  · exact h.move rfl h.idle hb
  · exact h.stay rfl h.idle

/-- An open fails. -/
theorem openFailed : Passes held idle usable t p (p.openFailed t).1 := by
  unfold Pool.openFailed
  split
  · exact h.leaveFree
  · exact h.stay rfl h.idle

/-- A call has been made on a connection that is out. -/
theorem setBackend {backend : β} (hb : held backend) :
    Passes held idle usable t p (p.setBackend t backend) := by
  unfold Pool.setBackend
  split
  · exact h.move rfl h.idle hb
  · exact h.stay rfl h.idle

/-- A connection that is out is flagged. -/
theorem condemn : Passes held idle usable t p (p.condemn t) := by
  unfold Pool.condemn
  split
  · next c ht =>
      have hc : held c.backend := h.stages t _ ht
      exact h.move rfl h.idle hc
  · exact h.stay rfl h.idle

/-- The return of a connection starts: only one that can be used is reset. -/
theorem startReturn (now : Nat) {answer : Bool}
    (hanswer : ∀ c, p.stage? t = some (.out c) ∨ p.stage? t = some (.dropped c) →
      answer = usable c.backend) :
    Passes held idle usable t p (p.startReturn t now answer) := by
  have go : ∀ c, p.stage? t = some (.out c) ∨ p.stage? t = some (.dropped c) →
      Passes held idle usable t p
        (p.setStage t (if p.mayReuse c now answer then .resetting c else .closing c)) := by
    intro c ht
    have hc : held c.backend := by
      rcases ht with ht | ht
      · exact h.stages t _ ht
      · exact h.stages t _ ht
    split
    · next hreuse =>
        have husable : usable c.backend = true := by
          rw [← hanswer c ht]
          exact (Bool.and_eq_true_iff.mp hreuse).2
        exact h.move rfl h.idle ⟨hc, husable⟩
    · exact h.move rfl h.idle hc
  unfold Pool.startReturn
  split
  · next c ht => exact go c (.inl ht)
  · next c ht => exact go c (.inr ht)
  · exact h.stay rfl h.idle

/-- A reset ends: the connection becomes idle or is to be closed. -/
theorem resetDone {backend : β} {succeeded : Bool} (hb : held backend)
    (hidle : succeeded = true → idle backend) :
    Passes held idle usable t p (p.resetDone t backend succeeded).1 := by
  unfold Pool.resetDone
  split
  · next c ht =>
      split
      · next hdone =>
          have hnew : idle backend := hidle (Bool.and_eq_true_iff.mp hdone).1
          have hleft : Passes held idle usable t p
              (({ p with idle := p.idle ++ [⟨backend, c.created⟩] } : Pool β).endErrand t) :=
            h.leave rfl (List.forall_mem_append.mpr ⟨h.idle, by simpa using hnew⟩)
          exact hleft.putPermit fun _ hu => hu
      · exact h.move rfl h.idle hb
  · exact h.stay rfl h.idle

/-- A close ends. -/
theorem closeDone : Passes held idle usable t p (p.closeDone t).1 := by
  unfold Pool.closeDone
  split
  · exact h.leaveFree
  · exact h.stay rfl h.idle

/-- A connection is dropped where its return can be left to a task. -/
theorem drop : Passes held idle usable t p (p.drop t) := by
  unfold Pool.drop
  split
  · next c ht =>
      have hc : held c.backend := h.stages t _ ht
      exact h.move rfl h.idle hc
  · exact h.stay rfl h.idle

/-- A connection is dropped where it cannot. -/
theorem discard : Passes held idle usable t p (p.discard t).1 := by
  unfold Pool.discard
  split
  · exact h.leaveFree
  · exact h.stay rfl h.idle

include hheld in
/-- The pool is closed. -/
theorem close : Passes held idle usable t p (p.close t).1 := by
  unfold Pool.close
  split
  · exact h.stay rfl h.idle
  · next c rest hi =>
      have hall : ∀ d ∈ c :: rest, held d.backend := fun d hd =>
        hheld _ (h.idle d (by rw [hi]; exact hd))
      exact h.move rfl (fun _ hd => absurd hd List.not_mem_nil) (List.forall_mem_cons.mp hall)

/-- One of the connections of a closed pool has been closed. -/
theorem drained : Passes held idle usable t p (p.drained t) := by
  unfold Pool.drained
  split
  · exact h.leave rfl h.idle
  · next c d rest ht =>
      exact h.move rfl h.idle (List.forall_mem_cons.mp (h.stages t _ ht).2)
  · exact h.stay rfl h.idle

/-- An errand is lost at a wait. -/
theorem cancel : Passes held idle usable t p (p.cancel t).1 := by
  unfold Pool.cancel
  split
  · exact h.leave rfl h.idle
  · exact h.leavePermit
  · exact h.leaveFree
  · exact h.drop
  · exact h.leavePermit
  · exact h.leaveFree
  · exact h.leaveFree
  · exact h.leave rfl h.idle
  · exact h.stay rfl h.idle

include hheld in
/-- **One piece of work.** The connections of a pool keep their properties, if what the piece brings
has them, and no other errand moves, except that one that waits may be granted a permit. -/
theorem work {e : Piece β} (he : p.Suits held idle usable e) :
    Passes held idle usable e.ticket p (p.work e) := by
  cases e with
  | ask t => exact h.ask hheld
  | resume t => exact h.resume hheld
  | opened t backend now => exact h.opened he now
  | openFailed t => exact h.openFailed
  | setBackend t backend => exact h.setBackend he
  | condemn t => exact h.condemn
  | startReturn t now answer => exact h.startReturn now he
  | resetDone t backend succeeded => exact h.resetDone he.1 he.2
  | closeDone t => exact h.closeDone
  | drop t => exact h.drop
  | discard t => exact h.discard
  | close t => exact h.close hheld
  | drained t => exact h.drained
  | cancel t => exact h.cancel

end Holds

end Pool

end TableGateway
