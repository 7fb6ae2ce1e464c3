import TableGateway.Proofs.Pool.Admission
import TableGateway.Proofs.Pool.Ledger
import TableGateway.Pool.Host

/-!
# Closing a pool

A pool may be closed at any moment: while some wait for a permit or have been granted one and have
not gone on, while connections are being opened, are out, or are being reset. From then on its idle
queue stays empty, nobody gets a connection who did not have one or was opening one, and every
connection is closed once, or dropped.

## Conventions

The errand that closes the pool runs to its end. Every errand can still be lost at any of its waits,
as `Pool.Losable` says, and what it held is then dropped.

## Main results

* `Pool.Effect.winds`: what one piece of work does to a closed pool.
* `Pool.Runs.shut`: any run that closes the pool, and goes on.
-/

namespace TableGateway

variable {β ι : Type}

namespace Pool

/-! ### Pieces of work on a closed pool -/

/-- What can become of where an errand stands while the pool is closed. -/
structure Winds (name : β → ι) (before after : Option (Stage β)) : Prop where
  /-- Whoever is not there does not come. -/
  absent : before = none → after = none
  /-- Whoever waits for a permit, or was granted one, waits on or leaves. -/
  refused : before = some .queued ∨ before = some .granted → after = before ∨ after = none
  /-- Nobody comes to wait, to be granted a permit, or to open a connection. -/
  settled : after = some .queued ∨ after = some .granted ∨ after = some .opening → after = before
  /-- Whoever holds a connection held it before, or was opening it. -/
  out : ∀ c, after = some (.out c) →
    before = some .opening ∨ ∃ c', before = some (.out c') ∧ name c'.backend = name c.backend

namespace Winds

variable {name : β → ι} {s s' s'' : Option (Stage β)}

/-- An errand that does not move. -/
theorem refl : Winds name s s :=
  ⟨id, fun _ => .inl rfl, fun _ => rfl, fun c hc => .inr ⟨c, hc, rfl⟩⟩

/-- An errand that leaves. -/
theorem gone : Winds name s none :=
  ⟨fun _ => rfl, fun _ => .inr rfl, fun h => (by simp at h), nofun⟩

/-- One move after the other. -/
theorem trans (h : Winds name s s') (h' : Winds name s' s'') : Winds name s s'' where
  absent := fun hs => h'.absent (h.absent hs)
  refused := fun hs => by
    rcases h.refused hs with rfl | rfl
    · exact h'.refused hs
    · exact .inr (h'.absent rfl)
  settled := fun hs => by
    obtain rfl := h'.settled hs
    exact h.settled hs
  out := fun c hc => by
    rcases h'.out c hc with hopening | ⟨c', hc', hname⟩
    · exact .inl ((h.settled (.inr (.inr hopening))).symm.trans hopening)
    · rcases h.out c' hc' with hopening | ⟨c'', hc'', hname'⟩
      · exact .inl hopening
      · exact .inr ⟨c'', hc'', hname'.trans hname⟩

/-- An errand that drains the pool. -/
theorem draining {c d : Parked β} {rest rest' : List (Parked β)} :
    Winds name (some (.draining c rest)) (some (.draining d rest')) where
  absent := fun hs => by simp at hs
  refused := fun hs => by simp at hs
  settled := fun hs => by simp at hs
  out := fun e he => by simp at he

/-- An errand that moves on with its connection. -/
theorem moves {t : Ticket} {before after : Stage β} {news : List (Event β)}
    (h : Moves name t before after news) : Winds name (some before) (some after) where
  absent := nofun
  refused := fun hs => by
    rcases hs with hs | hs <;> obtain rfl := Option.some.inj hs <;> exact nomatch h
  settled := fun hs => by
    rcases hs with hs | hs | hs <;> obtain rfl := Option.some.inj hs <;> exact nomatch h
  out := fun c hc => by
    obtain rfl := Option.some.inj hc
    cases h with
    | opened => exact .inl rfl
    | @used c' _ hname => exact .inr ⟨c', rfl, hname.symm⟩

end Winds

section

variable {name : β → ι} {p p' : Pool β} {t : Ticket} {news : List (Event β)}

/-- Where nobody waits, a permit that comes back is free. -/
theorem putPermit_free {q : Pool β} (h : q.queue = []) :
    q.putPermit.1 = { q with permits := q.permits + 1 } := by
  unfold Pool.putPermit
  split
  · rfl
  · next hq => exact nomatch h.symm.trans hq

/-- **One piece of work.** A closed pool without idle connections stays so, no idle connection is
used, nobody arrives, and no errand gets what it did not have. By the effect of the piece: most of
them cannot occur. -/
theorem Effect.winds (h : Effect name p t p' news) (hp : p.Sound) (hclosed : p.closed = true)
    (hidle : p.idle = []) :
    p'.closed = true ∧ p'.idle = [] ∧ Pool.reuses news = [] ∧ arrivals news = [] ∧
      ∀ u, Winds name (p.stage? u) (p'.stage? u) := by
  have hset : ∀ (q : Pool β) (s : Stage β), q.errands = p.errands →
      Winds name (p.stage? t) (some s) →
      ∀ u, Winds name (p.stage? u) ((q.setStage t s).stage? u) := fun q s hq hs u => by
    rw [stage?_setStage]
    split_ifs with hut
    · rw [hut]
      exact hs
    · rw [stage?, stage?, hq]
      exact .refl
  have hend : ∀ q : Pool β, q.errands = p.errands.erase t →
      ∀ u, Winds name (p.stage? u) (q.stage? u) := fun q hq u => by
    have hstage : q.stage? u = (p.endErrand t).stage? u := by
      rw [stage?, hq]
      rfl
    rw [hstage, stage?_endErrand]
    split_ifs with hut
    · exact .gone
    · exact .refl
  cases h with
  | nothing => exact ⟨hclosed, hidle, rfl, rfl, fun u => .refl⟩
  | queues hopen | reuses hopen | opens hopen | parks hopen =>
      exact absurd (hclosed.symm.trans hopen) (by decide)
  | moves ht hs =>
      obtain ⟨harr, -, -, hreu, -⟩ := hs.reads
      exact ⟨hclosed, hidle, hreu, harr, hset p _ rfl (ht ▸ .moves hs)⟩
  | @leaves s gone ht hs =>
      obtain ⟨harr, -, -, hreu, -⟩ := hs.reads
      have hfree := putPermit_free (q := { p.endErrand t with live := p.live - s.slots })
        (hp.closed_queue hclosed)
      rw [hfree, reuses_append, arrivals_append, hreu, harr]
      simp only [reads_admission]
      exact ⟨hclosed, hidle, rfl, rfl, hend _ rfl⟩
  | withdraws => exact ⟨hclosed, hidle, rfl, rfl, hend _ rfl⟩
  | refused => exact ⟨hclosed, hidle, rfl, rfl, hend _ rfl⟩
  | shuts => exact ⟨rfl, hidle, rfl, rfl, fun u => .refl⟩
  | shutsIdle hsome => exact absurd (hidle.symm.trans hsome) (List.cons_ne_nil _ _).symm
  | @drains c d rest ht =>
      refine ⟨hclosed, hidle, rfl, rfl, hset p.vacate _ rfl ?_⟩
      rw [ht]
      exact .draining
  | drained => exact ⟨hclosed, hidle, rfl, rfl, hend _ rfl⟩

end

/-! ### Runs -/

/-- A pool that the errand `t` closed when it was `p` with the record `log`, after some more pieces
of work: it is now `p'` with the record `log'`. -/
structure Shut [DecidableEq ι] (name : β → ι) (t : Ticket) (p : Pool β) (log : List (Event β))
    (p' : Pool β) (log' : List (Event β)) : Prop where
  closed : p'.closed = true
  /-- Nothing is idle. -/
  idle : p'.idle = []
  /-- Every errand that waited is woken by the closing. -/
  woken : p.closed = false → ∀ u, p.stage? u = some .queued → u ∈ (p.close t).2
  /-- What has become of the errands: in particular, whoever was not there has nothing, and whoever
  waited, or was granted a permit and had not gone on, has nothing. -/
  others : ∀ u, u ≠ t → Winds name (p.stage? u) (p'.stage? u)
  /-- Whoever asks is refused. -/
  asked : ∀ u, p'.ask u = (p', .refused)
  /-- Whoever waits or was granted a permit is refused as soon as it looks again, and leaves. -/
  resumed : ∀ u, p'.stage? u = some .queued ∨ p'.stage? u = some .granted →
    (p'.resume u).2.1 = .refused ∧ (p'.resume u).1.stage? u = none
  /-- To be refused is an error, and nothing is opened. -/
  refusal : ∀ {m : Type → Type} [Monad m] (host : Host m β) (u : Ticket)
    (wait : m (Except Error Unit)),
    host.enter u wait .refused = pure (.error (.state "pool is closed"))
  /-- No connection was used again since, and nobody arrived. -/
  reuses : Pool.reuses log' = Pool.reuses log
  arrivals : Pool.arrivals log' = Pool.arrivals log
  /-- Every connection that was ever opened is with an errand, or was closed, or was dropped, and
  this only once. -/
  once : ((openings log').map name).Nodup → ∀ b ∈ openings log',
    p'.total (held name (name b)) + tally name (name b) (closings log') +
      tally name (name b) (losses log') = 1
  /-- A connection is only dropped when its holder drops it where its return cannot be left to a
  task, or when an errand is lost that returns it. -/
  lost : ∀ e b, p'.Possible e → .lost b ∈ p'.news e → ∃ u c, c.backend = b ∧
    (e = .discard u ∧ p'.stage? u = some (.out c) ∨
      e = .cancel u ∧ (p'.stage? u = some (.resetting c) ∨ p'.stage? u = some (.closing c)))
  /-- What counts as live are the connections that were not closed or dropped yet, and those that
  are being opened. -/
  live : p'.live + (closings log').length + (losses log').length =
    (openings log').length + p'.total Stage.beingOpened
  /-- When they have all come back, none is live. -/
  drained : (∀ u s, p'.stage? u = some s → s = .queued ∨ s = .granted) → p'.live = 0

section

variable [DecidableEq ι] {name : β → ι} {config : Config} {dialect : Dialect} {p₀ p p' : Pool β}
  {log log' : List (Event β)} {t : Ticket}

omit [DecidableEq ι] in
/-- What a run preserves that begins with a closed pool without idle connections. By induction over
the pieces of work. -/
theorem Runs.winds {y y' : Pool β × List (Event β)} (h : Runs (KeepsNames name) y y')
    (hy : y.1.Accounted) (hclosed : y.1.closed = true) (hidle : y.1.idle = []) :
    y'.1.closed = true ∧ y'.1.idle = [] ∧ Pool.reuses y'.2 = Pool.reuses y.2 ∧
      Pool.arrivals y'.2 = Pool.arrivals y.2 ∧
      ∀ u, Winds name (y.1.stage? u) (y'.1.stage? u) := by
  induction h with
  | refl => exact ⟨hclosed, hidle, rfl, rfl, fun u => .refl⟩
  | @tail y' _ hrun hstep ih =>
      obtain ⟨hclosed', hidle', hreuses, harrivals, hwinds⟩ := ih
      cases hstep with
      | @work p log e hnext =>
          have hsound := (Runs.accounted hrun hy).1.sound
          obtain ⟨hclosed'', hidle'', hreuses', harrivals', hwinds'⟩ :=
            (work_effect hnext.possible hnext.brings).winds hsound hclosed' hidle'
          rw [reuses_append, arrivals_append, hreuses', harrivals', List.append_nil,
            List.append_nil]
          exact ⟨hclosed'', hidle'', hreuses, harrivals, fun u => (hwinds u).trans (hwinds' u)⟩

/-- Closing a pool leaves nothing idle, and moves no other errand. -/
theorem close_eq (p : Pool β) (t : Ticket) :
    (p.close t).2 = p.queue ∧ (p.close t).1.closed = true ∧ (p.close t).1.idle = [] ∧
      ∀ u, u ≠ t → (p.close t).1.stage? u = p.stage? u := by
  unfold Pool.close
  split
  · next hidle => exact ⟨rfl, rfl, hidle, fun u _ => rfl⟩
  · exact ⟨rfl, rfl, rfl, fun u hu => (stage?_setStage _ t u _).trans (if_neg hu)⟩

/-- A closed pool refuses whoever asks. -/
theorem ask_closed (hclosed : p.closed = true) (u : Ticket) : p.ask u = (p, .refused) :=
  if_pos hclosed

/-- A closed pool refuses whoever waits or was granted a permit, as soon as it looks again. -/
theorem resume_closed (hp : p.Sound) (hclosed : p.closed = true) {u : Ticket}
    (hu : p.stage? u = some .queued ∨ p.stage? u = some .granted) :
    (p.resume u).2.1 = .refused ∧ (p.resume u).1.stage? u = none := by
  have hgone : (p.endErrand u).stage? u = none := stage?_of_erase rfl
  unfold Pool.resume
  rcases hu with hu | hu
  · rw [hu]
    dsimp only
    rw [if_pos hclosed]
    exact ⟨rfl, hgone⟩
  · rw [hu]
    dsimp only
    rw [if_pos hclosed]
    refine ⟨rfl, ?_⟩
    rw [putPermit_free (q := p.endErrand u) (hp.closed_queue hclosed)]
    exact hgone

/-- A permit that comes back drops no connection. -/
theorem lost_not_mem_admission (b : β) (next : Option Ticket) :
    .lost b ∉ (admission next : List (Event β)) := by
  cases next <;> simp [admission]

/-- Whoever takes an idle connection drops none. -/
theorem lost_not_mem_reuse (b : β) (u : Ticket) : .lost b ∉ p.reuse u := by
  simp [reuse]

/-- A connection is only dropped where its holder drops it and no task can return it, or where an
errand is lost that returns it. -/
theorem news_lost {e : Piece β} {b : β} (he : p.Possible e) (hb : .lost b ∈ p.news e) :
    ∃ u c, c.backend = b ∧
      (e = .discard u ∧ p.stage? u = some (.out c) ∨
        e = .cancel u ∧ (p.stage? u = some (.resetting c) ∨ p.stage? u = some (.closing c))) := by
  have hback : ∀ {b' : β} {next : Option Ticket}, .lost b ∈ .lost b' :: admission next → b' = b :=
    fun hmem => (List.mem_cons.mp hmem).elim (fun heq => (Event.lost.inj heq).symm)
      fun hadmission => absurd hadmission (lost_not_mem_admission _ _)
  cases e with
  | discard u =>
      simp only [news] at hb
      split at hb
      · next c hu => exact ⟨u, c, hback hb, .inl ⟨rfl, hu⟩⟩
      · exact absurd hb List.not_mem_nil
  | cancel u =>
      simp only [news] at hb
      split at hb
      · simp at hb
      · next c hu => exact absurd (he _ hu) id
      · next c hu => exact ⟨u, c, hback hb, .inr ⟨rfl, .inl hu⟩⟩
      · next c hu => exact ⟨u, c, hback hb, .inr ⟨rfl, .inr hu⟩⟩
      · next c rest hu => exact absurd (he _ hu) id
      · exact absurd hb (lost_not_mem_admission _ _)
  | ask u =>
      simp only [news] at hb
      split at hb <;> simp [lost_not_mem_reuse] at hb
  | resume u =>
      simp only [news] at hb
      split at hb
      · exact absurd hb (lost_not_mem_reuse _ _)
      · exact absurd hb (lost_not_mem_admission _ _)
  | opened | closeDone | drained | resetDone =>
      simp only [news] at hb
      split at hb <;> try split_ifs at hb
      all_goals simp [lost_not_mem_admission] at hb
  | openFailed => exact absurd hb (lost_not_mem_admission _ _)
  | setBackend | condemn | startReturn | drop | close => exact absurd hb List.not_mem_nil

/-- **Closing a pool.** Whenever a pool that was created is closed, then after any further pieces of
work: nothing is idle, whoever asks, waits or has not gone on with a permit is refused, no
connection was used again, every connection is closed or dropped once it has come back, and then
none is live. -/
theorem Runs.shut (hcreate : create config dialect = .ok p₀)
    (h : Runs (KeepsNames name) (p₀, []) (p, log)) (ht : p.stage? t = none)
    (hlater : Runs (KeepsNames name) (p.work (.close t), log) (p', log')) :
    Shut name t p log p' log' := by
  obtain ⟨hwoken, hclosed, hidle, hsame⟩ := close_eq p t
  have hclose : Runs (KeepsNames name) (p₀, []) (p.work (.close t), log) := by
    have hnext : Next (KeepsNames name) p log (.close t) := ⟨ht, nofun, trivial⟩
    have hrun := h.tail (.work hnext)
    rwa [show log ++ p.news (.close t) = log from List.append_nil log] at hrun
  have hwhole : Runs (KeepsNames name) (p₀, []) (p', log') := hclose.trans hlater
  have hnew := (create_eq_ok hcreate).1
  have haccounted : p'.Accounted := (Runs.accounted hwhole (hnew ▸ .new config dialect)).1
  obtain ⟨hclosed', hidle', hreuses, harrivals, hwinds⟩ :=
    hlater.winds (Runs.accounted hclose (hnew ▸ .new config dialect)).1 hclosed hidle
  exact {
    closed := hclosed'
    idle := hidle'
    woken := fun hopen u hu => by
      rw [hwoken]
      exact (Runs.orderly hcreate h hopen).waits u hu
    others := fun u hu => hsame u hu ▸ hwinds u
    asked := ask_closed hclosed'
    resumed := fun u hu => resume_closed haccounted.sound hclosed' hu
    refusal := fun _ _ _ => rfl
    reuses := hreuses
    arrivals := harrivals
    once := fun hnodup b hb => by
      have hledger := Runs.ledger hcreate hwhole (i := name b)
      rw [tally_of_nodup hnodup hb, kept, hidle'] at hledger
      simpa [Nat.add_assoc] using hledger.symm
    lost := fun e b => news_lost
    live := Runs.live hcreate hwhole
    drained := fun hall => by
      have hslots : p'.total Stage.slots = 0 :=
        total_eq_zero haccounted.sound.distinct fun u s hs => by
          rcases hall u s hs with rfl | rfl <;> rfl
      rw [haccounted.live, hidle', hslots]
      rfl }

/-- A pool of size two: one connection has come back, for the first of two errands that wait, and
the other one is being reset. -/
def sampleBusy : Pool Nat × List (Event Nat) :=
  follow (new { size := 2 } Sqlite.dialect, [])
    [.ask 0, .opened 0 7 0, .ask 1, .opened 1 8 0, .ask 2, .ask 3, .startReturn 0 1 true,
      .resetDone 0 7 true, .startReturn 1 1 true]

/-- The pool is closed then, the reset ends, those who waited look again, and the connections are
closed. -/
def sampleShut : Pool Nat × List (Event Nat) :=
  follow (sampleBusy.1.work (.close 4), sampleBusy.2)
    [.resetDone 1 8 true, .resume 2, .resume 3, .drained 4, .closeDone 1]

/-- A reset that leaves the connection as it was keeps its name. -/
theorem keepsNames_resetDone {p : Pool Nat} {t n : Nat} {c : Checkout Nat}
    (h : p.stage? t = some (.resetting c)) (hn : n = c.backend) (succeeded : Bool) :
    KeepsNames id p (.resetDone t n succeeded) := fun c' hc' => by
  obtain rfl := Stage.resetting.inj (Option.some.inj (h.symm.trans hc'))
  exact hn

/-- The first part is a run. -/
theorem sampleBusy_runs : Runs (KeepsNames id) (new { size := 2 } Sqlite.dialect, []) sampleBusy :=
  .follow ⟨⟨rfl, by decide, trivial⟩, ⟨trivial, by decide, trivial⟩, ⟨rfl, by decide, trivial⟩,
    ⟨trivial, by decide, trivial⟩, ⟨rfl, by decide, trivial⟩, ⟨rfl, by decide, trivial⟩,
    ⟨trivial, by decide, trivial⟩,
    ⟨trivial, by decide, keepsNames_resetDone (c := ⟨7, 0, false⟩) rfl rfl true⟩,
    ⟨trivial, by decide, trivial⟩, trivial⟩

/-- The second part is a run. -/
theorem sampleShut_runs :
    Runs (KeepsNames id) (sampleBusy.1.work (.close 4), sampleBusy.2) sampleShut :=
  .follow ⟨⟨trivial, by decide, keepsNames_resetDone (c := ⟨8, 0, false⟩) rfl rfl true⟩,
    ⟨trivial, by decide, trivial⟩, ⟨trivial, by decide, trivial⟩, ⟨trivial, by decide, trivial⟩,
    ⟨trivial, by decide, trivial⟩, trivial⟩

/-- Both connections have been closed, none of them was used again, and none is live. -/
theorem shut_sampleShut :
    sampleBusy.1.idle = [⟨7, 0⟩] ∧ closings sampleShut.2 = [7, 8] ∧ reuses sampleShut.2 = [] ∧
      sampleShut.1.live = 0 ∧
      Shut id 4 sampleBusy.1 sampleBusy.2 sampleShut.1 sampleShut.2 :=
  have hcreate : create { size := 2 } Sqlite.dialect =
      .ok (new { size := 2 } Sqlite.dialect : Pool Nat) := rfl
  ⟨rfl, rfl, rfl, rfl, Runs.shut hcreate sampleBusy_runs rfl sampleShut_runs⟩

end

end Pool

end TableGateway
