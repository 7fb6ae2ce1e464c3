import Mathlib.Data.List.Nodup
import TableGateway.Proofs.Pool.Effects

/-!
# The ledger of connections

Every connection that a pool has opened is idle, or with an errand, or the pool has closed it, or it
was dropped. Pieces of work move connections from one of these places to the next, and no
connection is ever in two of them. The ledger counts by name, so that it also says how often one
and the same connection was closed.

## Conventions

`name` tells connections apart; a call on a connection does not change its name. If names are
distinct, every count is at most one.

## Main results

* `Pool.Effect.balance`: what one piece of work does to the ledger.
* `Pool.Runs.ledger`: the ledger over a run.
* `Pool.Runs.live`: the counter of live connections against the ledger.
-/

namespace TableGateway

variable {β ι : Type}

namespace Stage

/-- The connections that an errand has. -/
def connections : Stage β → List β
  | out c | dropped c | resetting c | closing c => [c.backend]
  | draining current rest => current.backend :: rest.map Parked.backend
  | queued | granted | opening => []

/-- Every slot is for a connection, or for one that is being opened. -/
theorem slots_eq (s : Stage β) : s.slots = s.connections.length + s.beingOpened := by
  cases s <;> simp [slots, connections, checkedOut, beingOpened, onItsWay, undrained]

end Stage

namespace Pool

variable [DecidableEq ι] (name : β → ι) (i : ι)

/-- How many of some connections have a name. -/
def tally (l : List β) : Nat := l.countP fun b => name b = i

/-- How many connections of a name an errand has. -/
def held (s : Stage β) : Nat := tally name i s.connections

/-- How many connections of a name are idle or with errands. -/
def kept (p : Pool β) : Nat :=
  tally name i (p.idle.map Parked.backend) + p.total (held name i)

variable {name i} {p p' : Pool β} {t : Ticket} {log news : List (Event β)}

@[simp] theorem tally_nil : tally name i [] = 0 := rfl

@[simp] theorem tally_append (l l' : List β) :
    tally name i (l ++ l') = tally name i l + tally name i l' := List.countP_append

theorem tally_cons (b : β) (l : List β) :
    tally name i (b :: l) = tally name i [b] + tally name i l := tally_append [b] l

/-- Connections of one name count alike. -/
theorem tally_congr {b b' : β} (h : name b = name b') : tally name i [b] = tally name i [b'] := by
  simp only [tally, List.countP_singleton, h]

/-- Of distinct names each counts once. -/
theorem tally_of_nodup {l : List β} (h : (l.map name).Nodup) {b : β} (hb : b ∈ l) :
    tally name (name b) l = 1 := by
  have hcount : (l.map name).count (name b) = 1 :=
    List.count_eq_one_of_mem h (List.mem_map_of_mem hb)
  rw [← hcount, List.count, List.countP_map]
  rfl

/-! ### What a piece of work does -/

/-- A permit that comes back moves no connection. -/
theorem total_putPermit {f : Stage β → Nat} (hf : f .granted = f .queued)
    (hqueue : ∀ u ∈ p.queue, p.stage? u = some .queued) : p.putPermit.1.total f = p.total f := by
  unfold Pool.putPermit
  split
  · rfl
  · next u rest hq =>
      have hu : p.stage? u = some .queued := hqueue u (by rw [hq]; exact List.mem_cons_self)
      have htotal := total_setStage f hu .granted
      rw [hf] at htotal
      exact Nat.add_right_cancel htotal

/-- An errand that holds a permit ends, and gives it back. -/
theorem total_leave {f : Stage β → Nat} (hf : f .granted = f .queued) (hp : p.Sound)
    {s : Stage β} (ht : p.stage? t = some s) (hs : 0 < s.permits) {q : Pool β}
    (hqueue : q.queue = p.queue) (herrands : q.errands = p.errands.erase t) :
    q.putPermit.1.total f + f s = p.total f := by
  have hstage : ∀ u, q.stage? u = (p.endErrand t).stage? u := fun u => by
    rw [stage?, herrands]
    rfl
  have htotal : q.total f = (p.endErrand t).total f := by
    rw [total, herrands]
    rfl
  have hback : q.putPermit.1.total f = q.total f := total_putPermit hf fun u hu => by
    rw [hqueue] at hu
    have hut : u ≠ t := by
      rintro rfl
      exact hp.not_mem_queue ht (by omega) hu
    rw [hstage, stage?_endErrand, if_neg hut]
    exact hp.queued u hu
  rw [hback, htotal]
  exact total_endErrand f hp.distinct ht

/-- Whoever moves keeps its connection, and has one more if it was opened. -/
theorem Moves.balance {s s' : Stage β} (h : Moves name t s s' news) (i : ι) :
    held name i s + tally name i (openings news) = held name i s' ∧
      tally name i (closings news) = 0 ∧ tally name i (losses news) = 0 := by
  cases h with
  | opened backend now => exact ⟨Nat.zero_add _, rfl, rfl⟩
  | used hname | spoiled hname => exact ⟨tally_congr hname.symm, rfl, rfl⟩
  | dropped c => exact ⟨rfl, rfl, rfl⟩
  | toReset hs | toClose hs => rcases hs with rfl | rfl <;> exact ⟨rfl, rfl, rfl⟩

/-- Whoever ends leaves nothing behind: what it had was closed, or is dropped. -/
theorem Gone.balance {s : Stage β} (h : Gone s news) (name : β → ι) (i : ι) :
    held name i s = tally name i (closings news) + tally name i (losses news) ∧
      tally name i (openings news) = 0 := by
  cases h with
  | granted | opening => exact ⟨rfl, rfl⟩
  | closed c => exact ⟨rfl, rfl⟩
  | discarded c | resetting c | closing c => exact ⟨(Nat.zero_add _).symm, rfl⟩

/-- Whoever ends held a permit. -/
theorem Gone.permits {s : Stage β} (h : Gone s news) : 0 < s.permits := by
  cases h <;> exact Nat.one_pos

/-- Whoever has a permit in hand has no connection yet: it comes to have those of its next stage. -/
theorem InHand.total {q r : Pool β} (h : p.InHand t q news) {f : Stage β → Nat}
    (hf : f .granted = 0) (he : r.errands = q.errands) (s : Stage β) :
    (r.setStage t s).total f = p.total f + f s := by
  have hsame : (r.setStage t s).total f = (p.setStage t s).total f := by
    have hq : q.errands = p.errands := by cases h <;> rfl
    rw [Pool.total, setStage, he, hq]
    rfl
  rw [hsame]
  cases h with
  | atOnce _ hnew => exact total_setStage_new f hnew s
  | granted ht =>
      have htotal := total_setStage f ht s
      rwa [hf] at htotal

/-- Whoever is given a permit is no news to the ledger. -/
theorem InHand.reads {q : Pool β} (h : p.InHand t q news) :
    openings news = [] ∧ closings news = [] ∧ losses news = [] := by
  cases h <;> exact ⟨rfl, rfl, rfl⟩

/-- **One piece of work.** The connections that were idle or with errands and the new ones are
afterwards idle or with errands, or closed, or dropped. By the effect of the piece. -/
theorem Effect.balance (h : Effect name p t p' news) (hp : p.Sound) :
    p.kept name i + tally name i (openings news) =
      p'.kept name i + tally name i (closings news) + tally name i (losses news) := by
  cases h with
  | nothing | shuts => rfl
  | queues _ _ hnew =>
      have htotal : (({ p with queue := p.queue ++ [t] } : Pool β).setStage t .queued).total
          (held name i) = p.total (held name i) + 0 := total_setStage_new _ hnew _
      simp only [kept, htotal]
      rfl
  | @reuses q news c rest _ hand hidle =>
      obtain ⟨hopenings, hclosings, hlosses⟩ := hand.reads
      have htotal := hand.total (f := held name i) (r := { q with idle := rest }) rfl rfl
        (.out ⟨c.backend, c.created, false⟩)
      simp only [kept, htotal, openings_append, closings_append, losses_append, hopenings,
        hclosings, hlosses, hidle, List.map_cons, tally_cons c.backend (rest.map _)]
      change tally name i [c.backend] + tally name i (rest.map _) + p.total (held name i) + 0 =
        tally name i (rest.map _) + (p.total (held name i) + tally name i [c.backend]) + 0 + 0
      omega
  | @opens q _ _ hand =>
      obtain ⟨hopenings, hclosings, hlosses⟩ := hand.reads
      have htotal := hand.total (f := held name i) (r := { q with live := q.live + 1 }) rfl rfl
        .opening
      have hidle : q.idle = p.idle := by cases hand <;> rfl
      simp only [kept, htotal, hopenings, hclosings, hlosses, ← hidle]
      rfl
  | @moves s s' news ht hs =>
      obtain ⟨hheld, hclosings, hlosses⟩ := hs.balance i
      have htotal := total_setStage (held name i) ht s'
      simp only [kept, hclosings, hlosses]
      change tally name i (p.idle.map _) + _ + _ = tally name i (p.idle.map _) + _ + 0 + 0
      omega
  | @parks c backend _ ht hname =>
      -- The pool with one more idle connection gets a name, so that rewriting leaves it alone.
      obtain ⟨q, hq⟩ : ∃ q, q = ({ p with idle := p.idle ++ [⟨backend, c.created⟩] } : Pool β) :=
        ⟨_, rfl⟩
      have htotal := total_leave (f := held name i) rfl hp ht Nat.one_pos
        (q := q.endErrand t) (hq ▸ rfl) (hq ▸ rfl)
      have hheld : held name i (.resetting c) = tally name i [backend] := tally_congr hname.symm
      have hidle : tally name i ((q.endErrand t).idle.map Parked.backend) =
          tally name i (p.idle.map Parked.backend) + tally name i [backend] := by
        rw [endErrand, hq, List.map_append]
        exact tally_append _ _
      simp only [← hq, kept, putPermit_idle]
      change _ + tally name i (openings (admission _)) = _ + _ +
        tally name i (closings (admission _)) + tally name i (losses (admission _))
      simp only [reads_admission, tally_nil]
      omega
  | @leaves s gone ht hs =>
      obtain ⟨hheld, hopenings⟩ := hs.balance name i
      have htotal := total_leave (f := held name i) rfl hp ht hs.permits
        (q := { p.endErrand t with live := p.live - s.slots }) rfl rfl
      simp only [kept, openings_append, closings_append, losses_append, tally_append, hopenings,
        reads_admission, putPermit_idle, tally_nil] at htotal ⊢
      change _ = tally name i (p.idle.map _) + _ + _ + _
      omega
  | withdraws ht =>
      have htotal := total_endErrand (held name i) hp.distinct ht
      exact congrArg (tally name i (p.idle.map Parked.backend) + ·) htotal.symm
  | refused _ ht =>
      have htotal := total_endErrand (held name i) hp.distinct ht
      exact congrArg (tally name i (p.idle.map Parked.backend) + ·) htotal.symm
  | @shutsIdle c rest hidle hnew =>
      have htotal := total_setStage_new (held name i) hnew (.draining c rest)
      simp only [kept, hidle]
      change held name i (.draining c rest) + p.total (held name i) + 0 =
        0 + (p.setStage t (.draining c rest)).total (held name i) + 0 + 0
      omega
  | @drains c d rest ht =>
      have htotal := total_setStage (held name i) ht (.draining d rest)
      have hcons : held name i (.draining c (d :: rest)) =
          tally name i [c.backend] + held name i (.draining d rest) := tally_cons _ _
      simp only [kept]
      change tally name i (p.idle.map _) + _ + 0 = tally name i (p.idle.map _) +
        (p.setStage t (.draining d rest)).total (held name i) + tally name i [c.backend] + 0
      omega
  | @drained c ht =>
      have htotal := total_endErrand (held name i) hp.distinct ht
      change tally name i (p.idle.map _) + _ + 0 = tally name i (p.idle.map _) +
        (p.endErrand t).total (held name i) + tally name i [c.backend] + 0
      change _ + tally name i [c.backend] = _ at htotal
      omega

/-! ### Runs -/

variable {brings : Pool β → Piece β → Prop} {config : Config} {dialect : Dialect} {p₀ : Pool β}

/-- **The ledger.** Of every name: as many connections as were opened are idle or with errands, or
were closed, or were dropped. By induction over the pieces of work. -/
theorem Runs.ledger {y : Pool β × List (Event β)} (hcreate : create config dialect = .ok p₀)
    (h : Runs (KeepsNames name) (p₀, []) y) :
    tally name i (openings y.2) =
      y.1.kept name i + tally name i (closings y.2) + tally name i (losses y.2) := by
  obtain ⟨rfl, -⟩ := create_eq_ok hcreate
  induction h with
  | refl => rfl
  | @tail y _ hrun hstep ih =>
      cases hstep with
      | @work p log e hnext =>
          have hsound := (Runs.accounted hrun (.new config dialect)).1.sound
          have hbalance := (work_effect hnext.possible hnext.brings).balance hsound (i := i)
          simp only [openings_append, closings_append, losses_append, tally_append] at ih ⊢
          omega

/-- A run in which less is known of the pieces. -/
theorem Runs.mono {brings' : Pool β → Piece β → Prop} {y y' : Pool β × List (Event β)}
    (hle : ∀ p e, brings p e → brings' p e) (h : Runs brings y y') : Runs brings' y y' :=
  Relation.ReflTransGen.mono (fun _ _ hstep => by
    cases hstep with
    | work hnext => exact .work ⟨hnext.possible, hnext.new, hle _ _ hnext.brings⟩) _ _ h

/-- **Live connections.** The counter of live connections, with those that were closed or dropped,
makes up the connections that were opened and those that are being opened. -/
theorem Runs.live {y : Pool β × List (Event β)} (hcreate : create config dialect = .ok p₀)
    (h : Runs brings (p₀, []) y) :
    y.1.live + (closings y.2).length + (losses y.2).length =
      (openings y.2).length + y.1.total Stage.beingOpened := by
  have hunnamed : Runs (KeepsNames fun _ : β => ()) (p₀, []) y :=
    h.mono fun p e _ => keepsNames_unnamed p e
  have hledger := hunnamed.ledger hcreate (i := ())
  have hall : ∀ l : List β, tally (fun _ => ()) () l = l.length := fun l => by simp [tally]
  have hheld : held (fun _ : β => ()) () = fun s => s.connections.length :=
    funext fun s => hall s.connections
  have hslots : y.1.total Stage.slots =
      y.1.total (fun s => s.connections.length) + y.1.total Stage.beingOpened := by
    rw [Pool.total, Pool.total, Pool.total, ← Registry.total_add]
    exact congrArg y.1.errands.total (funext Stage.slots_eq)
  obtain ⟨rfl, -⟩ := create_eq_ok hcreate
  have hlive := (Runs.accounted h (.new config dialect)).1.live
  simp only [hall, kept, hheld, List.length_map] at hledger
  omega

end Pool

end TableGateway
