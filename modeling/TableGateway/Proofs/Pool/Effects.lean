import TableGateway.Proofs.Pool.Record

/-!
# What a piece of work does

`Pool.Effect` lists what a piece of work can make of a pool, together with its news. It is said
here once, so that whatever pieces preserve is a case analysis over these effects.

## Conventions

`name` tells connections apart; a call on a connection does not change its name.

## Main results

* `Pool.work_effect`: every piece of work has one of the effects.
* `Pool.Effect.beside`: the errands of others stay where they stand, or are granted a permit.
* `Pool.Effect.out`: whoever comes to hold a connection holds one that was idle, or a new one.
-/

namespace TableGateway

variable {β ι : Type}

namespace Pool

/-- A call on a connection does not change its name. -/
def KeepsNames (name : β → ι) (p : Pool β) : Piece β → Prop
  | .setBackend t backend => ∀ c, p.stage? t = some (.out c) → name backend = name c.backend
  | .resetDone t backend _ =>
    ∀ c, p.stage? t = some (.resetting c) → name backend = name c.backend
  | _ => True

/-- Where connections have no names, all calls keep them. -/
theorem keepsNames_unnamed (p : Pool β) (e : Piece β) : KeepsNames (fun _ : β => ()) p e := by
  cases e <;> first | trivial | exact fun _ _ => rfl

/-! ### Effects -/

/-- An errand has a permit in hand: it asks while one is free, or it was granted one. Without this
permit the pool is `q`. -/
inductive InHand (p : Pool β) (t : Ticket) : Pool β → List (Event β) → Prop where
  | atOnce {n : Nat} (hfree : p.permits = n + 1) (hnew : p.stage? t = none) :
      InHand p t { p with permits := n } [.arrived t, .admitted t]
  | granted (ht : p.stage? t = some .granted) : InHand p t p []

/-- An errand with a connection, or with one that is being opened, moves from one stage to the
other. -/
inductive Moves (name : β → ι) (t : Ticket) : Stage β → Stage β → List (Event β) → Prop where
  | opened (backend : β) (now : Nat) :
      Moves name t .opening (.out ⟨backend, now, false⟩) [.opened t backend]
  | used {c c' : Checkout β} (hname : name c'.backend = name c.backend) :
      Moves name t (.out c) (.out c') []
  | dropped (c : Checkout β) : Moves name t (.out c) (.dropped c) []
  | toReset {s : Stage β} {c : Checkout β} (hs : s = .out c ∨ s = .dropped c) :
      Moves name t s (.resetting c) []
  | toClose {s : Stage β} {c : Checkout β} (hs : s = .out c ∨ s = .dropped c) :
      Moves name t s (.closing c) []
  | spoiled {c c' : Checkout β} (hname : name c'.backend = name c.backend) :
      Moves name t (.resetting c) (.closing c') []

/-- An errand that holds a permit ends, and what it held is gone. -/
inductive Gone : Stage β → List (Event β) → Prop where
  | granted : Gone .granted []
  | opening : Gone .opening []
  | closed (c : Checkout β) : Gone (.closing c) [.closed c.backend]
  | discarded (c : Checkout β) : Gone (.out c) [.lost c.backend]
  | resetting (c : Checkout β) : Gone (.resetting c) [.lost c.backend]
  | closing (c : Checkout β) : Gone (.closing c) [.lost c.backend]

/-- What a piece of work of the errand `t` can make of a pool, and its news. -/
inductive Effect (name : β → ι) (p : Pool β) (t : Ticket) : Pool β → List (Event β) → Prop where
  | nothing : Effect name p t p []
  | queues (hopen : p.closed = false) (hnone : p.permits = 0) (hnew : p.stage? t = none) :
      Effect name p t (({ p with queue := p.queue ++ [t] } : Pool β).setStage t .queued)
        [.arrived t]
  | reuses {q : Pool β} {news : List (Event β)} {c : Parked β} {rest : List (Parked β)}
      (hopen : p.closed = false) (hand : p.InHand t q news) (hidle : p.idle = c :: rest) :
      Effect name p t
        (({ q with idle := rest } : Pool β).setStage t (.out ⟨c.backend, c.created, false⟩))
        (news ++ [.reused t c])
  | opens {q : Pool β} {news : List (Event β)} (hopen : p.closed = false)
      (hand : p.InHand t q news) (hidle : p.idle = []) :
      Effect name p t (({ q with live := q.live + 1 } : Pool β).setStage t .opening) news
  | moves {s s' : Stage β} {news : List (Event β)} (ht : p.stage? t = some s)
      (hs : Moves name t s s' news) : Effect name p t (p.setStage t s') news
  | parks {c : Checkout β} {backend : β} (hopen : p.closed = false)
      (ht : p.stage? t = some (.resetting c)) (hname : name backend = name c.backend) :
      Effect name p t
        (({ p with idle := p.idle ++ [⟨backend, c.created⟩] } : Pool β).endErrand t).putPermit.1
        (.parked ⟨backend, c.created⟩ :: admission
          (({ p with idle := p.idle ++ [⟨backend, c.created⟩] } : Pool β).endErrand t).putPermit.2)
  | leaves {s : Stage β} {news : List (Event β)} (ht : p.stage? t = some s) (hs : Gone s news) :
      Effect name p t ({ p.endErrand t with live := p.live - s.slots } : Pool β).putPermit.1
        (news ++ admission ({ p.endErrand t with live := p.live - s.slots } : Pool β).putPermit.2)
  | withdraws (ht : p.stage? t = some .queued) :
      Effect name p t
        (({ p with queue := p.queue.filter fun q => q != t } : Pool β).endErrand t) [.withdrew t]
  | refused (hclosed : p.closed = true) (ht : p.stage? t = some .queued) :
      Effect name p t (p.endErrand t) []
  | shuts (hidle : p.idle = []) : Effect name p t { p with closed := true, queue := [] } []
  | shutsIdle {c : Parked β} {rest : List (Parked β)} (hidle : p.idle = c :: rest)
      (hnew : p.stage? t = none) :
      Effect name p t (({ p with closed := true, queue := [], idle := [] } : Pool β).setStage t
        (.draining c rest)) []
  | drains {c d : Parked β} {rest : List (Parked β)}
      (ht : p.stage? t = some (.draining c (d :: rest))) :
      Effect name p t (p.vacate.setStage t (.draining d rest)) [.closed c.backend]
  | drained {c : Parked β} (ht : p.stage? t = some (.draining c [])) :
      Effect name p t (p.endErrand t).vacate [.closed c.backend]

variable {name : β → ι} {p : Pool β} {t : Ticket}

/-- Whoever has a permit in hand goes on with it: there is no third way. -/
theorem InHand.proceed (name : β → ι) {q : Pool β} {news : List (Event β)}
    (h : p.InHand t q news) (hopen : p.closed = false) :
    Effect name p t (q.proceed t).1 (news ++ p.reuse t) ∧
      (q.proceed t).2 = if p.idle = [] then .opens else .connected := by
  have hq : q.idle = p.idle := by cases h <;> rfl
  unfold Pool.proceed
  split
  · next c rest hidle =>
      rw [hq] at hidle
      rw [reuse, hidle]
      exact ⟨.reuses hopen h hidle, rfl⟩
  · next hidle =>
      rw [hq] at hidle
      rw [reuse, hidle, List.head?_nil, Option.toList_none, List.map_nil, List.append_nil]
      exact ⟨.opens hopen h hidle, rfl⟩

/-- A new errand asks. -/
theorem ask_effect (hnew : p.stage? t = none) :
    Effect name p t (p.ask t).1 (p.news (.ask t)) := by
  simp only [news, Pool.ask]
  split_ifs with hclosed hnone
  · exact .nothing
  · exact .queues (by simpa using hclosed) hnone hnew
  · have hand : p.InHand t { p with permits := p.permits - 1 } [.arrived t, .admitted t] :=
      .atOnce (Nat.succ_pred_eq_of_ne_zero hnone).symm hnew
    obtain ⟨heffect, hprogress⟩ := hand.proceed name (by simpa using hclosed)
    rw [hprogress]
    split_ifs <;> exact heffect

/-- A waiting errand looks again. -/
theorem resume_effect : Effect name p t (p.resume t).1 (p.news (.resume t)) := by
  simp only [news, Pool.resume]
  cases ht : p.stage? t with
  | none => exact .nothing
  | some s =>
      cases s with
      | queued =>
          dsimp only
          split_ifs with hclosed
          · exact .refused hclosed ht
          · exact .nothing
      | granted =>
          dsimp only
          split_ifs with hclosed
          · exact .leaves ht .granted
          · obtain ⟨heffect, hprogress⟩ :=
              (InHand.granted ht).proceed name (by simpa using hclosed)
            rw [hprogress]
            split_ifs with hidle
            · rw [reuse, hidle] at heffect
              exact heffect
            · exact heffect
      | _ => exact .nothing

/-- **What a piece of work does.** Every piece of work that can come next has one of the effects. -/
theorem work_effect {e : Piece β} (he : p.Possible e) (hnames : p.KeepsNames name e) :
    Effect name p e.ticket (p.work e) (p.news e) := by
  cases e with
  | ask t => exact ask_effect he
  | resume t => exact resume_effect
  | opened t backend now =>
      simp only [news, work, Pool.opened]
      cases ht : p.stage? t with
      | none => exact .nothing
      | some s =>
          cases s with
          | opening => exact .moves ht (.opened backend now)
          | _ => exact .nothing
  | openFailed t =>
      simp only [news, work, Pool.openFailed]
      cases ht : p.stage? t with
      | none => exact .nothing
      | some s =>
          cases s with
          | opening => exact .leaves ht .opening
          | _ => exact .nothing
  | setBackend t backend =>
      simp only [news, work, Pool.setBackend]
      cases ht : p.stage? t with
      | none => exact .nothing
      | some s =>
          cases s with
          | out c => exact .moves ht (.used (hnames c ht))
          | _ => exact .nothing
  | condemn t =>
      simp only [news, work, Pool.condemn]
      cases ht : p.stage? t with
      | none => exact .nothing
      | some s =>
          cases s with
          | out c => exact .moves ht (.used rfl)
          | _ => exact .nothing
  | startReturn t now usable =>
      simp only [news, work, Pool.startReturn]
      cases ht : p.stage? t with
      | none => exact .nothing
      | some s =>
          cases s with
          | out c =>
              dsimp only
              split_ifs
              · exact .moves ht (.toReset (.inl rfl))
              · exact .moves ht (.toClose (.inl rfl))
          | dropped c =>
              dsimp only
              split_ifs
              · exact .moves ht (.toReset (.inr rfl))
              · exact .moves ht (.toClose (.inr rfl))
          | _ => exact .nothing
  | resetDone t backend succeeded =>
      simp only [news, work, Pool.resetDone]
      cases ht : p.stage? t with
      | none => exact .nothing
      | some s =>
          cases s with
          | resetting c =>
              have hname : name backend = name c.backend := hnames c ht
              dsimp only
              split_ifs with hparks
              · have hopen : p.closed = false := by simpa using (Bool.and_eq_true_iff.mp hparks).2
                exact .parks hopen ht hname
              · exact .moves ht (.spoiled hname)
          | _ => exact .nothing
  | closeDone t =>
      simp only [news, work, Pool.closeDone]
      cases ht : p.stage? t with
      | none => exact .nothing
      | some s =>
          cases s with
          | closing c => exact .leaves ht (.closed c)
          | _ => exact .nothing
  | drop t =>
      simp only [news, work, Pool.drop]
      cases ht : p.stage? t with
      | none => exact .nothing
      | some s =>
          cases s with
          | out c => exact .moves ht (.dropped c)
          | _ => exact .nothing
  | discard t =>
      simp only [news, work, Pool.discard]
      cases ht : p.stage? t with
      | none => exact .nothing
      | some s =>
          cases s with
          | out c => exact .leaves ht (.discarded c)
          | _ => exact .nothing
  | close t =>
      simp only [news, work, Pool.close]
      split
      · next hidle => exact .shuts hidle
      · next c rest hidle => exact .shutsIdle hidle he
  | drained t =>
      simp only [news, work, Pool.drained]
      cases ht : p.stage? t with
      | none => exact .nothing
      | some s =>
          cases s with
          | draining c rest =>
              cases rest with
              | nil => exact .drained ht
              | cons d rest => exact .drains ht
          | _ => exact .nothing
  | cancel t =>
      simp only [news, work, Pool.cancel, Pool.drop]
      cases ht : p.stage? t with
      | none => exact .nothing
      | some s =>
          cases s with
          | queued => exact .withdraws ht
          | granted => exact .leaves ht .granted
          | opening => exact .leaves ht .opening
          | out c => exact .moves ht (.dropped c)
          | resetting c => exact .leaves ht (.resetting c)
          | closing c => exact .leaves ht (.closing c)
          -- A return that has not started and a drain cannot be lost.
          | dropped c | draining c rest => exact absurd (he _ ht) id

/-! ### The errands of others -/

/-- An errand stands where it stood, or it waited and has been granted a permit. -/
def Beside (p p' : Pool β) (u : Ticket) : Prop :=
  p'.stage? u = p.stage? u ∨ u ∈ p.queue ∧ p'.stage? u = some .granted

/-- Whoever does not wait stands where it stood. -/
theorem Beside.stage? {p p' : Pool β} {u : Ticket} (h : Beside p p' u) (hp : p.Sound)
    (hu : p.stage? u ≠ some .queued) : p'.stage? u = p.stage? u :=
  h.resolve_right fun hq => hu (hp.queued u hq.1)

/-- A permit that comes back leaves the idle connections alone. -/
@[simp] theorem putPermit_idle (q : Pool β) : q.putPermit.1.idle = q.idle := by
  unfold Pool.putPermit
  split <;> rfl

/-- It leaves the counter of live connections alone. -/
@[simp] theorem putPermit_live (q : Pool β) : q.putPermit.1.live = q.live := by
  unfold Pool.putPermit
  split <;> rfl

/-- It does not open a closed pool. -/
@[simp] theorem putPermit_closed (q : Pool β) : q.putPermit.1.closed = q.closed := by
  unfold Pool.putPermit
  split <;> rfl

/-- A permit that comes back moves nobody but the errand that waits longest. -/
theorem putPermit_beside (p : Pool β) (u : Ticket) : Beside p p.putPermit.1 u := by
  unfold Pool.putPermit
  split
  · exact .inl rfl
  · next v rest hq =>
      by_cases huv : u = v
      · subst huv
        refine .inr ⟨?_, ?_⟩
        · rw [hq]
          exact List.mem_cons_self
        · exact stage?_setStage_self _ _ _
      · refine .inl ?_
        rw [stage?_setStage, if_neg huv]
        rfl

/-- What is done before a permit comes back does not matter to an errand that it does not move. -/
theorem Beside.of_putPermit {p p' : Pool β} {u : Ticket} (h : p'.stage? u = p.stage? u)
    (hqueue : p'.queue = p.queue) : Beside p p'.putPermit.1 u := by
  have hback := putPermit_beside p' u
  rwa [Beside, h, hqueue] at hback

/-- **The errands of others.** They stand where they stood, except that one that waits may be
granted a permit. -/
theorem Effect.beside {p' : Pool β} {news : List (Event β)} (h : Effect name p t p' news)
    {u : Ticket} (hu : u ≠ t) : Beside p p' u := by
  have hset : ∀ (q : Pool β) (s : Stage β), (q.setStage t s).stage? u = q.stage? u := fun q s => by
    rw [stage?_setStage, if_neg hu]
  have hend : ∀ q : Pool β, (q.endErrand t).stage? u = q.stage? u := fun q => by
    rw [stage?_endErrand, if_neg hu]
  cases h with
  | nothing | shuts => exact .inl rfl
  | queues | moves | shutsIdle | drains => exact .inl (hset _ _)
  | reuses hopen hand | opens hopen hand => cases hand <;> exact .inl (hset _ _)
  | withdraws | refused | drained => exact .inl (hend _)
  | parks => exact .of_putPermit (hend _) rfl
  | leaves => exact .of_putPermit (hend p) rfl

/-- An errand that has ended holds no connection when a permit comes back. -/
theorem stage?_putPermit_endErrand {q : Pool β} (h : q.errands = p.errands.erase t)
    {k : Checkout β} : q.putPermit.1.stage? t ≠ some (.out k) := by
  have hgone : q.stage? t = none := stage?_of_erase h
  rcases putPermit_beside q t with hsame | ⟨-, hgranted⟩
  · rw [hsame, hgone]
    simp
  · rw [hgranted]
    simp

/-- An errand that held a permit, ends and gives it back is gone. -/
theorem stage?_leave (hp : p.Sound) {s : Stage β} (ht : p.stage? t = some s) (hs : 0 < s.permits)
    {q : Pool β} (hqueue : q.queue = p.queue) (herrands : q.errands = p.errands.erase t) :
    q.putPermit.1.stage? t = none := by
  have hgone : q.stage? t = none := stage?_of_erase herrands
  rcases putPermit_beside q t with hsame | ⟨hmem, -⟩
  · rw [hsame, hgone]
  · rw [hqueue] at hmem
    exact absurd hmem (hp.not_mem_queue ht (by omega))

/-- **Coming to hold a connection.** An errand that holds a connection after a piece of work, and
did not hold one before, has the connection that was idle longest, or a new one. -/
theorem Effect.out {p' : Pool β} {news : List (Event β)} (h : Effect name p t p' news)
    {u : Ticket} {k : Checkout β} (hout : p'.stage? u = some (.out k))
    (hnot : ∀ k', p.stage? u ≠ some (.out k')) :
    (∃ c rest, p.idle = c :: rest ∧ k = ⟨c.backend, c.created, false⟩) ∨
      p.stage? u = some .opening ∧ .opened u k.backend ∈ news := by
  by_cases hu : u = t
  · subst hu
    have hset : ∀ (q : Pool β) (s : Stage β), (q.setStage u s).stage? u = some s :=
      fun q s => stage?_setStage_self q u s
    have hend : ∀ q : Pool β, (q.endErrand u).stage? u = none := fun q => stage?_of_erase rfl
    cases h with
    | nothing | shuts => exact absurd hout (hnot k)
    | queues | opens | shutsIdle | drains => exact nomatch (hset _ _).symm.trans hout
    | @reuses q news c rest hopen hand hidle =>
        have heq : Stage.out ⟨c.backend, c.created, false⟩ = .out k :=
          Option.some.inj ((hset _ _).symm.trans hout)
        exact .inl ⟨c, rest, hidle, (Stage.out.inj heq).symm⟩
    | moves ht hs =>
        obtain rfl := Option.some.inj ((hset _ _).symm.trans hout)
        cases hs with
        | opened backend now => exact .inr ⟨ht, List.mem_cons_self⟩
        | used hname => exact absurd ht (hnot _)
    | parks | leaves => exact absurd hout (stage?_putPermit_endErrand rfl)
    | withdraws | refused | drained => exact nomatch (hend _).symm.trans hout
  · rcases h.beside hu with hsame | ⟨-, hgranted⟩
    · exact absurd (hsame.symm.trans hout) (hnot k)
    · exact nomatch hgranted.symm.trans hout

end Pool

end TableGateway
