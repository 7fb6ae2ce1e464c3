import TableGateway.Proofs.Pool.Shutdown
import TableGateway.Proofs.Pool.Strays

/-!
# Closings that are lost

Closing a pool takes all idle connections out of it at once, and then closes one after the other. It
takes the slot of a connection into its care when it comes to it. So if it is lost while it closes
one of them, it gives back the slot of this one, and leaves behind the slots of those that are still
to come, which nobody has any more.

## Main results

* `Pool.Loses.abandoned`: a closed pool that everybody has left.
* `Pool.Loses.closing`: what a closing leaves that is lost.
-/

namespace TableGateway

namespace Pool

variable {β : Type} {p p' p₀ q : Pool β} {t u : Ticket} {d : Parked β} {rest : List (Parked β)}
  {r m r' m' : Nat}

/-! ### Closing -/

/-- A pool that closes has nothing idle. -/
theorem Effect.emptied {ι : Type} {name : β → ι} {news : List (Event β)}
    (h : Effect name p t p' news) (hp : p.closed = true → p.idle = [])
    (hclosed : p'.closed = true) : p'.idle = [] := by
  have hopen : p.closed = false → p'.closed = p.closed → p'.idle = [] := fun hopen hsame =>
    absurd (hopen.symm.trans (hsame.symm.trans hclosed)) (by decide)
  cases h with
  | nothing | queues | moves | withdraws | refused | drains | drained => exact hp hclosed
  | reuses hfree hand | opens hfree hand => cases hand <;> exact hopen hfree rfl
  | parks hfree => exact hopen hfree (putPermit_closed _)
  | leaves =>
      rw [putPermit_closed] at hclosed
      rw [putPermit_idle]
      exact hp hclosed
  | shuts hidle => exact hidle
  | shutsIdle => rfl

/-- Whoever drains a pool that is closed and has nothing idle drained it before, and has not more
left. -/
theorem Effect.draining {ι : Type} {name : β → ι} {news : List (Event β)}
    (h : Effect name p t p' news) (hidle : p.idle = [])
    (hu : p'.stage? u = some (.draining d rest)) :
    ∃ d' rest', p.stage? u = some (.draining d' rest') ∧ d :: rest <:+ d' :: rest' := by
  by_cases hut : u = t
  · subst hut
    have hset : ∀ {q : Pool β} {s : Stage β},
        (q.setStage u s).stage? u = some (.draining d rest) → s = .draining d rest :=
      fun hq => Option.some.inj ((stage?_setStage_self _ u _).symm.trans hq)
    have hback : ∀ {q : Pool β}, q.errands = p.errands.erase u →
        q.putPermit.1.stage? u ≠ some (.draining d rest) := fun {q} hq hdraining => by
      have hgone : q.stage? u = none := stage?_of_erase hq
      rcases putPermit_beside q u with hsame | ⟨-, hgranted⟩
      · exact absurd (hgone.symm.trans (hsame.symm.trans hdraining)) (by simp)
      · exact absurd (hgranted.symm.trans hdraining) (by simp)
    have hend : ∀ {q : Pool β}, q.errands = p.errands.erase u →
        q.stage? u ≠ some (.draining d rest) := fun hq hdraining =>
      absurd ((stage?_of_erase hq).symm.trans hdraining) (by simp)
    cases h with
    | nothing | shuts => exact ⟨d, rest, hu, List.suffix_refl _⟩
    | queues | reuses | opens => exact absurd (hset hu) (by simp)
    | moves _ hs =>
        obtain rfl := hset hu
        exact nomatch hs
    | shutsIdle hsome => exact absurd (hidle.symm.trans hsome) (by simp)
    | drains ht =>
        obtain ⟨rfl, rfl⟩ := Stage.draining.inj (hset hu)
        exact ⟨_, _, ht, List.suffix_cons _ _⟩
    | parks | leaves => exact absurd hu (hback rfl)
    | withdraws | refused | drained => exact absurd hu (hend rfl)
  · rcases h.beside hut with hsame | ⟨-, hgranted⟩
    · exact ⟨d, rest, hsame.symm.trans hu, List.suffix_refl _⟩
    · exact absurd (hgranted.symm.trans hu) (by simp)

/-- **Over a run** of possible pieces: a pool that closes has nothing idle. By induction over the
pieces of work. -/
theorem Becomes.emptied (h : Becomes p q) (hp : p.closed = true → p.idle = []) :
    q.closed = true → q.idle = [] := by
  induction h with
  | refl => exact hp
  | tail _ hstep ih =>
      obtain ⟨e, he, rfl⟩ := hstep
      exact (work_effect he (keepsNames_unnamed _ e)).emptied ih

/-- **Over a run** that begins with a closed pool without idle connections: the pool stays so, and
whoever drains it drained it at the beginning, and has not more left. By induction over the pieces
of work. -/
theorem Becomes.draining (h : Becomes p q) (hp : p.Accounted) (hclosed : p.closed = true)
    (hidle : p.idle = []) :
    q.closed = true ∧ q.idle = [] ∧ ∀ u d rest, q.stage? u = some (.draining d rest) →
      ∃ d' rest', p.stage? u = some (.draining d' rest') ∧ d :: rest <:+ d' :: rest' := by
  induction h with
  | refl => exact ⟨hclosed, hidle, fun u d rest hu => ⟨d, rest, hu, List.suffix_refl _⟩⟩
  | tail hrun hstep ih =>
      obtain ⟨e, he, rfl⟩ := hstep
      obtain ⟨hclosed', hidle', hdraining⟩ := ih
      have hsound := (Becomes.accounted hrun hp).1.sound
      have heffect := work_effect he (keepsNames_unnamed _ e)
      obtain ⟨hclosed'', hidle'', -⟩ := heffect.winds hsound hclosed' hidle'
      refine ⟨hclosed'', hidle'', fun u d rest hu => ?_⟩
      obtain ⟨d', rest', hu', hsuffix⟩ := heffect.draining hidle' hu
      obtain ⟨d₀, rest₀, hu₀, hsuffix₀⟩ := hdraining u d' rest' hu'
      exact ⟨d₀, rest₀, hu₀, hsuffix.trans hsuffix₀⟩

/-- **A closed pool that everybody has left.** Whatever has happened since, its counter is what was
left behind. -/
theorem Loses.abandoned {config : Config} {dialect : Dialect}
    (hcreate : create config dialect = .ok p₀) (h : Loses p₀ p r m) (hclosed : p.closed = true)
    (hlater : Loses p p' r' m')
    (hall : ∀ u s, p'.stage? u = some s → s = .queued ∨ s = .granted) :
    p'.live = r + m + (r' + m') := by
  obtain ⟨q, hbecomes, hq, -, rfl⟩ := h.of_create hcreate
  obtain ⟨rfl, -⟩ := create_eq_ok hcreate
  have hidle : q.idle = [] := hbecomes.emptied (fun _ => rfl) hclosed
  obtain ⟨q', hbecomes', rfl⟩ := hlater.proper hq
  obtain ⟨-, hidle', -⟩ := hbecomes'.draining hq hclosed hidle
  have hq' : q'.Accounted := (hbecomes'.accounted hq).1
  have hslots : q'.total Stage.slots = 0 := total_eq_zero hq'.sound.distinct fun u s hs => by
    rcases hall u s hs with rfl | rfl <;> rfl
  have hlive : q'.live = 0 := by
    rw [hq'.live, hidle', hslots]
    rfl
  change q'.live + (r + m + r' + m') = _
  omega

/-- **A closing at one of its waits.** The errand `t` closes a pool and closes one connection after
the other: the connection that it closes now and those that it has not come to were the last ones
that were idle, and nobody else drains the pool. -/
theorem close_draining (hq : q.Accounted) (hempty : q.closed = true → q.idle = [])
    (ht : q.stage? t = none) (h : Becomes (q.close t).1 p)
    (hdraining : p.stage? t = some (.draining d rest)) :
    (∃ done, q.idle = done ++ d :: rest) ∧ p.closed = true ∧
      ∀ u d rest, u ≠ t → p.stage? u ≠ some (.draining d rest) := by
  obtain ⟨-, hclosed, hidle, hothers⟩ := close_eq q t
  have hleads : Leads q (q.work (.close t)) (q.Vacates (.close t)) := hq.work ht
  obtain ⟨hclosed', -, hall⟩ := h.draining hleads.accounted hclosed hidle
  obtain ⟨d', rest', hbegin, hsuffix⟩ := hall t d rest hdraining
  obtain ⟨c, more, hsome⟩ : ∃ c more, q.idle = c :: more := by
    cases hnone : q.idle with
    | cons c more => exact ⟨c, more, rfl⟩
    | nil =>
        have hnothing : (q.close t).1.stage? t = q.stage? t := by
          simp only [close, hnone]
          rfl
        exact absurd (ht.symm.trans (hnothing.symm.trans hbegin)) (by simp)
  have hopen : q.closed = false := by
    cases hc : q.closed with
    | false => rfl
    | true => exact absurd (hsome.symm.trans (hempty hc)) (by simp)
  have hstart : (q.close t).1.stage? t = some (.draining c more) := by
    simp only [close, hsome]
    exact stage?_setStage_self _ t _
  obtain ⟨rfl, rfl⟩ := Stage.draining.inj (Option.some.inj (hbegin.symm.trans hstart))
  obtain ⟨done, hdone⟩ := hsuffix
  refine ⟨⟨done, hsome.trans hdone.symm⟩, hclosed', fun u e left hu hother => ?_⟩
  obtain ⟨e', left', hother', -⟩ := hall u e left hother
  rw [hothers u hu] at hother'
  exact absurd (hq.sound.undrained hopen u _ hother') (Nat.succ_ne_zero _)

/-- **A closing at one of its waits**, where errands may be lost before: beside its own connections
nobody drains the pool. -/
theorem Loses.at_wait {config : Config} {dialect : Dialect}
    (hcreate : create config dialect = .ok p₀) (h : Loses p₀ p r m) (ht : p.stage? t = none)
    (hclose : Loses (p.close t).1 p' r' m') (hdraining : p'.stage? t = some (.draining d rest)) :
    (∃ done, p.idle = done ++ d :: rest) ∧ p'.closed = true ∧ 0 < p'.live ∧
      (p'.endErrand t).total Stage.undrained = 0 := by
  obtain ⟨q, hbecomes, hq, -, rfl⟩ := h.of_create hcreate
  obtain ⟨rfl, -⟩ := create_eq_ok hcreate
  have hempty : q.closed = true → q.idle = [] := hbecomes.emptied fun _ => rfl
  have hshift : ((q.overcounted (r + m)).close t).1 = (q.close t).1.overcounted (r + m) :=
    overcounted_work (e := .close t) ht False.elim
  rw [hshift] at hclose
  have hleads : Leads q (q.work (.close t)) (q.Vacates (.close t)) := hq.work ht
  obtain ⟨q', hbecomes', rfl⟩ := hclose.proper hleads.accounted
  have hq' : q'.Accounted := (hbecomes'.accounted hleads.accounted).1
  obtain ⟨hdone, hclosed, hothers⟩ := close_draining hq hempty ht hbecomes' hdraining
  refine ⟨hdone, hclosed, Nat.add_pos_left (hq'.live_pos hdraining (Nat.succ_pos _)) _, ?_⟩
  have hdistinct : (q'.endErrand t).errands.keys.Nodup :=
    Registry.keys_nodup_erase hq'.sound.distinct t
  refine total_eq_zero (p := q'.endErrand t) hdistinct fun u s hu => ?_
  rw [stage?_endErrand] at hu
  split_ifs at hu with hut
  cases s with
  | draining e more => exact absurd hu (hothers u e more hut)
  | _ => rfl

/-- **Closings.** In every state that a pool reaches that was created, whatever errands are lost,
an errand closes the pool, and is lost at any of its waits, while it closes the connection `d`, with
the connections in `rest` still to come: the slot of `d` is given back, those of `rest` are left
behind, and the counter is what is idle, with its holder, being opened or on its way back, and all
the slots that were left behind. So it is right exactly if none was left behind before and `rest` is
empty, and when everybody has given back what they hold, it is what was left behind. -/
theorem Loses.closing {config : Config} {dialect : Dialect}
    (hcreate : create config dialect = .ok p₀) (h : Loses p₀ p r m) (ht : p.stage? t = none)
    (hclose : Loses (p.close t).1 p' r' m') (hdraining : p'.stage? t = some (.draining d rest)) :
    (∃ done, p.idle = done ++ d :: rest) ∧
      (p'.work (.cancel t)).live + 1 = p'.live ∧
      (p'.work (.cancel t)).live =
        (p'.work (.cancel t)).attended + (r + r' + (m + m' + rest.length)) ∧
      ((p'.work (.cancel t)).live = (p'.work (.cancel t)).attended ↔
        r + r' + (m + m') = 0 ∧ rest = []) ∧
      ∀ p₂ r₂ m₂, Loses (p'.work (.cancel t)) p₂ r₂ m₂ →
        (∀ u s, p₂.stage? u = some s → s = .queued ∨ s = .granted) →
          p₂.live = r + r' + (m + m' + rest.length) + (r₂ + m₂) := by
  obtain ⟨hdone, hclosed, hpos, hundrained⟩ := h.at_wait hcreate ht hclose hdraining
  have hlost : p'.work (.cancel t) = { p'.endErrand t with live := p'.live - 1 } := by
    simp only [Pool.work, Pool.cancel, hdraining]
    rfl
  have hrun : Loses p₀ (p'.work (.cancel t)) (r + r') (m + m' + rest.length) := by
    have hwork := ((h.work (e := .close t) ht).trans hclose).work (e := .cancel t) trivial
    have hunreturned : p'.unreturned (.cancel t) = 0 := by simp only [unreturned, hdraining]
    have hundone : p'.undone (.cancel t) = rest.length := by simp only [undone, hdraining]
    rwa [hunreturned, hundone] at hwork
  have hlive : (p'.work (.cancel t)).live =
      (p'.work (.cancel t)).attended + (r + r' + (m + m' + rest.length)) := by
    have hnone : (p'.work (.cancel t)).total Stage.undrained = 0 := by
      rw [hlost]
      exact hundrained
    rw [hrun.live hcreate, existing, hnone, Nat.add_zero]
  refine ⟨hdone, ?_, hlive, ?_, fun p₂ r₂ m₂ hlater hall => ?_⟩
  · rw [hlost]
    exact Nat.sub_add_cancel hpos
  · rw [hlive, ← List.length_eq_zero_iff]
    omega
  · have hclosed' : (p'.work (.cancel t)).closed = true := by
      rw [hlost]
      exact hclosed
    exact hrun.abandoned hcreate hclosed' hlater hall

/-- A pool of size two with two idle connections. -/
def sampleIdle : Pool Nat :=
  [.ask 0, .opened 0 7 0, .ask 1, .opened 1 8 0, .startReturn 0 1 true, .resetDone 0 7 true,
    .startReturn 1 1 true, .resetDone 1 8 true].foldl work (new { size := 2 } Sqlite.dialect)

/-- Nothing is left behind on the way. -/
theorem sampleIdle_loses : Loses (new { size := 2 } Sqlite.dialect) sampleIdle 0 0 :=
  have hnew := @Loses.refl Nat (new { size := 2 } Sqlite.dialect)
  have hfirst := (hnew.work (e := .ask 0) rfl).work (e := .opened 0 7 0) trivial
  have hboth := (hfirst.work (e := .ask 1) rfl).work (e := .opened 1 8 0) trivial
  have hback := (hboth.work (e := .startReturn 0 1 true) trivial).work
    (e := .resetDone 0 7 true) trivial
  (hback.work (e := .startReturn 1 1 true) trivial).work (e := .resetDone 1 8 true) trivial

/-- The closing is lost while it closes the first connection. Nothing is idle then and nobody is
left, but the second connection still counts. -/
theorem lost_closing_overcounts :
    sampleIdle.idle = [⟨7, 0⟩, ⟨8, 0⟩] ∧ sampleIdle.live = 2 ∧
      ((sampleIdle.close 2).1.work (.cancel 2)).errands.keys = [] ∧
      ((sampleIdle.close 2).1.work (.cancel 2)).attended = 0 ∧
      ((sampleIdle.close 2).1.work (.cancel 2)).live = 1 :=
  ⟨rfl, rfl, rfl, rfl, rfl⟩

/-- The counter is too high by the connection that was still to come, and stays so. -/
theorem closing_sampleIdle :
    ((sampleIdle.close 2).1.work (.cancel 2)).live =
        ((sampleIdle.close 2).1.work (.cancel 2)).attended + (0 + 0 + (0 + 0 + 1)) ∧
      ((sampleIdle.close 2).1.work (.cancel 2)).live = 0 + 0 + (0 + 0 + 1) + (0 + 0) :=
  have hcreate : create { size := 2 } Sqlite.dialect =
      .ok (new { size := 2 } Sqlite.dialect : Pool Nat) := rfl
  have hdraining : (sampleIdle.close 2).1.stage? 2 = some (.draining ⟨7, 0⟩ [⟨8, 0⟩]) := rfl
  have hclosing := Loses.closing hcreate sampleIdle_loses rfl .refl hdraining
  ⟨hclosing.2.2.1, hclosing.2.2.2.2 _ 0 0 .refl nofun⟩

end Pool

end TableGateway
