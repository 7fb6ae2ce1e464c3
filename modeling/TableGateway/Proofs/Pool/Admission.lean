import TableGateway.Proofs.Pool.Departures

/-!
# Fair admission

As long as a pool is open, permits are given in the order of arrival: those who arrived and did not
give up are, in that order, first those who were given a permit and then those who stand in the
queue. No permit lies free while somebody waits. Idle connections are a queue of their own: those
that became idle are, in that order, first those that were used again and then those that are idle.

## Main results

* `Pool.Effect.orderly`: what one piece of work preserves.
* `Pool.Runs.admission`: any run of an open pool.
-/

namespace TableGateway

variable {β ι : Type}

/-- Whoever neither waits nor drains a pool holds a permit. -/
theorem Stage.permits_pos {s : Stage β} (hs : s ≠ .queued) (hd : s.undrained = 0) :
    0 < s.permits := by
  cases s with
  | queued => exact absurd rfl hs
  | draining => exact absurd hd (Nat.succ_ne_zero _)
  | _ => exact Nat.one_pos

namespace Pool

/-! ### Those who arrived -/

section

variable {log news : List (Event β)} {t : Ticket}

/-- The errands that arrived and did not give up waiting, in the order of arrival. -/
def standing (log : List (Event β)) : List Ticket :=
  (arrivals log).filter fun t => t ∉ withdrawals log

/-- Nobody arrives twice, and only those give up who arrived. -/
structure Distinct (log : List (Event β)) : Prop where
  nodup : (arrivals log).Nodup
  arrived : ∀ t ∈ withdrawals log, t ∈ arrivals log

/-- News of nobody who arrives or gives up. -/
theorem standing_keep (harrivals : arrivals news = []) (hwithdrawals : withdrawals news = []) :
    standing (log ++ news) = standing log := by
  rw [standing, arrivals_append, harrivals, withdrawals_append, hwithdrawals, List.append_nil,
    List.append_nil]
  rfl

namespace Distinct

variable (h : Distinct log)

include h

/-- News of nobody who arrives or gives up. -/
theorem keep (harrivals : arrivals news = []) (hwithdrawals : withdrawals news = []) :
    Distinct (log ++ news) := by
  constructor
  · rw [arrivals_append, harrivals, List.append_nil]
    exact h.nodup
  · rw [arrivals_append, harrivals, withdrawals_append, hwithdrawals, List.append_nil,
      List.append_nil]
    exact h.arrived

/-- Whoever arrives stands behind the others. -/
theorem arrive (news : List (Event β)) (harrivals : arrivals news = [t])
    (hwithdrawals : withdrawals news = []) (hnew : t ∉ arrivals log) :
    Distinct (log ++ news) ∧ standing (log ++ news) = standing log ++ [t] := by
  have hstays : t ∉ withdrawals log := fun hmem => hnew (h.arrived t hmem)
  refine ⟨⟨?_, fun u hu => ?_⟩, ?_⟩
  · rw [arrivals_append, harrivals, List.nodup_append]
    refine ⟨h.nodup, by simp, ?_⟩
    rintro u hu v hv rfl
    exact hnew (List.mem_singleton.mp hv ▸ hu)
  · rw [withdrawals_append, hwithdrawals, List.append_nil] at hu
    rw [arrivals_append]
    exact List.mem_append_left _ (h.arrived u hu)
  · rw [standing, arrivals_append, harrivals, withdrawals_append, hwithdrawals, List.append_nil,
      List.filter_append, List.filter_singleton, decide_eq_true hstays]
    rfl

/-- Whoever gives up does not stand there any more. -/
theorem withdraw (ht : t ∈ arrivals log) :
    Distinct (log ++ [.withdrew t]) ∧
      standing (log ++ [.withdrew t]) = (standing log).filter fun u => u != t := by
  have harr : arrivals (log ++ [.withdrew t]) = arrivals log :=
    (arrivals_append _ _).trans (List.append_nil _)
  have hwith : withdrawals (log ++ [.withdrew t]) = withdrawals log ++ [t] :=
    withdrawals_append _ _
  refine ⟨⟨?_, fun u hu => ?_⟩, ?_⟩
  · rw [harr]
    exact h.nodup
  · rw [hwith] at hu
    rw [harr]
    rcases List.mem_append.mp hu with hold | hlast
    · exact h.arrived u hold
    · exact List.mem_singleton.mp hlast ▸ ht
  · rw [standing, standing, harr, hwith, List.filter_filter]
    refine List.filter_congr fun u _ => ?_
    by_cases hut : u = t <;> simp [hut]

/-- Nobody stands there twice. -/
theorem standing_nodup : (standing log).Nodup := h.nodup.filter _

end Distinct

end

/-! ### The order in an open pool -/

/-- The order in a pool that is open, with the record of its run: whoever waits stands in the queue,
a permit is free only while nobody waits, permits have been given in the order of arrival, and
idle connections have been used again in the order in which they became idle. -/
structure Orderly (p : Pool β) (log : List (Event β)) : Prop where
  waits : ∀ t, p.stage? t = some .queued → t ∈ p.queue
  free : 0 < p.permits → p.queue = []
  distinct : Distinct log
  admitted : ∀ t s, p.stage? t = some s → 0 < s.permits → t ∈ admissions log
  order : standing log = admissions log ++ p.queue
  idle : parkings log = reuses log ++ p.idle

namespace Orderly

variable {p p' : Pool β} {log news : List (Event β)} {t : Ticket}

/-- A new pool. -/
theorem new (config : Config) (dialect : Dialect) :
    (Pool.new config dialect : Pool β).Orderly [] where
  waits := fun t h => by simp [Pool.new, stage?, Registry.get?, Registry.empty] at h
  free := fun _ => rfl
  distinct := ⟨List.nodup_nil, nofun⟩
  admitted := fun t s h => by simp [Pool.new, stage?, Registry.get?, Registry.empty] at h
  order := rfl
  idle := rfl

/-- Where no connection becomes idle and none is used again, their order is kept. -/
theorem idle_keep (h : p.Orderly log) (hparkings : parkings news = [])
    (hreuses : reuses news = []) :
    parkings (log ++ news) = reuses (log ++ news) ++ p.idle := by
  rw [parkings_append, hparkings, reuses_append, hreuses, List.append_nil, List.append_nil]
  exact h.idle

/-- Nobody arrives, gives up or is given a permit. Errands may end, or move to a stage where they do
not wait. -/
theorem keep (h : p.Orderly log) (hqueue : p'.queue = p.queue) (hfree : p'.permits = p.permits)
    (hidle : p.idle ++ parkings news = reuses news ++ p'.idle)
    (hstages : ∀ u s, p'.stage? u = some s →
      p.stage? u = some s ∨ s ≠ .queued ∧ (0 < s.permits → u ∈ admissions log))
    (harrivals : arrivals news = []) (hadmissions : admissions news = [])
    (hwithdrawals : withdrawals news = []) : p'.Orderly (log ++ news) where
  waits := fun u hu => by
    rcases hstages u _ hu with hsame | ⟨hne, -⟩
    · rw [hqueue]
      exact h.waits u hsame
    · exact absurd rfl hne
  free := by
    rw [hqueue, hfree]
    exact h.free
  distinct := h.distinct.keep harrivals hwithdrawals
  admitted := fun u s hu hs => by
    rw [admissions_append, hadmissions, List.append_nil]
    rcases hstages u s hu with hsame | ⟨-, hnew⟩
    · exact h.admitted u s hsame hs
    · exact hnew hs
  order := by
    rw [standing_keep harrivals hwithdrawals, admissions_append, hadmissions, List.append_nil,
      hqueue]
    exact h.order
  idle := by
    rw [parkings_append, reuses_append, h.idle, List.append_assoc, hidle, List.append_assoc]

/-- A permit comes back: it is free if nobody waits, and else it goes to whoever arrived first. -/
theorem putPermit (h : p.Orderly log) :
    p.putPermit.1.Orderly (log ++ admission p.putPermit.2) := by
  unfold Pool.putPermit
  split
  · next hq =>
      have hlog : log ++ admission (β := β) none = log := List.append_nil log
      rw [hlog]
      exact ⟨h.waits, fun _ => hq, h.distinct, h.admitted, h.order, h.idle⟩
  · next t rest hq =>
      have hstage : ∀ u, (({ p with queue := rest } : Pool β).setStage t .granted).stage? u =
          if u = t then some .granted else p.stage? u := fun u => stage?_setStage _ t u _
      obtain ⟨harr, hadm, hwith, hreu, hpark, -⟩ := reads_admission (β := β) (some t)
      constructor
      · intro u hu
        rw [hstage] at hu
        split_ifs at hu with hut
        · exact nomatch hu
        · have hmem := h.waits u hu
          rw [hq] at hmem
          exact (List.mem_cons.mp hmem).resolve_left hut
      · intro hpos
        exact absurd (hq.symm.trans (h.free hpos)) (by simp)
      · exact h.distinct.keep harr hwith
      · intro u s hu hpos
        rw [admissions_append, hadm]
        rw [hstage] at hu
        split_ifs at hu with hut
        · exact List.mem_append_right _ (by simp [hut])
        · exact List.mem_append_left _ (h.admitted u s hu hpos)
      · rw [standing_keep harr hwith, admissions_append, hadm, h.order, hq]
        exact (List.append_assoc _ [t] rest).symm
      · exact h.idle_keep hpark hreu

/-- An errand asks and waits. -/
theorem enqueue (h : p.Orderly log) (hnone : p.permits = 0) (hnew : t ∉ arrivals log) :
    (({ p with queue := p.queue ++ [t] } : Pool β).setStage t .queued).Orderly
      (log ++ [.arrived t]) := by
  have hstage : ∀ u, (({ p with queue := p.queue ++ [t] } : Pool β).setStage t .queued).stage? u =
      if u = t then some .queued else p.stage? u := fun u => stage?_setStage _ t u _
  obtain ⟨hdistinct, hstanding⟩ := h.distinct.arrive [.arrived t] rfl rfl hnew
  have hadm : admissions (log ++ [.arrived t]) = admissions log :=
    (admissions_append _ _).trans (List.append_nil _)
  constructor
  · intro u hu
    rw [hstage] at hu
    split_ifs at hu with hut
    · exact List.mem_append_right _ (by simp [hut])
    · exact List.mem_append_left _ (h.waits u hu)
  · intro hpos
    exact absurd hnone (Nat.pos_iff_ne_zero.mp hpos)
  · exact hdistinct
  · intro u s hu hpos
    rw [hadm]
    rw [hstage] at hu
    split_ifs at hu with hut
    · obtain rfl := Option.some.inj hu
      exact absurd hpos (Nat.lt_irrefl 0)
    · exact h.admitted u s hu hpos
  · rw [hstanding, hadm, h.order]
    exact List.append_assoc _ _ _
  · exact h.idle_keep rfl rfl

/-- Whoever has a permit in hand has been given one in turn. -/
theorem inHand (h : p.Orderly log) {q : Pool β} (hand : p.InHand t q news)
    (hnew : ∀ u ∈ arrivals news, u ∉ arrivals log) :
    q.Orderly (log ++ news) ∧ t ∈ admissions (log ++ news) := by
  cases hand with
  | granted ht =>
      rw [List.append_nil]
      exact ⟨h, h.admitted t _ ht Nat.one_pos⟩
  | @atOnce n hfree _ =>
      -- A permit was free, so nobody waits whom the errand could pass.
      have hqueue : p.queue = [] := h.free (by omega)
      obtain ⟨hdistinct, hstanding⟩ := h.distinct.arrive [.arrived t, .admitted t] rfl rfl
        (hnew t List.mem_cons_self)
      have hadm : admissions (log ++ [.arrived t, .admitted t]) = admissions log ++ [t] :=
        admissions_append _ _
      rw [hadm]
      refine ⟨⟨h.waits, fun _ => hqueue, hdistinct, ?_, ?_, ?_⟩, ?_⟩
      · rw [hadm]
        exact fun u s hu hpos => List.mem_append_left _ (h.admitted u s hu hpos)
      · rw [hstanding, hadm, h.order, hqueue, List.append_nil, List.append_nil]
      · exact h.idle_keep rfl rfl
      · exact List.mem_append_right _ List.mem_cons_self

/-- An errand gives up waiting. -/
theorem withdraw (h : p.Orderly log) (ht : p.stage? t = some .queued) :
    (({ p with queue := p.queue.filter fun q => q != t } : Pool β).endErrand t).Orderly
      (log ++ [.withdrew t]) := by
  have hmem : t ∈ p.queue := h.waits t ht
  have hstands : t ∈ standing log := by
    rw [h.order]
    exact List.mem_append_right _ hmem
  obtain ⟨hdistinct, hstanding⟩ := h.distinct.withdraw (List.mem_of_mem_filter hstands)
  have hnot : t ∉ admissions log := by
    have hnodup := h.distinct.standing_nodup
    rw [h.order, List.nodup_append] at hnodup
    exact fun hadm => hnodup.2.2 t hadm t hmem rfl
  have hadm : admissions (log ++ [.withdrew t]) = admissions log :=
    (admissions_append _ _).trans (List.append_nil _)
  have hstage : ∀ u, (({ p with queue := p.queue.filter fun q => q != t } : Pool β).endErrand
      t).stage? u = if u = t then none else p.stage? u := fun u => stage?_endErrand _ t u
  constructor
  · intro u hu
    rw [hstage] at hu
    split_ifs at hu with hut
    exact List.mem_filter.mpr ⟨h.waits u hu, by simpa using hut⟩
  · intro hpos
    change (p.queue.filter fun q => q != t) = []
    rw [h.free hpos]
    rfl
  · exact hdistinct
  · intro u s hu hpos
    rw [hadm]
    rw [hstage] at hu
    split_ifs at hu with hut
    exact h.admitted u s hu hpos
  · rw [hstanding, hadm, h.order, List.filter_append]
    congr 1
    refine List.filter_eq_self.mpr fun u hu => ?_
    have hne : u ≠ t := by
      rintro rfl
      exact hnot hu
    simpa using hne
  · exact h.idle_keep rfl rfl

/-- Nobody is admitted who arrived after somebody in the queue: the order of arrival keeps those who
were admitted in front of the queue, and nobody stands in it twice. -/
theorem unpassed (h : p.Orderly log) {t u : Ticket} (harrivals : [t, u].Sublist (arrivals log))
    (ht : t ∈ p.queue) : u ∉ admissions log := by
  intro hu
  have hnodup := h.distinct.standing_nodup
  rw [h.order, List.nodup_append] at hnodup
  have hstands : ∀ v, v ∈ admissions log ∨ v ∈ p.queue → v ∉ withdrawals log := fun v hv => by
    have hmem : v ∈ standing log := by
      rw [h.order]
      exact List.mem_append.mpr hv
    exact of_decide_eq_true (List.mem_filter.mp hmem).2
  have hboth : [t, u].Sublist (admissions log ++ p.queue) := by
    have hkeep : ([t, u].filter fun v => v ∉ withdrawals log) = [t, u] :=
      List.filter_eq_self.mpr (by simpa using ⟨hstands t (.inr ht), hstands u (.inl hu)⟩)
    rw [← h.order, ← hkeep]
    exact harrivals.filter _
  obtain ⟨front, back, hsplit, hfront, hback⟩ := List.sublist_append_iff.mp hboth
  cases front with
  | nil =>
      have hmem : u ∈ p.queue := hback.subset (by rw [← List.nil_append back, ← hsplit]; simp)
      exact hnodup.2.2 u hu u hmem rfl
  | cons v front =>
      obtain rfl : t = v := (List.cons.inj hsplit).1
      exact hnodup.2.2 t (hfront.subset List.mem_cons_self) t ht rfl

end Orderly

/-! ### Pieces of work -/

/-- Whoever has a connection, or opens one, keeps its permit when it moves. -/
theorem Moves.permits {name : β → ι} {t : Ticket} {s s' : Stage β} {news : List (Event β)}
    (h : Moves name t s s' news) : 0 < s.permits ∧ s' ≠ .queued := by
  cases h with
  | opened | used | dropped | spoiled => exact ⟨Nat.one_pos, nofun⟩
  | toReset hs | toClose hs => rcases hs with rfl | rfl <;> exact ⟨Nat.one_pos, nofun⟩

/-- Whoever moves on with its connection is no news to the order. -/
theorem Moves.reads {name : β → ι} {t : Ticket} {s s' : Stage β} {news : List (Event β)}
    (h : Moves name t s s' news) :
    arrivals news = [] ∧ admissions news = [] ∧ withdrawals news = [] ∧ reuses news = [] ∧
      parkings news = [] := by
  cases h <;> exact ⟨rfl, rfl, rfl, rfl, rfl⟩

/-- Whoever ends with what it held is no news to the order. -/
theorem Gone.reads {s : Stage β} {news : List (Event β)} (h : Gone s news) :
    arrivals news = [] ∧ admissions news = [] ∧ withdrawals news = [] ∧ reuses news = [] ∧
      parkings news = [] := by
  cases h <;> exact ⟨rfl, rfl, rfl, rfl, rfl⟩

section

variable {name : β → ι} {p p' : Pool β} {log news : List (Event β)} {t : Ticket}

/-- A pool that is closed is not opened again. -/
theorem Effect.closed_mono (h : Effect name p t p' news) (hclosed : p.closed = true) :
    p'.closed = true := by
  cases h with
  | nothing | moves | withdraws | refused | drains | drained => exact hclosed
  | shuts | shutsIdle => rfl
  | queues hopen | reuses hopen | opens hopen | parks hopen =>
      exact absurd hopen (by rw [hclosed]; decide)
  | leaves => exact (putPermit_closed _).trans hclosed

/-- **One piece of work.** As long as the pool is open, its order is kept. By the effect of the
piece: an errand that asks joins the end of the queue or is admitted at once, a permit that comes
back admits whoever waits longest, and nothing else touches the order. -/
theorem Effect.orderly (h : Effect name p t p' news) (hp : p.Sound) (ho : p.Orderly log)
    (hnew : ∀ u ∈ arrivals news, u ∉ arrivals log) (hopen : p'.closed = false) :
    p'.Orderly (log ++ news) := by
  have hset : ∀ (q : Pool β) (s : Stage β) (u : Ticket), (q.setStage t s).stage? u =
      if u = t then some s else q.stage? u := fun q s u => stage?_setStage q t u s
  have hend : ∀ (q : Pool β) (u : Ticket) (s : Stage β), (q.endErrand t).stage? u = some s →
      q.stage? u = some s := fun q u s hu => by
    rw [stage?_endErrand] at hu
    split_ifs at hu
    exact hu
  cases h with
  | nothing =>
      rw [List.append_nil]
      exact ho
  | queues _ hnone => exact ho.enqueue hnone (hnew t List.mem_cons_self)
  | @reuses q news c rest _ hand hidle =>
      have harrivals : arrivals (news ++ [.reused t c]) = arrivals news := by
        rw [arrivals_append]
        exact List.append_nil _
      rw [harrivals] at hnew
      obtain ⟨hq, hadmitted⟩ := ho.inHand hand hnew
      have hqidle : q.idle = c :: rest := by cases hand <;> exact hidle
      rw [← List.append_assoc]
      refine hq.keep rfl rfl ((List.append_nil _).trans hqidle) (fun u s hu => ?_) rfl rfl rfl
      rw [hset] at hu
      split_ifs at hu with hut
      · obtain rfl := Option.some.inj hu
        exact .inr ⟨nofun, fun _ => hut ▸ hadmitted⟩
      · exact .inl hu
  | @opens q _ _ hand =>
      obtain ⟨hq, hadmitted⟩ := ho.inHand hand hnew
      rw [← List.append_nil (log ++ news)]
      refine hq.keep rfl rfl (List.append_nil _) (fun u s hu => ?_) rfl rfl rfl
      rw [hset] at hu
      split_ifs at hu with hut
      · obtain rfl := Option.some.inj hu
        exact .inr ⟨nofun, fun _ => hut ▸ hadmitted⟩
      · exact .inl hu
  | moves ht hs =>
      obtain ⟨harr, hadm, hwith, hreu, hpark⟩ := hs.reads
      obtain ⟨hpos, hne⟩ := hs.permits
      refine ho.keep rfl rfl ?_ (fun u s hu => ?_) harr hadm hwith
      · rw [hpark, hreu]
        exact List.append_nil _
      · rw [hset] at hu
        split_ifs at hu with hut
        · obtain rfl := Option.some.inj hu
          exact .inr ⟨hne, fun _ => hut ▸ ho.admitted t _ ht hpos⟩
        · exact .inl hu
  | @parks c backend =>
      have hleft : (({ p with idle := p.idle ++ [⟨backend, c.created⟩] } : Pool β).endErrand
          t).Orderly (log ++ [.parked ⟨backend, c.created⟩]) :=
        ho.keep rfl rfl rfl (fun u s hu => .inl (hend _ u s hu)) rfl rfl rfl
      have hback := hleft.putPermit
      rw [List.append_assoc] at hback
      exact hback
  | @leaves s gone ht hs =>
      obtain ⟨harr, hadm, hwith, hreu, hpark⟩ := hs.reads
      have hleft : ({ p.endErrand t with live := p.live - s.slots } : Pool β).Orderly
          (log ++ gone) := by
        refine ho.keep rfl rfl ?_ (fun u s hu => .inl (hend p u s hu)) harr hadm hwith
        rw [hpark, hreu]
        exact List.append_nil _
      have hback := hleft.putPermit
      rw [List.append_assoc] at hback
      exact hback
  | withdraws ht => exact ho.withdraw ht
  | refused hclosed => exact absurd (hclosed.symm.trans hopen) (by decide)
  | shuts | shutsIdle => exact nomatch hopen
  | drains ht | drained ht =>
      exact absurd ((hp.closed_of_undrained ht (Nat.succ_pos _)).symm.trans hopen) (by decide)

/-- An errand comes to open a connection only while none is idle. -/
theorem Effect.opening (h : Effect name p t p' news) {u : Ticket}
    (hu : p'.stage? u = some .opening) (hnot : p.stage? u ≠ some .opening) : p.idle = [] := by
  by_cases hut : u = t
  · subst hut
    have hset : ∀ (q : Pool β) (s : Stage β), (q.setStage u s).stage? u = some s :=
      fun q s => stage?_setStage_self q u s
    have hend : ∀ q : Pool β, (q.endErrand u).stage? u = none := fun q => stage?_of_erase rfl
    have hput : ∀ q : Pool β, q.stage? u = none → q.putPermit.1.stage? u ≠ some .opening :=
      fun q hq => by
        rcases putPermit_beside q u with hsame | ⟨-, hgranted⟩
        · rw [hsame, hq]
          exact nofun
        · rw [hgranted]
          exact nofun
    cases h with
    | nothing => exact absurd hu hnot
    | opens _ _ hidle | shuts hidle => exact hidle
    | queues | reuses | shutsIdle | drains => exact nomatch (hset _ _).symm.trans hu
    | moves ht hs =>
        obtain rfl := Option.some.inj ((hset _ _).symm.trans hu)
        exact nomatch hs
    | parks => exact absurd hu (hput _ (hend _))
    | leaves => exact absurd hu (hput _ (hend p))
    | withdraws | refused | drained => exact nomatch (hend _).symm.trans hu
  · rcases h.beside hut with hsame | ⟨-, hgranted⟩
    · exact absurd (hsame.symm.trans hu) hnot
    · exact nomatch hgranted.symm.trans hu

end

/-! ### Runs -/

/-- Whoever goes on with a permit has the connection that was idle longest, or opens one because
none was idle. -/
def Served (p p' : Pool β) (t : Ticket) : Prop :=
  (∃ c rest, p.idle = c :: rest ∧ p'.idle = rest ∧
      p'.stage? t = some (.out ⟨c.backend, c.created, false⟩)) ∨
    p.idle = [] ∧ p'.idle = [] ∧ p'.stage? t = some .opening

/-- Fair admission to an open pool, with the record of its run. -/
structure Fair (p : Pool β) (log : List (Event β)) : Prop where
  /-- The queue holds those who wait. -/
  waiting : ∀ t, p.stage? t = some .queued ↔ t ∈ p.queue
  /-- No permit is free while somebody waits. -/
  unspared : ∀ t, p.stage? t = some .queued → p.permits = 0
  /-- No permit is lost. -/
  permits : p.permits + (p.total Stage.admitted + p.total Stage.checkedOut +
    p.total Stage.beingOpened + p.total Stage.onItsWay) = p.config.size
  /-- Those who arrived and did not give up were admitted in the order of arrival, up to those who
  wait, who stand in the queue in the order of arrival. -/
  order : standing log = admissions log ++ p.queue
  /-- Permits are given in the order of arrival. -/
  in_turn : (admissions log).Sublist (arrivals log)
  /-- Nobody is admitted who arrived after somebody who waits. -/
  unpassed : ∀ t u, [t, u].Sublist (arrivals log) → p.stage? t = some .queued → u ∉ admissions log
  /-- Whoever does not wait has been admitted. -/
  admitted : ∀ t s, p.stage? t = some s → s ≠ .queued → t ∈ admissions log
  /-- Idle connections are used again in the order in which they became idle. -/
  idle : parkings log = reuses log ++ p.idle
  /-- Whoever was granted a permit is served as soon as it goes on. -/
  served : ∀ t, p.stage? t = some .granted → p.Served (p.resume t).1 t
  /-- Whoever asks is served, or waits behind the others if no permit is free. -/
  asked : ∀ t, p.stage? t = none →
    0 < p.permits ∧ p.Served (p.ask t).1 t ∨
      p.permits = 0 ∧ (p.ask t).1.stage? t = some .queued ∧ (p.ask t).1.queue = p.queue ++ [t]
  /-- Whatever comes next, a connection is opened only while none is idle, and one that is handed
  out was idle longest or is new. -/
  next : ∀ e, p.Possible e → ∀ u,
    ((p.work e).stage? u = some .opening → p.stage? u ≠ some .opening → p.idle = []) ∧
    ∀ k, (p.work e).stage? u = some (.out k) → (∀ k', p.stage? u ≠ some (.out k')) →
      p.stage? u = some .opening ∨
        ∃ c rest, p.idle = c :: rest ∧ k = ⟨c.backend, c.created, false⟩
  /-- Nobody waits when no connection is out, being opened or on its way back, and no permit is
  granted to somebody who has not gone on. -/
  quiet : (∀ t s, p.stage? t = some s → s = .queued) → ∀ t, p.stage? t ≠ some .queued
  /-- An errand whose open failed, whose connection was closed, discarded or became idle, or that
  was lost, has ended, and its slot and its permit are given back. -/
  departs : ∀ e n, p.Departs e n → p.GivesBack e.ticket n (p.work e)
  /-- Nothing else takes a permit: whoever holds one keeps it, whatever comes next, or ends with the
  piece and gives it back. -/
  preserves : ∀ e, p.Possible e → ∀ t s, p.stage? t = some s → 0 < s.permits →
    (∃ s', (p.work e).stage? t = some s' ∧ 0 < s'.permits) ∨
      e.ticket = t ∧ ∃ n, p.GivesBack t n (p.work e)
  /-- An errand whose open succeeded holds the new connection. -/
  connects : ∀ t backend now, p.stage? t = some .opening →
    (p.opened t backend now).stage? t = some (.out ⟨backend, now, false⟩)
  /-- An errand that gives up waiting has ended, and the others wait on as they did. -/
  withdraws : ∀ t, p.stage? t = some .queued →
    (p.cancel t).1.stage? t = none ∧ (p.cancel t).1.queue = (p.queue.filter fun u => u != t) ∧
      (p.cancel t).1.permits = p.permits ∧ (p.cancel t).1.live = p.live ∧
      ∀ u, u ≠ t → (p.cancel t).1.stage? u = p.stage? u

section

variable {brings : Pool β → Piece β → Prop} {config : Config} {dialect : Dialect} {p₀ p : Pool β}
  {log : List (Event β)} {t : Ticket}

/-- Whoever has a permit goes on with it. -/
theorem proceed_served (p : Pool β) (t : Ticket) : p.Served (p.proceed t).1 t := by
  unfold Pool.proceed
  split
  · next c rest hidle =>
      exact .inl ⟨c, rest, hidle, rfl, stage?_setStage_self _ t _⟩
  · next hidle => exact .inr ⟨hidle, hidle, stage?_setStage_self _ t _⟩

/-- Whoever was granted a permit is served in an open pool. -/
theorem resume_served (hopen : p.closed = false) (ht : p.stage? t = some .granted) :
    p.Served (p.resume t).1 t := by
  rw [Pool.resume, ht]
  dsimp only
  rw [hopen]
  exact proceed_served p t

/-- Whoever asks an open pool is served, or waits. -/
theorem ask_served (hopen : p.closed = false) :
    0 < p.permits ∧ p.Served (p.ask t).1 t ∨
      p.permits = 0 ∧ (p.ask t).1.stage? t = some .queued ∧ (p.ask t).1.queue = p.queue ++ [t] := by
  unfold Pool.ask
  split_ifs with hclosed hnone
  · exact absurd (hopen.symm.trans hclosed) (by decide)
  · exact .inr ⟨hnone, stage?_setStage_self _ t _, rfl⟩
  · exact .inl ⟨Nat.pos_of_ne_zero hnone, proceed_served { p with permits := p.permits - 1 } t⟩

/-- In a pool where everybody waits, all permits are free. -/
theorem Accounted.permits_of_waiting (h : p.Accounted)
    (hall : ∀ t s, p.stage? t = some s → s = .queued) : p.permits = p.config.size := by
  have hzero : p.total Stage.permits = 0 := total_eq_zero h.sound.distinct fun t s hs => by
    rw [hall t s hs]
    rfl
  have hpermits := h.permits
  omega

/-- **Runs.** The order is kept as long as the pool is open. By induction over the pieces. -/
theorem Runs.orderly {y : Pool β × List (Event β)} (hcreate : create config dialect = .ok p₀)
    (h : Runs brings (p₀, []) y) (hopen : y.1.closed = false) : y.1.Orderly y.2 := by
  obtain ⟨rfl, -⟩ := create_eq_ok hcreate
  induction h with
  | refl => exact .new config dialect
  | @tail y _ hrun hstep ih =>
      cases hstep with
      | @work p log e hnext =>
          have heffect : Effect (fun _ => ()) p e.ticket (p.work e) (p.news e) :=
            work_effect hnext.possible (keepsNames_unnamed p e)
          -- No piece of work opens a closed pool, so this one was open before.
          have hstill : p.closed = false := by
            by_contra hclosed
            have hmono := heffect.closed_mono (by simpa using hclosed)
            exact absurd (hmono.symm.trans hopen) (by decide)
          have hsound := (Runs.accounted hrun (.new config dialect)).1.sound
          exact heffect.orderly hsound (ih hstill) hnext.new hopen

/-- **Fair admission.** In every run of a pool that was created, as long as it is open: no permit is
free while somebody waits, permits are given in the order of arrival, idle connections are used
again, the longest idle first, before a new one is opened, and whoever ends, also with an open that
failed, gives back what it held. -/
theorem Runs.fair (hcreate : create config dialect = .ok p₀) (h : Runs brings (p₀, []) (p, log))
    (hopen : p.closed = false) : p.Fair log := by
  have horder : p.Orderly log := Runs.orderly hcreate h hopen
  obtain ⟨rfl, hsize⟩ := create_eq_ok hcreate
  obtain ⟨haccounted, hconfig⟩ := Runs.accounted h (.new config dialect)
  have hwaiting : ∀ t, p.stage? t = some .queued ↔ t ∈ p.queue := fun t =>
    ⟨horder.waits t, haccounted.sound.queued t⟩
  have hunspared : ∀ t, p.stage? t = some .queued → p.permits = 0 := fun t ht => by
    by_contra hpos
    have hempty := horder.free (Nat.pos_of_ne_zero hpos)
    have hmem := horder.waits t ht
    rw [hempty] at hmem
    exact absurd hmem List.not_mem_nil
  have hpart : (admissions log).Sublist (standing log) := by
    rw [horder.order]
    exact List.sublist_append_left _ _
  have hpermits := haccounted.permits
  rw [Accounted.total_permits] at hpermits
  exact {
    waiting := hwaiting
    unspared := hunspared
    permits := hpermits
    order := horder.order
    in_turn := hpart.trans List.filter_sublist
    unpassed := fun t u harrivals ht => horder.unpassed harrivals (horder.waits t ht)
    admitted := fun t s ht hs => horder.admitted t s ht
      (Stage.permits_pos hs (haccounted.sound.undrained hopen t s ht))
    idle := horder.idle
    served := fun t ht => resume_served hopen ht
    asked := fun t _ => ask_served hopen
    next := fun e he u => by
      have heffect : Effect (fun _ => ()) p e.ticket (p.work e) (p.news e) :=
        work_effect he (keepsNames_unnamed p e)
      exact ⟨heffect.opening, fun k hk hnot =>
        (heffect.out hk hnot).elim .inr fun hopened => .inl hopened.1⟩
    quiet := fun hall t ht => by
      have hfree := haccounted.permits_of_waiting hall
      have hnone := hunspared t ht
      exact hsize ((congrArg Config.size hconfig).symm.trans (hfree.symm.trans hnone))
    departs := fun e n h => h.givesBack haccounted
    preserves := fun e he t s => keeps_or_givesBack haccounted he
    connects := fun t backend now ht => stage?_opened ht backend now
    withdraws := fun t => cancel_waiting }

/-- A pool of size one. The open of the first errand fails, and the second one, which waited, opens
a connection. Of the three that come then the first gives up waiting, and the connection comes
back. -/
def sampleWait : Pool Nat × List (Event Nat) :=
  follow (new { size := 1 } Sqlite.dialect, [])
    [.ask 0, .ask 1, .openFailed 0, .resume 1, .opened 1 7 0, .ask 2, .ask 3, .ask 4, .cancel 2,
      .startReturn 1 3 true, .resetDone 1 7 true]

/-- The run is one. -/
theorem sampleWait_runs :
    Runs (fun _ _ => True) (new { size := 1 } Sqlite.dialect, []) sampleWait := by
  refine .follow ⟨⟨rfl, by decide, trivial⟩, ⟨rfl, by decide, trivial⟩,
    ⟨trivial, by decide, trivial⟩, ⟨trivial, by decide, trivial⟩, ⟨trivial, by decide, trivial⟩,
    ⟨rfl, by decide, trivial⟩, ⟨rfl, by decide, trivial⟩, ⟨rfl, by decide, trivial⟩,
    ⟨fun s hs => ?_, by decide, trivial⟩, ⟨trivial, by decide, trivial⟩,
    ⟨trivial, by decide, trivial⟩, trivial⟩
  obtain rfl := Option.some.inj hs
  trivial

/-- At its end the first errand is gone with its slot and its permit, which the second one was
granted, and the fourth has the permit after it, ahead of the fifth, and the connection is there for
it. -/
theorem fair_sampleWait :
    create { size := 1 } Sqlite.dialect = .ok (new { size := 1 } Sqlite.dialect : Pool Nat) ∧
      sampleWait.1.closed = false ∧ admissions sampleWait.2 = [0, 1, 3] ∧
      sampleWait.1.stage? 0 = none ∧ sampleWait.1.queue = [4] ∧ sampleWait.1.idle = [⟨7, 0⟩] ∧
      sampleWait.1.live = 1 ∧ sampleWait.1.Fair sampleWait.2 :=
  have hcreate : create { size := 1 } Sqlite.dialect =
      .ok (new { size := 1 } Sqlite.dialect : Pool Nat) := rfl
  ⟨hcreate, rfl, rfl, rfl, rfl, rfl, rfl, Runs.fair hcreate sampleWait_runs rfl⟩

end

end Pool

end TableGateway
