import TableGateway.Proofs.Pool.Work

/-!
# Pool accounting

The counter `live` of a pool is the number of its idle connections plus the slots that its errands
hold, its free permits and the permits that its errands hold add up to its size, and `live` never
exceeds the size. Every piece of work preserves that, in whatever order pieces come, and whatever
answers, failures and losses they bring.

The bound on `live` needs an argument: slots and permits travel separately, and the connections of
a closed pool hold slots without permits. A slot is reserved only for an errand that holds a permit
and finds no idle connection, in a pool that is not closed. Then nobody drains the pool, every
other slot belongs to somebody with a permit, and so a slot is left.

## Main results

* `Pool.Accounted.work`: one piece of work.
* `Databases.accounts`: any run of any number of pools.
-/

namespace TableGateway

variable {β : Type}

namespace Pool

/-- Slots and permits add up, and the size is not exceeded. -/
structure Accounted (p : Pool β) : Prop where
  sound : p.Sound
  live : p.live = p.idle.length + p.total Stage.slots
  permits : p.permits + p.total Stage.permits = p.config.size
  bounded : p.live ≤ p.config.size

/-- A piece of work leads from `p` to `p'`: the books stay right, and the counter of live
connections goes down by exactly one if a slot is given back, and not at all otherwise. -/
structure Leads (p p' : Pool β) (vacates : Prop) : Prop where
  accounted : p'.Accounted
  vacated : vacates → p'.live + 1 = p.live
  kept : ¬ vacates → p.live ≤ p'.live
  config : p'.config = p.config

/-- A new pool. -/
theorem Accounted.new (config : Config) (dialect : Dialect) :
    (Pool.new (β := β) config dialect).Accounted where
  sound := .new config dialect
  live := rfl
  permits := rfl
  bounded := Nat.zero_le _

namespace Accounted

variable {p : Pool β} {t : Ticket} {s s' : Stage β}

/-- A piece that does not begin does nothing. -/
theorem same (h : p.Accounted) {vacates : Prop} (hv : ¬ vacates) : Leads p p vacates :=
  ⟨h, fun hvac => absurd hvac hv, fun _ => Nat.le_refl _, rfl⟩

/-! ### Moving and leaving -/

/-- An errand moves and keeps what it holds. -/
theorem move (h : p.Accounted) (ht : p.stage? t = some s) (s' : Stage β) (hpos : 0 < s.permits)
    (hslots : s'.slots = s.slots) (hpermits : s'.permits = s.permits) (hd : s'.undrained = 0)
    {vacates : Prop} (hv : ¬ vacates) : Leads p (p.setStage t s') vacates := by
  have hnot : t ∉ p.queue := h.sound.not_mem_queue ht (by omega)
  have hts := total_setStage Stage.slots ht s'
  have htp := total_setStage Stage.permits ht s'
  have hlive := h.live
  have hperm := h.permits
  refine ⟨⟨h.sound.setStage hnot fun _ => hd, ?_, ?_, h.bounded⟩, fun hvac => absurd hvac hv,
    fun _ => Nat.le_refl _, rfl⟩
  · change p.live = p.idle.length + _
    omega
  · change p.permits + _ = p.config.size
    omega

/-- An errand ends and gives back its permit. Its slot goes to an idle connection or is given back:
`n` is the counter and `idle` are the idle connections afterwards. -/
theorem leave (h : p.Accounted) (ht : p.stage? t = some s) (hpermits : s.permits = 1) (n : Nat)
    (idle : List (Parked β)) (hn : n + p.idle.length + s.slots = p.live + idle.length)
    (hle : n ≤ p.live) {vacates : Prop} (hv : vacates → n + 1 = p.live)
    (hk : ¬ vacates → p.live ≤ n) :
    Leads p (({ p.endErrand t with live := n, idle := idle } : Pool β).putPermit.1) vacates := by
  have hnot : t ∉ p.queue := h.sound.not_mem_queue ht (by omega)
  have hsound : Sound { p.endErrand t with live := n, idle := idle } :=
    (h.sound.endErrand hnot).withCounts p.permits n idle
  obtain ⟨hl, hi, hc, hts', htp'⟩ := hsound.putPermit_counts
  have hts : (p.endErrand t).total Stage.slots + s.slots = p.total Stage.slots :=
    total_endErrand Stage.slots h.sound.distinct ht
  have htp : (p.endErrand t).total Stage.permits + s.permits = p.total Stage.permits :=
    total_endErrand Stage.permits h.sound.distinct ht
  have hlive := h.live
  have hperm := h.permits
  refine ⟨⟨hsound.putPermit, ?_, ?_, ?_⟩, fun hvac => ?_, fun hvac => ?_, hc⟩
  · rw [hl, hi, hts']
    change n = idle.length + (p.endErrand t).total Stage.slots
    omega
  · rw [htp', hc]
    change p.permits + (p.endErrand t).total Stage.permits + 1 = p.config.size
    omega
  · rw [hl, hc]
    exact hle.trans h.bounded
  · rw [hl]
    exact hv hvac
  · rw [hl]
    exact hk hvac

/-- An errand that waits in the queue holds nothing, and ends. -/
theorem withdraw (h : p.Accounted) (ht : p.stage? t = some .queued) {queue : List Ticket}
    (hsub : queue.Sublist p.queue) (hnot : t ∉ queue) {vacates : Prop} (hv : ¬ vacates) :
    Leads p { p.endErrand t with queue := queue } vacates := by
  have hts : (p.endErrand t).total Stage.slots + 0 = p.total Stage.slots :=
    total_endErrand Stage.slots h.sound.distinct ht
  have htp : (p.endErrand t).total Stage.permits + 0 = p.total Stage.permits :=
    total_endErrand Stage.permits h.sound.distinct ht
  have hlive := h.live
  have hperm := h.permits
  refine ⟨⟨(h.sound.shorten hsub).endErrand hnot, ?_, ?_, h.bounded⟩, fun hvac => absurd hvac hv,
    fun _ => Nat.le_refl _, rfl⟩
  · change p.live = p.idle.length + (p.endErrand t).total Stage.slots
    omega
  · change p.permits + (p.endErrand t).total Stage.permits = p.config.size
    omega

/-- The slots of one errand are counted. -/
theorem slots_le_live (h : p.Accounted) (ht : p.stage? t = some s) : s.slots ≤ p.live := by
  have hts : (p.endErrand t).total Stage.slots + s.slots = p.total Stage.slots :=
    total_endErrand Stage.slots h.sound.distinct ht
  have hlive := h.live
  omega

/-- Whoever holds a slot shows that the counter is not zero. -/
theorem live_pos (h : p.Accounted) (ht : p.stage? t = some s) (hs : 0 < s.slots) : 0 < p.live :=
  hs.trans_le (h.slots_le_live ht)

/-- An errand ends and gives back its slot and its permit. -/
theorem leave_slot (h : p.Accounted) (ht : p.stage? t = some s) (hslots : s.slots = 1)
    (hpermits : s.permits = 1) {vacates : Prop} (hv : vacates) :
    Leads p (p.endErrand t).vacate.putPermit.1 vacates := by
  have hpos : 0 < p.live := h.live_pos ht (by omega)
  exact h.leave ht hpermits (p.live - 1) p.idle (by omega) (by omega) (fun _ => by omega)
    fun hvac => absurd hv hvac

/-- An errand that holds no slot ends and gives back its permit. -/
theorem leave_permit (h : p.Accounted) (ht : p.stage? t = some s) (hslots : s.slots = 0)
    (hpermits : s.permits = 1) {vacates : Prop} (hv : ¬ vacates) :
    Leads p (p.endErrand t).putPermit.1 vacates :=
  h.leave ht hpermits p.live p.idle (by omega) (Nat.le_refl _) (fun hvac => absurd hvac hv)
    fun _ => Nat.le_refl _

/-! ### Reserving a slot -/

/-- In a pool that is not closed, slots that errands hold do not outnumber permits that they
hold. -/
theorem slots_le_permits (h : p.Sound) (hopen : p.closed = false) :
    p.total Stage.slots ≤ p.total Stage.permits :=
  Registry.total_le_total h.distinct fun t s ht => Stage.slots_le_permits (h.undrained hopen t s ht)

/-- With an errand that holds a permit and no slot, there are fewer slots. -/
theorem slots_lt_permits (h : p.Sound) (hopen : p.closed = false) (ht : p.stage? t = some s)
    (hs : s.slots < s.permits) : p.total Stage.slots < p.total Stage.permits := by
  have hnot : t ∉ p.queue := h.not_mem_queue ht (by omega)
  have hle := slots_le_permits (h.endErrand hnot) hopen
  have hts := total_endErrand Stage.slots h.distinct ht
  have htp := total_endErrand Stage.permits h.distinct ht
  omega

/-- An errand that has just got a permit goes on. The pool `p` does not count this permit any more,
and the errand holds nothing else. -/
theorem proceed (hsound : p.Sound) (hnot : t ∉ p.queue)
    (hlive : p.live = p.idle.length + p.total Stage.slots)
    (hslots : ∀ s, (p.setStage t s).total Stage.slots = p.total Stage.slots + s.slots)
    (hpermits : ∀ s, p.permits + (p.setStage t s).total Stage.permits + 1 =
      p.config.size + s.permits)
    (hbound : p.live ≤ p.config.size) (hroom : p.idle = [] → p.live < p.config.size)
    {vacates : Prop} (hv : ¬ vacates) : Leads p (p.proceed t).1 vacates := by
  unfold Pool.proceed
  split
  · next c rest hidle =>
      have hts : (p.setStage t (.out ⟨c.backend, c.created, false⟩)).total Stage.slots =
          p.total Stage.slots + 1 := hslots _
      have htp : p.permits + (p.setStage t (.out ⟨c.backend, c.created, false⟩)).total
          Stage.permits + 1 = p.config.size + 1 := hpermits _
      rw [hidle, List.length_cons] at hlive
      refine ⟨⟨(hsound.withCounts p.permits p.live rest).setStage hnot fun _ => rfl, ?_, ?_,
        hbound⟩, fun hvac => absurd hvac hv, fun _ => Nat.le_refl _, rfl⟩
      · change p.live = rest.length + (p.setStage t _).total Stage.slots
        omega
      · change p.permits + (p.setStage t _).total Stage.permits = p.config.size
        omega
  · next hidle =>
      have hts : (p.setStage t .opening).total Stage.slots = p.total Stage.slots + 1 := hslots _
      have htp : p.permits + (p.setStage t .opening).total Stage.permits + 1 =
          p.config.size + 1 := hpermits _
      have hlt := hroom hidle
      refine ⟨⟨(hsound.withCounts p.permits (p.live + 1) p.idle).setStage hnot fun _ => rfl, ?_, ?_,
        hlt⟩, fun hvac => absurd hvac hv, fun _ => Nat.le_succ _, rfl⟩
      · change p.live + 1 = p.idle.length + (p.setStage t _).total Stage.slots
        omega
      · change p.permits + (p.setStage t _).total Stage.permits = p.config.size
        omega

/-! ### One piece of work -/

/-- A new errand asks. -/
theorem ask (h : p.Accounted) (ht : p.stage? t = none) :
    Leads p (p.ask t).1 (p.Vacates (.ask t)) := by
  have hnot : t ∉ p.queue := h.sound.not_mem_queue_of_new ht
  have hv : ¬ p.Vacates (.ask t) := id
  have hlive := h.live
  have hperm := h.permits
  unfold Pool.ask
  split
  · exact h.same hv
  · next hclosed =>
      have hopen : p.closed = false := by simpa using hclosed
      split
      · next hzero =>
          have hts : (p.setStage t .queued).total Stage.slots = p.total Stage.slots + 0 :=
            total_setStage_new Stage.slots ht .queued
          have htp : (p.setStage t .queued).total Stage.permits = p.total Stage.permits + 0 :=
            total_setStage_new Stage.permits ht .queued
          refine ⟨⟨h.sound.enqueue ht hopen, ?_, ?_, h.bounded⟩, fun hvac => absurd hvac hv,
            fun _ => Nat.le_refl _, rfl⟩
          · change p.live = p.idle.length + (p.setStage t .queued).total Stage.slots
            omega
          · change p.permits + (p.setStage t .queued).total Stage.permits = p.config.size
            omega
      · next hsome =>
          have hle := slots_le_permits h.sound hopen
          have hleads := proceed (p := { p with permits := p.permits - 1 })
            (h.sound.withCounts (p.permits - 1) p.live p.idle) hnot hlive
            (total_setStage_new Stage.slots ht) (fun s => ?_) h.bounded (fun hidle => ?_) hv
          · exact ⟨hleads.accounted, hleads.vacated, hleads.kept, hleads.config⟩
          · have htp := total_setStage_new Stage.permits ht s
            change p.permits - 1 + (p.setStage t s).total Stage.permits + 1 = p.config.size + _
            omega
          · change p.idle = [] at hidle
            change p.live < p.config.size
            rw [hidle, List.length_nil] at hlive
            omega

/-- A waiting errand looks again. -/
theorem resume (h : p.Accounted) : Leads p (p.resume t).1 (p.Vacates (.resume t)) := by
  have hv : ¬ p.Vacates (.resume t) := id
  have hlive := h.live
  have hperm := h.permits
  unfold Pool.resume
  split
  · next ht =>
      split
      · next hclosed =>
          have hnot : t ∉ p.queue := by
            rw [h.sound.closed_queue hclosed]
            exact List.not_mem_nil
          exact h.withdraw ht (List.Sublist.refl _) hnot hv
      · exact h.same hv
  · next ht =>
      split
      · exact h.leave_permit ht rfl rfl hv
      · next hclosed =>
          have hopen : p.closed = false := by simpa using hclosed
          have hnot : t ∉ p.queue := h.sound.not_mem_queue ht Nat.one_pos
          refine proceed h.sound hnot hlive (fun s => ?_) (fun s => ?_) h.bounded
            (fun hidle => ?_) hv
          · exact total_setStage Stage.slots ht s
          · have htp : (p.setStage t s).total Stage.permits + 1 =
                p.total Stage.permits + s.permits := total_setStage Stage.permits ht s
            omega
          · have hlt := slots_lt_permits h.sound hopen ht Nat.one_pos
            rw [hidle, List.length_nil] at hlive
            omega
  · exact h.same hv

/-- An open ends with a connection. -/
theorem opened (h : p.Accounted) (backend : β) (now : Nat) :
    Leads p (p.opened t backend now) (p.Vacates (.opened t backend now)) := by
  unfold Pool.opened
  split
  · next ht => exact h.move ht (.out ⟨backend, now, false⟩) Nat.one_pos rfl rfl rfl id
  · exact h.same id

/-- An open fails. -/
theorem openFailed (h : p.Accounted) :
    Leads p (p.openFailed t).1 (p.Vacates (.openFailed t)) := by
  unfold Pool.openFailed
  split
  · next ht => exact h.leave_slot ht rfl rfl ht
  · next hne => exact h.same fun hv => hne hv

/-- Whatever is recorded about a connection that is out. -/
theorem recordOut (h : p.Accounted) (f : Checkout β → Checkout β) {vacates : Prop}
    (hv : ¬ vacates) :
    Leads p (match p.stage? t with
      | some (.out c) => p.setStage t (.out (f c))
      | _ => p) vacates := by
  split
  · next c ht => exact h.move ht (.out (f c)) Nat.one_pos rfl rfl rfl hv
  · exact h.same hv

/-- The return of a connection starts: one that is out or dropped is to be reset or closed. -/
theorem startReturn (h : p.Accounted) (now : Nat) (usable : Bool) :
    Leads p (p.startReturn t now usable) (p.Vacates (.startReturn t now usable)) := by
  have go : ∀ c s, p.stage? t = some s → s = .out c ∨ s = .dropped c →
      Leads p (p.setStage t (if p.mayReuse c now usable then .resetting c else .closing c))
        (p.Vacates (.startReturn t now usable)) := by
    rintro c s ht hs
    have hpos : 0 < s.permits := by rcases hs with rfl | rfl <;> exact Nat.one_pos
    split
    · refine h.move ht (.resetting c) hpos ?_ ?_ rfl id <;> rcases hs with rfl | rfl <;> rfl
    · refine h.move ht (.closing c) hpos ?_ ?_ rfl id <;> rcases hs with rfl | rfl <;> rfl
  unfold Pool.startReturn
  split
  · next c ht => exact go c _ ht (.inl rfl)
  · next c ht => exact go c _ ht (.inr rfl)
  · exact h.same id

/-- A reset ends: the connection becomes idle, and its slot with it, or it is to be closed. -/
theorem resetDone (h : p.Accounted) (backend : β) (succeeded : Bool) :
    Leads p (p.resetDone t backend succeeded).1 (p.Vacates (.resetDone t backend succeeded)) := by
  have hv : ¬ p.Vacates (.resetDone t backend succeeded) := id
  unfold Pool.resetDone
  split
  · next c ht =>
      split
      · refine h.leave ht rfl p.live (p.idle ++ [⟨backend, c.created⟩]) ?_ (Nat.le_refl _)
          (fun hvac => absurd hvac hv) fun _ => Nat.le_refl _
        rw [List.length_append, List.length_singleton, Nat.add_assoc]
        rfl
      · exact h.move ht (.closing { c with backend := backend }) Nat.one_pos rfl rfl rfl hv
  · exact h.same hv

/-- A close ends. -/
theorem closeDone (h : p.Accounted) :
    Leads p (p.closeDone t).1 (p.Vacates (.closeDone t)) := by
  unfold Pool.closeDone
  split
  · next c ht => exact h.leave_slot ht rfl rfl ⟨c, ht⟩
  · next hne => exact h.same fun ⟨c, hv⟩ => hne c hv

/-- A connection is dropped. -/
theorem drop (h : p.Accounted) : Leads p (p.drop t) (p.Vacates (.drop t)) := by
  unfold Pool.drop
  split
  · next c ht => exact h.move ht (.dropped c) Nat.one_pos rfl rfl rfl id
  · exact h.same id

/-- A connection is dropped and gone. -/
theorem discard (h : p.Accounted) : Leads p (p.discard t).1 (p.Vacates (.discard t)) := by
  unfold Pool.discard
  split
  · next c ht => exact h.leave_slot ht rfl rfl ⟨c, ht⟩
  · next hne => exact h.same fun ⟨c, hv⟩ => hne c hv

/-- The pool is closed: the idle connections become slots of the errand that closes it. -/
theorem close (h : p.Accounted) (ht : p.stage? t = none) :
    Leads p (p.close t).1 (p.Vacates (.close t)) := by
  have hv : ¬ p.Vacates (.close t) := id
  have hshut : Sound { p with closed := true, queue := [] } :=
    ⟨h.sound.distinct, List.nodup_nil, by simp, fun _ => rfl, fun hc => absurd hc (by simp)⟩
  have hlive := h.live
  have hperm := h.permits
  unfold Pool.close
  split
  · next hidle =>
      exact ⟨⟨hshut, hlive, hperm, h.bounded⟩, fun hvac => absurd hvac hv,
        fun _ => Nat.le_refl _, rfl⟩
  · next c rest hidle =>
      have hts : (p.setStage t (.draining c rest)).total Stage.slots =
          p.total Stage.slots + (0 + (rest.length + 1)) := total_setStage_new Stage.slots ht _
      have htp : (p.setStage t (.draining c rest)).total Stage.permits =
          p.total Stage.permits + 0 := total_setStage_new Stage.permits ht _
      rw [hidle, List.length_cons] at hlive
      refine ⟨⟨(hshut.withCounts p.permits p.live []).setStage List.not_mem_nil
        (fun hc => absurd hc (by simp)), ?_, ?_, h.bounded⟩, fun hvac => absurd hvac hv,
        fun _ => Nat.le_refl _, rfl⟩
      · change p.live = 0 + (p.setStage t _).total Stage.slots
        omega
      · change p.permits + (p.setStage t _).total Stage.permits = p.config.size
        omega

/-- A pool with one slot fewer, and otherwise with as much as before. -/
theorem free_slot (h : p.Accounted) {p' : Pool β} (hsound : p'.Sound) (hlive : p'.live + 1 = p.live)
    (hidle : p'.idle = p.idle) (hslots : p'.total Stage.slots + 1 = p.total Stage.slots)
    (hfree : p'.permits = p.permits)
    (hpermits : p'.total Stage.permits = p.total Stage.permits) (hconfig : p'.config = p.config)
    {vacates : Prop} (hv : vacates) : Leads p p' vacates := by
  have hadd := h.live
  have hperm := h.permits
  have hbound := h.bounded
  refine ⟨⟨hsound, ?_, ?_, ?_⟩, fun _ => hlive, fun hvac => absurd hv hvac, hconfig⟩
  · rw [hidle]
    omega
  · rw [hfree, hpermits, hconfig]
    exact hperm
  · rw [hconfig]
    omega

/-- One connection of a closed pool has been closed. -/
theorem drained (h : p.Accounted) : Leads p (p.drained t) (p.Vacates (.drained t)) := by
  unfold Pool.drained
  split
  · next c ht =>
      have hnot : t ∉ p.queue := h.sound.not_mem_queue ht (Nat.succ_pos _)
      have hpos : 0 < p.live := h.live_pos ht (Nat.succ_pos _)
      have hsound : (p.endErrand t).vacate.Sound :=
        (h.sound.endErrand hnot).withCounts p.permits (p.live - 1) p.idle
      have htp : (p.endErrand t).total Stage.permits + 0 = p.total Stage.permits :=
        total_endErrand Stage.permits h.sound.distinct ht
      exact h.free_slot hsound (Nat.sub_add_cancel hpos) rfl
        (total_endErrand Stage.slots h.sound.distinct ht) rfl htp rfl ⟨c, [], ht⟩
  · next c d rest ht =>
      have hnot : t ∉ p.queue := h.sound.not_mem_queue ht (Nat.succ_pos _)
      have hpos : 0 < p.live := h.live_pos ht (Nat.succ_pos _)
      have hclosed : p.closed = true := h.sound.closed_of_undrained ht (Nat.succ_pos _)
      have hsound : (p.vacate.setStage t (.draining d rest)).Sound :=
        (h.sound.withCounts p.permits (p.live - 1) p.idle).setStage hnot fun hopen =>
          absurd (hopen.symm.trans hclosed) (by simp)
      have hts : (p.setStage t (.draining d rest)).total Stage.slots + (0 + (rest.length + 1 + 1)) =
          p.total Stage.slots + (0 + (rest.length + 1)) := total_setStage Stage.slots ht _
      have hslots : (p.setStage t (.draining d rest)).total Stage.slots + 1 =
          p.total Stage.slots := by omega
      have htp : (p.setStage t (.draining d rest)).total Stage.permits + 0 =
          p.total Stage.permits + 0 := total_setStage Stage.permits ht _
      exact h.free_slot hsound (Nat.sub_add_cancel hpos) rfl hslots rfl htp rfl ⟨c, d :: rest, ht⟩
  · next hlast hmore =>
      refine h.same ?_
      rintro ⟨c, rest, hv⟩
      cases rest with
      | nil => exact hlast c hv
      | cons d rest => exact hmore c d rest hv

/-- An errand is lost at a wait. -/
theorem cancel (h : p.Accounted) (hlose : ∀ s, p.stage? t = some s → Losable s) :
    Leads p (p.cancel t).1 (p.Vacates (.cancel t)) := by
  have hno : ∀ s, p.stage? t = some s → s ≠ .opening → (∀ c, s ≠ .resetting c) →
      (∀ c, s ≠ .closing c) → ¬ p.Vacates (.cancel t) := by
    rintro s ht ho hr hc (hv | ⟨c, hv⟩ | ⟨c, hv⟩)
    · exact ho (Option.some.inj (ht.symm.trans hv))
    · exact hr c (Option.some.inj (ht.symm.trans hv))
    · exact hc c (Option.some.inj (ht.symm.trans hv))
  unfold Pool.cancel
  split
  · next ht =>
      have hsub : (p.queue.filter fun q => q != t).Sublist p.queue := List.filter_sublist
      have hnot : t ∉ p.queue.filter fun q => q != t := by simp
      exact h.withdraw ht hsub hnot (hno _ ht nofun nofun nofun)
  · next ht => exact h.leave_permit ht rfl rfl (hno _ ht nofun nofun nofun)
  · next ht => exact h.leave_slot ht rfl rfl (.inl ht)
  · next c ht =>
      have hv := hno _ ht nofun nofun nofun
      have hdrop := h.drop (t := t)
      exact ⟨hdrop.accounted, fun hvac => absurd hvac hv, fun _ => hdrop.kept id, hdrop.config⟩
  · next c ht => exact absurd (hlose _ ht) id
  · next c ht => exact h.leave_slot ht rfl rfl (.inr (.inl ⟨c, ht⟩))
  · next c ht => exact h.leave_slot ht rfl rfl (.inr (.inr ⟨c, ht⟩))
  · next c rest ht => exact absurd (hlose _ ht) id
  · next ht =>
      refine h.same ?_
      rintro (hv | ⟨c, hv⟩ | ⟨c, hv⟩) <;> exact absurd (ht.symm.trans hv) (by simp)

/-- **One piece of work.** Whatever is done next to a pool whose books are right leaves them right,
and gives a slot back only where one is held. -/
theorem work (h : p.Accounted) {e : Piece β} (he : p.Possible e) :
    Leads p (p.work e) (p.Vacates e) := by
  cases e with
  | ask t => exact h.ask he
  | resume t => exact h.resume
  | opened t backend now => exact h.opened backend now
  | openFailed t => exact h.openFailed
  | setBackend t backend => exact h.recordOut (fun c => { c with backend := backend }) id
  | condemn t => exact h.recordOut (fun c => { c with broken := true }) id
  | startReturn t now usable => exact h.startReturn now usable
  | resetDone t backend succeeded => exact h.resetDone backend succeeded
  | closeDone t => exact h.closeDone
  | drop t => exact h.drop
  | discard t => exact h.discard
  | close t => exact h.close he
  | drained t => exact h.drained
  | cancel t => exact h.cancel he

/-- A slot is given back only while the counter is not zero. -/
theorem live_pos_of_vacates (h : p.Accounted) {e : Piece β} (he : p.Possible e)
    (hv : p.Vacates e) : 0 < p.live := by
  have hone := (h.work he).vacated hv
  omega

/-- Slots by what they are for. -/
theorem total_slots (p : Pool β) : p.total Stage.slots = p.total Stage.checkedOut +
    p.total Stage.beingOpened + p.total Stage.onItsWay + p.total Stage.undrained := by
  simp only [Pool.total, ← Registry.total_add]
  rfl

/-- Permits by who holds them. -/
theorem total_permits (p : Pool β) : p.total Stage.permits = p.total Stage.admitted +
    p.total Stage.checkedOut + p.total Stage.beingOpened + p.total Stage.onItsWay := by
  simp only [Pool.total, ← Registry.total_add]
  rfl

end Accounted

end Pool

/-! ### Any number of pools -/

/-- What happens next to some pools: a piece of work on one of them, or the release of a connection
into a pool that did not issue it, which drops the connection where it came from. -/
inductive Databases.Move (β : Type) where
  | work (pool : String) (e : Pool.Piece β)
  | releaseForeign (own : String) (t : Ticket) (target : String)

namespace Databases

/-- Does what happens next. -/
def move (databases : Databases β) : Move β → Databases β
  | .work pool e => databases.modify pool fun p => p.work e
  | .releaseForeign own t _ => databases.modify own fun p => p.drop t

/-- Whether it can happen next. -/
def Possible (databases : Databases β) : Move β → Prop
  | .work pool e => ∀ p, databases.get? pool = some p → p.Possible e
  | .releaseForeign own _ target => own ≠ target

/-- What some pools can become, in any number of moves. -/
inductive Reaches (start : Databases β) : Databases β → Prop where
  | refl : Reaches start start
  | move {databases : Databases β} (h : Reaches start databases) (m : Move β)
      (hm : databases.Possible m) : Reaches start (databases.move m)

/-- The pools are new. -/
def Fresh (databases : Databases β) : Prop :=
  ∀ name p, databases.get? name = some p → ∃ config dialect, p = Pool.new config dialect

/-- **Runs.** Every pool that some new pools become has its books right, and its configuration is
the one it began with. By induction over the moves. -/
theorem accounted_of_reaches {start databases : Databases β} (hfresh : start.Fresh)
    (h : Reaches start databases) {name : String} {p : Pool β} (hp : databases.get? name = some p) :
    p.Accounted ∧ ∃ p₀, start.get? name = some p₀ ∧ p.config = p₀.config := by
  induction h generalizing p with
  | refl =>
      obtain ⟨config, dialect, rfl⟩ := hfresh name p hp
      exact ⟨.new config dialect, _, hp, rfl⟩
  | move h m hm ih =>
      cases m with
      | work pool e =>
          rw [move, Registry.get?_modify] at hp
          split at hp
          · next heq =>
              obtain ⟨p₁, hp₁, rfl⟩ := Option.map_eq_some_iff.mp hp
              obtain ⟨hacc, p₀, hp₀, hc⟩ := ih hp₁
              have hleads := hacc.work (hm p₁ (heq ▸ hp₁))
              exact ⟨hleads.accounted, p₀, hp₀, hleads.config.trans hc⟩
          · exact ih hp
      | releaseForeign own t target =>
          rw [move, Registry.get?_modify] at hp
          split at hp
          · next heq =>
              obtain ⟨p₁, hp₁, rfl⟩ := Option.map_eq_some_iff.mp hp
              obtain ⟨hacc, p₀, hp₀, hc⟩ := ih hp₁
              have hleads := hacc.drop (t := t)
              exact ⟨hleads.accounted, p₀, hp₀, hleads.config.trans hc⟩
          · exact ih hp

/-- **Pool accounting.** In every state that some new pools reach, of every one of them: the live
connections are the idle ones, those checked out, those being opened, those on their way back and
those of a closed pool that are not closed yet; the idle ones are no more than the live ones, and
these no more than the size that the pool was given; the free permits, those granted to errands
that have not gone on yet and those held with a connection or an open add up to that size; and
whatever happens next, the counter goes down only where a slot is given back, then from above zero
and by one. -/
theorem accounts {start databases : Databases β} (hfresh : start.Fresh)
    (h : Reaches start databases) {name : String} {p : Pool β} (hp : databases.get? name = some p) :
    p.live = p.idle.length + p.total Stage.checkedOut + p.total Stage.beingOpened +
        p.total Stage.onItsWay + p.total Stage.undrained ∧
      p.idle.length ≤ p.live ∧ p.live ≤ p.config.size ∧
      p.permits + (p.total Stage.admitted + p.total Stage.checkedOut +
        p.total Stage.beingOpened + p.total Stage.onItsWay) = p.config.size ∧
      (∃ p₀, start.get? name = some p₀ ∧ p.config = p₀.config) ∧
      ∀ e, p.Possible e →
        (p.Vacates e → 0 < p.live ∧ (p.work e).live + 1 = p.live) ∧
        (¬ p.Vacates e → p.live ≤ (p.work e).live) := by
  obtain ⟨hacc, hconfig⟩ := accounted_of_reaches hfresh h hp
  have hlive := hacc.live
  have hslots := Pool.Accounted.total_slots p
  have hperm := hacc.permits
  have hpermits := Pool.Accounted.total_permits p
  refine ⟨by omega, by omega, hacc.bounded, by omega, hconfig, fun e he => ⟨fun hv => ?_, ?_⟩⟩
  · exact ⟨hacc.live_pos_of_vacates he hv, (hacc.work he).vacated hv⟩
  · exact (hacc.work he).kept

/-- One new pool of size one. -/
def samplePools : Databases Unit :=
  .insert .empty "main" (Pool.new { size := 1 } Sqlite.dialect)

/-- The pool is new. -/
theorem samplePools_fresh : samplePools.Fresh := by
  intro name p hp
  rw [samplePools, Registry.get?_insert] at hp
  split at hp
  · exact ⟨_, _, (Option.some.inj hp).symm⟩
  · exact absurd hp (by simp [Registry.get?, Registry.empty])

/-- A connection is opened, its holder gives it to a wrong pool, and the pool is closed before its
return starts. -/
def sampleRun : Databases Unit :=
  [.work "main" (.ask 0), .work "main" (.opened 0 () 0), .releaseForeign "main" 0 "other",
    .work "main" (.close 1), .work "main" (.startReturn 0 3 true)].foldl move samplePools

/-- The run is one. -/
theorem sampleRun_reached : Reaches samplePools sampleRun := by
  refine ((((Reaches.refl.move (.work "main" (.ask 0)) ?_).move (.work "main" (.opened 0 () 0))
    fun _ _ => trivial).move (.releaseForeign "main" 0 "other") (by decide : "main" ≠ "other")).move
      (.work "main" (.close 1)) ?_).move (.work "main" (.startReturn 0 3 true)) fun _ _ => trivial
  · intro p hp
    obtain rfl := Option.some.inj hp
    rfl
  · intro p hp
    obtain rfl := Option.some.inj hp
    rfl

/-- At its end the connection on its way back is the only live one. -/
theorem accounts_sampleRun :
    samplePools.Fresh ∧ Reaches samplePools sampleRun ∧
      ∃ p, sampleRun.get? "main" = some p ∧ p.live = 1 ∧
        p.live = p.idle.length + p.total Stage.checkedOut + p.total Stage.beingOpened +
          p.total Stage.onItsWay + p.total Stage.undrained := by
  obtain ⟨p, hp, hlive⟩ : ∃ p, sampleRun.get? "main" = some p ∧ p.live = 1 := ⟨_, rfl, rfl⟩
  exact ⟨samplePools_fresh, sampleRun_reached, p, hp, hlive,
    (accounts samplePools_fresh sampleRun_reached hp).1⟩

end Databases

end TableGateway
