import TableGateway.Proofs.Backend.Talk
import TableGateway.Proofs.Pool.Holdings
import TableGateway.Proofs.Request.Frame

/-!
# Getting a connection to an engine

A request gets its connection at once, or it waits for it while others go on. Where the pool opens
its connections to an engine, and those that are idle go there, whoever is answered has a connection
to an engine, however it waited. Waiting is left open here, up to what it has to bring: `Brings`
says it of any action, and `waitFor` is waiting as a pool has it, with others in between.

## Conventions

A world is linked for a pool when the pool opens its connections to an engine, and those that are
idle go there. While an errand waits, the connections that are out are asked to go there too, since
they come back.

## Main results

* `Rehearsal.callOn_linked`: a call on a connection to an engine.
* `Rehearsal.acquire_linked`: getting one, for any way of waiting.
* `Rehearsal.waitFor_brings`: waiting while others go on.
* `Rehearsal.giveBack_spares`: others may give back their connections meanwhile.
-/

namespace TableGateway

namespace Rehearsal

variable {pool : String} {t : Ticket} {w : World}

/-- Looking up the pool. -/
theorem find_eq (pool : String) (w : World) : (host pool).find w = (w.pools.find pool, w) := by
  have hlook : pool? pool w = (w.pools.get? pool, w) := rfl
  change (pool? pool >>= _) w = _
  rw [bind_eq, hlook, Databases.find]
  cases w.pools.get? pool <;> rfl

/-- Looking where an errand stands. -/
theorem stage?_eq {p : Pool Connection} (hp : w.pools.get? pool = some p) (t : Ticket) :
    (host pool).stage? t w = (p.stage? t, w) := by
  unfold Host.stage?
  rw [bind_eq, find_eq, Databases.find, hp]
  rfl

/-! ### On a connection to an engine -/

/-- The connection goes to an engine. -/
def Connection.IsLinked (x : Connection) : Prop := ∃ handle link, x = .linked handle link

instance : DecidablePred Connection.IsLinked
  | .scripted _ => .isFalse fun ⟨_, _, h⟩ => nomatch h
  | .linked handle link => .isTrue ⟨handle, link, rfl⟩

/-- The errand `t` holds a connection to an engine. -/
def HoldsLink (pool : String) (t : Ticket) (w : World) (handle : Nat) (link : Link) : Prop :=
  ∃ p k, w.pools.get? pool = some p ∧ p.stage? t = some (.out k) ∧ k.backend = .linked handle link

/-- A call is one on the link, over the files of the world. -/
theorem call_linked {x : Connection} {handle : Nat} {link : Link} (hx : x = .linked handle link)
    (c : Call) : (host pool).call c x w =
      ((Link.told ((Link.call (Engine.wire handle) c).on (link, w.files)).1,
          .linked handle ((Link.call (Engine.wire handle) c).on (link, w.files)).2.1),
        { w with files := ((Link.call (Engine.wire handle) c).on (link, w.files)).2.2 }) := by
  subst hx
  cases c <;> rfl

/-- A call on the connection that an errand holds. -/
theorem callOn_linked {handle : Nat} {link : Link} (h : HoldsLink pool t w handle link) (c : Call) :
    ((host pool).callOn t c w).1 =
        Link.told ((Link.call (Engine.wire handle) c).on (link, w.files)).1 ∧
      HoldsLink pool t ((host pool).callOn t c w).2 handle
        ((Link.call (Engine.wire handle) c).on (link, w.files)).2.1 := by
  obtain ⟨p, k, hp, ht, hk⟩ := h
  set z := (Link.call (Engine.wire handle) c).on (link, w.files) with hz
  have hcallOn : (host pool).callOn t c w = (Link.told z.1,
      { w with
        files := z.2.2
        pools := w.pools.modify pool fun p => p.setBackend t (.linked handle z.2.1) }) := by
    unfold Host.callOn Host.onConnection
    rw [bind_eq, stage?_eq hp, ht]
    dsimp only
    rw [bind_eq, call_linked hk]
    rfl
  rw [hcallOn]
  exact ⟨rfl, p.setBackend t (.linked handle z.2.1), _, Registry.get?_modify_of hp _,
    Pool.stage?_setBackend ht _, rfl⟩

/-! ### Getting a connection -/

/-- The pool opens its connections to an engine, and those that are idle go there. -/
structure Linked (pool : String) (w : World) : Prop where
  connector : ∀ script, w.connectors.get? pool ≠ some (.scripted script)
  idle : ∀ p, w.pools.get? pool = some p → ∀ c ∈ p.idle, c.backend.IsLinked

/-- An errand that is answered has a connection to an engine. -/
def Admits (pool : String) (t : Ticket) (y : Except Error Unit × World) : Prop :=
  y.1 = .ok () → ∃ handle link, HoldsLink pool t y.2 handle link

/-- An errand that is denied a connection needs none. -/
theorem Admits.of_error {e : Error} : Admits pool t (.error e, w) := fun h => absurd h (by simp)

/-- Neither does one that gives up waiting. -/
theorem withdraw_admits (w : World) : Admits pool t (withdraw pool t w) :=
  fun h => absurd (show Except.error _ = Except.ok () from h) (by simp)

/-- Opening a connection to an engine brings one, or fails, and leaves the pools alone. -/
theorem startOpen_linked (hw : ∀ script, w.connectors.get? pool ≠ some (.scripted script)) :
    ∃ r w', startOpen pool w = (.ok r, w') ∧ w'.pools = w.pools ∧
      ∀ x, r = .ok x → x.IsLinked := by
  have hget : (get : Act World) w = (w, w) := rfl
  unfold startOpen
  rw [bind_eq, hget]
  dsimp only
  rcases hc : w.connectors.get? pool with _ | ⟨script | ⟨path, patience⟩⟩
  · exact ⟨_, _, rfl, rfl, fun _ hx => absurd hx (by simp)⟩
  · exact absurd hc (hw script)
  · dsimp only
    rw [bind_eq, hget]
    dsimp only
    rcases w.files.open? path with cause | ⟨handle, files⟩
    · exact ⟨_, _, rfl, rfl, fun _ hx => absurd hx (by simp)⟩
    · dsimp only
      split_ifs
      · exact ⟨_, _, rfl, rfl, fun _ hx => absurd hx (by simp)⟩
      · exact ⟨_, _, rfl, rfl, fun x hx => ⟨handle, _, (Except.ok.inj hx).symm⟩⟩

/-- An errand whose connection has to be opened. -/
theorem opens_linked (hw : ∀ script, w.connectors.get? pool ≠ some (.scripted script))
    {p : Pool Connection} (hp : w.pools.get? pool = some p) (ht : p.stage? t = some .opening)
    (wait : Act (Except Error Unit)) :
    Admits pool t ((host pool).enter t wait .opens w) := by
  obtain ⟨r, w', hopen, hpools, hlinked⟩ := startOpen_linked hw
  have hconnect : (host pool).connect w = (r, w') := by
    change (startOpen pool >>= _) w = _
    rw [bind_eq, hopen]
    rfl
  change Admits pool t (((host pool).connect >>= (host pool).opened t) w)
  rw [bind_eq, hconnect]
  cases r with
  | error e => exact .of_error
  | ok x =>
      obtain ⟨handle, link, rfl⟩ := hlinked x rfl
      have hp' : w'.pools.get? pool = some p := hpools ▸ hp
      exact fun _ => ⟨handle, link, p.opened t (.linked handle link) w'.now, _,
        Registry.get?_modify_of hp' _, Pool.stage?_opened ht _ _, rfl⟩

/-- An errand goes on as far as it got. -/
theorem enter_linked (hw : ∀ script, w.connectors.get? pool ≠ some (.scripted script))
    {p : Pool Connection} (hp : w.pools.get? pool = some p) {progress : Pool.Progress}
    (h : p.Stands Connection.IsLinked t progress) {wait : Act (Except Error Unit)}
    (hwait : progress = .waits → Admits pool t (wait w)) :
    Admits pool t ((host pool).enter t wait progress w) := by
  cases progress with
  | refused => exact .of_error
  | waits => exact hwait rfl
  | connected =>
      obtain ⟨k, hout, handle, link, hk⟩ := h
      exact fun _ => ⟨handle, link, p, k, hp, hout, hk⟩
  | opens => exact opens_linked hw hp h wait

/-- Waiting in the queue of the pool brings the errand `t` of the world `w` a connection to an
engine, or an error. -/
def Brings (pool : String) (t : Ticket) (wait : Act (Except Error Unit)) (w : World) : Prop :=
  ∀ p, w.pools.get? pool = some p → (p.ask t).2 = .waits →
    Admits pool t (wait { w with pools := w.pools.modify pool fun _ => (p.ask t).1 })

/-- Giving up at once brings an error. -/
theorem withdraw_brings (pool : String) (t : Ticket) (w : World) :
    Brings pool t (withdraw pool t) w := fun _ _ _ => withdraw_admits _

/-- **Getting a connection.** -/
theorem acquire_linked {wait : Act (Except Error Unit)} (hw : Linked pool w)
    (hwait : Brings pool t wait w) : Admits pool t ((host pool).acquire t wait w) := by
  unfold Host.acquire
  rw [bind_eq, find_eq, Databases.find]
  cases hp : w.pools.get? pool with
  | none => exact .of_error
  | some p =>
      have hpools : (w.pools.modify pool fun _ => (p.ask t).1).get? pool = some (p.ask t).1 :=
        Registry.get?_modify_of hp _
      have hstands := Pool.ask_stands (t := t) (hw.idle p hp)
      exact enter_linked (w := { w with pools := w.pools.modify pool fun _ => (p.ask t).1 })
        hw.connector hpools hstands (hwait p hp)

/-! ### Waiting while others go on -/

/-- Whether a connection to an engine can still be used. -/
def Connection.answers : Connection → Bool
  | .scripted _ => false
  | .linked _ link => link.isUsable

/-- The pool opens its connections to an engine, all of them go there, and the errand `t` waits for
a permit or has been granted one. -/
structure Awaits (pool : String) (t : Ticket) (w : World) : Prop where
  connector : ∀ script, w.connectors.get? pool ≠ some (.scripted script)
  waits : ∃ p, w.pools.get? pool = some p ∧
    p.Holds Connection.IsLinked Connection.IsLinked Connection.answers ∧
    (p.stage? t = some .queued ∨ p.stage? t = some .granted)

/-- What somebody else does leaves it at that. -/
def Spares (pool : String) (t : Ticket) (others : Act Unit) : Prop :=
  ∀ w, Awaits pool t w → Awaits pool t (others w).2

/-- Waits for a permit: others go on, then the errand looks again and goes on as far as it got, and
so forth. When nobody else goes on it gives up. -/
def waitFor (pool : String) (t : Ticket) : List (Act Unit) → Act (Except Error Unit)
  | [] => withdraw pool t
  | others :: rest => do
    others
    match ← (host pool).find with
    | .error e => return .error e
    | .ok p =>
      let (p, progress, next) := p.resume t
      onPool pool fun _ => p
      wake next.toList
      (host pool).enter t (waitFor pool t rest) progress

/-- Waiting, once it has begun. By induction over the turns of the others. -/
theorem Awaits.waitFor_admits {turns : List (Act Unit)} (hturns : ∀ x ∈ turns, Spares pool t x)
    (hw : Awaits pool t w) : Admits pool t (waitFor pool t turns w) := by
  induction turns generalizing w with
  | nil => exact withdraw_admits w
  | cons others rest ih =>
      obtain ⟨hconnector, p, hp, hholds, hwaits⟩ := hturns others List.mem_cons_self w hw
      unfold waitFor
      rw [bind_eq, bind_eq, find_eq, Databases.find, hp]
      have hstands := Pool.resume_stands hholds.idle hwaits
      have hkeeps : (p.resume t).1.Holds Connection.IsLinked Connection.IsLinked
          Connection.answers := (hholds.resume fun _ hx => hx).holds
      set w₁ : World := { (others w).2 with
        pools := (others w).2.pools.modify pool fun _ => (p.resume t).1
        ready := (others w).2.ready ++ (p.resume t).2.2.toList } with hw₁
      have hpools : w₁.pools.get? pool = some (p.resume t).1 := Registry.get?_modify_of hp _
      refine enter_linked (w := w₁) hconnector hpools hstands fun hagain => ?_
      rw [hagain] at hstands
      exact ih (fun x hx => hturns x (List.mem_cons_of_mem _ hx))
        ⟨hconnector, _, hpools, hkeeps, .inl hstands⟩

/-- **Waiting.** Where all connections of the pool go to an engine, waiting while others go on
brings one that does. -/
theorem waitFor_brings {turns : List (Act Unit)} (hturns : ∀ x ∈ turns, Spares pool t x)
    (hconnector : ∀ script, w.connectors.get? pool ≠ some (.scripted script))
    (hholds : ∀ p, w.pools.get? pool = some p →
      p.Holds Connection.IsLinked Connection.IsLinked Connection.answers) :
    Brings pool t (waitFor pool t turns) w := by
  intro p hp hwaits
  have hstands := Pool.ask_stands (t := t) (hholds p hp).idle
  rw [hwaits] at hstands
  exact Awaits.waitFor_admits hturns ⟨hconnector, (p.ask t).1, Registry.get?_modify_of hp _,
    ((hholds p hp).ask fun _ hx => hx).holds, .inl hstands⟩

/-! ### Others who give back their connections -/

section

variable {u : Ticket}

/-- A piece of work of somebody else on the pool. -/
theorem Awaits.work (hw : Awaits pool t w) {e : Pool.Piece Connection} (he : e.ticket ≠ t)
    {w' : World} (hconnectors : w'.connectors = w.connectors)
    (hwork : ∀ p, w.pools.get? pool = some p →
      p.Suits Connection.IsLinked Connection.IsLinked Connection.answers e ∧
        w'.pools.get? pool = some (p.work e)) : Awaits pool t w' := by
  obtain ⟨hconnector, p, hp, hholds, hwaits⟩ := hw
  obtain ⟨hsuits, hp'⟩ := hwork p hp
  have hpasses := hholds.work (fun _ hx => hx) hsuits
  refine ⟨hconnectors ▸ hconnector, p.work e, hp', hpasses.holds, ?_⟩
  rcases hpasses.beside t he.symm with hsame | ⟨-, hgranted⟩
  · rwa [hsame]
  · exact .inr hgranted

/-- A piece of work of somebody else that may give somebody a permit. -/
theorem Awaits.wakes (hw : Awaits pool t w) {e : Pool.Piece Connection} (he : e.ticket ≠ t)
    {f : Pool Connection → Pool Connection × Option Ticket}
    (hwork : ∀ p, w.pools.get? pool = some p →
      p.Suits Connection.IsLinked Connection.IsLinked Connection.answers e ∧ (f p).1 = p.work e) :
    Awaits pool t (onPoolWaking pool f w).2 := by
  obtain ⟨p, hp, -⟩ := hw.waits
  have hlook : pool? pool w = (some p, w) := Prod.ext hp rfl
  unfold onPoolWaking
  rw [bind_eq, hlook]
  refine hw.work he rfl fun q hq => ⟨(hwork q hq).1, ?_⟩
  obtain rfl := Option.some.inj (hp.symm.trans hq)
  change (w.pools.insert pool (f p).1).get? pool = _
  rw [Registry.get?_insert, if_pos rfl, (hwork p hp).2]

/-- Somebody else resets a connection that comes back. -/
theorem resetReturned_spares (hu : u ≠ t) : Spares pool t ((host pool).resetReturned u) := by
  intro w hw
  obtain ⟨p, hp, hholds, -⟩ := hw.waits
  unfold Host.resetReturned
  rw [bind_eq, stage?_eq hp]
  rcases hs : p.stage? u with _ | s
  · exact hw
  cases s with
  | resetting c =>
      obtain ⟨⟨handle, link, hk⟩, -⟩ := hholds.stages u _ hs
      set z := (Link.call (Engine.wire handle) .reset).on (link, w.files) with hz
      dsimp only
      rw [bind_eq, call_linked hk, ← hz]
      have hcalled : Awaits pool t { w with files := z.2.2 } := ⟨hw.connector, hw.waits⟩
      exact hcalled.wakes (e := .resetDone u (.linked handle z.2.1) (Link.told z.1).toBool) hu
        fun q _ => ⟨⟨⟨handle, _, rfl⟩, fun _ => ⟨handle, _, rfl⟩⟩, rfl⟩
  | _ => exact hw

/-- Somebody else closes a connection that comes back. -/
theorem closeReturned_spares (hu : u ≠ t) : Spares pool t ((host pool).closeReturned u) := by
  intro w hw
  obtain ⟨p, hp, hholds, -⟩ := hw.waits
  unfold Host.closeReturned
  rw [bind_eq, stage?_eq hp]
  rcases hs : p.stage? u with _ | s
  · exact hw
  cases s with
  | closing c =>
      obtain ⟨handle, link, hk⟩ := hholds.stages u _ hs
      set z := (Link.call (Engine.wire handle) .close).on (link, w.files) with hz
      dsimp only
      rw [bind_eq, call_linked hk, ← hz]
      have hclosed : Awaits pool t { w with files := z.2.2.disconnect handle } :=
        ⟨hw.connector, hw.waits⟩
      exact hclosed.wakes (e := .closeDone u) hu fun q _ => ⟨trivial, rfl⟩
  | _ => exact hw

/-- **Others.** They may give back their connections while the errand waits. -/
theorem giveBack_spares (hu : u ≠ t) : Spares pool t (giveBack pool u) := by
  intro w hw
  obtain ⟨p, hp, hholds, -⟩ := hw.waits
  have hreturn : ∀ c s, p.stage? u = some s → s = .out c ∨ s = .dropped c →
      Awaits pool t ((do
        let usable ← (host pool).isUsable c.backend
        let now ← (host pool).now
        (host pool).onPool fun p => p.startReturn u now usable
        (host pool).resetReturned u
        (host pool).closeReturned u) w).2 := by
    intro c s hs hc
    obtain ⟨handle, link, hk⟩ : c.backend.IsLinked := by
      rcases hc with rfl | rfl <;> exact hholds.stages u _ hs
    have husable : (host pool).isUsable c.backend w = (link.isUsable, w) := by
      rw [hk]
      rfl
    rw [bind_eq, husable]
    refine closeReturned_spares hu _ (resetReturned_spares hu _ ?_)
    refine hw.work (e := .startReturn u w.now link.isUsable) hu rfl fun q hq => ?_
    obtain rfl := Option.some.inj (hp.symm.trans hq)
    refine ⟨fun c' hc' => ?_, Registry.get?_modify_of hp _⟩
    have hsame : c = c' := by
      rcases hc with rfl | rfl <;> rcases hc' with hc' | hc' <;> cases hs.symm.trans hc' <;> rfl
    rw [← hsame, hk]
    rfl
  unfold giveBack Host.giveBack
  rw [bind_eq, stage?_eq hp]
  rcases hs : p.stage? u with _ | s
  · exact hw
  cases s with
  | out c => exact hreturn c _ hs (.inl rfl)
  | dropped c => exact hreturn c _ hs (.inr rfl)
  | _ => exact hw

end

end Rehearsal

end TableGateway
