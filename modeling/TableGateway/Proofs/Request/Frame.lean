import Mathlib.Tactic.SplitIfs
import TableGateway.Rehearsal.Errands

/-!
# What a request leaves alone

A request is put together from the actions of a host. So it has every property that these actions
have and that goes from actions to what is put together from them. One such property is to leave a
part of the world alone.

## Main results

* `Host.Everywhere.request`: a property of all actions of a host is one of a request.
* `Rehearsal.requestNow_kept`: a request in a rehearsal leaves the rows alone that are kept there.
-/

namespace TableGateway

/-- A property of actions that goes over to what is put together from them. -/
structure Composes {m : Type → Type} [Monad m] (P : (α : Type) → m α → Prop) : Prop where
  pure : ∀ {α : Type} (a : α), P α (Pure.pure a)
  bind : ∀ {α γ : Type} {x : m α} {f : α → m γ}, P α x → (∀ a, P γ (f a)) → P γ (x >>= f)

namespace Host

/-- All actions of a host have a property. -/
structure Everywhere {m : Type → Type} {β : Type} (P : (α : Type) → m α → Prop) (host : Host m β) :
    Prop where
  find : P _ host.find
  onPool : ∀ f, P _ (host.onPool f)
  onPoolWaking : ∀ f, P _ (host.onPoolWaking f)
  call : ∀ c b, P _ (host.call c b)
  isUsable : ∀ b, P _ (host.isUsable b)
  forget : ∀ b, P _ (host.forget b)
  connect : P _ host.connect
  now : P _ host.now

namespace Everywhere

variable {m : Type → Type} [Monad m] {β : Type} {P : (α : Type) → m α → Prop}
  {host : Host m β} {t : Ticket} {verb : Verb} {q : Query} {wait : m (Except Error Unit)}

/-- Looking where an errand stands. -/
theorem stage? (h : Everywhere P host) (hP : Composes P) : P _ (host.stage? t) :=
  hP.bind h.find fun r => by cases r <;> exact hP.pure _

/-- Getting a connection. -/
theorem acquire (h : Everywhere P host) (hP : Composes P) (hwait : P _ wait) :
    P _ (host.acquire t wait) := by
  have hopened : ∀ r, P _ (host.opened t r) := fun r => by
    cases r with
    | ok backend => exact hP.bind h.now fun _ => hP.bind (h.onPool _) fun _ => hP.pure _
    | error e => exact hP.bind (h.onPoolWaking _) fun _ => hP.pure _
  have henter : ∀ progress, P _ (host.enter t wait progress) := fun progress => by
    cases progress with
    | refused | connected => exact hP.pure _
    | waits => exact hwait
    | opens => exact hP.bind h.connect hopened
  refine hP.bind h.find fun r => ?_
  cases r with
  | error e => exact hP.pure _
  | ok p => exact hP.bind (h.onPool _) fun _ => henter _

/-- Making a call on the connection that an errand holds. -/
theorem callOn (h : Everywhere P host) (hP : Composes P) (c : Call) : P _ (host.callOn t c) := by
  refine hP.bind (h.stage? hP) fun r => ?_
  split
  · exact hP.bind (h.call _ _) fun _ => hP.bind (h.onPool _) fun _ => hP.pure _
  · exact hP.pure _

/-- Returning a connection. -/
theorem giveBack (h : Everywhere P host) (hP : Composes P) : P _ (host.giveBack t) := by
  have hreset : P _ (host.resetReturned t) := by
    refine hP.bind (h.stage? hP) fun r => ?_
    split
    · exact hP.bind (h.call _ _) fun _ => h.onPoolWaking _
    · exact hP.pure _
  have hclose : P _ (host.closeReturned t) := by
    refine hP.bind (h.stage? hP) fun r => ?_
    split
    · exact hP.bind (h.call _ _) fun _ => hP.bind (h.forget _) fun _ => h.onPoolWaking _
    · exact hP.pure _
  have hreturn : ∀ c : Checkout β, P _ (do
      let usable ← host.isUsable c.backend
      let now ← host.now
      host.onPool fun p => p.startReturn t now usable
      host.resetReturned t
      host.closeReturned t) := fun c =>
    hP.bind (h.isUsable _) fun _ => hP.bind h.now fun _ => hP.bind (h.onPool _) fun _ =>
      hP.bind hreset fun _ => hclose
  refine hP.bind (h.stage? hP) fun r => ?_
  split
  · exact hreturn _
  · exact hreturn _
  · exact hP.pure _

/-- Making calls in order. By induction over the calls. -/
theorem converse {perform : Call → m (Except Error Answer)} (hP : Composes P)
    (h : ∀ c, P _ (perform c)) (calls : List Call) (answer : Answer) :
    P _ (converse perform calls answer) := by
  induction calls generalizing answer with
  | nil => exact hP.pure _
  | cons c calls ih =>
      refine hP.bind (h c) fun r => ?_
      cases r with
      | ok a => exact ih a
      | error e => exact hP.pure _

/-- What comes after the statement. -/
theorem conclude (h : Everywhere P host) (hP : Composes P) (executed : Except Error Answer) :
    P _ (host.conclude t verb q executed) := by
  have hproceed : P _ (host.proceed t verb executed) := by
    cases executed with
    | ok answer => exact converse hP (fun c => h.callOn hP c) _ _
    | error e => exact hP.pure _
  refine hP.bind hproceed fun r => ?_
  cases r with
  | ok answer => exact hP.bind (h.giveBack hP) fun _ => hP.pure _
  | error e =>
      dsimp only
      split
      · exact hP.bind (h.onPool _) fun _ => hP.bind (h.giveBack hP) fun _ => hP.pure _
      · exact hP.bind (h.giveBack hP) fun _ => hP.pure _

/-- **Requests.** A request has every property that all actions of its host have. -/
theorem request (h : Everywhere P host) (hP : Composes P) (hwait : P _ wait)
    (dialects : Query.Dialects) :
    P _ (host.request t verb q dialects wait) := by
  unfold Host.request
  cases verb.statement dialects q with
  | error e => exact hP.pure _
  | ok s =>
      refine hP.bind (h.acquire hP hwait) fun r => ?_
      cases r with
      | error e => exact hP.pure _
      | ok => exact hP.bind (h.callOn hP _) fun r => h.conclude hP r

end Everywhere

end Host

namespace Rehearsal

/-- One action and then another one. -/
theorem bind_eq {α γ : Type} (x : Act α) (f : α → Act γ) (w : World) :
    (x >>= f) w = f (x w).1 (x w).2 :=
  rfl

/-- The action leaves the kept rows alone. -/
def KeepsRows {α : Type} (x : Act α) : Prop := ∀ w, (x w).2.kept = w.kept

namespace KeepsRows

/-- What is put together from such actions leaves them alone. -/
theorem composes : Composes (m := Act) fun _ x => KeepsRows x where
  pure := fun _ _ => rfl
  bind := fun hx hf w => (hf _ _).trans (hx w)

/-- One such action and then another one. -/
theorem bind {α γ : Type} {x : Act α} {f : α → Act γ} (hx : KeepsRows x)
    (hf : ∀ a, KeepsRows (f a)) : KeepsRows (x >>= f) := composes.bind hx hf

/-- Looking up a pool. -/
theorem pool? (name : String) : KeepsRows (pool? name) := fun _ => rfl

/-- Changing a pool in a way that may give somebody a permit. -/
theorem onPoolWaking (pool : String) (f : Pool Connection → Pool Connection × Option Ticket) :
    KeepsRows (onPoolWaking pool f) := by
  refine (KeepsRows.pool? pool).bind fun r => ?_
  cases r <;> exact fun _ => rfl

/-- Looking at the world. -/
theorem get : KeepsRows (get : Act World) := fun _ => rfl

/-- Looking at the script of a pool. -/
theorem script? (pool : String) : KeepsRows (script? pool) := get.bind fun w => by
  split <;> exact fun _ => rfl

/-- Starting a statement. -/
theorem startExecute (pool sql : String) (params : Params) (c : Connection) :
    KeepsRows (Connection.startExecute pool sql params c) := by
  cases c with
  | linked handle link => exact fun _ => rfl
  | scripted b =>
      have hrecord : KeepsRows (recordStatement b.id sql params) := fun _ => rfl
      have hreply : KeepsRows (nextReply pool) := (script? pool).bind fun r => by
        cases r <;> exact fun _ => rfl
      refine hrecord.bind fun _ => hreply.bind fun reply => ?_
      dsimp only
      split <;> exact fun _ => rfl

/-- Making a call. -/
theorem call (pool : String) (request : Call) (c : Connection) :
    KeepsRows (Connection.call pool request c) := by
  have hexecute : ∀ sql params, KeepsRows (Connection.call pool (.execute sql params) c) :=
    fun sql params => (startExecute pool sql params c).bind fun r => by
      rcases r with ⟨_ | _, _⟩ <;> exact fun _ => rfl
  cases request with
  | execute sql params => exact hexecute sql params
  | _ => cases c <;> exact fun _ => rfl

/-- Opening a connection. -/
theorem startOpen (pool : String) : KeepsRows (startOpen pool) := get.bind fun w => by
  split
  · exact fun _ => rfl
  · next path patience _ =>
      intro w
      have hget : (MonadState.get : Act World) w = (w, w) := rfl
      rw [bind_eq, hget]
      dsimp only
      rcases w.files.open? path with cause | ⟨handle, files⟩
      · rfl
      · dsimp only
        split_ifs <;> rfl
  · exact fun _ => rfl

end KeepsRows

/-- All actions on a pool leave the kept rows alone. -/
theorem host_keepsRows (pool : String) : (host pool).Everywhere fun _ x => KeepsRows x where
  find := (KeepsRows.pool? pool).bind fun r => by cases r <;> exact fun _ => rfl
  onPool := fun _ _ => rfl
  onPoolWaking := KeepsRows.onPoolWaking pool
  call := KeepsRows.call pool
  isUsable := fun c => by cases c <;> exact fun _ => rfl
  forget := fun c => by cases c <;> exact fun _ => rfl
  connect := (KeepsRows.startOpen pool).bind fun r => by cases r <;> exact fun _ => rfl
  now := fun _ => rfl

/-- **Requests.** A request in a rehearsal leaves the kept rows alone. -/
theorem requestNow_kept (verb : Verb) (q : Query) (w : World) :
    (requestNow verb q w).2.kept = w.kept := by
  have hwithdraw : ∀ pool t, KeepsRows (withdraw pool t) := fun pool t =>
    (KeepsRows.onPoolWaking pool _).bind fun _ _ => rfl
  have hrequest : KeepsRows ((host (q.table.poolOf verb.mode)).request w.next verb q
      w.pools.dialect (withdraw (q.table.poolOf verb.mode) w.next)) :=
    (host_keepsRows _).request KeepsRows.composes (hwithdraw _ _) _
  exact hrequest { w with next := w.next + 1 }

end Rehearsal

end TableGateway
