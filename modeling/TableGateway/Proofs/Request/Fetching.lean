import TableGateway.Proofs.Backend.Delivery
import TableGateway.Proofs.Request.Linked

/-!
# The first row and all rows

A request for one row and a request for all rows execute the same statement and part only where the
result is read. Over connections to an engine, the one is answered the first row of what the other
is answered, however both of them waited for their connection.

## Conventions

Both requests start in the same world and wait in the same way.

## Main results

* `Link.first_of_all`: the first row of a link and all its rows.
* `Rehearsal.request_agree`: what the two requests are answered, for any way of waiting.
* `Rehearsal.fetching`: what calls hand out, and what the two requests are answered.
-/

namespace TableGateway

/-- Where reading all rows of a link succeeds, reading one brings the first of them, and otherwise
both fail alike. -/
theorem Link.first_of_all {σ : Type} (wire : Wire σ) (y : Link × σ) :
    (∃ rows, ((Link.call wire .fetchAll).on y).1 = .ok (.rows rows) ∧
      ((Link.call wire .fetchOne).on y).1 = .ok (.row rows.head?)) ∨
    ∃ e, ((Link.call wire .fetchAll).on y).1 = .error e ∧
      ((Link.call wire .fetchOne).on y).1 = .error e := by
  rw [reading_eq wire rfl, reading_eq wire rfl]
  rcases (settle wire).on y with ⟨e | a, z⟩
  · exact .inr ⟨e, rfl, rfl⟩
  · refine .inl ⟨z.1.rows, rfl, ?_⟩
    change Except.ok (Answer.row (z.1.rows.take 1).head?) = _
    rw [List.head?_take, if_neg Nat.one_ne_zero]

namespace Rehearsal

variable {pool : String} {t : Ticket} {w : World}

/-! ### Reading -/

/-- The follow-up of a request is a single call, and answers what this call answers. -/
theorem converse_single (perform : Call → Act (Except Error Answer)) (c : Call) (a : Answer)
    (w : World) : (converse perform [c] a w).1 = (perform c w).1 := by
  unfold converse
  rw [bind_eq]
  rcases perform c w with ⟨_ | _, w'⟩ <;> rfl

/-- A request is answered what is read off its last call, whatever comes of the return of its
connection. -/
theorem conclude_eq (verb : Verb) (q : Query) (executed : Except Error Answer) (w : World) :
    ((host pool).conclude t verb q executed w).1 =
      ((host pool).proceed t verb executed w).1.map (verb.outcome q) := by
  unfold Host.conclude
  rw [bind_eq]
  rcases (host pool).proceed t verb executed w with ⟨e | a, w'⟩
  · dsimp only
    split_ifs <;> rfl
  · rfl

/-- What is read as one row is the first of what is read as all rows. -/
theorem outcome_first (q : Query) (rows : List Record) :
    Verb.one.outcome q (.row rows.head?) =
      .row ((rows.map (Row.fetched q.table q.selection.names)).head?) := by
  cases rows <;> rfl

/-- What one request for a row and one for all rows are answered: the first of the rows, or the
same failure. -/
inductive Agree : Except Error Outcome → Except Error Outcome → Prop where
  | rows {rs : List Row} : Agree (.ok (.row rs.head?)) (.ok (.rows rs))
  | failed {e : Error} : Agree (.error e) (.error e)

/-- **Behind the statement.** From the same statement on the same connection, the one request reads
the first of the rows that the other reads. -/
theorem conclude_agree (q : Query) {handle : Nat} {link : Link} (h : HoldsLink pool t w handle link)
    (executed : Except Error Answer) :
    Agree ((host pool).conclude t .one q executed w).1
      ((host pool).conclude t .all q executed w).1 := by
  rw [conclude_eq, conclude_eq]
  cases executed with
  | error e => exact .failed
  | ok a =>
      have hone : ((host pool).proceed t .one (.ok a) w).1 = ((host pool).callOn t .fetchOne w).1 :=
        converse_single _ _ a w
      have hall : ((host pool).proceed t .all (.ok a) w).1 = ((host pool).callOn t .fetchAll w).1 :=
        converse_single _ _ a w
      rw [hone, hall, (callOn_linked h _).1, (callOn_linked h _).1]
      rcases Link.first_of_all (Engine.wire handle) (link, w.files) with
        ⟨rows, hrows, hrow⟩ | ⟨e, hall, hone⟩
      · rw [hrows, hrow]
        change Agree (.ok (Verb.one.outcome q (.row rows.head?))) (.ok (.rows _))
        rw [outcome_first]
        exact .rows
      · rw [hone, hall]
        cases e <;> exact .failed

/-- **One and all.** Of two requests that start in one world and wait in the same way, over
connections to an engine, the one reads the first of the rows that the other reads, or nothing if
there are none. -/
theorem request_agree (q : Query) (dialects : Query.Dialects) {wait : Act (Except Error Unit)}
    (hw : Linked pool w) (hwait : Brings pool t wait w) :
    Agree ((host pool).request t .one q dialects wait w).1
      ((host pool).request t .all q dialects wait w).1 := by
  have hstatement : Verb.one.statement dialects q = Verb.all.statement dialects q := rfl
  unfold Host.request
  rw [hstatement]
  cases Verb.all.statement dialects q with
  | error e => exact .failed
  | ok st =>
      dsimp only
      rw [bind_eq, bind_eq]
      have hadmits : Admits pool t ((host pool).acquire t wait w) := acquire_linked hw hwait
      generalize (host pool).acquire t wait w = acquired at hadmits ⊢
      rcases acquired with ⟨e | ⟨⟩, w₂⟩
      · exact .failed
      · obtain ⟨handle, link, hholds⟩ := hadmits rfl
        exact conclude_agree q (callOn_linked hholds (.execute st.sql st.params)).2 _

/-- So it is with requests that are run at once. -/
theorem requestNow_agree (q : Query) (hw : Linked (q.table.poolOf .read) w) :
    Agree (requestNow .one q w).1 (requestNow .all q w).1 := by
  have hlinked : Linked (q.table.poolOf .read) { w with next := w.next + 1 } :=
    ⟨hw.connector, hw.idle⟩
  exact request_agree q w.pools.dialect hlinked (withdraw_brings _ _ _)

/-- **Fetching.** Behind a statement that succeeded on a link, whatever calls that read or commit
come next and however often their commits fail, what they hand out, in order, and what is left to
read are together the rows of the statement; a call that fails takes none of them, and behind a
commit that failed they can still be read; once something has been read, exactly one commit was
done, and none is sent behind it. A request for one row is answered the first of the rows that a
request for all of them is answered in the same world, for any way of waiting for a connection that
brings one to an engine, and also where waiting is given up at once. -/
theorem fetching {σ : Type} (wire : Wire σ) (y : Link × σ) {sql : String} {params : Params}
    (hdone : (Link.takeTurn wire y (.execute sql params)).answer = .ok .done) {later : List Call}
    (hlater : ∀ c ∈ later, c.Settles) (q : Query) (hw : Linked (q.table.poolOf .read) w) :
    (∃ rows n,
      (∃ hop ∈ (Link.takeTurn wire y (.execute sql params)).hops,
        hop.command = .statement sql params ∧ hop.trip = .answered rows n) ∧
      Link.Delivery wire rows
        (Link.turns wire ((Link.call wire (.execute sql params)).on y).2 later)
        (Link.afterAll wire y (.execute sql params :: later)).1) ∧
    (∀ t dialects wait, Brings (q.table.poolOf .read) t wait w →
      Agree ((host (q.table.poolOf .read)).request t .one q dialects wait w).1
        ((host (q.table.poolOf .read)).request t .all q dialects wait w).1) ∧
    Agree (requestNow .one q w).1 (requestNow .all q w).1 :=
  ⟨Link.delivers wire y hdone hlater, fun _ dialects _ hwait => request_agree q dialects hw hwait,
    requestNow_agree q hw⟩

/-! ### A commit that is refused once -/

/-- An engine that is busy when it is first asked to commit. -/
def sampleBusy : Link × (Engine.Files × List (Option Trip)) :=
  (.fresh, (Link.sampleFiles, [none, none, some (.refused Engine.busy)]))

/-- Whether connections are opened to an engine. -/
def Connector.isEngine : Connector → Bool
  | .scripted _ => false
  | .engine _ _ => true

/-- A world with one pool, which has no connections yet. -/
def sampleWorld : World where
  files := .empty []
  pools := .ofList [(defaultPool, .new { size := 1 } Sqlite.dialect)]
  connectors := .ofList [(defaultPool, .engine ":memory:" 0)]

/-- A world with a table of one book, behind the only connection of its pool. -/
def sampleShelf : World :=
  (executeAll defaultPool ["CREATE TABLE books (title TEXT)",
    "INSERT INTO books VALUES ('Emma')"] sampleWorld).2

/-- The errand `1` has taken the connection. -/
def sampleLent : World :=
  ((host defaultPool).acquire 1 (withdraw defaultPool 1) sampleShelf).2

/-- In these worlds all connections of the pool go to an engine, the one that is out included. -/
theorem sampleWorlds_linked : ∀ w ∈ [sampleShelf, sampleLent],
    Linked defaultPool w ∧ ∀ p, w.pools.get? defaultPool = some p →
      p.Holds Connection.IsLinked Connection.IsLinked Connection.answers := by
  have hconnector : ∀ w ∈ [sampleShelf, sampleLent],
      (w.connectors.get? defaultPool).all Connector.isEngine := by decide +kernel
  have hentries : ∀ w ∈ [sampleShelf, sampleLent], ∀ p ∈ w.pools.get? defaultPool,
      (∀ c ∈ p.idle, c.backend.IsLinked) ∧
        ∀ e ∈ p.errands.entries, e.2.Holds Connection.IsLinked Connection.answers := by
    decide +kernel
  refine fun w hw => ⟨⟨fun script hscript => ?_, fun p hp => (hentries w hw p hp).1⟩, fun p hp =>
    .of_entries (hentries w hw p hp).1 (hentries w hw p hp).2⟩
  have hengine := hconnector w hw
  rw [hscript] at hengine
  exact absurd hengine Bool.false_ne_true

/-- Books, which have nothing but a title. -/
def books : Table where
  name := "books"
  columns := ["title"]
  primaryKey := "title"
  readPool := defaultPool
  writePool := defaultPool
  key_mem := List.mem_cons_self

/-- The values of the rows that a request is answered. -/
def readOff : Outcome → List (List (String × Value))
  | .rows rs => rs.map fun r => r.data.entries
  | .row r => r.toList.map fun r => r.data.entries
  | .changed _ | .total _ => []

/-- The only book. -/
def emma : List (List (String × Value)) := [[("title", .text "Emma")]]

/-- The first attempt to read the row fails with the commit, and the second one returns it. A
request for one book and one for all are answered the book, at once where the connection is idle,
and after somebody else gave it back where it is out. -/
theorem fetching_sampleBusy :
    (Link.takeTurn (Engine.wire 0).planned sampleBusy (.execute "SELECT 1" .empty)).answer =
      .ok .done ∧
    (Link.turns (Engine.wire 0).planned
        ((Link.call (Engine.wire 0).planned (.execute "SELECT 1" .empty)).on sampleBusy).2
        [.fetchOne, .fetchOne]).map Turn.answer =
      [.error (.failed (.engine Engine.busy)), .ok (.row (some [.integer 1]))] ∧
    (∃ rows n,
      (∃ hop ∈ (Link.takeTurn (Engine.wire 0).planned sampleBusy
          (.execute "SELECT 1" .empty)).hops,
        hop.command = .statement "SELECT 1" .empty ∧ hop.trip = .answered rows n) ∧
      Link.Delivery (Engine.wire 0).planned rows
        (Link.turns (Engine.wire 0).planned
          ((Link.call (Engine.wire 0).planned (.execute "SELECT 1" .empty)).on sampleBusy).2
          [.fetchOne, .fetchOne])
        (Link.afterAll (Engine.wire 0).planned sampleBusy
          [.execute "SELECT 1" .empty, .fetchOne, .fetchOne]).1) ∧
    (∀ verb ∈ [Verb.one, .all],
      (requestNow verb (Query.new books .select) sampleShelf).1.map readOff = .ok emma) ∧
    Agree (requestNow .one (Query.new books .select) sampleShelf).1
      (requestNow .all (Query.new books .select) sampleShelf).1 ∧
    (∀ verb ∈ [Verb.one, .all],
      ((host defaultPool).request 2 verb (Query.new books .select) sampleLent.pools.dialect
        (waitFor defaultPool 2 [giveBack defaultPool 1]) sampleLent).1.map readOff = .ok emma) ∧
    Agree
      ((host defaultPool).request 2 .one (Query.new books .select) sampleLent.pools.dialect
        (waitFor defaultPool 2 [giveBack defaultPool 1]) sampleLent).1
      ((host defaultPool).request 2 .all (Query.new books .select) sampleLent.pools.dialect
        (waitFor defaultPool 2 [giveBack defaultPool 1]) sampleLent).1 := by
  have hdone : (Link.takeTurn (Engine.wire 0).planned sampleBusy
      (.execute "SELECT 1" .empty)).answer = .ok .done := by
    decide +kernel
  have hlater : ∀ c ∈ [Call.fetchOne, .fetchOne], c.Settles := by
    simp [Call.Settles, Call.isReading]
  obtain ⟨hshelf, -⟩ := sampleWorlds_linked sampleShelf (by simp)
  obtain ⟨hlent, hholds⟩ := sampleWorlds_linked sampleLent (by simp)
  have hwait : Brings defaultPool 2 (waitFor defaultPool 2 [giveBack defaultPool 1]) sampleLent :=
    waitFor_brings (by simpa using giveBack_spares (by decide)) hlent.connector hholds
  obtain ⟨hdelivery, -, hnow⟩ := fetching (Engine.wire 0).planned sampleBusy hdone hlater
    (Query.new books .select) hshelf
  obtain ⟨-, hwaited, -⟩ := fetching (Engine.wire 0).planned sampleBusy hdone hlater
    (Query.new books .select) hlent
  exact ⟨hdone, by decide +kernel, hdelivery, by decide +kernel, hnow, by decide +kernel,
    hwaited 2 _ _ hwait⟩

end Rehearsal

end TableGateway
