import TableGateway.Engine.Gathering
import TableGateway.Engine.Plan
import TableGateway.Engine.Restriction

/-!
# Rows of a select

What a planned select returns over stored rows. Rows come in the order in which they are gathered
and, if they are grouped, of their groups, unless an ordering is asked for; the ordering is stable.

A select is made ready once (`Select.ready`) and may then run for many rows around it. Selects stand
within each other only so deeply (`Select.depth`), which bounds the recursion. Paging asks for
integers; otherwise, a planned select fails only if an expression does.
-/

namespace TableGateway.Engine

/-- What a select reads from. -/
structure Context where
  columns : Columns
  /-- The rows of a stored table, with their keys at the end. -/
  rows : String → List Cells
  /-- The same before anything was changed. -/
  firstRows : String → List Cells
  params : String → Datum

/-! ### Depth -/

mutual

/-- How deeply selects stand within each other in an expression. -/
def Expr.depth {γ : Type} : Expr γ → Nat
  | .constant _ | .truth _ | .param _ | .column _ | .size => 0
  | .signed _ e | .negation e | .settled e _ | .cast _ e | .summary _ _ e => e.depth
  | .operation _ l r | .comparison _ l r | .same l r | .different l r | .both l r | .either l r =>
    max l.depth r.depth
  | .between e low high => max e.depth (max low.depth high.depth)
  | .among e items => max e.depth (depthOfAll items)
  | .amongRows e q => max e.depth q.depth
  | .present q | .firstOf q => q.depth

/-- The depth of several expressions. -/
def depthOfAll {γ : Type} : List (Expr γ) → Nat
  | [] => 0
  | e :: rest => max e.depth (depthOfAll rest)

/-- The depth of an expression that may be absent. -/
def depthOfOption {γ : Type} : Option (Expr γ) → Nat
  | none => 0
  | some e => e.depth

/-- The depth of selected items. -/
def depthOfItems {γ : Type} : List (Item γ) → Nat
  | [] => 0
  | .expr e _ :: rest => max e.depth (depthOfItems rest)
  | _ :: rest => depthOfItems rest

/-- The depth of joined sources. -/
def depthOfSources {γ : Type} : List (Joined γ) → Nat
  | [] => 0
  | .mk _ (.table _ _) condition :: rest => max (depthOfOption condition) (depthOfSources rest)
  | .mk _ (.nested q _) condition :: rest =>
    max q.depth (max (depthOfOption condition) (depthOfSources rest))

/-- The depth of ordering entries. -/
def depthOfOrder {γ : Type} : List (Ordered γ) → Nat
  | [] => 0
  | .mk e _ :: rest => max e.depth (depthOfOrder rest)

/-- The depth of several selects. -/
def depthOfCores {γ : Type} : List (Core γ) → Nat
  | [] => 0
  | .mk _ items sources filter groupBy having :: rest =>
    max (max (max (depthOfItems items) (depthOfSources sources))
      (max (depthOfOption filter) (max (depthOfAll groupBy) (depthOfOption having))))
      (depthOfCores rest)

/-- How deeply selects stand within each other in a select, which counts itself. -/
def Select.depth {γ : Type} : Select γ → Nat
  | .mk cores orderBy limit offset =>
    max (max (depthOfCores cores) (depthOfOrder orderBy))
      (max (depthOfOption limit) (depthOfOption offset)) + 1

end

/-! ### Paging -/

/-- Which rows are wanted: how many are skipped, and how many are taken, if not all. -/
structure Page where
  skip : Nat := 0
  size : Option Nat := none

/-- The page that a limit and an offset ask for; a negative number skips none and takes all. -/
def Page.of (limit offset : Option Datum) : Evaluated Page := do
  let number (d : Datum) : Evaluated Int :=
    match d.key? with
    | some n => .ok n.toInt
    | none => .error mismatch
  match limit with
  | none => return {}
  | some d =>
    let n ← number d
    if n = 0 then return { size := some 0 }
    let skip ← match offset with
      | none => pure 0
      | some d => do pure (← number d).toNat
    return { skip, size := if n < 0 then none else some n.toNat }

namespace Page

/-- How many rows must be found for the page. -/
def wanted (p : Page) : Option Nat := p.size.map fun n => p.skip + n

/-- The rows of the page. -/
def cut {α : Type} (p : Page) (rows : List α) : List α :=
  let rest := rows.drop p.skip
  p.size.elim rest rest.take

end Page

/-- How many rows a limit is supposed to leave, if it is written as a number and not too large. -/
def limitEstimate? (limit : Option (Expr Slot)) : Option Estimate := do
  let n ← limit.bind Lookups.integer?
  if 0 < n ∧ Estimate.ofNat n.toNat < 320 then some (.ofNat n.toNat) else none

/-! ### Groups -/

/-- The rows of equal keys that stand together. -/
def splitByKeys (keyed : List (Cells × Cells)) : List (List Cells) :=
  (keyed.splitBy fun x y => sameCells x.1 y.1).map (·.map Prod.snd)

/-- The first of the rows that hold equal data. -/
def distinctRows {α : Type} (rows : List (Cells × α)) : List (Cells × α) :=
  (rows.foldl (fun kept row =>
    if kept.any fun k => sameCells k.1 row.1 then kept else row :: kept) []).reverse

/-- How the rows of a select become groups. -/
structure Grouping where
  groupBy : List Ready
  directions : List Direction
  /-- Rows of one group come together as they are gathered. -/
  isTogether : Bool

/-- The groups of rows; without anything to group by, all rows are one. -/
def Grouping.split (g : Grouping) (outer : List Cells) (rows : List Cells) :
    Evaluated (List (List Cells)) := do
  if g.groupBy.isEmpty then return [rows]
  else
    let keyed ← rows.mapM fun row => do
      return (← Ready.values g.groupBy ⟨row :: outer, []⟩, row)
    return splitByKeys (if g.isTogether then keyed else sortByKeys g.directions keyed)

/-! ### Selects without ordering and paging -/

/-- A select without ordering and paging that is ready to run. -/
structure ReadyCore where
  /-- What its rows are sorted by. -/
  keys : List Ready
  /-- Its rows by the rows around it, as many as are wanted, each with the frame it comes from. -/
  rows : List Cells → Option Nat → Evaluated (List (Cells × Frame))

/-- The items of a select made ready. -/
def readyItems (m : Means) (items : List (Item Slot)) : List Ready :=
  items.filterMap fun i => i.expr?.map (Expr.ready m)

/-- Which columns of selects that follow each other prefer reals. -/
def realColumns (cores : List (Core Slot)) : List Bool :=
  match cores with
  | first :: _ :: _ => first.results.zipIdx.map fun (_, i) =>
    commonAffinity (cores.filterMap fun c => c.results[i]?) == .real
  | _ => []

/-- The rows of a select from which another one reads: a column that prefers reals has no
integers. -/
def Select.asSource (run : Select Slot → Selection) (q : Select Slot) :
    List Cells → Evaluated (List Cells) :=
  let rows := (run q).shared.rows
  match q with
  | .mk cores _ _ _ =>
    let reals := realColumns cores
    if reals.any id then fun outer => do
      return (← rows outer).map fun row =>
        reals.zipWith (fun isReal d => if isReal then d.asReal else d) row
    else rows

/-- The rows of a source, by the rows around. -/
def Source.ready (c : Context) (run : Select Slot → Selection) :
    Source Slot → List Cells → Evaluated (List Cells)
  | .table name _ => fun _ => return c.rows name
  | .nested q _ => q.asSource run

/-- The passes of a stop made ready, by the rows of the source. -/
def readyPasses (m : Means) (start : Nat) (passes : List Pass) : List Cells → List ReadyPass :=
  let ready := passes.map fun p => (p.conditions.map (Expr.ready m), p)
  fun rows => ready.map fun (conditions, p) => ⟨conditions, p.arrange start rows⟩

/-- A stop made ready, by the rows around. -/
def Stop.ready (m : Means) (source : List Cells → Evaluated (List Cells)) (s : Stop) :
    List Cells → Evaluated ReadyStop :=
  let passes := readyPasses m s.seat.start s.passes
  let lonely := readyPasses m s.seat.start s.lonely
  let matching := s.matching.map (Expr.ready m)
  let checks := s.checks.map (Expr.ready m)
  fun outer => do
    let rows ← source outer
    return { seat := s.seat, passes := passes rows, matching, checks, lonely := lonely rows }

/-- The ways to run the selects that stand in a select. `often` is how often the select itself is
run, and `inside` how often its conditions are asked. A group is looked at after all of its rows. -/
def Means.inside (c : Context) (run : Estimate → Select Slot → Selection)
    (often inside : Estimate) (isGrouped : Bool) : Means where
  params := c.params
  run := run (if isGrouped then often else inside)
  runWithin := run inside

/-- A select without ordering and paging made ready. -/
def Core.ready (c : Context) (run : Estimate → Select Slot → Selection) (often : Estimate)
    (ordering : List (Ordered Slot)) (limit : Option Estimate) (core : Core Slot) : ReadyCore :=
  match core, core.itinerary? c.columns ordering limit often with
  | _, none => ⟨[], fun _ _ => return []⟩
  | .mk distinct items _ _ groupBy having, some it =>
    let each := Means.inside c run often (often + it.rows) false
    let whole := Means.inside c run often (often + it.rows) core.isGrouped
    let sources := core.restrictedSources c.columns
    let stops := it.stops.map fun s =>
      match sources[s.seat.number]? with
      | some source => s.ready each (source.ready c (run often))
      | none => s.ready each fun _ => return []
    let checks := it.checks.map (Expr.ready each)
    let width := it.stops.foldl (fun n s => max n (s.seat.start + s.seat.width)) 0
    let results := readyItems whole items
    let keys := ordering.map fun o => o.expr.ready whole
    let condition := having.map (Expr.ready whole)
    let grouping : Grouping := {
      groupBy := groupBy.map (Expr.ready each)
      directions := if ordering.length = groupBy.length then ordering.map Ordered.direction
        else groupBy.map fun _ => .asc
      isTogether := it.isOrdered }
    let gathered (outer : List Cells) (wanted : Option Nat) :
        Evaluated (List (Cells × Frame)) := do
      let take (row : Cells) (found : Found (Cells × Frame)) :
          Evaluated (Found (Cells × Frame)) := do
        let f : Frame := ⟨row :: outer, []⟩
        let cells ← Ready.values results f
        if distinct && found.kept.any (fun k => sameCells k.1 cells) then return found
        else return found.keep (cells, f)
      let wanted := if ordering.isEmpty || it.isOrdered then wanted else none
      Gathering.gather ⟨outer, wanted, take⟩ checks width (← stops.mapM fun s => s outer)
    let grouped (outer : List Cells) : Evaluated (List (Cells × Frame)) := do
      let take (row : Cells) (found : Found Cells) : Evaluated (Found Cells) :=
        return found.keep row
      let wanted := if it.isShort then some 1 else none
      let rows ← Gathering.gather ⟨outer, wanted, take⟩ checks width (← stops.mapM fun s => s outer)
      let frames ← (← grouping.split outer rows).mapM fun group => do
        let f : Frame := ⟨[] :: outer, group⟩
        let extremes := (← Ready.allExtremes results f) ++ (← Ready.allExtremes keys f)
          ++ (← Ready.allExtremes condition.toList f)
        return (⟨groupRow group extremes :: outer, group⟩ : Frame)
      let frames ← frames.filterM fun f => Ready.hold condition.toList f
      let rows ← frames.mapM fun f => do return (← Ready.values results f, f)
      return if distinct then distinctRows rows else rows
    ⟨keys, fun outer wanted => if core.isGrouped then grouped outer else gathered outer wanted⟩

/-- What each of several selects is ordered by where they are ordered together: by columns of the
result. -/
def Core.orderedBy (orderBy : List (Ordered Slot)) : Core Slot → List (Ordered Slot)
  | .mk _ items _ _ _ _ =>
    orderBy.filterMap fun o => do
      let s ← o.expr.slot?
      let e ← (items[s.index]?).bind Item.expr?
      return .mk e o.direction

/-- The rows of selects that follow each other, as many as are wanted, each with what it is sorted
by. -/
def collect (outer : List Cells) : Option Nat → List ReadyCore → Evaluated (List (Cells × Cells))
  | _, [] => return []
  | wanted, core :: rest => do
    if wanted = some 0 then return []
    let rows ← core.rows outer wanted
    let keyed ← rows.mapM fun (row, f) => do return (← Ready.values core.keys f, row)
    return keyed ++ (← collect outer (wanted.map fun n => n - rows.length) rest)

/-! ### Selects -/

/-- A select made ready, where selects stand within it no more deeply than so. `often` is how often
it is run. One that depends on no row around it sees what was there before anything was changed. -/
def Select.ready (c : Context) : Nat → Estimate → Select Slot → Selection
  | 0, _, _ => ⟨true, fun _ => return []⟩
  | n + 1, often, .mk cores orderBy limit offset =>
    let isClosed := Select.isClosed (.mk cores orderBy none none)
    let c := if isClosed then { c with rows := c.firstRows } else c
    let run := Select.ready c n
    let isSingle := cores.length == 1
    let ready := cores.zipIdx.map fun (core, i) =>
      let limit := if isSingle || (orderBy.isEmpty && i == 0) then limitEstimate? limit else none
      core.ready c run often (if isSingle then orderBy else core.orderedBy orderBy) limit
    let means := Means.inside c run often often true
    let limit := limit.map (Expr.ready means)
    let offset := offset.map (Expr.ready means)
    let value (e : Option Ready) : Evaluated (Option Datum) :=
      match e with
      | none => return none
      | some r => some <$> r.value ⟨[], []⟩
    let rows (outer : List Cells) : Evaluated (List Cells) := do
      let page ← Page.of (← value limit) (← value offset)
      let wanted := if isSingle || orderBy.isEmpty then page.wanted else none
      let keyed ← if page.size = some 0 then pure [] else collect outer wanted ready
      return page.cut ((sortByKeys (orderBy.map Ordered.direction) keyed).map Prod.snd)
    ⟨isClosed, rows⟩

/-- How deeply selects may stand within each other once conditions are asked further inside, which
are themselves no deeper. -/
def innerDepth (depth : Nat) : Nat := 2 * depth

/-- The rows of a select. -/
def Select.eval (c : Context) (q : Select Slot) : Evaluated (List Cells) :=
  (q.ready c (innerDepth q.depth) 0).rows []

/-- The expressions of a change made ready, which stand in no select. -/
def Context.means (c : Context) (depth : Nat) : Means :=
  Means.inside c (Select.ready c (innerDepth depth)) 0 0 false

end TableGateway.Engine
