import TableGateway.Engine.Route

/-!
# Aims

What is wanted of the rows that a select reads: that they come in the order of its ordering, that
rows of one group or equal rows come together, or that the first of them decides. Groups may come in
any order; where they are ordered by what they are grouped by, in the directions of the ordering.
-/

namespace TableGateway.Engine

/-! ### Summaries -/

mutual

/-- The summaries that an expression asks for. -/
def Expr.summaries : Expr Slot → List (Expr Slot)
  | .constant _ | .truth _ | .param _ | .column _ | .settled _ _ | .present _ | .firstOf _ => []
  | .size => [.size]
  | .summary s distinct e => [.summary s distinct e]
  | .signed _ e | .negation e | .cast _ e | .amongRows e _ => e.summaries
  | .operation _ l r | .comparison _ l r | .same l r | .different l r | .both l r | .either l r =>
    l.summaries ++ r.summaries
  | .between e low high => e.summaries ++ low.summaries ++ high.summaries
  | .among e items => e.summaries ++ summariesOfAll items

/-- The summaries that several expressions ask for. -/
def summariesOfAll : List (Expr Slot) → List (Expr Slot)
  | [] => []
  | e :: rest => e.summaries ++ summariesOfAll rest

end

mutual

/-- The columns that an expression names outside summaries and selects. -/
def Expr.bareSlots : Expr Slot → List Slot
  | .column s => [s]
  | .constant _ | .truth _ | .param _ | .settled _ _ | .present _ | .firstOf _ | .size
  | .summary _ _ _ => []
  | .signed _ e | .negation e | .cast _ e | .amongRows e _ => e.bareSlots
  | .operation _ l r | .comparison _ l r | .same l r | .different l r | .both l r | .either l r =>
    l.bareSlots ++ r.bareSlots
  | .between e low high => e.bareSlots ++ low.bareSlots ++ high.bareSlots
  | .among e items => e.bareSlots ++ bareSlotsOfAll items

/-- The columns that several expressions name outside summaries and selects. -/
def bareSlotsOfAll : List (Expr Slot) → List Slot
  | [] => []
  | e :: rest => e.bareSlots ++ bareSlotsOfAll rest

end

/-- Expressions without those that are written like one before. -/
def distinctExprs (es : List (Expr Slot)) : List (Expr Slot) :=
  es.foldl (fun kept e => if kept.any e.alike then kept else kept ++ [e]) []

/-! ### What a select asks for -/

/-- The expressions over whose rows a select is: those of its items, its conditions, its groups and
an ordering. -/
def Core.exprs (ordering : List (Ordered Slot)) : Core Slot → List (Expr Slot)
  | .mk _ items sources filter groupBy having =>
    items.filterMap Item.expr? ++ sources.filterMap (fun (.mk _ _ condition) => condition)
      ++ filter.toList ++ groupBy ++ having.toList ++ ordering.map Ordered.expr

/-- What a select asks of its sources before it is known which order is wanted. -/
def Core.quest (t : Seating) (ordering : List (Ordered Slot)) (core : Core Slot) : Quest where
  seating := t
  terms := t.terms t.conditions
  asked := (core.exprs ordering).flatMap Expr.own

namespace Quest

/-- An entry of an ordering that is wanted. -/
def sortTerm (q : Quest) (direction : Direction) (e : Expr Slot) : SortTerm where
  column := e.slot?.map q.seating.spot
  asked := q.seating.sourcesOf [] e
  isConstant := Seating.isValue e
  isDown := direction == .desc

/-- Whether an expression may be nothing. -/
def canBeNull (q : Quest) : Expr Slot → Bool
  | .column s =>
    s.level != 0 || (q.seating.seatOf? s.index).all fun seat => seat.canBeNullAsWritten s.index
  | .constant d => d == .null
  | _ => true

/-- Whether no two rows are equal in some expressions: the key of a single source is among them, or
a column that may hold each datum only once and is never nothing. -/
def isAlreadyDistinct (q : Quest) (es : List (Expr Slot)) : Bool :=
  match q.seating.seats with
  | [seat] =>
    let columns := (es.filterMap Expr.slot?).filterMap fun s =>
      if s.level = 0 then some (seat.place s.index) else none
    columns.any seat.isKey || seat.listings.any fun l =>
      let stored := if seat.isKey l.column then none
        else (seat.column? l.column).map ColumnDef.affinity
      let isTold := (findTerms q.seating (q.terms.map Term.facts)
        ⟨(0, l.column), stored, Test.isEqual⟩).any fun f => f.needs == 0
      isTold || (columns.contains l.column && (seat.isKey l.column || l.full))
  | _ => false

/-- The wish that equal rows come together, unless there are none. -/
def distinctWish (q : Quest) (width : Nat) (limit : Option Estimate) (es : List (Expr Slot)) :
    Wish :=
  if q.isAlreadyDistinct es then { width }
  else { terms := es.map (q.sortTerm .asc), purpose := .distinct, width, limit, isDistinct := true }

/-- The wish of a single group: that the first row has its one extreme, or that equal data come
together of which each counts once. -/
def groupWish (q : Quest) (width : Nat) (summaries bare : List (Expr Slot))
    (hasCondition : Bool) : Wish :=
  match distinctExprs summaries with
  | [.summary s distinct e] =>
    let term := q.sortTerm .asc e
    if hasCondition || (s != .largest && s != .smallest) then
      if distinct && bare.isEmpty then q.distinctWish width none [e] else { width }
    else if s == .largest then
      { terms := [{ term with isDown := true }], purpose := .extreme, width }
    else
      { terms := [{ term with isNullLast := q.canBeNull e }], purpose := .extreme, width }
  | _ => { width }

end Quest

/-- Whether a select of distinct rows is ordered by all of its columns as they come. -/
def isOrderedAsSelected (ordering : List (Ordered Slot)) (items : List (Expr Slot)) : Bool :=
  (ordering.all fun o => o.direction == .asc) && allAlike (ordering.map Ordered.expr) items

/-- The greatest number of entries of an ordering that is looked at at all. -/
def maxWishTerms : Nat := 63

/-- What is wanted of the rows of a select. -/
def Core.wish (q : Quest) (ordering : List (Ordered Slot)) (limit : Option Estimate) :
    Core Slot → Wish
  | .mk distinct items _ _ groupBy having =>
    let exprs := items.filterMap Item.expr?
    let width := items.length
    let asked := exprs ++ having.toList ++ ordering.map Ordered.expr
    let summaries := summariesOfAll asked
    let short (w : Wish) : Wish := if maxWishTerms < w.terms.length then { width } else w
    if !groupBy.isEmpty then
      let isParallel := groupBy.length = ordering.length
      let directions := if isParallel then ordering.map Ordered.direction
        else groupBy.map fun _ => .asc
      let onceOnly := match distinctExprs summaries with
        | [.summary _ true _] => true
        | _ => false
      short {
        terms := groupBy.zipWith (fun e d => q.sortTerm d e) directions
        purpose := .group
        width
        isDistinct := onceOnly
        isGroupOrder := allAlike groupBy (ordering.map Ordered.expr) }
    else if items.any Item.isGrouping then
      q.groupWish width summaries ((bareSlotsOfAll asked).map .column) having.isSome
    else if distinct && isOrderedAsSelected ordering exprs then
      short {
        terms := exprs.map (q.sortTerm .asc)
        purpose := .distinct
        width
        isGroupOrder := true }
    else if !ordering.isEmpty then
      short {
        terms := ordering.map fun o => q.sortTerm o.direction o.expr
        width
        limit
        isDistinct := distinct }
    else if distinct then q.distinctWish width limit exprs
    else { width }

end TableGateway.Engine
