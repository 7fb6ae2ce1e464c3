import TableGateway.Engine.Aim

/-!
# Restrictions

A condition that is about the rows of one nested select alone may as well be asked within it
(`Select.restricted`): in place of a column stands the expression that the nested select has there.
What that expression prefers counts then, and not what the column prefers of which it is a part, so
a row is kept only if the condition holds either way.
-/

namespace TableGateway.Engine

mutual

/-- An expression with others in place of columns. -/
def Expr.substituted (f : Slot → Expr Slot) : Expr Slot → Expr Slot
  | .column s => f s
  | .signed op e => .signed op (e.substituted f)
  | .operation op l r => .operation op (l.substituted f) (r.substituted f)
  | .comparison op l r => .comparison op (l.substituted f) (r.substituted f)
  | .same l r => .same (l.substituted f) (r.substituted f)
  | .different l r => .different (l.substituted f) (r.substituted f)
  | .between e low high =>
    .between (e.substituted f) (low.substituted f) (high.substituted f)
  | .both l r => .both (l.substituted f) (r.substituted f)
  | .either l r => .either (l.substituted f) (r.substituted f)
  | .negation e => .negation (e.substituted f)
  | .settled e holds => .settled (e.substituted f) holds
  | .among e items => .among (e.substituted f) (allSubstituted f items)
  | .amongRows e q => .amongRows (e.substituted f) q
  | .cast a e => .cast a (e.substituted f)
  | .summary s distinct e => .summary s distinct (e.substituted f)
  | e => e

/-- Several expressions with others in place of columns. -/
def allSubstituted (f : Slot → Expr Slot) : List (Expr Slot) → List (Expr Slot)
  | [] => []
  | e :: rest => e.substituted f :: allSubstituted f rest

end

/-- Whether an expression asks for nothing but what a source has. -/
def Expr.isAbout (s : Seat) (e : Expr Slot) : Bool :=
  let own := e.bareSlots
  own.all (fun c => c.level == 0 && s.has c.index) && (e.outward true 0).length == own.length

/-- The conditions that the rows of a source have to meet by themselves. -/
def Seating.conditionsOn (t : Seating) (s : Seat) : List (Expr Slot) :=
  if s.filled || s.precedes then []
  else
    (t.conditions.filter fun c =>
      (if s.fills then c.origin == .outer s.number else !c.origin.isOuter)
        && c.expr.isAbout s).map Condition.expr

/-- One condition that holds if several do. -/
def conjunction? (es : List (Expr Slot)) : Option (Expr Slot) :=
  match es with
  | [] => none
  | e :: rest => some (rest.foldl Expr.both e)

/-- The selected expressions of a select. -/
def Core.results : Core Slot → List (Expr Slot)
  | .mk _ items _ _ _ _ => items.filterMap Item.expr?

/-- A select whose rows meet conditions on what it returns, where its columns begin at a
position. -/
def Core.restricted (conditions : List (Expr Slot)) (start : Nat) (core : Core Slot) : Core Slot :=
  let results := core.results
  let here := conditions.map (Expr.substituted fun s =>
    (results[s.index - start]?).getD (.column s))
  match core with
  | .mk distinct items sources filter groupBy having =>
    if core.isGrouped then
      .mk distinct items sources filter groupBy (conjunction? (having.toList ++ here))
    else .mk distinct items sources (conjunction? (filter.toList ++ here)) groupBy having

/-- A select whose rows meet conditions; one that returns only some of its rows stays as it is. -/
def Select.restricted (conditions : List (Expr Slot)) (start : Nat) : Select Slot → Select Slot
  | .mk cores orderBy none none =>
    .mk (cores.map (Core.restricted conditions start)) orderBy none none
  | q => q

/-- The sources of a select, where nested selects are restricted to the rows that are of use. -/
def Core.restrictedSources (tables : Columns) : Core Slot → List (Source Slot)
  | .mk distinct items sources filter groupBy _ =>
    let seating := ((Core.mk distinct items sources filter groupBy none).seating? tables).getD
      ⟨[], []⟩
    sources.zipIdx.map fun (.mk _ source _, i) =>
      match source, seating.seats[i]? with
      | .nested q label, some seat =>
        .nested (q.restricted (seating.conditionsOn seat) seat.start) label
      | source, _ => source

end TableGateway.Engine
