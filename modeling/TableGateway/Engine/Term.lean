import TableGateway.Engine.Estimate
import TableGateway.Engine.Seating

/-!
# Terms

What the conditions of a seating say about single columns. A term compares a column with something
that other sources may be needed for. Where both sides of a comparison are columns there is a
second term, turned round; the terms that are only derived from others come behind all others.

A condition of which one of several parts must hold keeps its parts as terms. If they all compare
one column for equality, it is as if that were one of several items.
-/

namespace TableGateway.Engine

/-- How a term compares a column. -/
inductive Test where
  | compare (op : Comparison)
  /-- Equal, where nothing equals nothing. -/
  | same
  | isNull
  /-- Equal to one of so many. -/
  | among (count : Estimate)
  deriving DecidableEq, Repr

namespace Test

/-- Whether it asks for equality. -/
def isEqual (t : Test) : Bool := t == .compare .eq

/-- Whether it asks for sameness in either sense. -/
def isSame (t : Test) : Bool := t == .compare .eq || t == .same

/-- Whether it asks for one of several. -/
def isAmong : Test → Bool
  | among _ => true
  | _ => false

/-- Whether it gives a lower bound. -/
def isLower (t : Test) : Bool := t == .compare .gt || t == .compare .ge

/-- Whether it gives an upper bound. -/
def isUpper (t : Test) : Bool := t == .compare .lt || t == .compare .le

end Test

/-- The comparison with its sides exchanged. -/
def Comparison.turned : Comparison → Comparison
  | eq => eq
  | ne => ne
  | lt => gt
  | le => ge
  | gt => lt
  | ge => le

/-- How a term is put together. -/
inductive Shape where
  | plain
  /-- One of its parts must hold; the given sources can be searched by each of them. -/
  | either (searchable : SourceSet)
  /-- All of its parts must hold. -/
  | both
  deriving DecidableEq, Repr

/-- What is known of a term. -/
structure Facts where
  /-- Its place among the terms, and among their parts. -/
  id : List Nat
  /-- The condition; the column that is compared stands on the left. -/
  expr : Expr Slot
  origin : Origin
  known : List Spot
  /-- The term that it is derived from. -/
  parent : Option (List Nat) := none
  isDerived : Bool := false
  /-- There is a second term that says the same. -/
  isRepeated : Bool := false
  /-- The sources whose rows it asks for. -/
  asked : SourceSet := 0
  /-- The sources that must be known before it tells something about its column. -/
  needs : SourceSet := 0
  column : Option Spot := none
  test : Option Test := none
  /-- The columns on both sides can be taken for each other. -/
  isLink : Bool := false
  /-- It only says that the column is not nothing. -/
  isPresence : Bool := false
  shape : Shape := .plain

/-- A term with its parts. -/
inductive Term where
  | mk (facts : Facts) (parts : List Term)

/-- What is known of a term. -/
def Term.facts : Term → Facts
  | .mk f _ => f

/-- The parts of a term. -/
def Term.parts : Term → List Term
  | .mk _ ps => ps

/-! ### Expressions -/

/-- The side on the right of a comparison. -/
def Expr.right? : Expr Slot → Option (Expr Slot)
  | .comparison _ _ r | .same _ r => some r
  | _ => none

/-- The left side of a comparison of any kind. -/
def Expr.left? : Expr Slot → Option (Expr Slot)
  | .comparison _ l _ | .same l _ | .among l _ | .amongRows l _ => some l
  | _ => none

/-- The column that an expression is. -/
def Expr.slot? : Expr Slot → Option Slot
  | .column s => some s
  | _ => none

/-- A comparison with its sides exchanged. -/
def Expr.turned : Expr Slot → Expr Slot
  | .comparison op l r => .comparison op.turned r l
  | .same l r => .same r l
  | e => e

/-- How an expression compares its left side, if that can be of use. -/
def Expr.test? : Expr Slot → Option Test
  | .comparison .ne _ _ => none
  | .comparison op _ _ => some (.compare op)
  | .same _ (.constant .null) => some .isNull
  | .same _ (.truth _) => none
  | .same _ _ => some .same
  | .among _ items => some (.among (.ofNat items.length))
  | .amongRows _ _ => some (.among (.ofNat 25))
  | _ => none

/-- The preference under which two sides are compared. -/
def commonPreference (a b : Affinity) : Affinity :=
  if a != .none && b != .none then
    if a.isNumeric || b.isNumeric then .numeric else .blob
  else if a == .none then b else a

/-- The preference under which an expression compares. -/
def Expr.preference : Expr Slot → Affinity
  | .comparison _ l r | .same l r => commonPreference l.affinity r.affinity
  | .amongRows l q => commonPreference l.affinity q.affinity
  | .among l _ => l.affinity
  | _ => .none

/-- Whether a list of data that are stored with a preference can be searched for what is compared
under another one. -/
def searchable (compared stored : Affinity) : Bool :=
  match compared with
  | .none | .blob => true
  | .text => stored == .text
  | _ => stored.isNumeric

/-! ### Terms of one condition -/

namespace Seating

/-- The source of a column, as a set. -/
def sourceOfSpot (t : Seating) (p : Option Spot) : SourceSet :=
  match p with
  | some (0, i) => ((t.seatOf? i).map Seat.self).getD 0
  | _ => 0

/-- Where a column is: how many selects further out, and in which source. -/
def holder (t : Seating) (p : Spot) : Nat × Option Nat :=
  (p.1, if p.1 = 0 then (t.seatOf? p.2).map Seat.number else none)

/-- Whether an expression says of a column that is always something that it is nothing, other than
to decide which rows a source is joined to. -/
def isPointless (t : Seating) (origin : Origin) : Expr Slot → Bool
  | .same (.column s) (.constant .null) =>
    !origin.isOuter && s.level == 0
      && (t.seatOf? s.index).any fun seat => !seat.canBeNull s.index
  | _ => false

/-- The sources that the origin of a term adds to those that it asks for. -/
def addedAsked : Origin → SourceSet
  | .outer i => .single i
  | _ => 0

/-- The sources that the origin of a term adds to those that it needs: the condition of a join that
fills up rows tells nothing about the sources before. -/
def addedNeeds (t : Seating) : Origin → SourceSet
  | .outer i => .all ((t.seats.filter fun s => decide (s.number < i)).map Seat.self)
  | _ => 0

/-- The term of a condition before it is looked at. -/
def blankTerm (t : Seating) (id : List Nat) (c : Condition) : Term :=
  let asked := if t.isPointless c.origin c.expr then 0 else t.sourcesOfCondition c.known c.expr
  .mk { id, expr := c.expr, origin := c.origin, known := c.known
        asked := .union asked (addedAsked c.origin)
        needs := t.addedNeeds c.origin } []

/-- What the side is that a column is compared with needs. -/
def needsOfOther (t : Seating) (known : List Spot) : Expr Slot → SourceSet
  | .comparison _ _ r | .same _ r => t.sourcesOfSide known r
  | .among _ items => .all (items.map (t.sourcesOf known))
  | .amongRows _ q => t.sourcesOfSlots (q.outward false 1)
  | _ => 0

/-- Whether two columns that are equal can be taken for each other. -/
def isExchange (f : Facts) (l r : Slot) : Bool :=
  (f.expr.test?.any Test.isSame)
    && !f.origin.isOuter
    && (l.affinity == r.affinity || (l.affinity.isNumeric && r.affinity.isNumeric))

/-- The terms of a comparison: the term itself and perhaps a second one, turned round, of which
`id` is the place. -/
def compared (t : Seating) (id : List Nat) (f : Facts) (test : Test) : Facts × Option Facts :=
  let left := f.expr.left?.bind Expr.slot?
  let right := (f.expr.right?.bind Expr.slot?).filter fun s => !f.known.contains (t.spot s)
  let leftNeeds := (f.expr.left?.map (t.sourcesOfSide f.known)).getD 0
  let rightNeeds := t.needsOfOther f.known f.expr
  let apart := !SourceSet.meets leftNeeds rightNeeds
  let only (test : Option Test) : Option Test := if apart then test else none
  let turned : Facts := { f with
    expr := f.expr.turned
    needs := .union leftNeeds f.needs
    column := right.map t.spot
    test := only f.expr.turned.test? }
  match left, right with
  | some l, some r =>
    let isLink := isExchange f l r
    ({ f with
        needs := .union rightNeeds f.needs
        column := some (t.spot l), test := only (some test), isLink, isRepeated := true },
      some { turned with id, parent := some f.id, isDerived := true, isLink })
  | some l, none =>
    ({ f with
        needs := .union rightNeeds f.needs, column := some (t.spot l), test := only (some test) },
      none)
  | none, some _ => (turned, none)
  | none, none => ({ f with needs := .union rightNeeds f.needs }, none)

/-- Puts a term behind others. -/
def derive (terms : Array Term) (f : Facts) : Array Term := terms.push (.mk f [])

/-- Looks at the comparison that one of several terms is. -/
def enter (t : Seating) (path : List Nat) (terms : Array Term) (i : Nat) : Array Term :=
  match terms[i]? with
  | some (.mk f parts) =>
    match f.expr.test? with
    | some test =>
      let (f, second) := t.compared (path ++ [terms.size]) f test
      second.elim (terms.setIfInBounds i (.mk f parts))
        (derive (terms.setIfInBounds i (.mk f parts)))
    | none => terms
  | none => terms

/-- Adds a term that follows from another one, and looks at it. -/
def follow (t : Seating) (path : List Nat) (f : Facts) (parent : Option (List Nat))
    (terms : Array Term) (e : Expr Slot) : Array Term :=
  let c : Condition := ⟨e, f.origin, f.known⟩
  let .mk g _ := t.blankTerm (path ++ [terms.size]) c
  t.enter path (derive terms { g with parent, isDerived := true }) terms.size

/-- Looks at a term that says that a column is not nothing: the column is greater than nothing
then. -/
def enterPresence (t : Seating) (path : List Nat) (terms : Array Term) (i : Nat) (f : Facts)
    (s : Slot) : Array Term :=
  let isKey := s.level == 0 && (t.seatOf? s.index).any fun seat => seat.isKey (seat.place s.index)
  if f.origin.isOuter || isKey then terms
  else
    derive (terms.setIfInBounds i (.mk { f with isRepeated := true } [])) { f with
      id := path ++ [terms.size]
      parent := some f.id, isDerived := true
      needs := 0
      column := some (t.spot s)
      test := some (.compare .gt)
      isPresence := true }

/-! ### Alternatives -/

/-- The sources that can be searched by a part of an alternative of several. -/
def searchedBy (t : Seating) (parts : List Term) (p : Term) : SourceSet :=
  match p.facts.shape with
  | .both =>
    .all (p.parts.map fun q =>
      if q.facts.isPresence || q.facts.expr.test?.isSome then t.sourceOfSpot q.facts.column else 0)
  | _ =>
    let parent := parts.find? fun q => some q.facts.id == p.facts.parent
    .union (t.sourceOfSpot p.facts.column)
      (if p.facts.isDerived then t.sourceOfSpot (parent.bind fun q => q.facts.column) else 0)

/-- The sources that can be searched by each alternative. -/
def searchedByEach (t : Seating) (parts : List Term) : SourceSet :=
  (parts.filter fun p => !p.facts.isRepeated || p.facts.shape == .both).foldl
    (fun found p => found &&& t.searchedBy parts p) (SourceSet.before maxSources)

/-- The terms of an alternative that can be compared with those of another one. -/
def comparedParts (p : Term) : List Facts :=
  if p.facts.shape == .both then p.parts.map Term.facts else [p.facts]

/-- The comparison that holds whenever one of two does: both are equal, or bounds on one side. -/
def combined? (a b : Facts) : Option (Expr Slot) :=
  match a.expr, b.expr, a.test, b.test with
  | .comparison _ l r, .comparison _ l' r', some (.compare x), some (.compare y) =>
    if a.isPresence || b.isPresence || a.isLink || b.isLink || !l.alike l' || !r.alike r' then none
    else if x = y then some (.comparison x l r)
    else
      let fits (ops : List Comparison) : Bool := ops.contains x && ops.contains y
      if fits [.eq, .lt, .le] then some (.comparison .le l r)
      else if fits [.eq, .gt, .ge] then some (.comparison .ge l r)
      else none
  | _, _, _, _ => none

/-- The alternatives that compare a column for equality, where all of them do so, or where those
that do not stand for others that do. -/
def itemsFor? (t : Seating) (p : Spot) (parts : List Term) : Option (List (Expr Slot)) :=
  let here := parts.filter fun q => q.facts.column.any fun c => t.holder c == t.holder p
  let fits (q : Term) : Bool :=
    q.facts.column == some p &&
      match q.facts.expr with
      | .comparison _ l r => r.affinity == .none || r.affinity == l.affinity
      | _ => false
  if here.all fits then some (here.filterMap fun q => q.facts.expr.right?) else none

/-- The first alternative from which on a column is compared that may be common to all, which is not
in a given source, and what it is compared with. -/
def attempt (t : Seating) (common : SourceSet) (besides : Option (Nat × Option Nat))
    (parts : List Term) : Option (Nat × Option Nat) × Option (Expr Slot × List (Expr Slot)) :=
  let candidate := parts.zipIdx.find? fun (p, _) =>
    SourceSet.meets common (t.sourceOfSpot p.facts.column)
      && p.facts.column.map t.holder != besides
  match candidate with
  | none => (none, none)
  | some (p, start) =>
    (p.facts.column.map t.holder, do
      let c ← p.facts.column
      let l ← p.facts.expr.left?
      return (l, ← t.itemsFor? c (parts.drop start)))

/-- The one column that all alternatives compare for equality, and what they compare it with. Where
the columns of two sources are compared with each other it may be in either of them. -/
def commonColumn? (t : Seating) (parts : List Term) : Option (Expr Slot × List (Expr Slot)) :=
  let isEqual (p : Term) : Bool := p.facts.test.any Test.isEqual
  if !parts.all fun p => p.facts.shape == .plain && (p.facts.isRepeated || isEqual p) then none
  else
    let common := t.searchedByEach parts
    match t.attempt common none parts with
    | (_, some found) => some found
    | (none, none) => none
    | (some first, none) => (t.attempt common (some first) parts).2

/-! ### Terms of several conditions -/

/-- The alternatives of a term. One that compares no column is taken apart into what must hold
together, by `clause`. -/
def alternatives (t : Seating) (clause : List Nat → List Condition → List Term) (f : Facts) :
    List Term :=
  let conditions := f.expr.disjuncts.map fun e => (⟨e, f.origin, f.known⟩ : Condition)
  let blank := (conditions.zipIdx.map fun (c, j) => t.blankTerm (f.id ++ [j]) c).toArray
  let look (terms : Array Term) (j : Nat) : Array Term :=
    match terms[j]? with
    | some (.mk g _) =>
      match t.isPointless g.origin g.expr, g.expr with
      | true, _ => terms
      | false, .different (.column s) (.constant .null) => t.enterPresence f.id terms j g s
      | false, _ => t.enter f.id terms j
    | none => terms
  let terms := (List.range conditions.length).reverse.foldl look blank
  terms.toList.map fun (.mk g _) =>
    if g.test.isSome then .mk g []
    else
      .mk { g with column := none, shape := .both }
        (clause g.id (g.expr.conjuncts.map fun e => ⟨e, g.origin, g.known⟩))

/-- Looks at a term of which one of several parts must hold. Two alternatives that are comparisons
of the same sides, and alternatives that compare one column, give further terms. -/
def enterEither (t : Seating) (clause : List Nat → List Condition → List Term) (path : List Nat)
    (terms : Array Term) (i : Nat) (f : Facts) : Array Term :=
  let parts := t.alternatives clause f
  let found := t.searchedByEach parts
  let terms := terms.setIfInBounds i (.mk { f with shape := .either found } parts)
  let pairs :=
    match parts with
    | [a, b] =>
      if found == 0 then []
      else (comparedParts a).flatMap fun x => (comparedParts b).filterMap fun y => combined? x y
    | _ => []
  let terms := pairs.foldl (t.follow path f none) terms
  match t.commonColumn? parts with
  | some (l, items) => t.follow path f (some f.id) terms (.among l items)
  | none => terms

/-- The terms of conditions that must all hold, whose places come after `path`. They are looked at
from the last to the first. -/
def clause (t : Seating) : Nat → List Nat → List Condition → List Term
  | 0, path, conditions => conditions.zipIdx.map fun (c, j) => t.blankTerm (path ++ [j]) c
  | depth + 1, path, conditions =>
    let blank := (conditions.zipIdx.map fun (c, j) => t.blankTerm (path ++ [j]) c).toArray
    let look (terms : Array Term) (j : Nat) : Array Term :=
      match terms[j]? with
      | some (.mk f _) =>
        match t.isPointless f.origin f.expr, f.expr with
        | true, _ => terms
        | false, .different (.column s) (.constant .null) => t.enterPresence path terms j f s
        | false, .between e low high =>
          [Expr.comparison .ge e low, .comparison .le e high].foldl
            (t.follow path f (some f.id)) terms
        | false, .either _ _ => t.enterEither (t.clause depth) path terms j f
        | false, _ => t.enter path terms j
      | none => terms
    ((List.range conditions.length).reverse.foldl look blank).toList

end Seating

/-- How deeply conditions stand within each other. -/
def Expr.nesting : Expr Slot → Nat
  | .both l r | .either l r => max l.nesting r.nesting + 1
  | _ => 0

/-- The terms of a seating. -/
def Seating.terms (t : Seating) (conditions : List Condition) : List Term :=
  t.clause ((conditions.map fun c => c.expr.nesting).foldl max 0 + 1) [] conditions

end TableGateway.Engine
