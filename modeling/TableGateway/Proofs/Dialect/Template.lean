import TableGateway.Proofs.Dialect.Cutting

/-!
# The grammar of statements

A reader of the statements that the SQLite dialect writes, which knows nothing of how a text came
about. A text is split into clauses at the words that begin one; what stands in a clause is split at
commas where it is a list. Conditions and assigned values are not read further: they are the text
between what is before and behind them, whatever stands in their parentheses.

## Reading convention

Keywords count in letters of either case, as whole words outside parentheses. Clauses have one
order, each at most once: a clause in another place, a second one or a word too many and there is no
reading. An asterisk stands for no columns, a column without `AS` is named like its expression, and
the limit `-1` is none.

## Main definitions

* `sections`: the clauses of a text.
* `statement`: the grammar of each action.
* `read`: the clauses of a statement.
-/

namespace TableGateway.Template

/-! ### Clauses in a text -/

/-- Whether a piece is the given word, in letters of either case. -/
def isWord (w : String) (p : Piece) : Bool := p.map Action.upperChar == w.toList

/-- What begins a clause. -/
inductive Mark where
  | select
  | source
  | join (kind : JoinKind)
  | on
  | filter
  | grouping
  | having
  | ordering
  | limit
  | offset
  | insert
  | values
  | defaults
  | update
  | set
  | delete
  deriving DecidableEq, Repr

namespace Mark

/-- The word that begins a clause. -/
def keyword : Mark → String
  | select => "SELECT"
  | source => "FROM"
  | join kind => kind.keyword
  | on => "ON"
  | filter => "WHERE"
  | grouping => "GROUP"
  | having => "HAVING"
  | ordering => "ORDER"
  | limit => "LIMIT"
  | offset => "OFFSET"
  | insert => "INSERT"
  | values => "VALUES"
  | defaults => "DEFAULT"
  | update => "UPDATE"
  | set => "SET"
  | delete => "DELETE"

/-- All of them. -/
def all : List Mark :=
  [select, source, join .inner, join .left, join .right, join .full, join .cross, on, filter,
    grouping, having, ordering, limit, offset, insert, values, defaults, update, set, delete]

/-- The place of a clause behind the table of a statement. -/
def rank : Mark → Nat
  | join _ => 1
  | on => 2
  | filter => 3
  | grouping => 4
  | having => 5
  | ordering => 6
  | limit => 7
  | offset => 8
  | _ => 0

end Mark

/-- The clause that a piece begins. -/
def mark? (p : Piece) : Option Mark := Mark.all.find? fun k => isWord k.keyword p

/-- Whether a piece begins a clause. -/
def isMark (p : Piece) : Bool := (mark? p).isSome

/-- A clause: what it begins with and what stands in it. -/
abbrev Section := Mark × List Piece

/-- What stands between two blanks; nothing at all stands in a single one. -/
def content (ps : List Piece) : Option (List Piece) :=
  if ps = [blank] then some []
  else if ps.head? = some blank ∧ ps.tail.getLast? = some blank then some ps.tail.dropLast
  else none

/-- A clause from the word it begins with up to the next one. -/
def section? (part : Piece × List Piece) : Option Section := do
  let k ← mark? part.1
  let ps ← content part.2
  return (k, ps)

/-- The clauses of a text, which begins with one and ends with a blank. -/
def sections (s : String) : Option (List Section) :=
  let (front, parts) := split isMark 0 (pieces s)
  if front = [] then parts.mapM section? else none

/-! ### The grammar -/

/-- The words and values of a clause. -/
def solid (ps : List Piece) : List Piece := ps.filter (· ≠ blank)

/-- What stands in a pair of parentheses around everything. -/
def enclosed (ps : List Piece) : Option (List Piece) :=
  match ps with
  | [] => none
  | p :: ps =>
    if p = ['('] ∧ ps.getLast? = some [')'] ∧
        ps.dropLast.foldlM (pass nowhere) 0 = some 0
    then some ps.dropLast else none

/-- A name. -/
def name? : List Piece → Option String
  | [p] => some (String.ofList p)
  | _ => none

/-- A list of names. -/
def names (ps : List Piece) : Option (List String) := do
  let items ← listed ps
  items.mapM name?

/-- A selected column. Without a name of its own it is named like its expression. -/
def column (ps : List Piece) : Option NamedExpr :=
  match solid ps with
  | [e] => some ⟨String.ofList e, String.ofList e⟩
  | [e, word, n] => if isWord "AS" word then some ⟨String.ofList e, String.ofList n⟩ else none
  | _ => none

/-- A select list. An asterisk stands for no columns. -/
def columns (ps : List Piece) : Option (List NamedExpr) := do
  let items ← listed ps
  if items = [[['*']]] then return [] else items.mapM column

/-- A joined table and its name. -/
def joined (ps : List Piece) : Option (String × String) :=
  match solid ps with
  | [word, t, word', n] =>
    if isWord "JOIN" word ∧ isWord "AS" word' then some (String.ofList t, String.ofList n) else none
  | _ => none

/-- The pairs of columns that must be equal. -/
def pairs : List Piece → Option (List (String × String))
  | [l, eq, r] => if eq = ['='] then some [(String.ofList l, String.ofList r)] else none
  | l :: eq :: r :: word :: ps =>
    if eq = ['='] ∧ isWord "AND" word then do
      let others ← pairs ps
      return (String.ofList l, String.ofList r) :: others
    else none
  | _ => none

/-- The joined tables, and the clauses behind them. -/
def joins : List Section → Option (List JoinEntry × List Section)
  | (.join kind, ps) :: (.on, qs) :: rest => do
    let (table, name) ← joined ps
    let on ← pairs (solid qs)
    let (others, rest) ← joins rest
    return (⟨kind, table, name, on⟩ :: others, rest)
  | (.join kind, ps) :: rest => do
    let (table, name) ← joined ps
    let (others, rest) ← joins rest
    return (⟨kind, table, name, []⟩ :: others, rest)
  | rest => some ([], rest)

/-- A clause that may be missing, and the clauses behind it. -/
def optional {α : Type} (k : Mark) (read : List Piece → Option α) :
    List Section → Option (Option α × List Section)
  | [] => some (none, [])
  | (k', ps) :: rest =>
    if k' = k then do
      let a ← read ps
      return (some a, rest)
    else some (none, (k', ps) :: rest)

/-- A condition. -/
def condition (ps : List Piece) : Option String := some (textOf ps)

/-- A list behind the word `BY`. -/
def listBy {α : Type} (item : List Piece → Option α) : List Piece → Option (List α)
  | word :: p :: ps =>
    if isWord "BY" word ∧ p = blank then do
      let items ← listed ps
      items.mapM item
    else none
  | _ => none

/-- An ordering entry. -/
def ordered (ps : List Piece) : Option (String × Direction) :=
  match solid ps with
  | [x, word] =>
    if isWord "ASC" word then some (String.ofList x, .asc)
    else if isWord "DESC" word then some (String.ofList x, .desc)
    else none
  | _ => none

/-- A number of rows. -/
def number : List Piece → Option UInt64
  | [p] =>
    if p ≠ [] ∧ p.all Char.isDigit ∧ Nat.ofDigitChars 10 p 0 < UInt64.size
    then some (UInt64.ofNat (Nat.ofDigitChars 10 p 0)) else none
  | _ => none

/-- A limit; minus one is none. -/
def limit (ps : List Piece) : Option (Option UInt64) :=
  if ps = [['-', '1']] then some none else (number ps).map some

/-- How many rows to return and how many to skip first; this ends a statement. -/
def paging : List Section → Option (Option UInt64 × UInt64)
  | [] => some (none, 0)
  | [(.limit, ps)] => (limit ps).map (·, 0)
  | [(.limit, ps), (.offset, qs)] => do
    let n ← limit ps
    let m ← number qs
    return (n, m)
  | _ => none

/-- A column and the value it is set to. -/
def assignment : List Piece → Option (String × String)
  | c :: p :: eq :: p' :: value =>
    if [p, eq, p'] = [blank, ['='], blank] then some (String.ofList c, textOf value) else none
  | _ => none

/-- A table behind the word `INTO`, and what follows it. -/
def into : List Piece → Option (String × List Piece)
  | word :: p :: t :: rest =>
    if isWord "INTO" word ∧ p = blank then some (String.ofList t, rest) else none
  | _ => none

/-- The columns of an inserted row. -/
def insertColumns : List Piece → Option (List String)
  | p :: ps => if p = blank then enclosed ps >>= names else none
  | [] => none

/-- The values of an inserted row. -/
def insertValues (ps : List Piece) : Option (List String) := do
  let inside ← enclosed ps
  let items ← listed inside
  return items.map textOf

/-- The condition that ends a write. -/
def lastFilter (rest : List Section) : Option (Option String) := do
  let (filter, rest) ← optional .filter condition rest
  if rest = [] then return filter else none

/-- The clauses of a statement, in the order of their grammar. -/
def statement : List Section → Option Clauses
  | (.select, list) :: (.source, table) :: rest => do
    let columns ← columns list
    let table ← name? table
    let (joins, rest) ← joins rest
    let (filter, rest) ← optional .filter condition rest
    let (groupBy, rest) ← optional .grouping (listBy name?) rest
    let (having, rest) ← optional .having condition rest
    let (orderBy, rest) ← optional .ordering (listBy ordered) rest
    let (limit, offset) ← paging rest
    return {
      action := .select, table := table, columns := columns, joins := joins, filter := filter
      groupBy := groupBy.getD [], having := having, orderBy := orderBy.getD []
      limit := limit, offset := offset }
  | [(.insert, table), (.defaults, []), (.values, [])] => do
    let (table, rest) ← into table
    if rest = [] then return { action := .insert, table := table } else none
  | [(.insert, table), (.values, values)] => do
    let (table, rest) ← into table
    let columns ← insertColumns rest
    let values ← insertValues values
    if columns.length = values.length then
      return { action := .insert, table := table, assignments := columns.zip values }
    else none
  | (.update, table) :: (.set, list) :: rest => do
    let table ← name? table
    let items ← listed list
    let assignments ← items.mapM assignment
    let filter ← lastFilter rest
    return { action := .update, table := table, assignments := assignments, filter := filter }
  | (.delete, []) :: (.source, table) :: rest => do
    let table ← name? table
    let filter ← lastFilter rest
    return { action := .delete, table := table, filter := filter }
  | _ => none

/-- Reads a statement. -/
def read (sql : String) : Option Clauses := sections (sql ++ " ") >>= statement

end TableGateway.Template
