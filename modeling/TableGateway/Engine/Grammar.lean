import TableGateway.Engine.ColumnType
import TableGateway.Engine.Instruction
import TableGateway.Engine.Token

/-!
# The grammar of instructions

The reading of one instruction from tokens. A reader takes tokens from the front and fails if they
do not fit. Readers that nest take `fuel`, a bound on the depth of their calls; a dozen calls a
token always suffice.

What follows an operand is read by levels: an operator of a higher level binds more tightly, and
operators of one level are taken from left to right. Two things are settled while reading, before
any name is looked up: nothing is among no items, and whatever is joined by `AND` to something
false is false.
-/

namespace TableGateway.Engine

/-- A reader of tokens. -/
abbrev Reading := StateT (List Token) Option

namespace Reading

/-- Names are the same in either case. -/
def fold (s : String) : String := String.ofList (s.toList.map Char.toLower)

/-- Words that are not names. -/
def reserved : List String :=
  ["add", "all", "alter", "and", "as", "autoincrement", "between", "case", "check", "collate",
    "commit", "constraint", "create", "default", "deferrable", "delete", "distinct", "drop",
    "else", "escape", "except", "exists", "foreign", "from", "group", "having", "in", "index",
    "insert", "intersect", "into", "is", "isnull", "join", "limit", "not", "nothing", "notnull",
    "null", "on", "or", "order", "primary", "references", "returning", "select", "set", "table",
    "then", "to", "transaction", "union", "unique", "update", "using", "values", "when", "where"]

/-- Words that are names, but not of what they stand behind. -/
def notLabels : List String :=
  ["indexed", "left", "natural", "inner", "outer", "cross", "full", "right", "regexp", "like",
    "glob", "match"]

/-! ### Single tokens -/

/-- Takes a token if a condition holds of it. -/
def takeIf (p : Token → Bool) : Reading Bool := fun ts =>
  match ts with
  | t :: rest => if p t then some (true, rest) else some (false, ts)
  | [] => some (false, ts)

/-- Whether a token is a keyword. -/
def isKeyword (k : String) : Token → Bool
  | .word s => fold s == k
  | _ => false

/-- Takes a keyword if it comes next. -/
def keyword? (k : String) : Reading Bool := takeIf (isKeyword k)

/-- Takes a mark if it comes next. -/
def mark? (m : String) : Reading Bool := takeIf fun t => t == .mark m

/-- Takes a keyword. -/
def keyword (k : String) : Reading Unit := do
  if !(← keyword? k) then failure

/-- Takes a mark. -/
def mark (m : String) : Reading Unit := do
  if !(← mark? m) then failure

/-- The name a token is. A text will do for a name. -/
def nameOf? : Token → Option String
  | .word s => if reserved.contains (fold s) then none else some s
  | .quoted s _ => some s
  | .literal (.text bytes) => some (Text.decode bytes)
  | _ => none

/-- Takes a name. -/
def name : Reading String := fun ts =>
  match ts with
  | t :: rest => (nameOf? t).map fun s => (s, rest)
  | [] => none

/-- Takes a name of what it stands behind, if one comes next. -/
def label? : Reading (Option String) := fun ts =>
  match ts with
  | t :: rest =>
    if notLabels.any fun k => isKeyword k t then some (none, ts)
    else match nameOf? t with
      | some s => some (some s, rest)
      | none => some (none, ts)
  | [] => some (none, [])

/-- Takes a name after `AS`, or without it. -/
def newName? : Reading (Option String) := do
  if ← keyword? "as" then return some (← name) else label?

/-- How the name that a token is is written. -/
def spellingOf : Token → Spelling
  | .word _ => .plain
  | .quoted _ true => .doubled
  | _ => .quoted

/-- Whether a select comes next. -/
def atSelect : Reading Bool := fun ts => some ((ts.head?.map (isKeyword "select")).getD false, ts)

/-- Takes one or more items with commas between them. -/
def commaList {α : Type} (item : Reading α) : Nat → Reading (List α)
  | 0 => failure
  | fuel + 1 => do
    let a ← item
    if ← mark? "," then return a :: (← commaList item fuel) else return [a]

/-! ### What may follow an expression -/

/-- What follows an expression and makes it a part of a greater one. -/
inductive Sequel where
  | either
  | both
  | comparison (op : Comparison)
  | same
  | among (negated : Bool)
  | between (negated : Bool)
  /-- It is tested for being nothing, or for being something. -/
  | null (negated : Bool)
  | operation (op : Operation)

/-- The level of negations. -/
def negationLevel : Nat := 3

/-- The level of comparisons for equality. -/
def equalityLevel : Nat := 4

/-- The level of comparisons by order. -/
def orderLevel : Nat := 5

/-- The level above all operators between two sides. -/
def signLevel : Nat := 10

/-- How tightly it binds. -/
def Sequel.level : Sequel → Nat
  | either => 1
  | both => 2
  | comparison op =>
    match op with
    | .eq | .ne => equalityLevel
    | _ => orderLevel
  | same | among _ | between _ | null _ => equalityLevel
  | operation op =>
    match op with
    | .conj | .disj | .shiftLeft | .shiftRight => 6
    | .add | .sub => 7
    | .mul | .div | .rem => 8
    | .concat => 9

/-- Marks between two sides. -/
def markSequels : List (String × Sequel) :=
  [("=", .comparison .eq), ("==", .comparison .eq), ("<>", .comparison .ne),
    ("!=", .comparison .ne), ("<", .comparison .lt), ("<=", .comparison .le),
    (">", .comparison .gt), (">=", .comparison .ge), ("+", .operation .add),
    ("-", .operation .sub), ("*", .operation .mul), ("/", .operation .div), ("%", .operation .rem),
    ("||", .operation .concat), ("&", .operation .conj), ("|", .operation .disj),
    ("<<", .operation .shiftLeft), (">>", .operation .shiftRight)]

/-- Keywords behind an expression. -/
def wordSequels : List (String × Sequel) :=
  [("or", .either), ("and", .both), ("is", .same), ("in", .among false),
    ("between", .between false), ("isnull", .null false), ("notnull", .null true)]

/-- Keywords behind `NOT` behind an expression. -/
def notSequels : List (String × Sequel) :=
  [("in", .among true), ("between", .between true), ("null", .null true)]

/-- The sequel that tokens start with, and what follows it. -/
def sequelOf? : List Token → Option (Sequel × List Token)
  | .mark m :: rest => (markSequels.lookup m).map fun s => (s, rest)
  | .word w :: rest =>
    if fold w = "not" then
      match rest with
      | .word v :: rest => (notSequels.lookup (fold v)).map fun s => (s, rest)
      | _ => none
    else (wordSequels.lookup (fold w)).map fun s => (s, rest)
  | _ => none

/-- Takes a sequel that binds at least as tightly as a level, if one comes next. -/
def sequel? (level : Nat) : Reading (Option Sequel) := fun ts =>
  match sequelOf? ts with
  | some (s, rest) => if level ≤ s.level then some (some s, rest) else some (none, ts)
  | none => some (none, ts)

/-- Takes how the next source is joined, if there is one. -/
def joinKind? : Reading (Option JoinKind) := do
  if ← mark? "," then return some .inner
  else if ← keyword? "join" then return some .inner
  else
    let kind ←
      if ← keyword? "inner" then pure (some .inner)
      else if ← keyword? "left" then pure (some .left)
      else if ← keyword? "right" then pure (some .right)
      else if ← keyword? "full" then pure (some .full)
      else if ← keyword? "cross" then pure (some .cross)
      else pure none
    match kind with
    | none => return none
    | some k => do
      if k ≠ .inner ∧ k ≠ .cross then let _ ← keyword? "outer"
      keyword "join"
      return some k

/-! ### Types -/

/-- The words of a type. -/
def typeWords : Nat → Reading (List String)
  | 0 => return []
  | n + 1 => do
    match ← label? with
    | some w => return fold w :: (← typeWords n)
    | none => return []

/-- A number with or without a sign, of which only the whole part without its sign matters. -/
def signedNumber : Reading Nat := do
  if !(← mark? "+") then let _ ← mark? "-"
  match ← get with
  | .numeral k :: rest =>
    set rest
    return k.digits * tenTo k.exponent.toNat / tenTo (-k.exponent).toNat
  | _ => failure

/-- The sizes behind the words of a type, if there are any. -/
def sizes? : Reading (Option Nat) := do
  if ← mark? "(" then
    let sizes ← commaList signedNumber 2
    mark ")"
    return sizes.head?
  else return none

/-- A type, which may be without words where it may be absent. -/
def columnType (n : Nat) : Reading ColumnType := do
  let words ← typeWords n
  return ⟨words, ← if words.isEmpty then pure none else sizes?⟩

/-! ### Expressions and selects -/

/-- A hexadecimal number with a sign: its digits are the bits of an integer. -/
def ofHex? (negative : Bool) (n : Nat) : Option (Expr ColumnName) :=
  let i := Int64.ofNat n
  if Datum.clamp n = i ∨ (n < twoTo 64 ∧ i.toInt ≠ leastInteger) then
    some (.constant (.integer (if negative then -i else i)))
  else if n < twoTo 64 ∧ !negative then some (.constant (.integer i))
  else none

/-- The number, perhaps in brackets, that comes next, and what follows it. A minus before it is a
part of it. -/
def number? : List Token → Option (Token × List Token)
  | .numeral k :: rest => some (.numeral k, rest)
  | .hex k :: rest => some (.hex k, rest)
  | .mark m :: rest =>
    if m = "(" then
      match number? rest with
      | some (t, .mark m :: rest) => if m = ")" then some (t, rest) else none
      | _ => none
    else none
  | _ => none

/-- Whether an expression is false as it is written. -/
def isFalse : Expr ColumnName → Bool
  | .constant (.integer n) => n == 0
  | .truth b => !b
  | _ => false

/-- Both of two conditions. -/
def conjoin (l r : Expr ColumnName) : Expr ColumnName :=
  if isFalse l || isFalse r then .constant (.integer 0) else .both l r

/-- Negates an expression, or does not. -/
def negated (b : Bool) (e : Expr ColumnName) : Expr ColumnName := if b then .negation e else e

/-- Whether two sides are the same, or whether they are not. -/
def sameUnless (b : Bool) (l r : Expr ColumnName) : Expr ColumnName :=
  if b then .different l r else .same l r

/-- Whether an expression has the same value for all rows, as it is written. -/
def isFixed : Expr ColumnName → Bool
  | .constant _ | .truth _ | .param _ => true
  | .column c =>
    c.table.isNone && c.spelling == .plain && (fold c.name == "true" || fold c.name == "false")
  | .signed _ e | .negation e | .cast _ e => isFixed e
  | .operation _ l r | .comparison _ l r | .same l r | .different l r | .both l r | .either l r =>
    isFixed l && isFixed r
  | .between e low high => isFixed e && isFixed low && isFixed high
  | _ => false

/-- Equal to one of several items. A single one is compared directly if it is fixed, and a single
select is looked through as a whole. -/
def amongItems (e : Expr ColumnName) : List (Expr ColumnName) → Expr ColumnName
  | [.firstOf q] => .amongRows e q
  | [item] => if isFixed item then .comparison .eq e (.signed .plus item) else .among e [item]
  | items => .among e items

/-- The summary of a name. -/
def summaryOf? (f : String) : Option Summary :=
  [("count", .count), ("sum", .sum), ("total", .total), ("avg", .average), ("max", .largest),
    ("min", .smallest)].lookup f

mutual

/-- An expression whose operators bind at least as tightly as a level. -/
def expr : Nat → Nat → Reading (Expr ColumnName)
  | 0, _ => failure
  | n + 1, level => do continued n level (← operand n)

/-- An expression, continued as far as a level allows. -/
def continued : Nat → Nat → Expr ColumnName → Reading (Expr ColumnName)
  | 0, _, _ => failure
  | n + 1, level, l => do
    match ← sequel? level with
    | some s => continued n level (← extended n l s)
    | none => return l

/-- An expression together with its sequel. -/
def extended : Nat → Expr ColumnName → Sequel → Reading (Expr ColumnName)
  | 0, _, _ => failure
  | n + 1, l, s => do
    let next := s.level + 1
    match s with
    | .either => return .either l (← expr n next)
    | .both => return conjoin l (← expr n next)
    | .comparison op => return .comparison op l (← expr n next)
    | .operation op => return .operation op l (← expr n next)
    | .null b => return sameUnless b l (.constant .null)
    | .same =>
      let not ← keyword? "not"
      if ← keyword? "distinct" then
        keyword "from"
        return sameUnless (!not) l (← expr n next)
      else return sameUnless not l (← expr n next)
    | .between b =>
      let low ← expr n next
      keyword "and"
      return negated b (.between l low (← expr n next))
    | .among b =>
      mark "("
      if ← mark? ")" then return .truth b
      else if ← atSelect then
        let q ← select n
        mark ")"
        return negated b (.amongRows l q)
      else
        let items ← commaList (expr n 0) n
        mark ")"
        return negated b (amongItems l items)

/-- An expression without an operator behind it. -/
def operand : Nat → Reading (Expr ColumnName)
  | 0 => failure
  | n + 1 => do
    match ← get with
    | .literal d :: rest =>
      set rest
      return .constant d
    | .numeral k :: rest =>
      set rest
      return .constant (.ofNumeral false k)
    | .hex k :: rest =>
      set rest
      ofHex? false k
    | .mark "-" :: rest =>
      match number? rest with
      | some (.numeral k, rest) =>
        set rest
        return .constant (.ofNumeral true k)
      | some (.hex k, rest) =>
        set rest
        ofHex? true k
      | _ =>
        set rest
        return .signed .minus (← expr n signLevel)
    | .mark "+" :: rest =>
      set rest
      return .signed .plus (← expr n signLevel)
    | .mark "~" :: rest =>
      set rest
      return .signed .complement (← expr n signLevel)
    | .param p :: rest =>
      set rest
      return .param p
    | .mark "(" :: rest =>
      set rest
      if ← atSelect then
        let q ← select n
        mark ")"
        return .firstOf q
      else
        let e ← expr n 0
        mark ")"
        return e
    | first :: rest =>
      if isKeyword "not" first then
        set rest
        return .negation (← expr n negationLevel)
      else if isKeyword "null" first then
        set rest
        return .constant .null
      else if isKeyword "exists" first then
        set rest
        mark "("
        let q ← select n
        mark ")"
        return .present q
      else
        let s ← name
        if ← mark? "(" then
          if isKeyword "cast" first then conversion n else call n (fold s)
        else if ← mark? "." then return .column ⟨some s, ← name, .quoted⟩
        else return .column ⟨none, s, spellingOf first⟩
    | [] => failure

/-- What is made into a type, after the opening bracket. -/
def conversion : Nat → Reading (Expr ColumnName)
  | 0 => failure
  | n + 1 => do
    let e ← expr n 0
    keyword "as"
    let type ← columnType n
    mark ")"
    return .cast (if type.words.isEmpty then .numeric else type.affinity) e

/-- The arguments of a function, after the opening bracket. -/
def call : Nat → String → Reading (Expr ColumnName)
  | 0, _ => failure
  | n + 1, f => do
    let s ← summaryOf? f
    if s = .count then
      if ← mark? "*" then
        mark ")"
        return .size
      else if ← mark? ")" then return .size
    let distinct ← keyword? "distinct"
    if !distinct then let _ ← keyword? "all"
    let e ← expr n 0
    mark ")"
    return .summary s distinct e

/-- A select, from its keyword on. -/
def select : Nat → Reading (Select ColumnName)
  | 0 => failure
  | n + 1 => do
    let cores ← cores n
    let orderBy ←
      if ← keyword? "order" then
        keyword "by"
        commaList (ordered n) n
      else pure []
    if ← keyword? "limit" then
      let e ← expr n 0
      if ← keyword? "offset" then return .mk cores orderBy (some e) (some (← expr n 0))
      else if ← mark? "," then return .mk cores orderBy (some (← expr n 0)) (some e)
      else return .mk cores orderBy (some e) none
    else return .mk cores orderBy none none

/-- Selects with `UNION ALL` between them. -/
def cores : Nat → Reading (List (Core ColumnName))
  | 0 => failure
  | n + 1 => do
    let c ← core n
    if ← keyword? "union" then
      keyword "all"
      return c :: (← cores n)
    else return [c]

/-- A select without ordering and paging. -/
def core : Nat → Reading (Core ColumnName)
  | 0 => failure
  | n + 1 => do
    keyword "select"
    let distinct ← keyword? "distinct"
    if !distinct then let _ ← keyword? "all"
    let items ← commaList (item n) n
    let sources ← if ← keyword? "from" then sources n .inner else pure []
    if let .mk _ _ (some _) :: _ := sources then failure
    let filter ← if ← keyword? "where" then pure (some (← expr n 0)) else pure none
    let groupBy ←
      if ← keyword? "group" then
        keyword "by"
        commaList (expr n 0) n
      else pure []
    let having ← if ← keyword? "having" then pure (some (← expr n 0)) else pure none
    return .mk distinct items sources filter groupBy having

/-- A selected item. -/
def item : Nat → Reading (Item ColumnName)
  | 0 => failure
  | n + 1 => do
    if ← mark? "*" then return .all
    else
      match ← get with
      | t :: .mark "." :: .mark "*" :: rest =>
        match nameOf? t with
        | some table =>
          set rest
          return .allOf table
        | none => failure
      | _ =>
        let e ← expr n 0
        return .expr e (← newName?)

/-- One or more joined sources. -/
def sources : Nat → JoinKind → Reading (List (Joined ColumnName))
  | 0, _ => failure
  | n + 1, kind => do
    let s ← source n
    let condition ← if ← keyword? "on" then pure (some (← expr n 0)) else pure none
    match ← joinKind? with
    | some next => return .mk kind s condition :: (← sources n next)
    | none => return [.mk kind s condition]

/-- A table or a select in brackets. -/
def source : Nat → Reading (Source ColumnName)
  | 0 => failure
  | n + 1 => do
    if ← mark? "(" then
      let q ← select n
      mark ")"
      return .nested q ((← newName?).getD "")
    else
      let table ← name
      return .table table ((← newName?).getD table)

/-- One ordering entry. -/
def ordered : Nat → Reading (Ordered ColumnName)
  | 0 => failure
  | n + 1 => do
    let e ← expr n 0
    if ← keyword? "desc" then return .mk e .desc
    else
      let _ ← keyword? "asc"
      return .mk e .asc

end

/-! ### Instructions -/

/-- The condition of a change, if there is one. -/
def condition? (n : Nat) : Reading (Option (Expr ColumnName)) := do
  if ← keyword? "where" then return some (← expr n 0) else return none

/-- The constraints of a column. -/
def constraints : Nat → ColumnDef → Reading ColumnDef
  | 0, _ => failure
  | n + 1, c => do
    if ← keyword? "constraint" then let _ ← name
    if ← keyword? "primary" then
      keyword "key"
      let _ ← keyword? "asc"
      constraints n { c with isKey := true }
    else if ← keyword? "not" then
      keyword "null"
      constraints n { c with notNull := true }
    else if ← keyword? "null" then constraints n c
    else if ← keyword? "unique" then constraints n { c with unique := true }
    else return c

/-- A column of a table to be created. -/
def columnDef (n : Nat) : Reading ColumnDef := do
  let column ← name
  let type ← columnType n
  constraints n {
    name := column
    affinity := type.affinity
    isInteger := type.isInteger
    size := type.dataSize }

/-- An assignment of an update. -/
def assignment (n : Nat) : Reading (String × Expr ColumnName) := do
  let column ← name
  mark "="
  return (column, ← expr n 0)

/-- One row of values. -/
def valueRow (n : Nat) : Reading (List (Expr ColumnName)) := do
  mark "("
  let values ← commaList (expr n 0) n
  mark ")"
  return values

/-- What a broken constraint is to undo, if that is said. -/
def undo : Reading Undo := do
  if ← keyword? "or" then
    if ← keyword? "rollback" then return .transaction
    else
      keyword "abort"
      return .instruction
  else return .instruction

/-- The rest of an insert. -/
def insertTail (n : Nat) : Reading (Instruction ColumnName) := do
  let undo ← undo
  keyword "into"
  let table ← name
  let columns ←
    if ← mark? "(" then
      let columns ← commaList name n
      mark ")"
      pure (some columns)
    else pure none
  if ← keyword? "default" then
    keyword "values"
    return .insert undo table (some []) [[]]
  else
    keyword "values"
    return .insert undo table columns (← commaList (valueRow n) n)

/-- The rest of the creation of a table. -/
def createTail (n : Nat) : Reading (Instruction ColumnName) := do
  keyword "table"
  let unlessPresent ←
    if ← keyword? "if" then
      keyword "not"
      keyword "exists"
      pure true
    else pure false
  let table ← name
  mark "("
  let columns ← commaList (columnDef n) n
  mark ")"
  return .create table unlessPresent columns

/-- An instruction about transactions may end in a word, and a name, that add nothing. -/
def plain (i : Instruction ColumnName) : Reading (Instruction ColumnName) := do
  if ← keyword? "transaction" then let _ ← label?
  return i

/-- What a transaction that begins takes of its file. -/
def demand : Reading Demand := do
  if ← keyword? "immediate" then return .write
  else if ← keyword? "exclusive" then return .exclusive
  else
    let _ ← keyword? "deferred"
    return .nothing

/-- Any instruction. -/
def instruction (n : Nat) : Reading (Instruction ColumnName) := do
  if ← atSelect then return .select (← select n)
  else if ← keyword? "insert" then insertTail n
  else if ← keyword? "update" then
    let undo ← undo
    let table ← name
    keyword "set"
    let assignments ← commaList (assignment n) n
    return .update undo table assignments (← condition? n)
  else if ← keyword? "delete" then
    keyword "from"
    let table ← name
    return .delete table (← condition? n)
  else if ← keyword? "create" then createTail n
  else if ← keyword? "begin" then plain (.begin (← demand))
  else if ← keyword? "commit" then plain .commit
  else if ← keyword? "end" then plain .commit
  else if ← keyword? "rollback" then plain .rollback
  else failure

end Reading

/-- The instruction that tokens are, if they are one. -/
def Instruction.ofTokens? (ts : List Token) : Option (Instruction ColumnName) :=
  match Reading.instruction (12 * ts.length + 12) ts with
  | some (i, []) => some i
  | _ => none

end TableGateway.Engine
