import TableGateway.Error
import TableGateway.Value

/-!
# Parameter bags

The values a statement binds, under names that are pairwise distinct, in the order in which they
were bound. `bind` adds one value and `merge` a whole bag; both fail without any effect when a
name is already taken. Equality of bags does not look at the order.

`Numbering` hands out the names of one statement: parameters are numbered through the whole
statement, sub-selects included, and so are the aliases of joined tables.
-/

namespace TableGateway

/-- Named values in binding order. -/
structure Params where
  entries : List (String × Value)
  distinct : (entries.map Prod.fst).Nodup
  deriving DecidableEq, Repr

namespace Params

/-- The empty bag. -/
def empty : Params := ⟨[], by simp⟩

instance : Inhabited Params := ⟨empty⟩

/-- The bound names, in order. -/
def names (p : Params) : List String := p.entries.map Prod.fst

/-- The bound values, in order. -/
def values (p : Params) : List Value := p.entries.map Prod.snd

/-- The number of bound values. -/
def size (p : Params) : Nat := p.entries.length

/-- The value bound under a name. -/
def get? (p : Params) (name : String) : Option Value := p.entries.lookup name

/-- Adds a value under a new name. -/
def bind (p : Params) (name : String) (value : Value) : Except Error Params :=
  if h : name ∈ p.names then .error (.parameterCollision name)
  else .ok ⟨p.entries ++ [(name, value)], by
    have hp := p.distinct
    simp only [names] at h
    simp only [List.map_append, List.map_cons, List.map_nil]
    refine List.nodup_append.2 ⟨hp, by simp, ?_⟩
    intro a ha b hb hab
    simp only [List.mem_singleton] at hb
    subst hb hab
    exact h ha⟩

/-- The first name of `q`, in its order, that `p` binds too. -/
def shared? (p q : Params) : Option String := q.names.find? (fun name => decide (name ∈ p.names))

/-- Adds all entries of another bag, or reports the first of its names that is taken. -/
def merge (p q : Params) : Except Error Params :=
  match h : p.shared? q with
  | some name => .error (.parameterCollision name)
  | none => .ok ⟨p.entries ++ q.entries, by
      simp only [shared?, names, List.find?_eq_none] at h
      rw [List.map_append]
      refine List.nodup_append.2 ⟨p.distinct, q.distinct, ?_⟩
      intro a ha b hb hab
      subst hab
      exact h a hb (decide_eq_true ha)⟩

/-- Binds a list of entries one after the other. -/
def ofList (entries : List (String × Value)) : Except Error Params :=
  entries.foldlM (fun p (name, value) => p.bind name value) empty

/-- Whether two bags bind the same names to the same values, in whatever order. -/
def same (p q : Params) : Bool :=
  p.size == q.size &&
    p.entries.all fun (name, value) =>
      match q.get? name with
      | some other => value.same other
      | none => false

end Params

/-! ### Names of one statement -/

/-- How many parameters and how many joined tables a statement has named so far. -/
structure Tally where
  params : Nat
  aliases : Nat
  deriving DecidableEq, Repr

/-- The counters of a statement that has named nothing. -/
def Tally.start : Tally := ⟨0, 0⟩

/-- A computation that names the parameters and joins of one statement and may fail. -/
abbrev Numbering := StateT Tally (Except Error)

namespace Numbering

/-- The name of the `n`-th parameter. -/
def paramName (n : Nat) : String := "p" ++ toString n

/-- The name of the `i`-th element of a list that is the `n`-th parameter. -/
def elementName (n i : Nat) : String := paramName n ++ "_" ++ toString i

/-- The alias of the `n`-th joined table. -/
def aliasName (n : Nat) : String := "j" ++ toString n

/-- The number of the next parameter. -/
def nextParam : Numbering Nat := fun c => .ok (c.params + 1, { c with params := c.params + 1 })

/-- The alias of the next joined table. -/
def nextAlias : Numbering String :=
  fun c => .ok (aliasName (c.aliases + 1), { c with aliases := c.aliases + 1 })

/-- Names and binds one value. -/
def bindValue (value : Value) (params : Params) : Numbering (String × Params) := do
  let n ← nextParam
  let params ← params.bind (paramName n) value
  return (paramName n, params)

/-- Binds the elements of a list under the number `n`, counting from `i`. -/
def bindElements (n : Nat) : Nat → List Value → Params → Except Error (List String × Params)
  | _, [], params => .ok ([], params)
  | i, value :: rest, params => do
    let params ← params.bind (elementName n i) value
    let (names, params) ← bindElements n (i + 1) rest params
    return (elementName n i :: names, params)

/-- Names and binds a list: the whole list takes one number, also when it is empty. -/
def bindAll (values : List Value) (params : Params) : Numbering (List String × Params) := do
  let n ← nextParam
  bindElements n 0 values params

end Numbering

end TableGateway
