/-!
# Registries

Values under distinct keys, in the order in which the keys were first entered. Entering a key
again replaces its value where it stands.
-/

namespace TableGateway

/-- Values under keys. -/
structure Registry (κ α : Type) where
  entries : List (κ × α)

namespace Registry

variable {κ α : Type}

/-- No entries. -/
def empty : Registry κ α := ⟨[]⟩

instance : Inhabited (Registry κ α) := ⟨empty⟩

/-- The keys, in order. -/
def keys (r : Registry κ α) : List κ := r.entries.map Prod.fst

/-- The values, in the order of their keys. -/
def values (r : Registry κ α) : List α := r.entries.map Prod.snd

/-- The number of entries. -/
def size (r : Registry κ α) : Nat := r.entries.length

variable [DecidableEq κ]

/-- The value under a key. -/
def get? (r : Registry κ α) (k : κ) : Option α := r.entries.lookup k

/-- Whether there is a value under a key. -/
def contains (r : Registry κ α) (k : κ) : Bool := (r.get? k).isSome

/-- Replaces the value of a key in a list of entries, or appends it. -/
def insertInto (k : κ) (a : α) : List (κ × α) → List (κ × α)
  | [] => [(k, a)]
  | (k', a') :: rest => if k' = k then (k, a) :: rest else (k', a') :: insertInto k a rest

/-- Enters a value under a key. -/
def insert (r : Registry κ α) (k : κ) (a : α) : Registry κ α := ⟨insertInto k a r.entries⟩

/-- Removes a key. -/
def erase (r : Registry κ α) (k : κ) : Registry κ α :=
  ⟨r.entries.filter fun e => decide (e.1 ≠ k)⟩

/-- Changes the value of a key, if it has one. -/
def modify (r : Registry κ α) (k : κ) (f : α → α) : Registry κ α :=
  ⟨r.entries.map fun e => if e.1 = k then (e.1, f e.2) else e⟩

/-- Enters several values, one after the other. -/
def ofList (entries : List (κ × α)) : Registry κ α :=
  entries.foldl (fun r (k, a) => r.insert k a) empty

end Registry

end TableGateway
