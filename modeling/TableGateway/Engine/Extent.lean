import TableGateway.Engine.Instruction

/-!
# How large an instruction may be

An instruction is refused if it has too many parts or if they stand too deeply within each other.
An expression is as high as its highest part and one more. What an expression weighs is its height
together with the weight of the heaviest expression in a select within it.
-/

namespace TableGateway.Engine

/-- How high an expression is, and what it weighs beyond that. -/
structure Extent where
  height : Nat := 0
  beyond : Nat := 0
  deriving DecidableEq, Repr

namespace Extent

/-- The greatest number of columns, and of entries of an ordering or a grouping. -/
def maxTerms : Nat := 2000

/-- The greatest number of selects that follow each other. -/
def maxSelects : Nat := 500

/-- The greatest weight of an expression. -/
def maxWeight : Nat := 1000

/-- What covers both. -/
def join (a b : Extent) : Extent := ⟨max a.height b.height, max a.beyond b.beyond⟩

/-- The extent of an expression with parts of a given one. -/
def above (a : Extent) : Extent := { a with height := a.height + 1 }

/-- What an expression weighs. -/
def weight (a : Extent) : Nat := a.height + a.beyond

/-- An expression of a select, as it is seen from around the select. -/
def enclosed (a : Extent) : Extent := { a with beyond := a.weight }

/-- The extent of a constant; the sign of a negative number counts. -/
def ofConstant : Datum → Extent
  | .integer n => ⟨if n < 0 then 2 else 1, 0⟩
  | .real x => ⟨if x.isNegative then 2 else 1, 0⟩
  | _ => ⟨1, 0⟩

end Extent

mutual

/-- The extent of an expression. -/
def Expr.extent {γ : Type} : Expr γ → Extent
  | .constant d => .ofConstant d
  | .truth _ | .param _ | .column _ | .size => ⟨1, 0⟩
  | .signed _ e | .negation e | .settled e _ | .cast _ e | .summary _ _ e => e.extent.above
  | .operation _ l r | .comparison _ l r | .same l r | .different l r | .both l r | .either l r =>
    (l.extent.join r.extent).above
  | .between e low high => (e.extent.join (low.extent.join high.extent)).above
  | .among e items => (e.extent.join (extentOfAll items)).above
  | .amongRows e q => (e.extent.join q.extent).above
  | .present q | .firstOf q => q.extent.above

/-- The extent of several expressions. -/
def extentOfAll {γ : Type} : List (Expr γ) → Extent
  | [] => {}
  | e :: rest => e.extent.join (extentOfAll rest)

/-- The extent of an expression of a select that may be absent. -/
def extentOfOption {γ : Type} : Option (Expr γ) → Extent
  | none => {}
  | some e => e.extent.enclosed

/-- The extent of expressions of a select. -/
def extentOfGroups {γ : Type} : List (Expr γ) → Extent
  | [] => {}
  | e :: rest => e.extent.enclosed.join (extentOfGroups rest)

/-- The extent of selected items. -/
def extentOfItems {γ : Type} : List (Item γ) → Extent
  | [] => {}
  | .expr e _ :: rest => e.extent.enclosed.join (extentOfItems rest)
  | _ :: rest => extentOfItems rest

/-- The extent of ordering entries. -/
def extentOfOrder {γ : Type} : List (Ordered γ) → Extent
  | [] => {}
  | .mk e _ :: rest => e.extent.enclosed.join (extentOfOrder rest)

/-- The extent of joined sources. Their expressions have a weight, but make the select around no
higher. -/
def extentOfSources {γ : Type} : List (Joined γ) → Extent
  | [] => {}
  | .mk _ (.table _ _) condition :: rest =>
    Extent.join ⟨0, (extentOfOption condition).beyond⟩ (extentOfSources rest)
  | .mk _ (.nested q _) condition :: rest =>
    Extent.join ⟨0, max q.extent.beyond (extentOfOption condition).beyond⟩ (extentOfSources rest)

/-- The extent of several selects. -/
def extentOfCores {γ : Type} : List (Core γ) → Extent
  | [] => {}
  | .mk _ items sources filter groupBy having :: rest =>
    (((extentOfItems items).join (extentOfSources sources)).join ((extentOfOption filter).join
      ((extentOfGroups groupBy).join (extentOfOption having)))).join (extentOfCores rest)

/-- The extent of a select. -/
def Select.extent {γ : Type} : Select γ → Extent
  | .mk cores orderBy limit offset =>
    ((extentOfCores cores).join (extentOfOrder orderBy)).join
      ((extentOfOption limit).join (extentOfOption offset))

end

/-- The extent of the rows of an instruction that inserts them. -/
def extentOfRows {γ : Type} (rows : List (List (Expr γ))) : Extent :=
  rows.foldl (fun a row => a.join (extentOfGroups row)) {}

/-- The extent of the expressions of an instruction. -/
def Instruction.extent {γ : Type} : Instruction γ → Extent
  | .select q => q.extent
  | .insert _ _ _ rows => extentOfRows rows
  | .update _ _ assignments filter =>
    (extentOfGroups (assignments.map Prod.snd)).join (extentOfOption filter)
  | .delete _ filter => extentOfOption filter
  | _ => {}

/-- Whether no expression of an instruction is too large. -/
def Instruction.isModest {γ : Type} (i : Instruction γ) : Bool :=
  decide (i.extent.beyond ≤ Extent.maxWeight)

end TableGateway.Engine
