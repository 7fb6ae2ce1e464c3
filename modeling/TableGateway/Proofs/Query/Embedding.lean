import TableGateway.Proofs.Query.Writing

/-!
# Selects inside other requests

A nested select is written with the counters where it is met, so its text there is not the text it
has on its own. This module says what changes. The numbers of its parameters are raised by the
parameters met before it, which a renaming of parameters undoes. The numbers of its joined tables
are raised too, and no renaming undoes that; a request that joins nothing, nested selects
included, does not notice.

## Main results

* `Numbering.raiseName_paramName`, `Numbering.raiseName_elementName`: raising a parameter's number.
* `Query.text_raised`: a text depends on the counter of the parameters by a renaming only, and on
  the counter of the joined tables only where tables are joined.
-/

namespace TableGateway

open TableGateway.Numbering

/-! ### Raising the numbers of parameters -/

namespace Numbering

/-- The name of a parameter with its number raised by `n`; other names are left alone. -/
def raiseName (n : Nat) (name : String) : String :=
  match name.toList with
  | 'p' :: rest =>
    let number := Nat.ofDigitChars 10 (rest.takeWhile Char.isDigit) 0
    String.ofList ('p' :: (Nat.toDigits 10 (n + number) ++ rest.dropWhile Char.isDigit))
  | _ => name

/-- A parameter's number is raised. -/
theorem raiseName_paramName (n k : Nat) : raiseName n (paramName k) = paramName (n + k) := by
  have hspan := span_digits k endsNumber_nil
  rw [List.append_nil] at hspan
  rw [raiseName, toList_paramName]
  simp only [hspan.1, hspan.2, Nat.ofDigitChars_ten_toDigits, List.append_nil]
  rw [← toList_paramName, String.ofList_toList]

/-- An element's list gets the raised number, and its position stays. -/
theorem raiseName_elementName (n k i : Nat) :
    raiseName n (elementName k i) = elementName (n + k) i := by
  have hspan := span_digits k (endsNumber_cons (c := '_') (by decide) (Nat.toDigits 10 i))
  rw [raiseName, toList_elementName]
  simp only [hspan.1, hspan.2, Nat.ofDigitChars_ten_toDigits]
  rw [← toList_elementName, String.ofList_toList]

/-- The names of a list's elements are raised one by one. -/
theorem map_raiseName_elementNames (n k i : Nat) (vs : List Value) :
    (elementNames k i vs).map (raiseName n) = elementNames (n + k) i vs := by
  simp only [elementNames, List.map_map]
  exact List.map_congr_left fun (_, j) _ => raiseName_elementName n k j

end Numbering

/-- A leaf with its parameters renamed. -/
def Leaf.rename (ρ : String → String) : Leaf → Leaf
  | .equality param => .equality (ρ param)
  | .membership params => .membership (params.map ρ)
  | .subquery sql => .subquery sql
  | .isNull => .isNull

/-- The dialect that writes everything as `d` does, but with the numbers of all parameters raised
by `n`. -/
def Dialect.raised (d : Dialect) (n : Nat) : Dialect :=
  { d with
    placeholder := fun name => d.placeholder (raiseName n name)
    leaf := fun column l => d.leaf column (l.rename (raiseName n)) }

/-! ### Raised walks -/

/-- The counters `t` and `t'` differ for the walk `w` by `n` parameters only: they agree on the
joined tables, or no table is joined. -/
def Raised (n : Nat) (w : List Met) (t t' : Tally) : Prop :=
  t.params = n + t'.params ∧ (t.aliases = t'.aliases ∨ ∀ j, .join j ∉ w)

namespace Raised

variable {n : Nat} {v w : List Met} {t t' : Tally}

/-- The first part of a walk. -/
theorem left (h : Raised n (v ++ w) t t') : Raised n v t t' :=
  ⟨h.1, h.2.imp_right fun hnone j hj => hnone j (List.mem_append_left w hj)⟩

/-- The second part of a walk, which is walked with the counters behind the first. -/
theorem right (h : Raised n (v ++ w) t t') : Raised n w (t.after v) (t'.after v) := by
  obtain ⟨hparams, haliases⟩ := h
  refine ⟨?_, haliases.imp (fun heq => ?_) fun hnone j hj =>
    hnone j (List.mem_append_right v hj)⟩
  · rw [Tally.after_params, Tally.after_params, hparams, Nat.add_assoc]
  · rw [Tally.after_aliases, Tally.after_aliases, heq]

/-- A nested select. -/
theorem nested {q : Query} (h : Raised n (.select q :: q.walk) t t') : Raised n q.walk t t' :=
  ⟨h.1, h.2.imp_right fun hnone j hj => hnone j (List.mem_cons_of_mem _ hj)⟩

end Raised

section

variable {n : Nat} {d : Dialect} {inline inline' : Inliner}

/-- Two inliners give the nested selects of the walk `w` the same text from counters that differ by
`n` parameters only. -/
def Inliner.Agree (n : Nat) (inline inline' : Inliner) (w : List Met) : Prop :=
  ∀ r, .select r ∈ w → ∀ t t', Raised n r.walk t t' → inline t r = inline' t' r

/-- A condition. -/
theorem Condition.write_raised {c : Condition} {t t' : Tally}
    (hin : Inliner.Agree n inline inline' c.walk) (h : Raised n c.walk t t') :
    c.write d inline t = c.write (d.raised n) inline' t' := by
  induction c using Condition.induction generalizing t t' with
  | leaf column operand =>
      have hnext : t.params + 1 = n + (t'.params + 1) := by
        rw [h.1, Nat.add_assoc]
      cases operand with
      | scalar v =>
          simp only [Condition.write, Operand.write, Dialect.raised, Leaf.rename,
            raiseName_paramName, hnext]
      | list vs =>
          simp only [Condition.write, Operand.write, Dialect.raised, Leaf.rename,
            map_raiseName_elementNames, hnext]
      | null => rfl
      | subquery q =>
          have hq : inline t q = inline' t' q := hin q (List.mem_cons_self ..) t t' h.nested
          simp only [Condition.write, Operand.write, Dialect.raised, Leaf.rename, hq]
  | conj left right ihl ihr | disj left right ihl ihr =>
      have hl := ihl (fun r hr => hin r (List.mem_append_left _ hr)) h.left
      have hr := ihr (fun r hr => hin r (List.mem_append_right _ hr)) h.right
      simp only [Condition.write, hl, hr]
      rfl

/-- A condition that may be missing. -/
theorem writeFilter_raised {f : Option Condition} {t t' : Tally}
    (hin : Inliner.Agree n inline inline' (walkFilter f)) (h : Raised n (walkFilter f) t t') :
    writeFilter d inline t f = writeFilter (d.raised n) inline' t' f := by
  cases f with
  | none => rfl
  | some c => rw [writeFilter, writeFilter, Condition.write_raised hin h]

/-- Assignments. -/
theorem writeAssignments_raised {as : List (String × Assigned)} {t t' : Tally}
    (hin : Inliner.Agree n inline inline' (walkAssignments as))
    (h : Raised n (walkAssignments as) t t') :
    writeAssignments d inline t as = writeAssignments (d.raised n) inline' t' as := by
  induction as generalizing t t' with
  | nil => rfl
  | cons entry rest ih =>
      obtain ⟨column, assigned⟩ := entry
      have hone : assigned.write d inline t = assigned.write (d.raised n) inline' t' := by
        cases assigned with
        | value v =>
            simp only [Assigned.write, Dialect.raised, raiseName_paramName, h.1, Nat.add_assoc]
        | subquery q =>
            have hq : inline t q = inline' t' q :=
              hin q (List.mem_cons_self ..) t t' h.left.nested
            simp only [Assigned.write, hq]
      have hrest := ih (fun r hr => hin r (List.mem_append_right _ hr)) h.right
      rw [writeAssignments, writeAssignments, hone]
      refine bind_congr fun text => ?_
      rw [walkAssignment] at hrest
      rw [hrest]

/-- Joins: they keep their aliases unless there are none. -/
theorem namedJoins_raised (source : String) {joins : List Join} {t t' : Tally}
    (h : Raised n (joins.map .join) t t') :
    namedJoins source t.aliases joins = namedJoins source t'.aliases joins := by
  rcases h.2 with heq | hnone
  · rw [heq]
  · cases joins with
    | nil => rfl
    | cons j joins => exact absurd (List.mem_cons_self ..) (hnone j)

/-- The clauses of a request. -/
theorem Query.clauses_raised {q : Query} {t t' : Tally}
    (hin : Inliner.Agree n inline inline' q.walk) (h : Raised n q.walk t t') :
    q.clauses d inline t = q.clauses (d.raised n) inline' t' := by
  obtain ⟨table, action, projection, assignments, joins, filter, having, groupBy, orderBy, limit,
    offset⟩ := q
  cases action with
  | select =>
      have hnamed := namedJoins_raised table.name h.left
      have hf := writeFilter_raised (d := d) (fun r hr =>
        hin r (List.mem_append_right _ (List.mem_append_left _ hr))) h.right.left
      have hh := writeFilter_raised (d := d) (fun r hr =>
        hin r (List.mem_append_right _ (List.mem_append_right _ hr))) h.right.right
      simp only [Query.clauses, hnamed, hf, hh]
  | insert =>
      simp only [Query.clauses, writeAssignments_raised (d := d) hin h]
  | update =>
      have ha := writeAssignments_raised (d := d) (fun r hr =>
        hin r (List.mem_append_left _ hr)) h.left
      have hf := writeFilter_raised (d := d) (fun r hr =>
        hin r (List.mem_append_right _ hr)) h.right
      simp only [Query.clauses, ha, hf]
  | delete =>
      simp only [Query.clauses, writeFilter_raised (d := d) hin h]

end

/-- **Raised counters.** A text depends on the counter of the parameters by a renaming only, and on
the counter of the joined tables only where tables are joined. By induction over nesting. -/
theorem Query.text_raised (d : Dialect) {n : Nat} {q : Query} {t t' : Tally}
    (h : Raised n q.walk t t') : q.text d t = q.text (d.raised n) t' := by
  induction q using Query.nested_induction generalizing t t' with
  | step q ih =>
      rw [Query.text_eq, Query.text_eq, Query.clauses_raised (fun r hr t t' => ih r hr) h]
      rfl

end TableGateway
