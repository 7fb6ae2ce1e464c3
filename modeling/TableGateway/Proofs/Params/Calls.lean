import Mathlib.Data.List.Nodup
import Mathlib.Data.List.Perm.Subperm
import TableGateway.Proofs.Query.Walk
import TableGateway.Proofs.Registry

/-!
# Bags under calls

A bag is filled by binding values and by merging other bags, which were filled in the same way. A
call that would bind a name twice is refused and does nothing; any other one adds its entries behind
those that are there. So a bag can be read in two ways that agree: as a list in the order of
binding, and as a map from names to values.

## Conventions

Whoever fills a bag goes on with it after a refused call: `Params.call` gives the bag that is there
then, together with what is answered. `Call.here` makes the same call on a registry that is changed
entry by entry where it stands, so that a call that is refused halfway would leave its traces there.

## Main results

* `Params.call_bind_of_mem`, `Params.call_bind_of_not_mem`: binding.
* `Params.call_merge_of_shared`, `Params.call_merge_of_disjoint`: merging.
* `Params.here_eq`: entry by entry, a call does the same.
* `Params.get?_eq_some_iff`: what is found under a name.
* `Params.same_iff`: when two bags are the same.
* `Params.all_or_nothing`: all of it, after any calls.
-/

namespace TableGateway

namespace Params

/-! ### Calls -/

/-- What is done to a bag. -/
inductive Call where
  | bind (name : String) (value : Value)
  /-- Merges the bag that is there after some calls. -/
  | merge (calls : List Call)

/-- The bag that is there after a call that should give another one, and what is answered. -/
def settle (p : Params) : Except Error Params → Params × Except Error Unit
  | .ok q => (q, .ok ())
  | .error e => (p, .error e)

mutual

/-- The bag after a call, and what is answered. -/
def call (p : Params) : Call → Params × Except Error Unit
  | .bind name value => p.settle (p.bind name value)
  | .merge calls => p.settle (p.merge (empty.afterAll calls))

/-- The bag after several calls. -/
def afterAll (p : Params) : List Call → Params
  | [] => p
  | c :: calls => (p.call c).1.afterAll calls

end

variable {p q : Params} {name : String} {value : Value} {calls : List Call}

/-- What a call may add to a bag. -/
def Call.offered : Call → List (String × Value)
  | .bind name value => [(name, value)]
  | .merge calls => (empty.afterAll calls).entries

/-! ### What a call does -/

/-- A bag with more entries of other names. -/
theorem exists_append {added : List (String × Value)} (hadded : (added.map Prod.fst).Nodup)
    (hfree : ∀ name ∈ added.map Prod.fst, name ∉ p.names) :
    ∃ q : Params, q.entries = p.entries ++ added := by
  refine ⟨⟨p.entries ++ added, ?_⟩, rfl⟩
  rw [List.map_append, List.nodup_append]
  refine ⟨p.distinct, hadded, ?_⟩
  rintro a ha b hb rfl
  exact hfree a hb ha

/-- A bound name is refused. -/
theorem call_bind_of_mem (h : name ∈ p.names) (value : Value) :
    p.call (.bind name value) = (p, .error (.parameterCollision name)) := by
  rw [call, bind, dif_pos h]
  rfl

/-- A new name is bound behind the others. -/
theorem call_bind_of_not_mem (h : name ∉ p.names) (value : Value) :
    ∃ q, p.call (.bind name value) = (q, .ok ()) ∧ q.entries = p.entries ++ [(name, value)] := by
  obtain ⟨q, hq⟩ : ∃ q : Params, q.entries = p.entries ++ [(name, value)] :=
    exists_append (List.nodup_singleton _) (by simpa using h)
  refine ⟨q, ?_, hq⟩
  rw [call, bind_eq_ok hq]
  rfl

/-- A bag with a bound name is refused, and its first one is reported. -/
theorem merge_of_shared (h : p.shared? q = some name) :
    p.merge q = .error (.parameterCollision name) := by
  unfold merge
  split
  · next found hfound => rw [Option.some.inj (hfound.symm.trans h)]
  · next hnone => rw [h] at hnone; exact absurd hnone (by simp)

/-- Where a bound name stands first in another bag. -/
theorem shared?_of_first {before after : List String} (hnames : q.names = before ++ name :: after)
    (hbefore : ∀ other ∈ before, other ∉ p.names) (h : name ∈ p.names) :
    p.shared? q = some name := by
  rw [shared?, List.find?_eq_some_iff_append]
  refine ⟨decide_eq_true h, before, after, hnames, ?_⟩
  intro other hother
  simpa using hbefore other hother

/-- A bag is refused whole for the first of its names that is bound. -/
theorem call_merge_of_shared {before after : List String}
    (hnames : (empty.afterAll calls).names = before ++ name :: after)
    (hbefore : ∀ other ∈ before, other ∉ p.names) (h : name ∈ p.names) :
    p.call (.merge calls) = (p, .error (.parameterCollision name)) := by
  rw [call, merge_of_shared (shared?_of_first hnames hbefore h)]
  rfl

/-- A bag without a bound name is added whole. -/
theorem call_merge_of_disjoint (h : ∀ name ∈ (empty.afterAll calls).names, name ∉ p.names) :
    ∃ q, p.call (.merge calls) = (q, .ok ()) ∧
      q.entries = p.entries ++ (empty.afterAll calls).entries := by
  obtain ⟨q, hq⟩ : ∃ q : Params, q.entries = p.entries ++ (empty.afterAll calls).entries :=
    exists_append (empty.afterAll calls).distinct h
  refine ⟨q, ?_, hq⟩
  rw [call, merge_eq_ok hq]
  rfl

/-- Two bags share no name, or one of the second is the first that they share. -/
theorem disjoint_or_first (p q : Params) :
    (∀ name ∈ q.names, name ∉ p.names) ∨ ∃ before name after, q.names = before ++ name :: after ∧
      (∀ other ∈ before, other ∉ p.names) ∧ name ∈ p.names := by
  cases h : p.shared? q with
  | none =>
      left
      intro name hname hp
      exact List.find?_eq_none.mp h name hname (decide_eq_true hp)
  | some name =>
      obtain ⟨hname, before, after, hnames, hbefore⟩ := List.find?_eq_some_iff_append.mp h
      refine .inr ⟨before, name, after, hnames, ?_, of_decide_eq_true hname⟩
      intro other hother
      simpa using hbefore other hother

/-- **One call.** It is refused and leaves the bag as it was, or it adds what it offers. -/
theorem call_cases (p : Params) (c : Call) :
    (∃ name ∈ p.names, name ∈ c.offered.map Prod.fst ∧
      p.call c = (p, .error (.parameterCollision name))) ∨
    (∀ name ∈ c.offered.map Prod.fst, name ∉ p.names) ∧
      ∃ q, p.call c = (q, .ok ()) ∧ q.entries = p.entries ++ c.offered := by
  cases c with
  | bind name value =>
      by_cases h : name ∈ p.names
      · exact .inl ⟨name, h, List.mem_singleton_self _, call_bind_of_mem h value⟩
      · exact .inr ⟨by simpa [Call.offered] using h, call_bind_of_not_mem h value⟩
  | merge calls =>
      rcases disjoint_or_first p (empty.afterAll calls) with
        h | ⟨before, name, after, hnames, hbefore, hname⟩
      · exact .inr ⟨h, call_merge_of_disjoint h⟩
      · have hmem : name ∈ (empty.afterAll calls).names := by simp [hnames]
        exact .inl ⟨name, hname, hmem, call_merge_of_shared hnames hbefore hname⟩

/-- What is bound stays where it is. By induction over the calls. -/
theorem entries_prefix_afterAll (p : Params) (calls : List Call) :
    p.entries <+: (p.afterAll calls).entries := by
  induction calls generalizing p with
  | nil => exact List.prefix_rfl
  | cons c calls ih =>
      have hone : p.entries <+: (p.call c).1.entries := by
        rcases call_cases p c with ⟨name, -, -, hcall⟩ | ⟨-, q, hcall, hq⟩
        · simp only [hcall, List.prefix_rfl]
        · rw [hcall, hq]
          exact List.prefix_append _ _
      exact hone.trans (ih (p.call c).1)

/-! ### Entry by entry -/

/-- What is done to a registry where it stands. -/
abbrev InPlace := ExceptT Error (StateM (Registry String Value))

/-- Enters one value under a new name. -/
def bindHere (name : String) (value : Value) : InPlace Unit := do
  if (← get).contains name then throw (.parameterCollision name)
  modify fun held => held.insert name value

/-- Enters all values of another registry, one after the other, unless a name of it is there. -/
def mergeHere (other : Registry String Value) : InPlace Unit := do
  let held ← get
  match other.keys.find? fun name => held.contains name with
  | some name => throw (.parameterCollision name)
  | none => other.entries.forM fun entry => modify fun held => held.insert entry.1 entry.2

mutual

/-- A call on a registry. -/
def Call.here : Call → InPlace Unit
  | .bind name value => bindHere name value
  | .merge calls => mergeHere (hereAfter calls .empty)

/-- A registry after several calls. -/
def hereAfter : List Call → Registry String Value → Registry String Value
  | [], held => held
  | c :: calls, held => hereAfter calls (c.here.run held).2

end

/-- The registry of the entries of a bag. -/
def registry (p : Params) : Registry String Value := ⟨p.entries⟩

/-- A name is in the registry of a bag if it is bound. -/
theorem contains_registry (p : Params) (name : String) :
    p.registry.contains name = decide (name ∈ p.names) := by
  have h : name ∈ p.names ↔ p.registry.contains name = true :=
    Registry.mem_keys_iff (r := p.registry)
  rw [Bool.eq_iff_iff, decide_eq_true_iff, h]

/-- New keys are entered behind the others, in their order. By induction over them. -/
theorem forM_insert {added entries : List (String × Value)}
    (h : ((entries ++ added).map Prod.fst).Nodup) :
    (added.forM fun e => modify fun held => held.insert e.1 e.2 : InPlace Unit).run ⟨entries⟩ =
      (.ok (), ⟨entries ++ added⟩) := by
  induction added generalizing entries with
  | nil =>
      rw [List.append_nil]
      rfl
  | cons e added ih =>
      have hnew : e.1 ∉ entries.map Prod.fst := by
        rw [List.map_append, List.nodup_append] at h
        intro hmem
        exact h.2.2 e.1 hmem e.1 (by simp) rfl
      have hsplit : entries ++ e :: added = (entries ++ [e]) ++ added := by simp
      have hinsert : Registry.insert ⟨entries⟩ e.1 e.2 = ⟨entries ++ [e]⟩ :=
        congrArg Registry.mk (Registry.insertInto_of_not_mem hnew e.2)
      rw [hsplit] at h ⊢
      rw [← ih h, ← hinsert]
      rfl

/-- Binding in place. -/
theorem bindHere_run (p : Params) (name : String) (value : Value) :
    (bindHere name value).run p.registry =
      ((p.call (.bind name value)).2, (p.call (.bind name value)).1.registry) := by
  have hstep : (bindHere name value).run p.registry =
      if p.registry.contains name then (.error (.parameterCollision name), p.registry)
      else (.ok (), p.registry.insert name value) := by
    change (if p.registry.contains name then throw (.parameterCollision name)
      else modify fun held => held.insert name value : InPlace Unit).run p.registry = _
    split <;> rfl
  rw [hstep, contains_registry]
  by_cases h : name ∈ p.names
  · rw [if_pos (decide_eq_true h), call_bind_of_mem h]
  · obtain ⟨q, hcall, hq⟩ := call_bind_of_not_mem h value
    rw [if_neg (by simpa using h), hcall, registry, registry, hq]
    exact congrArg _ (congrArg Registry.mk (Registry.insertInto_of_not_mem h value))

/-- Merging in place. -/
theorem mergeHere_run (p : Params) (calls : List Call) :
    (mergeHere (empty.afterAll calls).registry).run p.registry =
      ((p.call (.merge calls)).2, (p.call (.merge calls)).1.registry) := by
  have hfind : ((empty.afterAll calls).registry.keys.find? fun name => p.registry.contains name) =
      p.shared? (empty.afterAll calls) := by
    simp only [contains_registry]
    rfl
  have hstep : (mergeHere (empty.afterAll calls).registry).run p.registry =
      match p.shared? (empty.afterAll calls) with
      | some name => (.error (.parameterCollision name), p.registry)
      | none => (((empty.afterAll calls).entries.forM fun e =>
          modify fun held => held.insert e.1 e.2 : InPlace Unit)).run p.registry := by
    rw [← hfind]
    change (match ((empty.afterAll calls).registry.keys.find? fun name =>
        p.registry.contains name) with
      | some name => throw (.parameterCollision name)
      | none => _ : InPlace Unit).run p.registry = _
    split <;> rfl
  rw [hstep]
  rcases disjoint_or_first p (empty.afterAll calls) with
    h | ⟨before, name, after, hnames, hbefore, hname⟩
  · obtain ⟨q, hcall, hq⟩ := call_merge_of_disjoint h
    have hnone : p.shared? (empty.afterAll calls) = none :=
      List.find?_eq_none.mpr fun name hmem => by simpa using h name hmem
    have hdistinct := q.distinct
    rw [hq] at hdistinct
    rw [hnone, hcall, registry, registry, hq]
    exact forM_insert hdistinct
  · rw [shared?_of_first hnames hbefore hname, call_merge_of_shared hnames hbefore hname]

mutual

/-- **Entry by entry**, a call answers the same and leaves the same entries. -/
theorem here_eq (p : Params) : ∀ c : Call,
    c.here.run p.registry = ((p.call c).2, (p.call c).1.registry)
  | .bind name value => bindHere_run p name value
  | .merge calls => by
      have hother : hereAfter calls .empty = (empty.afterAll calls).registry :=
        hereAfter_eq empty calls
      rw [Call.here, hother]
      exact mergeHere_run p calls

/-- The same for several calls. -/
theorem hereAfter_eq (p : Params) : ∀ calls : List Call,
    hereAfter calls p.registry = (p.afterAll calls).registry
  | [] => rfl
  | c :: calls => by
      rw [hereAfter, here_eq p c]
      exact hereAfter_eq (p.call c).1 calls

end

/-! ### What is bound -/

/-- **Looking up** a name finds the value that is bound under it. -/
theorem get?_eq_some_iff : p.get? name = some value ↔ (name, value) ∈ p.entries := by
  constructor
  · intro h
    obtain ⟨before, after, hentries, -⟩ := List.lookup_eq_some_iff.mp h
    rw [hentries]
    exact List.mem_append_right _ List.mem_cons_self
  · exact Registry.get?_of_mem (r := p.registry) p.distinct

/-- Nothing is found under a name that is not bound. -/
theorem get?_eq_none_iff : p.get? name = none ↔ name ∉ p.names := by
  have h : name ∈ p.names ↔ (p.get? name).isSome := Registry.mem_keys_iff (r := p.registry)
  rw [h, Bool.not_eq_true, Option.isSome_eq_false_iff, Option.isNone_iff_eq_none]

/-- A bound value is the one under its name. -/
theorem mem_names (h : (name, value) ∈ p.entries) : name ∈ p.names :=
  List.mem_map.mpr ⟨(name, value), h, rfl⟩

/-- The same value under a name in two bags, or none in both. -/
abbrev Alike (p q : Params) (name : String) : Prop :=
  Option.Rel (fun v w => v.same w = true) (p.get? name) (q.get? name)

/-- A name under which two bags find alike is bound in both or in none. -/
theorem Alike.mem_iff (h : p.Alike q name) : name ∈ p.names ↔ name ∈ q.names := by
  rw [← not_iff_not, ← get?_eq_none_iff, ← get?_eq_none_iff]
  unfold Alike at h
  rcases hp : p.get? name with _ | v <;> rcases hq : q.get? name with _ | w <;> rw [hp, hq] at h
  · cases h
  · cases h
  · simp

/-- The comparison of two bags counts the entries and looks up every one in the other bag. -/
theorem same_eq_true :
    p.same q = true ↔ p.size = q.size ∧ ∀ name value, p.get? name = some value →
      ∃ other, q.get? name = some other ∧ value.same other = true := by
  rw [same, Bool.and_eq_true, beq_iff_eq, List.all_eq_true]
  refine and_congr_right fun _ => ⟨?_, ?_⟩
  · intro h name value hvalue
    have hone := h (name, value) (get?_eq_some_iff.mp hvalue)
    rcases hq : q.get? name with _ | other
    · simp [hq] at hone
    · exact ⟨other, rfl, by simpa [hq] using hone⟩
  · rintro h ⟨name, value⟩ hmem
    obtain ⟨other, hother, hsame⟩ := h name value (get?_eq_some_iff.mpr hmem)
    simpa [hother] using hsame

/-- If every name of a bag is in another bag that is not larger, then these are all. -/
theorem names_perm_of_subset (h : p.names ⊆ q.names) (hsize : p.size = q.size) :
    p.names.Perm q.names := by
  have hlength : q.names.length ≤ p.names.length := by
    rw [names, names, List.length_map, List.length_map]
    exact Nat.le_of_eq hsize.symm
  exact (List.subperm_of_subset p.distinct h).perm_of_length_le hlength

/-- **Two bags are the same** exactly if they bind the same names to values that are the same. -/
theorem same_iff : p.same q = true ↔ ∀ name, p.Alike q name := by
  rw [same_eq_true]
  constructor
  · rintro ⟨hsize, h⟩ name
    have hsub : p.names ⊆ q.names := by
      intro name hname
      obtain ⟨⟨name, value⟩, hmem, rfl⟩ := List.mem_map.mp hname
      obtain ⟨other, hother, -⟩ := h name value (get?_eq_some_iff.mpr hmem)
      exact mem_names (get?_eq_some_iff.mp hother)
    unfold Alike
    rcases hp : p.get? name with _ | value
    · have hnone : q.get? name = none := by
        rw [get?_eq_none_iff, ← (names_perm_of_subset hsub hsize).mem_iff]
        exact get?_eq_none_iff.mp hp
      rw [hnone]
      exact .none
    · obtain ⟨other, hother, hsame⟩ := h name value hp
      rw [hother]
      exact .some hsame
  · intro h
    have hperm : p.names.Perm q.names :=
      (List.perm_ext_iff_of_nodup p.distinct q.distinct).mpr fun name => (h name).mem_iff
    refine ⟨by simpa [names, size] using hperm.length_eq, ?_⟩
    intro name value hvalue
    have hrel := h name
    unfold Alike at hrel
    rcases hq : q.get? name with _ | other <;> rw [hvalue, hq] at hrel
    · exact nomatch hrel
    · cases hrel with
      | some hsame => exact ⟨other, rfl, hsame⟩

/-! ### After any calls -/

/-- What holds of a bag. -/
structure Orderly (p : Params) : Prop where
  distinct : p.names.Nodup
  bind_refused : ∀ name value, name ∈ p.names →
    p.call (.bind name value) = (p, .error (.parameterCollision name))
  bind_added : ∀ name value, name ∉ p.names →
    ∃ q, p.call (.bind name value) = (q, .ok ()) ∧ q.entries = p.entries ++ [(name, value)]
  /-- The first shared name is reported, in the order of the other bag. -/
  merge_refused : ∀ calls before name after,
    (empty.afterAll calls).names = before ++ name :: after →
    (∀ other ∈ before, other ∉ p.names) → name ∈ p.names →
    p.call (.merge calls) = (p, .error (.parameterCollision name))
  merge_added : ∀ calls, (∀ name ∈ (empty.afterAll calls).names, name ∉ p.names) →
    ∃ q, p.call (.merge calls) = (q, .ok ()) ∧
      q.entries = p.entries ++ (empty.afterAll calls).entries
  /-- Nor does a refused call leave anything behind where entries are made one by one. -/
  here : ∀ c : Call, c.here.run p.registry = ((p.call c).2, (p.call c).1.registry)
  /-- What is bound is never moved or replaced. -/
  kept : ∀ calls, p.entries <+: (p.afterAll calls).entries
  found : ∀ name value, p.get? name = some value ↔ (name, value) ∈ p.entries
  /-- The order of binding does not count. -/
  same : ∀ calls, p.same (empty.afterAll calls) = true ↔
    ∀ name, p.Alike (empty.afterAll calls) name

/-- **All or nothing.** After any calls on an empty bag, whichever of them were refused: no name is
bound twice; a call is refused exactly if it offers a bound name, reports the first such name and
leaves all as it was, or else adds what it offers behind what is there; under a name the one value
is found that is bound under it, for good; and two such bags are the same exactly if they bind the
same names to values that are the same. Entry by entry on a registry, the same calls come to the
same. -/
theorem all_or_nothing (calls : List Call) :
    (empty.afterAll calls).Orderly ∧
      hereAfter calls .empty = (empty.afterAll calls).registry where
  left := {
    distinct := (empty.afterAll calls).distinct
    bind_refused := fun _ value h => call_bind_of_mem h value
    bind_added := fun _ value h => call_bind_of_not_mem h value
    merge_refused := fun _ _ _ _ => call_merge_of_shared
    merge_added := fun _ => call_merge_of_disjoint
    here := here_eq _
    kept := entries_prefix_afterAll _
    found := fun _ _ => get?_eq_some_iff
    same := fun _ => same_iff }
  right := hereAfter_eq empty calls

end Params

end TableGateway
