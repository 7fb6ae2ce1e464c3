import Mathlib.Algebra.GroupWithZero.Nat
import Mathlib.Algebra.Order.BigOperators.Group.List
import Mathlib.Algebra.Order.Group.Nat
import Mathlib.Data.List.Induction
import Mathlib.Data.List.Perm.Subperm
import TableGateway.Registry

/-!
# Facts about registries

What can be found under a key after entering or removing one, and how a total over all values
changes. Removing a key takes all its entries away, so totals are exact only while the keys are
distinct; entering and removing keep them so.

## Main results

* `Registry.get?_insert`, `Registry.get?_erase`: what is found afterwards.
* `Registry.keys_nodup_insert`, `Registry.keys_nodup_erase`: distinct keys stay distinct.
* `Registry.get?_ofList`: what is found after entering several keys.
* `Registry.ofList_of_nodup`, `Registry.nodup_of_length_le_ofList`: several keys make as many
  entries exactly if they are distinct.
* `Registry.total_insert_new`, `Registry.total_insert_of_get?`, `Registry.total_erase`: how a total
  changes.
-/

namespace TableGateway.Registry

variable {κ α : Type} {r : Registry κ α} {k k' : κ} {a b : α}

/-! ### Totals -/

/-- The sum of a measure over all values. -/
def total (f : α → Nat) (r : Registry κ α) : Nat := (r.values.map f).sum

/-- The sum of a measure, entry by entry. -/
theorem total_cons (f : α → Nat) (k : κ) (a : α) (l : List (κ × α)) :
    (⟨(k, a) :: l⟩ : Registry κ α).total f = f a + (⟨l⟩ : Registry κ α).total f := by
  simp [total, values]

/-- The total of a sum of measures. -/
theorem total_add (f g : α → Nat) (r : Registry κ α) :
    r.total (fun a => f a + g a) = r.total f + r.total g := by
  obtain ⟨l⟩ := r
  induction l with
  | nil => rfl
  | cons e l ih =>
      obtain ⟨k, a⟩ := e
      rw [total_cons, total_cons, total_cons, ih]
      omega

/-! ### Finding -/

variable [DecidableEq κ]

/-- The first entry of a key is found. -/
theorem lookup_cons_eq (k k₀ : κ) (a₀ : α) (l : List (κ × α)) :
    ((k₀, a₀) :: l).lookup k = if k = k₀ then some a₀ else l.lookup k := by
  by_cases h : k = k₀ <;> simp [List.lookup_cons, h, beq_eq_false_iff_ne.mpr]

/-- In the list of entries, entering a key changes what is found under this key only. -/
theorem lookup_insertInto (k k' : κ) (a : α) (l : List (κ × α)) :
    (insertInto k a l).lookup k' = if k' = k then some a else l.lookup k' := by
  induction l with
  | nil => rw [insertInto, lookup_cons_eq]
  | cons e l ih =>
      obtain ⟨k₀, a₀⟩ := e
      rw [lookup_cons_eq, insertInto]
      split
      · next hk₀ =>
          subst hk₀
          rw [lookup_cons_eq]
          split <;> rfl
      · next hk₀ =>
          rw [lookup_cons_eq, ih]
          split
          · next hk' =>
              subst hk'
              rw [if_neg hk₀]
          · rfl

/-- Entering a key changes what is found under this key only. -/
theorem get?_insert (r : Registry κ α) (k k' : κ) (a : α) :
    (r.insert k a).get? k' = if k' = k then some a else r.get? k' :=
  lookup_insertInto k k' a r.entries

/-- Removing a key changes what is found under this key only. -/
theorem get?_erase (r : Registry κ α) (k k' : κ) :
    (r.erase k).get? k' = if k' = k then none else r.get? k' := by
  obtain ⟨l⟩ := r
  simp only [erase, get?]
  induction l with
  | nil => simp
  | cons e l ih =>
      obtain ⟨k₀, a₀⟩ := e
      rw [List.filter_cons, lookup_cons_eq]
      by_cases hk₀ : k₀ = k
      · subst hk₀
        simp only [ne_eq, not_true_eq_false, decide_false, Bool.false_eq_true, if_false, ih]
        split <;> rfl
      · simp only [ne_eq, hk₀, not_false_eq_true, decide_true, if_true, lookup_cons_eq, ih]
        by_cases hk' : k' = k₀
        · subst hk'
          rw [if_pos rfl, if_neg hk₀, if_pos rfl]
        · rw [if_neg hk', if_neg hk']

/-- Entering a key before it is removed makes no difference. -/
theorem erase_insert (r : Registry κ α) (k : κ) (a : α) : (r.insert k a).erase k = r.erase k := by
  obtain ⟨l⟩ := r
  refine congrArg Registry.mk ?_
  change (insertInto k a l).filter _ = l.filter _
  induction l with
  | nil => simp [insertInto]
  | cons e l ih =>
      obtain ⟨k₀, a₀⟩ := e
      by_cases hk₀ : k₀ = k
      · simp [insertInto, hk₀]
      · rw [insertInto, if_neg hk₀, List.filter_cons, List.filter_cons, ih]

/-- Changing the value of a key changes what is found under this key only. -/
theorem get?_modify (r : Registry κ α) (k k' : κ) (f : α → α) :
    (r.modify k f).get? k' = if k' = k then (r.get? k').map f else r.get? k' := by
  obtain ⟨l⟩ := r
  simp only [modify, get?]
  induction l with
  | nil => simp
  | cons e l ih =>
      obtain ⟨k₀, a₀⟩ := e
      rw [List.map_cons, lookup_cons_eq]
      by_cases hk₀ : k₀ = k
      · subst hk₀
        rw [if_pos rfl, lookup_cons_eq, ih]
        split <;> rfl
      · rw [if_neg hk₀, lookup_cons_eq, ih]
        by_cases hk' : k' = k₀
        · subst hk'
          rw [if_pos rfl, if_neg hk₀, if_pos rfl]
        · rw [if_neg hk', if_neg hk']

/-- What is found under a key after its value was changed. -/
theorem get?_modify_of {r : Registry κ α} {k : κ} {a : α} (h : r.get? k = some a) (f : α → α) :
    (r.modify k f).get? k = some (f a) := by
  rw [get?_modify, if_pos rfl, h]
  rfl

/-- Changing every value changes what is found under any key. -/
theorem get?_mapped (r : Registry κ α) (f : κ × α → α) (k : κ) :
    get? ⟨r.entries.map fun e => (e.1, f e)⟩ k = (r.get? k).map fun a => f (k, a) := by
  obtain ⟨l⟩ := r
  unfold get?
  induction l with
  | nil => rfl
  | cons e l ih =>
      obtain ⟨k₀, a₀⟩ := e
      rw [List.map_cons, lookup_cons_eq, lookup_cons_eq, ih]
      split
      · next hk => rw [hk, Option.map_some]
      · rfl

/-- With distinct keys, every entry is found. -/
theorem get?_of_mem (hd : r.keys.Nodup) (h : (k, a) ∈ r.entries) : r.get? k = some a := by
  obtain ⟨l₁, l₂, hl⟩ := List.append_of_mem h
  refine List.lookup_eq_some_iff.mpr ⟨l₁, l₂, hl, fun p hp => ?_⟩
  rw [keys, hl, List.map_append, List.nodup_append] at hd
  have hne : p.1 ≠ k := hd.2.2 p.1 (List.mem_map_of_mem hp) k (by simp)
  simpa using hne.symm

/-! ### Keys -/

/-- Entering a key adds it behind the others unless it is there. -/
theorem keys_insertInto (k : κ) (a : α) (l : List (κ × α)) :
    (insertInto k a l).map Prod.fst =
      if k ∈ l.map Prod.fst then l.map Prod.fst else l.map Prod.fst ++ [k] := by
  induction l with
  | nil => simp [insertInto]
  | cons e l ih =>
      obtain ⟨k₀, a₀⟩ := e
      by_cases hk₀ : k₀ = k
      · simp [insertInto, hk₀]
      · have hk : ¬ k = k₀ := fun h => hk₀ h.symm
        by_cases hmem : k ∈ l.map Prod.fst
        · rw [if_pos hmem] at ih
          simp only [insertInto, if_neg hk₀, List.map_cons, ih, List.mem_cons, hmem, or_true,
            if_true]
        · rw [if_neg hmem] at ih
          simp only [insertInto, if_neg hk₀, List.map_cons, ih, List.mem_cons, hmem, hk, or_self,
            if_false, List.cons_append]

/-- A new key is entered behind the others. -/
theorem insertInto_of_not_mem {l : List (κ × α)} (h : k ∉ l.map Prod.fst) (a : α) :
    insertInto k a l = l ++ [(k, a)] := by
  induction l with
  | nil => rfl
  | cons e l ih =>
      rw [List.map_cons, List.mem_cons, not_or] at h
      rw [insertInto, if_neg fun heq => h.1 heq.symm, ih h.2, List.cons_append]

/-- Distinct keys stay distinct when a key is entered. -/
theorem keys_nodup_insert (h : r.keys.Nodup) (k : κ) (a : α) : (r.insert k a).keys.Nodup := by
  rw [keys, insert, keys_insertInto]
  split
  · exact h
  · next hmem =>
      refine List.nodup_append.mpr ⟨h, by simp, fun x hx y hy => ?_⟩
      rw [List.mem_singleton.mp hy]
      rintro rfl
      exact hmem hx

/-- Distinct keys stay distinct when a key is removed. -/
theorem keys_nodup_erase (h : r.keys.Nodup) (k : κ) : (r.erase k).keys.Nodup :=
  List.Nodup.sublist (List.filter_sublist.map Prod.fst) h

/-- A key is there exactly if a value is found under it. -/
theorem mem_keys_iff : k ∈ r.keys ↔ (r.get? k).isSome := by
  rw [keys, get?, List.lookup_isSome_iff, List.mem_map]
  exact exists_congr fun e => and_congr_right fun _ => by rw [beq_iff_eq, eq_comm]

/-! ### Entering several keys -/

/-- One more key is entered. -/
theorem ofList_concat (l : List (κ × α)) (k : κ) (a : α) :
    ofList (l ++ [(k, a)]) = (ofList l).insert k a := by
  rw [ofList, List.foldl_append]
  rfl

/-- Of several values that are entered under one key, the last one counts. By induction over the
entries, from the last one. -/
theorem get?_ofList (l : List (κ × α)) (k : κ) : (ofList l).get? k = l.reverse.lookup k := by
  induction l using List.reverseRecOn with
  | nil => rfl
  | append_singleton l e ih =>
      obtain ⟨k₀, a₀⟩ := e
      rw [ofList_concat, get?_insert, ih, List.reverse_append]
      exact (lookup_cons_eq k k₀ a₀ l.reverse).symm

/-- The keys are distinct, however often each of them is entered. -/
theorem keys_nodup_ofList (l : List (κ × α)) : (ofList l).keys.Nodup := by
  induction l using List.reverseRecOn with
  | nil => exact List.nodup_nil
  | append_singleton l e ih =>
      rw [ofList_concat]
      exact keys_nodup_insert ih e.1 e.2

/-- Under distinct keys, all values are entered in their order. By induction over the entries, from
the last one. -/
theorem ofList_of_nodup {l : List (κ × α)} (h : (l.map Prod.fst).Nodup) : ofList l = ⟨l⟩ := by
  induction l using List.reverseRecOn with
  | nil => rfl
  | append_singleton l e ih =>
      rw [List.map_append, List.nodup_append] at h
      have hnew : e.1 ∉ l.map Prod.fst := fun hmem => h.2.2 e.1 hmem e.1 (by simp) rfl
      rw [ofList_concat, ih h.1, insert, insertInto_of_not_mem hnew]

/-- Several keys that make as many entries are distinct. -/
theorem nodup_of_length_le_ofList {l : List (κ × α)} (h : l.length ≤ (ofList l).size) :
    (l.map Prod.fst).Nodup := by
  have hsubset : (ofList l).keys ⊆ l.map Prod.fst := by
    intro k hk
    rw [mem_keys_iff, get?_ofList, List.lookup_isSome_iff] at hk
    obtain ⟨e, he, hkey⟩ := hk
    rw [beq_iff_eq] at hkey
    exact List.mem_map.mpr ⟨e, List.mem_reverse.mp he, hkey.symm⟩
  have hperm : (ofList l).keys.Perm (l.map Prod.fst) := by
    refine (List.subperm_of_subset (keys_nodup_ofList l) hsubset).perm_of_length_le ?_
    simpa [keys, size] using h
  exact hperm.nodup_iff.mp (keys_nodup_ofList l)

/-! ### Changes of a total -/

/-- A new key adds the measure of its value. -/
theorem total_insert_new (f : α → Nat) (h : r.get? k = none) (a : α) :
    (r.insert k a).total f = r.total f + f a := by
  obtain ⟨l⟩ := r
  simp only [insert, get?] at h ⊢
  induction l with
  | nil => simp [insertInto, total, values]
  | cons e l ih =>
      obtain ⟨k₀, a₀⟩ := e
      rw [lookup_cons_eq] at h
      split at h
      · exact absurd h (by simp)
      · next hk₀ =>
          rw [insertInto, if_neg fun h => hk₀ h.symm, total_cons, total_cons, ih h, Nat.add_assoc]

/-- A replaced value is exchanged in the total. -/
theorem total_insert_of_get? (f : α → Nat) (h : r.get? k = some b) (a : α) :
    (r.insert k a).total f + f b = r.total f + f a := by
  obtain ⟨l⟩ := r
  simp only [insert, get?] at h ⊢
  induction l with
  | nil => exact absurd h (by simp)
  | cons e l ih =>
      obtain ⟨k₀, a₀⟩ := e
      rw [lookup_cons_eq] at h
      split at h
      · next hk₀ =>
          obtain rfl := Option.some.inj h
          rw [insertInto, if_pos hk₀.symm, total_cons, total_cons]
          omega
      · next hk₀ =>
          have hl := ih h
          rw [insertInto, if_neg fun h => hk₀ h.symm, total_cons, total_cons]
          omega

/-- A removed key takes the measure of its value away. -/
theorem total_erase (f : α → Nat) (hd : r.keys.Nodup) (h : r.get? k = some a) :
    (r.erase k).total f + f a = r.total f := by
  obtain ⟨l⟩ := r
  simp only [erase, get?, keys] at h hd ⊢
  induction l with
  | nil => exact absurd h (by simp)
  | cons e l ih =>
      obtain ⟨k₀, a₀⟩ := e
      rw [List.map_cons, List.nodup_cons] at hd
      rw [lookup_cons_eq] at h
      split at h
      · next hk₀ =>
          obtain rfl := Option.some.inj h
          have hrest : l.filter (fun e => decide (e.1 ≠ k)) = l := by
            refine List.filter_eq_self.mpr fun e he => decide_eq_true fun hek => ?_
            have hmem : e.1 ∈ l.map Prod.fst := List.mem_map_of_mem he
            rw [hek, hk₀] at hmem
            exact hd.1 hmem
          rw [List.filter_cons_of_neg (by simp [hk₀]), hrest, total_cons]
          omega
      · next hk₀ =>
          have hl := ih hd.2 h
          rw [List.filter_cons_of_pos (by simpa using fun h => hk₀ h.symm), total_cons, total_cons]
          omega

/-- A total grows with its measure. -/
theorem total_le_total {f g : α → Nat} (hd : r.keys.Nodup)
    (h : ∀ k a, r.get? k = some a → f a ≤ g a) : r.total f ≤ r.total g := by
  refine List.sum_le_sum fun a ha => ?_
  obtain ⟨⟨k, a⟩, hmem, rfl⟩ := List.mem_map.mp ha
  exact h k a (get?_of_mem hd hmem)

end TableGateway.Registry
