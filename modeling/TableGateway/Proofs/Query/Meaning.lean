import TableGateway.Proofs.Query.Capture
import TableGateway.Proofs.Query.Reading
import TableGateway.Proofs.Query.Spelling

/-!
# The meaning of built conditions

A condition is built by steps, each of which joins a leaf, a list of leaves or a condition built
elsewhere to what is there already. What the steps mean can be said without any condition: fold them
from left to right. This module shows that a reader of SQL finds exactly that meaning in the text.
A condition in between, a tree of conjunctions and disjunctions, means the same as the steps it was
built by and as the text it is written as.

## Truth convention

Truth is three-valued, as in SQL. A valuation `v` gives a truth value to every occurrence of a leaf,
numbered in the order in which the leaves were added; where a part begins with the leaf number `i`,
its meaning is taken from `i` on.

## Main results

* `Script.build_truth`: a condition means what the steps mean it was built by.
* `Condition.read_write`: the text of a condition is read as it was meant, leaf by leaf.
* `Filter.render_eq`: what is rendered is the text of the condition.
* `Script.render_meaning`: both together.
-/

namespace TableGateway

open TableGateway.Numbering TableGateway.Reading

/-! ### Steps and their meaning -/

/-- The steps by which a condition is built, the last one outermost. -/
inductive Script where
  /-- Nothing yet. -/
  | start
  /-- One leaf. -/
  | pair (before : Script) (op : Connective) (column : String) (operand : Operand)
  /-- Several leaves. -/
  | pairs (before : Script) (op : Connective) (entries : List (String × Operand))
  /-- A condition built by steps of its own. -/
  | tree (before : Script) (op : Connective) (added : Script)

/-- The truth value of two conditions joined. -/
def Connective.truth : Connective → Option Bool → Option Bool → Option Bool
  | conj => Engine.bothTruth
  | disj => Engine.eitherTruth

/-- Two formulas joined. -/
def Connective.formula : Connective → Formula → Formula → Formula
  | conj => .conj
  | disj => .disj

/-- Joins a truth value to that of everything before it, if there is anything. -/
def Connective.onto (op : Connective) : Option (Option Bool) → Option Bool → Option Bool
  | none, b => b
  | some a, b => op.truth a b

/-- Joins the truth values of several leaves one at a time, the first of which has the
number `i`. -/
def Connective.eachOnto (op : Connective) (v : Nat → Option Bool) (i : Nat) :
    List (String × Operand) → Option (Option Bool) → Option (Option Bool)
  | [], before => before
  | _ :: rest, before => op.eachOnto v (i + 1) rest (some (op.onto before (v i)))

namespace Script

/-- The condition that the steps build. -/
def build : Script → Filter
  | start => .empty
  | pair before op column operand => before.build.add op (.pair column operand)
  | pairs before op entries => before.build.add op (.pairs entries)
  | tree before op added => before.build.add op (.tree added.build)

/-- The leaves, in the order in which the steps add them. -/
def leaves : Script → List (String × Operand)
  | start => []
  | pair before _ column operand => before.leaves ++ [(column, operand)]
  | pairs before _ entries => before.leaves ++ entries
  | tree before _ added => before.leaves ++ added.leaves

/-- The meaning of the steps: what is added first stands as it is, and everything else is joined to
what is there. Steps that add nothing have no meaning. -/
def meaning (v : Nat → Option Bool) (i : Nat) : Script → Option (Option Bool)
  | start => none
  | pair before op _ _ => some (op.onto (before.meaning v i) (v (i + before.leaves.length)))
  | pairs before op entries =>
    op.eachOnto v (i + before.leaves.length) entries (before.meaning v i)
  | tree before op added =>
    match added.meaning v (i + before.leaves.length) with
    | none => before.meaning v i
    | some b => some (op.onto (before.meaning v i) b)

end Script

/-! ### Conditions and their meaning -/

namespace Condition

/-- The leaves, from left to right. -/
def leaves : Condition → List (String × Operand)
  | leaf column operand => [(column, operand)]
  | conj left right => left.leaves ++ right.leaves
  | disj left right => left.leaves ++ right.leaves

/-- The truth value, where `v` gives those of the leaves, of which the first has the number `i`. -/
def truth (v : Nat → Option Bool) (i : Nat) : Condition → Option Bool
  | leaf _ _ => v i
  | conj left right => Engine.bothTruth (left.truth v i) (right.truth v (i + left.leaves.length))
  | disj left right => Engine.eitherTruth (left.truth v i) (right.truth v (i + left.leaves.length))

/-- Every condition has a leaf. -/
theorem leaves_ne_nil (c : Condition) : c.leaves ≠ [] := by
  induction c using Condition.induction with
  | leaf column operand => exact List.cons_ne_nil _ _
  | conj left right ihl ihr | disj left right ihl ihr =>
      exact List.append_ne_nil_of_left_ne_nil ihl _

/-- There are as many leaves as are counted. -/
theorem size_eq (c : Condition) : c.size = c.leaves.length := by
  induction c using Condition.induction with
  | leaf column operand => rfl
  | conj left right ihl ihr | disj left right ihl ihr =>
      rw [size, ihl, ihr, leaves, List.length_append]

/-- The columns are those of the leaves. -/
theorem columns_eq (c : Condition) : c.columns = c.leaves.map Prod.fst := by
  induction c using Condition.induction with
  | leaf column operand => rfl
  | conj left right ihl ihr | disj left right ihl ihr =>
      rw [columns, ihl, ihr, leaves, List.map_append]

/-- The walk goes through the leaves. -/
theorem walk_eq (c : Condition) : c.walk = c.leaves.flatMap fun p => p.2.walk := by
  induction c using Condition.induction with
  | leaf column operand => simp [walk, leaves]
  | conj left right ihl ihr | disj left right ihl ihr =>
      rw [walk, ihl, ihr, leaves, List.flatMap_append]

/-- The leaves of two conditions joined. -/
theorem leaves_combine (op : Connective) (left right : Condition) :
    (combine op left right).leaves = left.leaves ++ right.leaves := by
  cases op <;> rfl

/-- The truth value of two conditions joined. -/
theorem truth_combine (v : Nat → Option Bool) (i : Nat) (op : Connective) (left right : Condition) :
    (combine op left right).truth v i =
      op.truth (left.truth v i) (right.truth v (i + left.leaves.length)) := by
  cases op <;> rfl

end Condition

namespace Filter

/-- The leaves of a condition that may be missing. -/
def leaves (f : Filter) : List (String × Operand) := f.elim [] Condition.leaves

/-- The truth value of a condition, if there is one. -/
def truth (v : Nat → Option Bool) (i : Nat) (f : Filter) : Option (Option Bool) :=
  f.map (Condition.truth v i)

variable {v : Nat → Option Bool} {i : Nat}

/-- A leaf is the last one of a condition to which it is joined. -/
theorem leaves_push (f : Filter) (op : Connective) (column : String) (operand : Operand) :
    (f.push op column operand).leaves = f.leaves ++ [(column, operand)] := by
  cases f with
  | none => rfl
  | some root => exact Condition.leaves_combine op root (.leaf column operand)

/-- The leaves of a condition that is joined come last. -/
theorem leaves_append (f : Filter) (op : Connective) (g : Filter) :
    (f.append op g).leaves = f.leaves ++ g.leaves := by
  cases g with
  | none => cases f <;> simp [append, leaves]
  | some c =>
      cases f with
      | none => rfl
      | some root => exact Condition.leaves_combine op root c

/-- The meaning of a condition to which a leaf is joined. -/
theorem truth_push (f : Filter) (op : Connective) (column : String) (operand : Operand) :
    (f.push op column operand).truth v i =
      some (op.onto (f.truth v i) (v (i + f.leaves.length))) := by
  cases f with
  | none => rfl
  | some root =>
      exact congrArg some (Condition.truth_combine v i op root (.leaf column operand))

/-- The meaning of a condition to which another one is joined. -/
theorem truth_append (f : Filter) (op : Connective) (g : Filter) :
    (f.append op g).truth v i =
      match g.truth v (i + f.leaves.length) with
      | none => f.truth v i
      | some b => some (op.onto (f.truth v i) b) := by
  cases g with
  | none => cases f <;> rfl
  | some c =>
      cases f with
      | none => rfl
      | some root => exact congrArg some (Condition.truth_combine v i op root c)

/-- Several leaves come last, in their order. -/
theorem leaves_pairs (f : Filter) (op : Connective) (entries : List (String × Operand)) :
    (f.add op (.pairs entries)).leaves = f.leaves ++ entries := by
  induction entries generalizing f with
  | nil => simp [add]
  | cons entry rest ih =>
      obtain ⟨column, operand⟩ := entry
      have hrest := ih (f.push op column operand)
      rw [leaves_push, List.append_assoc] at hrest
      exact hrest

/-- The meaning of a condition to which several leaves are joined. -/
theorem truth_pairs (f : Filter) (op : Connective) (entries : List (String × Operand)) :
    (f.add op (.pairs entries)).truth v i =
      op.eachOnto v (i + f.leaves.length) entries (f.truth v i) := by
  induction entries generalizing f with
  | nil => rfl
  | cons entry rest ih =>
      obtain ⟨column, operand⟩ := entry
      have hrest := ih (f.push op column operand)
      rw [leaves_push, truth_push, List.length_append, ← Nat.add_assoc] at hrest
      exact hrest

end Filter

/-- A condition has the leaves that the steps add, in their order. -/
theorem Script.leaves_build (s : Script) : s.build.leaves = s.leaves := by
  induction s with
  | start => rfl
  | pair before op column operand ih => exact (Filter.leaves_push ..).trans (by rw [ih, leaves])
  | pairs before op entries ih => rw [build, Filter.leaves_pairs, ih, leaves]
  | tree before op added ih ih' =>
      exact (Filter.leaves_append ..).trans (by rw [ih, ih', leaves])

/-- **Building.** A condition means what the steps mean by which it was built. -/
theorem Script.build_truth (s : Script) (v : Nat → Option Bool) (i : Nat) :
    s.build.truth v i = s.meaning v i := by
  induction s generalizing i with
  | start => rfl
  | pair before op column operand ih =>
      have hpush := Filter.truth_push (v := v) (i := i) before.build op column operand
      rw [ih, before.leaves_build] at hpush
      exact hpush
  | pairs before op entries ih =>
      rw [build, Filter.truth_pairs, ih, before.leaves_build, meaning]
  | tree before op added ih ih' =>
      have happend := Filter.truth_append (v := v) (i := i) before.build op added.build
      rw [ih, ih', before.leaves_build] at happend
      exact happend

/-! ### Reading conditions back -/

/-- A leaf that can be read back: of a nested select, which is known to be a select, the parentheses
in every word match. -/
structure ReadableLeaf (p : String × Operand) : Prop where
  column : Readable p.1
  selectsOnly : ∀ q, p.2 = .subquery q → q.SelectsOnly
  worded : ∀ q, p.2 = .subquery q → q.Worded Balanced

/-- The texts of leaves, written one after the other from the counters `t`. -/
def leafTexts (t : Tally) : List (String × Operand) → Except Error (List String)
  | [] => return []
  | (column, operand) :: rest => do
    let text ← operand.write Sqlite.dialect (Query.text Sqlite.dialect) t column
    let others ← leafTexts (t.after operand.walk) rest
    return text :: others

/-- The texts of leaves in two parts. -/
theorem leafTexts_append {t : Tally} {l l' : List (String × Operand)} {texts texts' : List String}
    (h : leafTexts t l = .ok texts)
    (h' : leafTexts (t.after (l.flatMap fun p => p.2.walk)) l' = .ok texts') :
    leafTexts t (l ++ l') = .ok (texts ++ texts') := by
  induction l generalizing t texts with
  | nil =>
      obtain rfl := Except.ok.inj h
      exact h'
  | cons p l ih =>
      obtain ⟨column, operand⟩ := p
      obtain ⟨text, htext, h⟩ := bind_eq_ok h
      obtain ⟨others, hothers, h⟩ := bind_eq_ok h
      obtain rfl := Except.ok.inj h
      rw [List.flatMap_cons, Tally.after_append] at h'
      rw [List.cons_append, leafTexts, htext]
      change (leafTexts _ (l ++ l') >>= _) = _
      rw [ih hothers h']
      rfl

section

variable {t : Tally} {text : String}

/-- Such a leaf compiles. -/
theorem ReadableLeaf.compiles {p : String × Operand} (h : ReadableLeaf p) (t : Tally) :
    ∃ text, p.2.write Sqlite.dialect (Query.text Sqlite.dialect) t p.1 = .ok text := by
  obtain ⟨column, operand⟩ := p
  cases operand with
  | scalar v | list vs | null => exact ⟨_, rfl⟩
  | subquery q =>
      obtain ⟨sql, hsql⟩ := (h.selectsOnly q rfl).compiles t
      refine ⟨Sqlite.leaf column (.subquery sql), ?_⟩
      change (Query.text Sqlite.dialect t q >>= _) = _
      rw [hsql]
      rfl

/-- A condition with such leaves compiles. -/
theorem Condition.compiles {c : Condition} (h : ∀ p ∈ c.leaves, ReadableLeaf p) (t : Tally) :
    ∃ text, c.write Sqlite.dialect (Query.text Sqlite.dialect) t = .ok text := by
  induction c using Condition.induction generalizing t with
  | leaf column operand => exact (h _ List.mem_cons_self).compiles t
  | conj left right ihl ihr | disj left right ihl ihr =>
      obtain ⟨l, hl⟩ := ihl (fun p hp => h p (List.mem_append_left _ hp)) t
      obtain ⟨r, hr⟩ := ihr (fun p hp => h p (List.mem_append_right _ hp)) (t.after left.walk)
      rw [Condition.write, hl]
      change ∃ text, (right.write _ _ _ >>= _) = _
      rw [hr]
      exact ⟨_, rfl⟩

/-- Parentheses match in the text of such a condition. -/
theorem Condition.write_balanced {c : Condition} (h : ∀ p ∈ c.leaves, ReadableLeaf p)
    (hs : c.write Sqlite.dialect (Query.text Sqlite.dialect) t = .ok text) : Balanced text := by
  refine balanced_of_spelled (Condition.write_spelled ?_ ?_ hs)
  · intro s hs
    rw [c.columns_eq] at hs
    obtain ⟨p, hp, rfl⟩ := List.mem_map.mp hs
    exact (h p hp).column.balanced
  · intro r hr
    rw [c.walk_eq] at hr
    obtain ⟨⟨column, operand⟩, hp, hr⟩ := List.mem_flatMap.mp hr
    have hleaf := h _ hp
    cases operand with
    | scalar v | list vs | null => simp [Operand.walk] at hr
    | subquery q =>
        have hworded := hleaf.worded q rfl
        rcases List.mem_cons.mp hr with heq | hr
        · rw [Met.select.inj heq]
          exact Query.text_spelled hworded
        · exact Query.text_spelled (hworded.of_nested hr)

/-- The text of a leaf is read as a leaf. -/
theorem ReadableLeaf.read_write {column : String} {operand : Operand}
    (h : ReadableLeaf (column, operand))
    (hs : operand.write Sqlite.dialect (Query.text Sqlite.dialect) t column = .ok text) :
    read (lexemes text) = .leaf (lexemes text) := by
  cases operand with
  | scalar v =>
      obtain rfl := Except.ok.inj hs
      exact read_leaf_equality h.column (n := t.params + 1) (.inl rfl)
  | list vs =>
      obtain rfl := Except.ok.inj hs
      refine read_leaf_membership h.column (balanced_of_spelled
        (Sqlite.spelled_placeholders (n := t.params + 1) fun name hname => ?_))
      obtain ⟨⟨v, i⟩, -, rfl⟩ := List.mem_map.mp hname
      exact .inr ⟨i, rfl⟩
  | null =>
      obtain rfl := Except.ok.inj hs
      exact read_leaf_isNull h.column
  | subquery q =>
      obtain ⟨sql, hsql, hs⟩ := bind_eq_ok hs
      obtain rfl := Except.ok.inj hs
      exact read_leaf_membership h.column
        (balanced_of_spelled (Query.text_spelled (h.worded q rfl) t sql hsql))

/-- A text of a condition that is met with the counters `t` is read as a formula with the texts of
its leaves, in their order, that means what the condition means. -/
def Condition.ReadAs (t : Tally) (c : Condition) (text : String) : Prop :=
  ∃ texts, leafTexts t c.leaves = .ok texts ∧ texts.length = c.leaves.length ∧
    (read (lexemes text)).leaves = texts.map lexemes ∧
    ∀ v i, (read (lexemes text)).eval v i = c.truth v i

/-- A leaf. -/
theorem ReadableLeaf.readAs {column : String} {operand : Operand}
    (h : ReadableLeaf (column, operand))
    (hs : operand.write Sqlite.dialect (Query.text Sqlite.dialect) t column = .ok text) :
    Condition.ReadAs t (.leaf column operand) text := by
  have hread := h.read_write hs
  have htexts : leafTexts t [(column, operand)] = .ok [text] := by
    rw [leafTexts, hs]
    rfl
  exact ⟨[text], htexts, rfl, by rw [hread, Formula.leaves, List.map_singleton],
    fun v i => by rw [hread, Formula.eval, Condition.truth]⟩

/-- Two conditions joined, of which the second goes on with the counters of the first. -/
theorem Condition.readAs_combine (op : Connective) {left right : Condition} {l r : String}
    (hl : left.ReadAs t l) (hr : right.ReadAs (t.after left.walk) r)
    (hread : read (lexemes text) = op.formula (read (lexemes l)) (read (lexemes r))) :
    (combine op left right).ReadAs t text := by
  obtain ⟨texts, htexts, hlength, hleaves, heval⟩ := hl
  obtain ⟨texts', htexts', hlength', hleaves', heval'⟩ := hr
  rw [left.walk_eq] at htexts'
  refine ⟨texts ++ texts', ?_, ?_, ?_, fun v i => ?_⟩
  · rw [leaves_combine]
    exact leafTexts_append htexts htexts'
  · rw [leaves_combine, List.length_append, List.length_append, hlength, hlength']
  · rw [hread, List.map_append, ← hleaves, ← hleaves']
    cases op <;> rfl
  · have hcount : (read (lexemes l)).leaves.length = left.leaves.length := by
      rw [hleaves, List.length_map, hlength]
    rw [hread, truth_combine, ← heval, ← heval', ← hcount]
    cases op <;> rfl

/-- **Reading.** The text of a condition is read as it was meant, leaf by leaf. By induction on the
condition: every pair of parentheses that is written around a side is one that the reader takes
off. -/
theorem Condition.read_write {c : Condition} (h : ∀ p ∈ c.leaves, ReadableLeaf p)
    (hs : c.write Sqlite.dialect (Query.text Sqlite.dialect) t = .ok text) : c.ReadAs t text := by
  induction c using Condition.induction generalizing t text with
  | leaf column operand => exact (h _ List.mem_cons_self).readAs hs
  | conj left right ihl ihr | disj left right ihl ihr =>
      have hleft : ∀ p ∈ left.leaves, ReadableLeaf p := fun p hp => h p (List.mem_append_left _ hp)
      have hright : ∀ p ∈ right.leaves, ReadableLeaf p := fun p hp =>
        h p (List.mem_append_right _ hp)
      obtain ⟨l, hl, hs⟩ := bind_eq_ok hs
      obtain ⟨r, hr, hs⟩ := bind_eq_ok hs
      obtain rfl := Except.ok.inj hs
      have hbalanced := write_balanced hleft hl
      have hbalanced' := write_balanced hright hr
      first
        | exact readAs_combine .conj (ihl hleft hl) (ihr hright hr)
            (read_conj hbalanced hbalanced')
        | exact readAs_combine .disj (ihl hleft hl) (ihr hright hr)
            (read_disj hbalanced hbalanced')

end

/-! ### What is rendered -/

/-- What is rendered is the text of the condition, with the bag of its walk. -/
theorem Filter.render_eq (d : Dialect) (f : Filter) :
    f.render d = writeFilter d (Query.text d) .start f >>= fun o =>
      pure (o.map fun text => (text, bag 0 (walkFilter f))) := by
  cases f with
  | none => rfl
  | some c =>
      rw [Filter.render, StateT.run'_eq, StateT.run, lowerFilter,
        bind_of_eq (Condition.lower_eq (fun q _ => Query.lowers d q) .start), writeFilter]
      cases c.write d (Query.text d) .start <;> rfl

/-- **Meaning.** Take any steps that add leaves whose columns have matching parentheses and no
keyword outside them. What they build renders to nothing exactly when they add no leaf. Otherwise it
renders to a text that a reader of SQL understands as the steps are meant: for all truth values of
the leaves, the formula that is read has the value of the steps, folded from left to right; its
leaves are the texts of the leaves in the order in which they were added, and there are as many as
the condition counts. -/
theorem Script.render_meaning {s : Script} (h : ∀ p ∈ s.leaves, ReadableLeaf p) :
    (s.build.render Sqlite.dialect = .ok none ↔ s.leaves = []) ∧
      (s.leaves ≠ [] → ∃ text params texts,
        s.build.render Sqlite.dialect = .ok (some (text, params)) ∧
        leafTexts .start s.leaves = .ok texts ∧ texts.length = s.build.size ∧
        (read (lexemes text)).leaves = texts.map lexemes ∧
        ∀ v, s.meaning v 0 = some ((read (lexemes text)).eval v 0)) := by
  have hleaves := s.leaves_build
  have htruth := s.build_truth
  have hrender := Filter.render_eq Sqlite.dialect s.build
  cases hbuild : s.build with
  | none =>
      rw [hbuild] at hleaves hrender
      have hnil : s.leaves = [] := hleaves.symm
      exact ⟨⟨fun _ => hnil, fun _ => hrender⟩, fun hne => absurd hnil hne⟩
  | some c =>
      rw [hbuild] at hleaves hrender htruth
      have hleaves : c.leaves = s.leaves := hleaves
      have hne : s.leaves ≠ [] := hleaves ▸ c.leaves_ne_nil
      have hc : ∀ p ∈ c.leaves, ReadableLeaf p := fun p hp => h p (hleaves ▸ hp)
      obtain ⟨text, htext⟩ := Condition.compiles hc .start
      obtain ⟨texts, htexts, hlength, hread, heval⟩ := Condition.read_write hc htext
      have hsome : Filter.render Sqlite.dialect (some c) = .ok (some (text, bag 0 c.walk)) := by
        rw [hrender, writeFilter, htext]
        rfl
      refine ⟨⟨fun hnone => ?_, fun hnil => absurd hnil hne⟩, fun _ => ?_⟩
      · exact absurd (hsome.symm.trans hnone) (by simp)
      · refine ⟨text, bag 0 c.walk, texts, hsome, hleaves ▸ htexts, ?_, hread, fun v => ?_⟩
        · exact hlength.trans c.size_eq.symm
        · rw [← htruth, heval]
          rfl

/-! ### Steps of several kinds -/

/-- A leaf, two leaves joined one at a time, and a condition with a nested select as one unit, to
which nothing was joined. -/
def sampleScript : Script :=
  .tree
    (.pairs (.pair .start .disj "(a + b)" (.scalar (.integer 1))) .disj
      [("COALESCE(c, (d))", .null), ("land", .list [.integer 1, .integer 2])]) .conj
    (.tree (.pair (.pair .start .conj "order_id" (.subquery Query.sampleInner)) .disj "e" .null)
      .conj .start)

/-- All its leaves can be read back. -/
theorem sampleScript_readable : ∀ p ∈ sampleScript.leaves, ReadableLeaf p := by
  have hworded : Query.sampleInner.Worded Balanced := by
    refine ⟨by decide, fun r hr => ?_⟩
    simp [Query.sampleInner, Query.new, Query.walk, walkFilter] at hr
  have hcolumn : ∀ column ∈ ["(a + b)", "COALESCE(c, (d))", "land", "order_id", "e"],
      Balanced column ∧ Atomic column := by decide
  intro p hp
  have hreadable : Readable p.1 := by
    have hmem : p.1 ∈ ["(a + b)", "COALESCE(c, (d))", "land", "order_id", "e"] :=
      List.mem_map_of_mem hp
    exact ⟨(hcolumn _ hmem).1, (hcolumn _ hmem).2⟩
  have hinner : ∀ q, p.2 = .subquery q → q = Query.sampleInner := by
    intro q hq
    simp only [sampleScript, Script.leaves, List.nil_append, List.append_nil, List.cons_append,
      List.mem_cons, List.not_mem_nil, or_false] at hp
    rcases hp with rfl | rfl | rfl | rfl | rfl <;> simp_all
  exact ⟨hreadable, fun q hq => hinner q hq ▸ Query.sampleInner_selectsOnly,
    fun q hq => hinner q hq ▸ hworded⟩

/-- Its text means what its steps mean: the two parts of a disjunction before it stay together. -/
theorem sampleScript_meaning :
    (∀ p ∈ sampleScript.leaves, ReadableLeaf p) ∧
      ∃ text params, sampleScript.build.render Sqlite.dialect = .ok (some (text, params)) ∧
        (read (lexemes text)).leaves.length = 5 ∧
        ∀ v, (read (lexemes text)).eval v 0 =
          Engine.bothTruth (Engine.eitherTruth (Engine.eitherTruth (v 0) (v 1)) (v 2))
            (Engine.eitherTruth (v 3) (v 4)) := by
  obtain ⟨-, hmeaning⟩ := Script.render_meaning sampleScript_readable
  obtain ⟨text, params, texts, hrender, -, hlength, hleaves, heval⟩ :=
    hmeaning (List.cons_ne_nil _ _)
  refine ⟨sampleScript_readable, text, params, hrender, ?_, fun v => ?_⟩
  · rw [hleaves, List.length_map, hlength]
    rfl
  · exact (Option.some.inj (heval v)).symm

end TableGateway
