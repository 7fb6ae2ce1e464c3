import TableGateway.Proofs.Query.Numbering
import TableGateway.Proofs.Registry
import TableGateway.Settings.Reader

/-!
# Building pools from settings

Settings are a map of pools by name, and a map yields its entries in whatever order it likes. The
pools are built one after the other up to the first entry whose size cannot be used. A size of zero
is refused by the configuration, with an error that names the pool. A size beyond what an admission
queue can count passes the configuration and ends the task that builds the pool, so that with
entries of both kinds the order decides which of the two happens.

## Conventions

The entries have distinct names, and an order of them is a permutation. The number of permits that
an admission queue can count is `Pool.Config.maxPermits`.

## Main results

* `Databases.ofSettings_of_usable`, `Databases.ofSettings_of_unusable`: the outcome in one order.
* `Databases.ofSettings_in_order`: the outcome in every order.
* `Databases.archive_aborts`: settings that end their task.
* `Settings.parse_distinct`: the names in a settings text are distinct.
-/

namespace TableGateway

variable {β : Type}

namespace PoolSettings

variable {s : PoolSettings}

/-! ### Building one pool -/

/-- More connections are asked for than an admission queue can count. -/
def Oversized (s : PoolSettings) : Prop := Pool.Config.maxPermits < s.poolSize.toNat

/-- A pool can have this size. -/
def Usable (s : PoolSettings) : Prop := s.poolSize ≠ 0 ∧ ¬ s.Oversized

instance : DecidablePred Oversized := fun _ => inferInstanceAs (Decidable (_ < _))

instance : DecidablePred Usable := fun _ => inferInstanceAs (Decidable (_ ∧ _))

/-- No pool has no connections, and too many of them are some. -/
theorem Oversized.ne_zero (h : s.Oversized) : s.poolSize ≠ 0 := by
  rintro heq
  rw [Oversized, heq] at h
  exact Nat.not_lt_zero _ h

/-- A pool of a size that can be used. -/
theorem build_of_usable (h : s.Usable) :
    (s.build : Except Failure (Pool β)) = .ok (.new s.config Sqlite.dialect) := by
  have hsize : s.config.size ≠ 0 := fun hzero => h.1 (UInt64.toNat_inj.mp hzero)
  have hmost : ¬ Pool.Config.maxPermits < s.config.size := h.2
  rw [build, Pool.create, Pool.Config.validate, if_neg hsize, if_neg hmost]
  rfl

/-- A pool without connections. -/
theorem build_of_zero (h : s.poolSize = 0) :
    (s.build : Except Failure (Pool β)) =
      .error (.error (.invalidConfig "pool size must be greater than 0")) := by
  have hsize : s.config.size = 0 := congrArg UInt64.toNat h
  rw [build, Pool.create, Pool.Config.validate, if_pos hsize]
  rfl

/-- A pool of too many connections. -/
theorem build_of_oversized (h : s.Oversized) :
    (s.build : Except Failure (Pool β)) =
      .error (.abort ("more than " ++ toString Pool.Config.maxPermits ++ " permits")) := by
  have hsize : s.config.size ≠ 0 := fun hzero => h.ne_zero (UInt64.toNat_inj.mp hzero)
  have hmost : Pool.Config.maxPermits < s.config.size := h
  rw [build, Pool.create, Pool.Config.validate, if_neg hsize, if_pos hmost]
  rfl

end PoolSettings

namespace Databases

/-! ### Building pools in one order -/

/-- How building ends at an entry that cannot be used. -/
def refusal (e : String × PoolSettings) : Failure :=
  if e.2.poolSize = 0 then
    .error (.invalidConfig ("pool `" ++ e.1 ++ "`: " ++ "pool size must be greater than 0"))
  else .abort ("more than " ++ toString Pool.Config.maxPermits ++ " permits")

/-- The pools of entries that can be used, one under each name. -/
def pools (entries : List (String × PoolSettings)) : Databases β :=
  .ofList (entries.map fun e => (e.1, .new e.2.config Sqlite.dialect))

/-- An entry that can be used adds its pool. -/
theorem addSettings_of_usable (databases : Databases β) {e : String × PoolSettings}
    (h : e.2.Usable) :
    databases.addSettings e = .ok (databases.insert e.1 (.new e.2.config Sqlite.dialect)) := by
  rw [addSettings, PoolSettings.build_of_usable h]

/-- An entry that cannot be used adds none. -/
theorem addSettings_of_unusable (databases : Databases β) {e : String × PoolSettings}
    (h : ¬ e.2.Usable) : databases.addSettings e = .error (refusal e) := by
  by_cases hzero : e.2.poolSize = 0
  · rw [addSettings, PoolSettings.build_of_zero hzero, refusal, if_pos hzero]
    rfl
  · have hmost : e.2.Oversized := not_not.mp fun hnot => h ⟨hzero, hnot⟩
    rw [addSettings, PoolSettings.build_of_oversized hmost, refusal, if_neg hzero]
    rfl

/-- **Entries that can be used.** By induction over them, from the last one. -/
theorem ofSettings_of_usable {entries : List (String × PoolSettings)}
    (h : ∀ e ∈ entries, e.2.Usable) : ofSettings entries = .ok (pools entries : Databases β) := by
  induction entries using List.reverseRecOn with
  | nil => rfl
  | append_singleton entries e ih =>
      obtain ⟨hentries, he⟩ := List.forall_mem_append.mp h
      have hadd := addSettings_of_usable (pools entries : Databases β) (he e List.mem_cons_self)
      have hpools : (pools (entries ++ [e]) : Databases β) =
          (pools entries).insert e.1 (.new e.2.config Sqlite.dialect) := by
        rw [pools, List.map_append, List.map_singleton, Registry.ofList_concat, pools]
      rw [ofSettings, List.foldlM_append, ← ofSettings, ih hentries, hpools, ← hadd]
      exact bind_pure (m := Except Failure) _

/-- **An entry that cannot be used.** What stands behind it does not matter. -/
theorem ofSettings_of_unusable {before : List (String × PoolSettings)} {e : String × PoolSettings}
    (hbefore : ∀ e ∈ before, e.2.Usable) (he : ¬ e.2.Usable)
    (after : List (String × PoolSettings)) :
    (ofSettings (before ++ e :: after) : Except Failure (Databases β)) = .error (refusal e) := by
  rw [ofSettings, List.foldlM_append, ← ofSettings, ofSettings_of_usable hbefore]
  change (addSettings _ e >>= fun databases => after.foldlM addSettings databases) = _
  rw [addSettings_of_unusable _ he]
  rfl

/-- The first entry that cannot be used, if there is one. -/
theorem exists_first {entries : List (String × PoolSettings)}
    (h : ¬ ∀ e ∈ entries, e.2.Usable) :
    ∃ before e after, entries = before ++ e :: after ∧
      (∀ e ∈ before, e.2.Usable) ∧ ¬ e.2.Usable := by
  push Not at h
  obtain ⟨e, he, hunusable⟩ := h
  obtain ⟨first, hfirst⟩ : ∃ first, entries.find? (fun e => ¬ e.2.Usable) = some first :=
    Option.isSome_iff_exists.mp (List.find?_isSome.mpr ⟨e, he, by simpa using hunusable⟩)
  obtain ⟨hnot, before, after, heq, hbefore⟩ := List.find?_eq_some_iff_append.mp hfirst
  exact ⟨before, first, after, heq, fun e he => by simpa using hbefore e he, by simpa using hnot⟩

/-! ### Building pools in every order -/

/-- The pools are those of the entries, one for each name, and no connection has been opened. -/
structure Describe (entries : List (String × PoolSettings)) (databases : Databases β) : Prop where
  names : databases.keys.Perm (entries.map Prod.fst)
  distinct : databases.keys.Nodup
  /-- The pool of an entry has its size and its lifetime, which is given in seconds. -/
  pool : ∀ e ∈ entries, databases.find e.1 =
    .ok (.new { size := e.2.poolSize.toNat, lifetime := e.2.lifetime.toNat * 1000 } Sqlite.dialect)

/-- The pools of entries in any order are those of the entries. -/
theorem describe_pools {entries order : List (String × PoolSettings)}
    (hnames : (entries.map Prod.fst).Nodup) (horder : order.Perm entries) :
    Describe entries (pools order : Databases β) := by
  have hdistinct : (order.map Prod.fst).Nodup := (horder.map Prod.fst).nodup_iff.mpr hnames
  have hkeys : (pools order : Databases β).keys = order.map Prod.fst := by
    rw [pools, Registry.ofList_of_nodup (by simpa [Function.comp_def] using hdistinct),
      Registry.keys, List.map_map]
    rfl
  refine ⟨hkeys ▸ horder.map Prod.fst, hkeys ▸ hdistinct, fun e he => ?_⟩
  have hmem : (e.1, Pool.new e.2.config Sqlite.dialect) ∈ (pools order : Databases β).entries := by
    rw [pools, Registry.ofList_of_nodup (by simpa [Function.comp_def] using hdistinct)]
    exact List.mem_map_of_mem (horder.mem_iff.mpr he)
  rw [find, Registry.get?_of_mem (hkeys ▸ hdistinct) hmem]
  rfl

/-- **Settings in every order.** If every size can be used, there is exactly one pool for each name,
with its size and lifetime, in whatever order the entries come. Otherwise the first entry that
cannot be used decides, and no pool is built: a size of zero is reported, with the name of the pool,
and a size that is too large ends the task. So it does not depend on the order whether there are
pools, and sizes that cannot be used are reported in every order exactly if none is too large. -/
theorem ofSettings_in_order {entries : List (String × PoolSettings)}
    (hnames : (entries.map Prod.fst).Nodup) :
    ((∀ e ∈ entries, e.2.Usable) → ∀ order, order.Perm entries →
      ∃ databases : Databases β, ofSettings order = .ok databases ∧ Describe entries databases) ∧
    (¬ (∀ e ∈ entries, e.2.Usable) → ∀ order, order.Perm entries →
      ∃ before e after, order = before ++ e :: after ∧ (∀ e ∈ before, e.2.Usable) ∧
        ¬ e.2.Usable ∧
        (ofSettings order : Except Failure (Databases β)) = .error (refusal e)) ∧
    ((∀ order, order.Perm entries → ∀ message,
        (ofSettings order : Except Failure (Databases β)) ≠ .error (.abort message)) ↔
      ∀ e ∈ entries, ¬ e.2.Oversized) := by
  have hrefused : ∀ order, order.Perm entries → ¬ (∀ e ∈ entries, e.2.Usable) →
      ∃ before e after, order = before ++ e :: after ∧ (∀ e ∈ before, e.2.Usable) ∧
        ¬ e.2.Usable ∧
        (ofSettings order : Except Failure (Databases β)) = .error (refusal e) := by
    intro order horder hnot
    have hsome : ¬ ∀ e ∈ order, e.2.Usable := fun h =>
      hnot fun e he => h e (horder.mem_iff.mpr he)
    obtain ⟨before, e, after, rfl, hbefore, he⟩ := exists_first hsome
    exact ⟨before, e, after, rfl, hbefore, he, ofSettings_of_unusable hbefore he after⟩
  refine ⟨fun husable order horder => ?_, fun hnot order horder => hrefused order horder hnot, ?_⟩
  · exact ⟨_, ofSettings_of_usable fun e he => husable e (horder.mem_iff.mp he),
      describe_pools hnames horder⟩
  constructor
  · -- An entry that is too large ends the task where it comes first.
    intro hnever e he hmost
    have hunusable : ¬ e.2.Usable := fun h => h.2 hmost
    have heq : (ofSettings ([] ++ e :: entries.erase e) : Except Failure (Databases β)) = _ :=
      ofSettings_of_unusable (fun _ h => absurd h List.not_mem_nil) hunusable _
    rw [refusal, if_neg hmost.ne_zero] at heq
    exact hnever _ (List.perm_cons_erase he).symm _ heq
  · intro hnone order horder message habort
    by_cases husable : ∀ e ∈ entries, e.2.Usable
    · rw [ofSettings_of_usable fun e he => husable e (horder.mem_iff.mp he)] at habort
      exact absurd habort (by simp)
    · obtain ⟨before, e, after, rfl, -, he, heq⟩ := hrefused order horder husable
      have hmem : e ∈ entries := horder.mem_iff.mp (by simp)
      have hzero : e.2.poolSize = 0 := not_not.mp fun hsome => he ⟨hsome, hnone e hmem⟩
      rw [heq, refusal, if_pos hzero] at habort
      exact absurd habort (by simp)

end Databases

/-! ### Settings in a text -/

namespace Settings

/-- A property of the state that every field keeps is kept by all of them. -/
theorem readObject_keeps {σ : Type} {P : σ → Prop}
    {field : σ → String → List Char → Except TextFault (σ × List Char)}
    (hfield : ∀ {state key cs state' rest}, P state → field state key cs = .ok (state', rest) →
      P state') {fuel : Nat} {first : Bool} {state state' : σ} {cs rest : List Char}
    (hstate : P state) (h : readObject field fuel first state cs = .ok (state', rest)) :
    P state' := by
  induction fuel generalizing first state cs with
  | zero => exact absurd h (by simp [readObject])
  | succ fuel ih =>
      obtain ⟨name, -, h⟩ := bind_eq_ok h
      cases name with
      | none =>
          obtain ⟨rfl, -⟩ := Prod.mk.inj (Except.ok.inj h)
          exact hstate
      | some name =>
          obtain ⟨⟨key, rest₁⟩, -, h⟩ := bind_eq_ok h
          obtain ⟨⟨state₁, rest₂⟩, hread, h⟩ := bind_eq_ok h
          exact ih (hfield hstate hread) h

/-- A value of an unwanted kind is none, whatever is wrong with it. -/
theorem unwanted_ne_ok {α : Type} (cs : List Char) (a : α) : unwanted cs ≠ .ok a := by
  cases cs with
  | nil => nofun
  | cons c rest =>
      intro h
      have hlast : ∀ {β : Type} {x : Except TextFault β},
          (x >>= fun _ => (throw .mismatched : Except TextFault α)) ≠ .ok a := by
        intro β x
        cases x <;> nofun
      unfold unwanted at h
      dsimp only at h
      split_ifs at h
      all_goals exact hlast h

/-- **Names in a text.** However often a text gives a name, there is one pool of it. -/
theorem parse_distinct {text : String} {pools : Registry String PoolSettings}
    (h : parse text = .ok pools) : (pools.entries.map Prod.fst).Nodup := by
  unfold parse at h
  dsimp only at h
  split at h
  · exact nomatch h
  · split at h
    · obtain ⟨levels, -, h⟩ := bind_eq_ok h
      obtain ⟨⟨read, rest⟩, hread, h⟩ := bind_eq_ok h
      obtain ⟨rest, -, h⟩ := bind_eq_ok h
      obtain ⟨-, -, h⟩ := bind_eq_ok h
      obtain rfl := Except.ok.inj h
      refine readObject_keeps (P := fun r => r.keys.Nodup) (fun hr hfield => ?_) List.nodup_nil
        hread
      obtain ⟨_, -, hfield⟩ := bind_eq_ok hfield
      obtain ⟨⟨settings, _⟩, -, hfield⟩ := bind_eq_ok hfield
      obtain ⟨rfl, -⟩ := Prod.mk.inj (Except.ok.inj hfield)
      exact Registry.keys_nodup_insert hr _ _
    · exact absurd h (unwanted_ne_ok _ _)

end Settings

namespace Databases

/-! ### Three pools -/

/-- The settings of a pool of so many connections to a file. -/
def sampleSettings (file : String) (size : UInt64) : PoolSettings :=
  { backend := { path := file }, poolSize := size }

/-- A pool that can be used between two that cannot. -/
def sampleEntries : List (String × PoolSettings) :=
  [("spare", sampleSettings "spare.db" 0), ("default", sampleSettings "app.db" 3),
    ("archive", sampleSettings "old.db" 0x2000000000000000)]

/-- With both kinds of sizes that cannot be used, one order reports one of them, and another order
ends the task. -/
theorem ofSettings_in_order_sampleEntries :
    (sampleEntries.map Prod.fst).Nodup ∧
      (ofSettings sampleEntries : Except Failure (Databases Unit)) =
        .error (.error (.invalidConfig "pool `spare`: pool size must be greater than 0")) ∧
      ∃ order, order.Perm sampleEntries ∧ ∃ message,
        (ofSettings order : Except Failure (Databases Unit)) = .error (.abort message) := by
  have hnames : (sampleEntries.map Prod.fst).Nodup := by decide
  refine ⟨hnames, rfl, ?_⟩
  by_contra hnone
  push Not at hnone
  exact absurd ((ofSettings_in_order (β := Unit) hnames).2.2.mp hnone) (by decide)

/-- A settings text with a pool of one connection more than an admission queue can count. -/
def sampleText : String :=
  "\x7b \"archive\": \x7b \"backend\": \x7b \"type\": \"sqlite\", " ++
    "\"options\": \x7b \"path\": \"old.db\" \x7d \x7d, \"pool_size\": 2305843009213693952 \x7d \x7d"

/-- **Settings that end their task.** The size cannot be used, and nobody is told so. -/
theorem archive_aborts :
    (Settings.parse sampleText).map Registry.entries =
        .ok [("archive", sampleSettings "old.db" 0x2000000000000000)] ∧
      ¬ (sampleSettings "old.db" 0x2000000000000000).Usable ∧
      (parse sampleText : Except Failure (Databases Unit)) =
        .error (.abort "more than 2305843009213693951 permits") := by
  have hread : (Settings.parse sampleText).map Registry.entries =
      .ok [("archive", sampleSettings "old.db" 0x2000000000000000)] := by decide +kernel
  refine ⟨hread, by decide, ?_⟩
  unfold parse
  cases hparse : Settings.parse sampleText with
  | error fault => simp [hparse, Except.map] at hread
  | ok pools =>
      rw [hparse] at hread
      change ofSettings pools.entries = _
      rw [Except.ok.inj hread]
      rfl

end Databases

end TableGateway
