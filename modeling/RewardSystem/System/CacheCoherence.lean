import RewardSystem.System.ConfigStore

/-!
# When the configuration cache is coherent

A read returns the last update committed before it started, or a later one, as long as the cache
holds committed rows only until they are replaced. An update deletes the cached row before it
commits, so this is up to the reads in between, and to those that write back what they saw earlier.
-/

namespace RewardSystem.System

open Transition History

/-- The read returns nothing older than what was committed when it started. -/
def ConfigRead.IsCurrent (read : ConfigRead) (committed : List (String × ConfigRow)) : Prop :=
  ∀ key ∈ read.keys, NotBefore key read.started committed (read.result key)

/-- What a read finds that starts now and is not interrupted. -/
def ConfigStore.rowNow (store : ConfigStore) (key : String) : Option ConfigRow :=
  (store.cache key).or (latest key store.committed)

/-- The reads that are over, and any that starts now, return nothing older than what was committed
when they started. -/
structure Coherent (store : ConfigStore) : Prop where
  returned : ∀ read ∈ store.returned, read.IsCurrent store.committed
  next : ∀ key, NotBefore key store.committed store.committed (store.rowNow key)

def ConfigRead.InFlight (read : ConfigRead) (committed : List (String × ConfigRow)) : Prop :=
  read.started <+: committed ∧
    match read.phase with
    | .cache => True
    | .database missing =>
        (∀ entry ∈ read.output, entry.1 ∉ missing) ∧
          ∀ key ∈ read.keys, key ∉ missing →
            NotBefore key read.started committed (read.result key)
    | .writeBack entries =>
        read.IsCurrent committed ∧
          ∀ entry ∈ entries, (latest entry.1 committed).isSome

/-- The cache holds committed rows that have not been replaced. -/
structure Current (store : ConfigStore) : Prop where
  cached : ∀ key row, store.cache key = some row → latest key store.committed = some row
  reads : ∀ read ∈ store.reads, read.InFlight store.committed
  returned : ∀ read ∈ store.returned, read.IsCurrent store.committed

/-- The row that the read has yet to write back under `key`. -/
def ConfigRead.pending (read : ConfigRead) (key : String) : Option ConfigRow :=
  match read.phase with
  | .writeBack entries => entries.lookup key
  | _ => none

/-- The steps that keep the cache coherent: a transaction commits when the cache holds no older row
under its keys, and a read writes back a row that is still the committed one. -/
def InOrder (e : Event ConfigStore Operation) : Prop :=
  match e.label with
  | .commit id =>
      ∀ transaction ∈ e.before.transaction id, transaction.invalidating = [] →
        ∀ entry ∈ transaction.writes, e.before.cache entry.1 = none ∨
          e.before.cache entry.1 = latest entry.1 transaction.writes
  | .writeCache id key true =>
      ∀ read ∈ e.before.read id, ∀ row ∈ read.pending key,
        latest key e.before.committed = some row
  | _ => True

theorem lookup_filterMap_key (keys : List String) (f : String → Option ConfigRow) (key : String) :
    (keys.filterMap fun key => (f key).map fun row => (key, row)).lookup key =
      if key ∈ keys then f key else none := by
  induction keys with
  | nil => rfl
  | cons head keys ih =>
      by_cases hkey : key = head
      · subst hkey
        cases hrow : f key with
        | none => simp [hrow, ih]
        | some row => simp [hrow]
      · cases hrow : f head with
        | none => simp [hrow, ih, hkey]
        | some row => simp [hrow, ih, hkey, List.lookup_cons, beq_eq_false_iff_ne.mpr hkey]

section Reads

variable {read : ConfigRead} {committed : List (String × ConfigRow)}

theorem ConfigRead.IsCurrent.append (hcurrent : read.IsCurrent committed)
    (more : List (String × ConfigRow)) : read.IsCurrent (committed ++ more) :=
  fun key hkey => (hcurrent key hkey).append more

theorem ConfigRead.InFlight.append (hflight : read.InFlight committed)
    (more : List (String × ConfigRow)) : read.InFlight (committed ++ more) := by
  obtain ⟨hstarted, hphase⟩ := hflight
  refine ⟨hstarted.trans (List.prefix_append _ _), ?_⟩
  cases hread : read.phase with
  | cache => trivial
  | database missing =>
      rw [hread] at hphase
      exact ⟨hphase.1, fun key hkey hmissing => (hphase.2 key hkey hmissing).append more⟩
  | writeBack entries =>
      rw [hread] at hphase
      refine ⟨hphase.1.append more, fun entry hentry => ?_⟩
      rw [latest_append, Option.isSome_or, hphase.2 entry hentry, Bool.or_true]

end Reads

namespace Current

variable {store : ConfigStore} (hcurrent : Current store)
include hcurrent

theorem frame {after : ConfigStore} (hcommitted : after.committed = store.committed)
    (hcache : after.cache = store.cache) (hreads : after.reads = store.reads)
    (hreturned : after.returned = store.returned) : Current after := by
  refine ⟨?_, ?_, ?_⟩
  · rw [hcommitted, hcache]
    exact hcurrent.cached
  · rw [hcommitted, hreads]
    exact hcurrent.reads
  · rw [hcommitted, hreturned]
    exact hcurrent.returned

theorem coherent : Coherent store := by
  refine ⟨hcurrent.returned, fun key => ?_⟩
  have hnow : store.rowNow key = latest key store.committed := by
    unfold ConfigStore.rowNow
    cases hcached : store.cache key with
    | none => rfl
    | some row => exact (hcurrent.cached key row hcached).symm
  rw [hnow]
  exact NotBefore.of_latest (List.prefix_refl _)

theorem setCached {answers : Bool} {key : String} {row : Option ConfigRow}
    (hrow : answers = true → ∀ row' ∈ row, latest key store.committed = some row') :
    Current (store.setCached answers key row) := by
  cases answers with
  | false => exact hcurrent
  | true =>
      refine ⟨fun other row' hrow' => ?_, hcurrent.reads, hcurrent.returned⟩
      change Function.update store.cache key row other = some row' at hrow'
      by_cases hkey : other = key
      · subst hkey
        rw [Function.update_self] at hrow'
        exact hrow rfl row' hrow'
      · rw [Function.update_of_ne hkey] at hrow'
        exact hcurrent.cached other row' hrow'

theorem latest_of_cached {answers : Bool} {key : String} {row : ConfigRow}
    (hrow : store.cached answers key = some row) : latest key store.committed = some row := by
  cases answers with
  | false => cases hrow
  | true => exact hcurrent.cached key row hrow

theorem setRead {read : ConfigRead} (hread : read.InFlight store.committed) :
    Current (store.setRead read) := by
  refine ⟨hcurrent.cached, fun other hother => ?_, hcurrent.returned⟩
  rcases Keyed.mem_modify.mp hother with ⟨hother, -⟩ | ⟨_, -, -, rfl⟩
  · exact hcurrent.reads other hother
  · exact hread

theorem finish {read : ConfigRead} (hread : read.IsCurrent store.committed) :
    Current (store.finish read) := by
  refine ⟨hcurrent.cached, fun other hother => ?_, fun other hother => ?_⟩
  · exact hcurrent.reads other (List.mem_filter.mp hother).1
  · rcases List.mem_append.mp hother with hother | hother
    · exact hcurrent.returned other hother
    · obtain rfl := List.mem_singleton.mp hother
      exact hread

theorem startRead {read : ConfigRead} (hread : read.InFlight store.committed) :
    Current { store with reads := store.reads ++ [read] } := by
  refine ⟨hcurrent.cached, fun other hother => ?_, hcurrent.returned⟩
  rcases List.mem_append.mp hother with hother | hother
  · exact hcurrent.reads other hother
  · obtain rfl := List.mem_singleton.mp hother
    exact hread

theorem commit {id : Nat}
    (hin : ∀ transaction ∈ store.transaction id, transaction.invalidating = [] →
      ∀ entry ∈ transaction.writes, store.cache entry.1 = none ∨
        store.cache entry.1 = latest entry.1 transaction.writes) :
    Current (store.commit id) := by
  unfold ConfigStore.commit
  split
  · exact hcurrent
  · rename_i transaction htransaction
    split
    · exact hcurrent
    · rename_i hinvalidating
      refine ⟨fun key row hrow => ?_, fun read hread => ?_, fun read hread => ?_⟩
      · change latest key (store.committed ++ transaction.writes) = some row
        rw [latest_append]
        cases hwrite : latest key transaction.writes with
        | none => exact hcurrent.cached key row hrow
        | some written =>
            obtain ⟨i, hi, -⟩ := exists_last_of_latest hwrite
            have hcache : store.cache key = some row := hrow
            rcases hin transaction htransaction (not_not.mp hinvalidating) (key, written)
              (List.mem_of_getElem? hi) with hnone | hlatest
            · rw [hcache] at hnone
              cases hnone
            · rw [hcache] at hlatest
              rw [hwrite] at hlatest
              exact hlatest.symm
      · exact (hcurrent.reads read hread).append _
      · exact (hcurrent.returned read hread).append _

theorem readCache (id : Nat) (answers : Bool) : Current (store.readCache id answers) := by
  unfold ConfigStore.readCache
  split
  · rename_i read hread
    have hflight := hcurrent.reads read (Keyed.mem_of_lookup hread)
    split
    · dsimp only
      generalize houtput : (read.keys.filterMap fun key =>
        (store.cached answers key).map fun row => (key, row)) = output
      have hfound : ∀ key ∈ read.keys, store.cached answers key ≠ none →
          NotBefore key read.started store.committed (output.lookup key) := by
        intro key hkey hsome
        obtain ⟨row, hrow⟩ := Option.ne_none_iff_exists'.mp hsome
        rw [← houtput, lookup_filterMap_key, if_pos hkey, hrow, ← hcurrent.latest_of_cached hrow]
        exact NotBefore.of_latest hflight.1
      split
      · rename_i hmissing
        refine hcurrent.finish fun key hkey => hfound key hkey fun hnone => ?_
        have hmem := List.filter_eq_nil_iff.mp hmissing key hkey
        simp [hnone] at hmem
      · refine hcurrent.setRead ⟨hflight.1, ?_, fun key hkey hmissing => hfound key hkey ?_⟩
        · intro entry hentry hmissing
          rw [← houtput, List.mem_filterMap] at hentry
          obtain ⟨key, -, hentry⟩ := hentry
          obtain ⟨row, hrow, rfl⟩ := Option.map_eq_some_iff.mp hentry
          simp [hrow] at hmissing
        · intro hnone
          exact hmissing (by simp [hkey, hnone])
    · exact hcurrent
  · exact hcurrent

theorem select (id : Nat) : Current (store.select id) := by
  unfold ConfigStore.select
  split
  · rename_i read hread
    have hflight := hcurrent.reads read (Keyed.mem_of_lookup hread)
    split
    · rename_i missing hphase
      dsimp only
      generalize hrows : (missing.filterMap fun key =>
        (latest key store.committed).map fun row => (key, row)) = rows
      have hstarted := hflight.1
      rw [ConfigRead.InFlight, hphase] at hflight
      obtain ⟨-, houtput, hfound⟩ := hflight
      have hread' : ({ read with output := read.output ++ rows } : ConfigRead).IsCurrent
          store.committed := by
        intro key hkey
        change NotBefore key read.started store.committed ((read.output ++ rows).lookup key)
        rw [List.lookup_append, ← hrows, lookup_filterMap_key]
        by_cases hmissing : key ∈ missing
        · have hnone : read.output.lookup key = none := by
            refine List.lookup_eq_none_iff.mpr fun entry hentry => ?_
            have hne : key ≠ entry.1 := fun heq => houtput entry hentry (heq ▸ hmissing)
            simpa using hne
          rw [hnone, if_pos hmissing, Option.none_or]
          exact NotBefore.of_latest hstarted
        · rw [if_neg hmissing, Option.or_none]
          exact hfound key hkey hmissing
      split
      · exact hcurrent.finish hread'
      · refine hcurrent.setRead ⟨hstarted, hread', fun entry hentry => ?_⟩
        rw [← hrows, List.mem_filterMap] at hentry
        obtain ⟨key, -, hentry⟩ := hentry
        obtain ⟨row, hrow, rfl⟩ := Option.map_eq_some_iff.mp hentry
        simp [hrow]
    · exact hcurrent
  · exact hcurrent

theorem writeCache {id : Nat} {key : String} {answers : Bool}
    (hin : InOrder ⟨store, .writeCache id key answers, step store (.writeCache id key answers)⟩) :
    Current (store.writeCache id key answers) := by
  unfold ConfigStore.writeCache
  split
  · rename_i read hread
    have hflight := hcurrent.reads read (Keyed.mem_of_lookup hread)
    split
    · rename_i entries hphase
      have hstarted := hflight.1
      rw [ConfigRead.InFlight, hphase] at hflight
      obtain ⟨-, hread', hentries⟩ := hflight
      split
      · exact hcurrent
      · rename_i row hrow
        have hwritten : Current (store.setCached answers key (some row)) := by
          refine hcurrent.setCached fun hanswers => ?_
          subst hanswers
          have hpending : read.pending key = some row := by
            rw [ConfigRead.pending, hphase]
            exact hrow
          exact fun row' hrow' => Option.some.inj hrow' ▸ hin read hread row hpending
        have hcommitted : (store.setCached answers key (some row)).committed = store.committed := by
          unfold ConfigStore.setCached
          split <;> rfl
        dsimp only
        split
        · refine hwritten.finish ?_
          rw [hcommitted]
          exact hread'
        · refine hwritten.setRead ?_
          rw [hcommitted]
          exact ⟨hstarted, hread', fun entry hentry => hentries entry (List.mem_filter.mp hentry).1⟩
    · exact hcurrent
  · exact hcurrent

theorem step {operation : Operation} (hin : InOrder ⟨store, operation, step store operation⟩) :
    Current (step store operation) := by
  cases operation with
  | begin id =>
      change Current (store.begin id)
      unfold ConfigStore.begin
      split
      · exact hcurrent
      · exact hcurrent.frame rfl rfl rfl rfl
  | setConfigDecimal id key value =>
      change Current (store.setConfigDecimal id key value)
      unfold ConfigStore.setConfigDecimal
      split
      · exact hcurrent
      · split
        · exact hcurrent
        · exact hcurrent.frame rfl rfl rfl rfl
  | deleteCacheKeys id key answers =>
      change Current (store.deleteCacheKeys id key answers)
      unfold ConfigStore.deleteCacheKeys
      split
      · exact hcurrent
      · split
        · exact hcurrent
        · have huncached : Current (store.setCached answers key none) :=
            hcurrent.setCached (by simp)
          exact huncached.frame rfl rfl rfl rfl
  | commit id => exact hcurrent.commit hin
  | rollback id => exact hcurrent.frame rfl rfl rfl rfl
  | readConfigRow id key lock =>
      change Current (store.readConfigRow id key lock)
      unfold ConfigStore.readConfigRow
      split
      · exact hcurrent
      · refine hcurrent.startRead ⟨List.prefix_refl _, ?_⟩
        cases lock with
        | false => trivial
        | true => exact ⟨by simp, by simp⟩
  | getConfigRowsByKeys id keys =>
      change Current (store.getConfigRowsByKeys id keys)
      unfold ConfigStore.getConfigRowsByKeys
      split
      · exact hcurrent
      · dsimp only
        split
        · rename_i hkeys
          exact hcurrent.finish (by simp [ConfigRead.IsCurrent, hkeys])
        · exact hcurrent.startRead ⟨List.prefix_refl _, trivial⟩
  | readCache id answers => exact hcurrent.readCache id answers
  | select id => exact hcurrent.select id
  | writeCache id key answers => exact hcurrent.writeCache hin
  | expire key =>
      have huncached : Current (store.setCached true key none) := hcurrent.setCached (by simp)
      exact huncached

end Current

theorem writeCache_cases {store : ConfigStore} {id : Nat} {read : ConfigRead}
    {entries : List (String × ConfigRow)} {key : String} {row : ConfigRow}
    (hread : store.read id = some read) (hphase : read.phase = .writeBack entries)
    (hrow : entries.lookup key = some row) :
    (store.writeCache id key true).committed = store.committed ∧
      (store.writeCache id key true).cache key = some row := by
  simp only [ConfigStore.writeCache, hread, hphase, hrow]
  split
  · exact ⟨rfl, Function.update_self _ _ _⟩
  · exact ⟨rfl, Function.update_self _ _ _⟩

theorem inOrder_of_coherent {store : ConfigStore} (hcurrent : Current store)
    {operation : Operation} (hcoherent : Coherent (step store operation)) :
    InOrder ⟨store, operation, step store operation⟩ := by
  unfold InOrder
  dsimp only
  split
  · rename_i id
    intro transaction htransaction hinvalidating entry hentry
    have hnext := hcoherent.next entry.1
    have hcommit : step store (.commit id) =
        { store.dropTransaction id with
          committed := store.committed ++ transaction.writes } := by
      simp only [step, ConfigStore.commit, Option.mem_def.mp htransaction, hinvalidating, ne_eq,
        not_true_eq_false, if_false]
    rw [hcommit] at hnext
    obtain ⟨i, hi⟩ := List.mem_iff_getElem?.mp hentry
    obtain ⟨written, hwritten⟩ := exists_latest_of_getElem? hi
    have hlatest : latest entry.1 (store.committed ++ transaction.writes) = some written := by
      rw [latest_append, hwritten, Option.some_or]
    have hnow := hnext.eq_latest hlatest
    cases hcache : store.cache entry.1 with
    | none => exact .inl rfl
    | some row =>
        right
        change (store.cache entry.1).or _ = some written at hnow
        rw [hcache, Option.some_or] at hnow
        rw [hnow, hwritten]
  · rename_i id key
    intro read hread row hrow
    cases hphase : read.phase with
    | cache => simp [ConfigRead.pending, hphase] at hrow
    | database missing => simp [ConfigRead.pending, hphase] at hrow
    | writeBack entries =>
        rw [ConfigRead.pending, hphase] at hrow
        have hflight := (hcurrent.reads read (Keyed.mem_of_lookup hread)).2
        rw [hphase] at hflight
        have hwritten := writeCache_cases hread hphase hrow
        have hpending : (latest key store.committed).isSome := by
          obtain ⟨earlier, later, hentries, -⟩ := List.lookup_eq_some_iff.mp hrow
          exact hflight.2 (key, row) (by simp [hentries])
        obtain ⟨current, hlatest⟩ := Option.isSome_iff_exists.mp hpending
        have hnext := hcoherent.next key
        change NotBefore key (store.writeCache id key true).committed
          (store.writeCache id key true).committed ((store.writeCache id key true).rowNow key) at hnext
        rw [ConfigStore.rowNow, hwritten.1, hwritten.2, Option.some_or] at hnext
        rw [hlatest, ← hnext.eq_latest hlatest]
  · trivial

/-- **When the cache is coherent.** Every read returns the last update that was committed before it
started or a later one, throughout a run and for a read that starts after it, exactly if every
transaction commits when the cache holds no older row under its keys, and every row is still the
committed one when it is written back. -/
theorem coherent_iff_inOrder {seeded : List (String × ConfigRow)}
    {events : List (Event ConfigStore Operation)} {t : ConfigStore}
    (hrun : Run (Takes step) (ConfigStore.start seeded) events t) :
    (∀ e ∈ events, Coherent e.after) ↔ ∀ e ∈ events, InOrder e := by
  have hstart : Current (ConfigStore.start seeded) := by
    refine ⟨?_, by simp [ConfigStore.start], by simp [ConfigStore.start]⟩
    intro key row hrow
    cases hrow
  refine Run.forall_iff_of_guard (I := Current) (P := fun e => Coherent e.after) ?_ ?_ hrun hstart
  · rintro store operation _ hcurrent rfl
    exact ⟨inOrder_of_coherent hcurrent, fun hin => (hcurrent.step hin).coherent⟩
  · rintro store operation _ hcurrent rfl hin
    exact hcurrent.step hin

section Example

instance (e : Event ConfigStore Operation) : Decidable (InOrder e) := by
  unfold InOrder
  split <;> infer_instance

def drawEnabled : ConfigRow :=
  { configNumber := some 100, configValue := none }

def drawDisabled : ConfigRow :=
  { configNumber := some 0, configValue := none }

def readDrawEnabled (id : Nat) : List Operation :=
  [.readConfigRow id "draw_system.draw_enabled" false, .readCache id true, .select id,
    .writeCache id "draw_system.draw_enabled" true]

def disableDraws : List Operation :=
  [.begin 0, .setConfigDecimal 0 "draw_system.draw_enabled" 0,
    .deleteCacheKeys 0 "draw_system.draw_enabled" true]

/-- Draws are disabled; between the deletion of the cached row and the commit the old row is read and
cached again. -/
def readBeforeCommit : List Operation :=
  disableDraws ++ readDrawEnabled 0 ++ [.commit 0] ++ readDrawEnabled 1

def drawsEnabled : ConfigStore :=
  .start [("draw_system.draw_enabled", drawEnabled)]

theorem not_coherent_of_readBeforeCommit :
    ¬∀ seeded events t, Run (Takes step) (ConfigStore.start seeded) events t →
      ∀ e ∈ events, Coherent e.after := by
  intro hclaim
  have hcoherent := hclaim _ _ _ (Run.of_visits step drawsEnabled readBeforeCommit)
  obtain ⟨e, he, read, hread, hkey, hcommitted, hstarted, hresult⟩ :
      ∃ e ∈ visits step drawsEnabled readBeforeCommit, ∃ read ∈ e.after.returned,
        "draw_system.draw_enabled" ∈ read.keys ∧
          e.after.committed = [("draw_system.draw_enabled", drawEnabled),
            ("draw_system.draw_enabled", drawDisabled)] ∧
          read.started[1]? = some ("draw_system.draw_enabled", drawDisabled) ∧
          read.result "draw_system.draw_enabled" = some drawEnabled := by
    decide +kernel
  obtain ⟨j, row, hlate, hrow, hvalue⟩ :=
    (hcoherent e he).returned read hread _ hkey 1 drawDisabled hstarted
  rw [hcommitted] at hrow
  obtain rfl : j = 1 := by
    have hlt := (List.getElem?_eq_some_iff.mp hrow).1
    simp only [List.length_cons, List.length_nil] at hlt
    omega
  rw [hresult] at hvalue
  obtain rfl := Option.some.inj hvalue
  simp [drawEnabled, drawDisabled] at hrow

theorem coherent_of_inOrder_calls :
    let events := visits step drawsEnabled
      (readDrawEnabled 0 ++ disableDraws ++ [.commit 0] ++ readDrawEnabled 1)
    (∃ e ∈ events, ∃ read ∈ e.after.returned,
      read.result "draw_system.draw_enabled" = some drawDisabled) ∧
        ∀ e ∈ events, Coherent e.after :=
  ⟨by decide +kernel,
    (coherent_iff_inOrder (Run.of_visits step drawsEnabled
      (readDrawEnabled 0 ++ disableDraws ++ [.commit 0] ++ readDrawEnabled 1))).mpr
        (by decide +kernel)⟩

end Example

end RewardSystem.System
