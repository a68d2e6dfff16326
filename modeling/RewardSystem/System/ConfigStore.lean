import RewardSystem.Lib.History
import RewardSystem.Lib.Keyed
import RewardSystem.Lib.Runs
import RewardSystem.Shared.Money

/-!
# System configuration

Configuration rows are written in transactions and read through a cache. A write deletes the cached
row before its transaction commits; a read that finds no cached row reads the committed row and
caches it. Every step of these is a step of its own here.
-/

namespace RewardSystem.System

/-- A row: `config_number` in cents, `config_value` as its JSON text. -/
structure ConfigRow where
  configNumber : Option Int
  configValue : Option String
  deriving DecidableEq, Repr

/-- A transaction with the rows it has written, and the keys it has yet to delete from the cache. -/
structure ConfigTransaction where
  id : Nat
  writes : List (String × ConfigRow)
  invalidating : List String

inductive ReadPhase where
  | cache
  | database (missing : List String)
  | writeBack (entries : List (String × ConfigRow))

/-- A read under way. It does not look at `started`, the updates committed when it started. -/
structure ConfigRead where
  id : Nat
  keys : List String
  lock : Bool
  phase : ReadPhase
  output : List (String × ConfigRow)
  started : List (String × ConfigRow)

/-- `committed` are all updates there have been, the rows seeded first; `returned` the reads that
are over. -/
structure ConfigStore where
  committed : List (String × ConfigRow)
  cache : String → Option ConfigRow
  transactions : List ConfigTransaction
  reads : List ConfigRead
  returned : List ConfigRead

/-- What the read gives for `key`. -/
def ConfigRead.result (read : ConfigRead) (key : String) : Option ConfigRow :=
  read.output.lookup key

namespace ConfigStore

def start (seeded : List (String × ConfigRow)) : ConfigStore :=
  { committed := seeded
    cache := fun _ => none
    transactions := []
    reads := []
    returned := [] }

def transaction (store : ConfigStore) (id : Nat) : Option ConfigTransaction :=
  Keyed.lookup ConfigTransaction.id id store.transactions

def read (store : ConfigStore) (id : Nat) : Option ConfigRead :=
  Keyed.lookup ConfigRead.id id store.reads

def setTransaction (store : ConfigStore) (transaction : ConfigTransaction) : ConfigStore :=
  { store with
    transactions := Keyed.modify ConfigTransaction.id transaction.id (fun _ => transaction)
      store.transactions }

def dropTransaction (store : ConfigStore) (id : Nat) : ConfigStore :=
  { store with transactions := store.transactions.filter fun transaction => transaction.id ≠ id }

def setRead (store : ConfigStore) (read : ConfigRead) : ConfigStore :=
  { store with reads := Keyed.modify ConfigRead.id read.id (fun _ => read) store.reads }

/-- The read returns. -/
def finish (store : ConfigStore) (read : ConfigRead) : ConfigStore :=
  { store with
    reads := store.reads.filter fun other => other.id ≠ read.id
    returned := store.returned ++ [read] }

/-- What the cache gives for `key`: nothing if it does not answer. -/
def cached (store : ConfigStore) (answers : Bool) (key : String) : Option ConfigRow :=
  if answers then store.cache key else none

/-- A cache that does not answer is only logged. -/
def setCached (store : ConfigStore) (answers : Bool) (key : String) (row : Option ConfigRow) :
    ConfigStore :=
  if answers then { store with cache := Function.update store.cache key row } else store

/-! ## Updates -/

def begin (store : ConfigStore) (id : Nat) : ConfigStore :=
  if (store.transaction id).isSome then store
  else
    { store with
      transactions := store.transactions ++ [{ id, writes := [], invalidating := [] }] }

/-- The upsert of `setConfigDecimal`. It waits while another transaction has written the row. -/
def setConfigDecimal (store : ConfigStore) (id : Nat) (key : String) (value : ℚ) : ConfigStore :=
  match store.transaction id with
  | none => store
  | some transaction =>
      if store.transactions.any fun other =>
          other.id ≠ id ∧ key ∈ other.writes.map Prod.fst then store
      else
        let row : ConfigRow := { configNumber := some (toCents value), configValue := none }
        store.setTransaction
          { transaction with
            writes := (transaction.writes.filter fun entry => entry.1 ≠ key) ++ [(key, row)]
            invalidating := transaction.invalidating ++ [key] }

/-- `invalidateSystemConfigCacheKeys` -/
def deleteCacheKeys (store : ConfigStore) (id : Nat) (key : String) (answers : Bool) : ConfigStore :=
  match store.transaction id with
  | none => store
  | some transaction =>
      if key ∉ transaction.invalidating then store
      else
        (store.setCached answers key none).setTransaction
          { transaction with invalidating := transaction.invalidating.erase key }

def commit (store : ConfigStore) (id : Nat) : ConfigStore :=
  match store.transaction id with
  | none => store
  | some transaction =>
      if transaction.invalidating ≠ [] then store
      else
        { store.dropTransaction id with committed := store.committed ++ transaction.writes }

/-! ## Reads -/

/-- `readConfigRow` -/
def readConfigRow (store : ConfigStore) (id : Nat) (key : String) (lock : Bool) : ConfigStore :=
  if (store.read id).isSome then store
  else
    let phase := if lock then .database [key] else .cache
    { store with
      reads := store.reads ++
        [{ id, keys := [key], lock, phase, output := [], started := store.committed }] }

def getConfigRowsByKeys (store : ConfigStore) (id : Nat) (keys : List String) : ConfigStore :=
  if (store.read id).isSome then store
  else
    let read : ConfigRead :=
      { id, keys := keys.eraseDups, lock := false, phase := .cache, output := []
        started := store.committed }
    if read.keys = [] then store.finish read else { store with reads := store.reads ++ [read] }

/-- `readJsonCacheMany` -/
def readCache (store : ConfigStore) (id : Nat) (answers : Bool) : ConfigStore :=
  match store.read id with
  | some read =>
      match read.phase with
      | .cache =>
          let output := read.keys.filterMap fun key =>
            (store.cached answers key).map fun row => (key, row)
          let missing := read.keys.filter fun key => store.cached answers key = none
          if missing = [] then store.finish { read with output := output }
          else store.setRead { read with output := output, phase := .database missing }
      | _ => store
  | none => store

/-- `readConfigRowFromDb`, and the query of `getConfigRowsByKeys`. -/
def select (store : ConfigStore) (id : Nat) : ConfigStore :=
  match store.read id with
  | some read =>
      match read.phase with
      | .database missing =>
          let rows := missing.filterMap fun key =>
            (History.latest key store.committed).map fun row => (key, row)
          let read := { read with output := read.output ++ rows }
          if read.lock ∨ rows = [] then store.finish read
          else store.setRead { read with phase := .writeBack rows }
      | _ => store
  | none => store

/-- One entry of `writeJsonCacheMany`. The read returns after the last one. -/
def writeCache (store : ConfigStore) (id : Nat) (key : String) (answers : Bool) : ConfigStore :=
  match store.read id with
  | some read =>
      match read.phase with
      | .writeBack entries =>
          match entries.lookup key with
          | none => store
          | some row =>
              let store := store.setCached answers key (some row)
              let rest := entries.filter fun entry => entry.1 ≠ key
              if rest = [] then store.finish read
              else store.setRead { read with phase := .writeBack rest }
      | _ => store
  | none => store

end ConfigStore

/-- What may happen next. -/
inductive Operation where
  | begin (id : Nat)
  | setConfigDecimal (id : Nat) (key : String) (value : ℚ)
  | deleteCacheKeys (id : Nat) (key : String) (answers : Bool)
  | commit (id : Nat)
  | rollback (id : Nat)
  | readConfigRow (id : Nat) (key : String) (lock : Bool)
  | getConfigRowsByKeys (id : Nat) (keys : List String)
  | readCache (id : Nat) (answers : Bool)
  | select (id : Nat)
  | writeCache (id : Nat) (key : String) (answers : Bool)
  | expire (key : String)

/-- An operation that cannot happen in this state leaves the store as it is. -/
def step (store : ConfigStore) : Operation → ConfigStore
  | .begin id => store.begin id
  | .setConfigDecimal id key value => store.setConfigDecimal id key value
  | .deleteCacheKeys id key answers => store.deleteCacheKeys id key answers
  | .commit id => store.commit id
  | .rollback id => store.dropTransaction id
  | .readConfigRow id key lock => store.readConfigRow id key lock
  | .getConfigRowsByKeys id keys => store.getConfigRowsByKeys id keys
  | .readCache id answers => store.readCache id answers
  | .select id => store.select id
  | .writeCache id key answers => store.writeCache id key answers
  | .expire key => { store with cache := Function.update store.cache key none }

end RewardSystem.System
