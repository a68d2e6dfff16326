import Mathlib.Algebra.BigOperators.Group.List.Basic
import Mathlib.Tactic.Abel
import RewardSystem.Lib.ReadCommitted

/-!
# Amounts kept in step with a log

Rows carry amounts that transactions move, and every transaction appends entries that say how far
it moved each of them. If a session always knows what it has moved and not entered yet, and owes
nothing when it commits, then in every interleaving the committed amounts are the opening ones moved
by the committed entries.
-/

namespace ReadCommitted

open Transition

/-- The amount of a row, how far an entry moves each amount, and what a session has moved without
an entry for it. -/
structure Books (τ : Type) {κ : Type} (Row : κ → Type) (ε γ : Type) where
  amount : (k : κ) → Row k → ℤ
  delta : ε → κ → ℤ
  owed : γ → κ → ℤ
  /-- What is known of every row, and of every session. -/
  rowOk : (k : κ) → Row k → Prop
  sessionOk : τ → Session Row ε γ → Prop

variable {τ κ : Type} [DecidableEq τ] [DecidableEq κ] {Row : κ → Type} {ε γ β : Type}

namespace Books

variable (B : Books τ Row ε γ)

/-- A missing row has the amount zero. -/
def amountAt (db : Database Row ε) (k : κ) : ℤ :=
  match db.rows k with
  | none => 0
  | some row => B.amount k row

def total (entries : List ε) (k : κ) : ℤ :=
  (entries.map fun entry => B.delta entry k).sum

def RowsOk (db : Database Row ε) : Prop :=
  ∀ k row, db.rows k = some row → B.rowOk k row

/-- The obligation on one statement: its write is entered or owed. -/
def Entered (db : Database Row ε) (state : γ) : Action Row ε γ → Prop
  | .goto next => ∀ k, B.owed next k = B.owed state k
  | .write k row next =>
      B.rowOk k row ∧ B.owed next k = B.owed state k + (B.amount k row - B.amountAt db k) ∧
        ∀ k', k' ≠ k → B.owed next k' = B.owed state k'
  | .insert entry next => ∀ k, B.owed next k + B.delta entry k = B.owed state k
  | .commit next => ∀ k, B.owed state k = 0 ∧ B.owed next k = 0
  | .rollback next => ∀ k, B.owed next k = 0

end Books

/-- The code keeps the books. -/
structure Books.Kept (B : Books τ Row ε γ) (program : Program τ Row ε γ β)
    (admits : β → Prop) : Prop where
  start_owed : ∀ request k, B.owed (program.start request) k = 0
  start_ok : ∀ t request, admits request → B.sessionOk t (.fresh (program.start request))
  exec_ok : ∀ t s db action, B.RowsOk (s.view db) → B.sessionOk t s →
    program.exec t s.state (s.view db) = some action → B.sessionOk t (s.after action)
  exec_entered : ∀ t s db action, B.RowsOk (s.view db) → B.sessionOk t s →
    program.exec t s.state (s.view db) = some action → B.Entered (s.view db) s.state action

namespace Books

variable (B : Books τ Row ε γ)

/-- The amounts of `db` stand at `opening`, moved by the entries of its log. -/
def Conserved (opening : κ → ℤ) (db : Database Row ε) : Prop :=
  ∀ k, B.amountAt db k = opening k + B.total db.log k

/-- What the books assert of a database and of the sessions on it. -/
def assertions (opening : κ → ℤ) : Assertions τ Row ε γ where
  shared db := B.RowsOk db ∧ B.Conserved opening db
  unused _ _ := True
  own db t s := B.sessionOk t s ∧ (∀ k row, s.writes k = some row → B.rowOk k row) ∧
    ∀ k, B.amountAt (s.view db) k = B.amountAt db k + B.owed s.state k + B.total s.inserts k

variable {B} {db : Database Row ε} {s s' : Session Row ε γ} {opening : κ → ℤ}

omit [DecidableEq τ] [DecidableEq κ] in
theorem total_append (entries more : List ε) (k : κ) :
    B.total (entries ++ more) k = B.total entries k + B.total more k := by
  simp [total]

omit [DecidableEq τ] [DecidableEq κ] in
theorem amountAt_congr {db db' : Database Row ε} {k : κ} (h : db.rows k = db'.rows k) :
    B.amountAt db k = B.amountAt db' k := by
  simp [amountAt, h]

omit [DecidableEq τ] [DecidableEq κ] in
theorem rowsOk_view (hdb : B.RowsOk db) (hs : ∀ k row, s.writes k = some row → B.rowOk k row) :
    B.RowsOk (s.view db) := by
  intro k row h
  cases hw : s.writes k with
  | none => exact hdb k row (by simpa [Session.view, hw] using h)
  | some written =>
      obtain rfl : written = row := by simpa [Session.view, hw] using h
      exact hs k written hw

omit [DecidableEq τ] in
theorem amountAt_view_write {k : κ} {row : Row k} {next : γ} :
    B.amountAt ((s.after (.write k row next)).view db) k = B.amount k row := by
  simp [amountAt, Session.view, Session.after]

omit [DecidableEq τ] in
theorem amountAt_view_write_of_ne {k k' : κ} {row : Row k} {next : γ} (hne : k' ≠ k) :
    B.amountAt ((s.after (.write k row next)).view db) k' = B.amountAt (s.view db) k' :=
  amountAt_congr (by simp [Session.view, Session.after, Function.update_of_ne hne])

omit [DecidableEq τ] [DecidableEq κ] in
/-- A commit that owes nothing keeps the committed amounts in step with the log. -/
theorem conserved_publish (hdb : B.Conserved opening db)
    (hs : ∀ k, B.amountAt (s.view db) k =
      B.amountAt db k + B.owed s.state k + B.total s.inserts k)
    (howed : ∀ k, B.owed s.state k = 0) : B.Conserved opening (s.publish db) := by
  intro k
  have hlog : (s.publish db).log = db.log ++ s.inserts := rfl
  calc
    B.amountAt (s.publish db) k = B.amountAt db k + B.owed s.state k + B.total s.inserts k := hs k
    _ = opening k + B.total db.log k + B.total s.inserts k := by rw [hdb k, howed k, add_zero]
    _ = opening k + B.total (s.publish db).log k := by rw [hlog, total_append, add_assoc]

omit [DecidableEq τ] [DecidableEq κ] in
/-- The commit of a session that has written other rows does not change what is owed. -/
theorem own_publish_of_apart (hapart : s.Apart s') (k : κ)
    (hs : B.amountAt (s.view db) k = B.amountAt db k + B.owed s.state k + B.total s.inserts k) :
    B.amountAt (s.view (s'.publish db)) k =
      B.amountAt (s'.publish db) k + B.owed s.state k + B.total s.inserts k := by
  cases hw : s.writes k with
  | none =>
      have hview : ∀ db : Database Row ε, B.amountAt (s.view db) k = B.amountAt db k :=
        fun db => amountAt_congr (by simp [Session.view, hw])
      rw [hview] at hs ⊢
      omega
  | some row =>
      have hrows : (s'.publish db).rows k = db.rows k :=
        Session.publish_rows_of_apart hapart (by simp [hw])
      have hview : B.amountAt (s.view (s'.publish db)) k = B.amountAt (s.view db) k :=
        amountAt_congr (by simp [Session.view, hw])
      rw [hview, amountAt_congr hrows]
      exact hs

variable {program : Program τ Row ε γ β} {admits : β → Prop}

omit [DecidableEq τ] in
/-- One statement keeps what the books assert of its session. -/
theorem Kept.own_after (hkept : B.Kept program admits) {t : τ} {action : Action Row ε γ}
    (hdb : B.RowsOk db) (hown : (B.assertions opening).own db t s)
    (hexec : program.exec t s.state (s.view db) = some action) :
    (B.assertions opening).own (action.database db s) t (s.after action) := by
  obtain ⟨hstate, hrows, hbooks⟩ := hown
  have hview := rowsOk_view hdb hrows
  have hnext := hkept.exec_ok t s db action hview hstate hexec
  have hentered := hkept.exec_entered t s db action hview hstate hexec
  cases action with
  | goto next =>
      refine ⟨hnext, hrows, fun k => ?_⟩
      rw [show B.owed (s.after (.goto next)).state k = B.owed s.state k from hentered k]
      exact hbooks k
  | write k row next =>
      obtain ⟨hrow, howed, hother⟩ := hentered
      refine ⟨hnext, ?_, ?_⟩
      · intro k' row' h
        by_cases hk : k' = k
        · subst hk
          obtain rfl : row = row' := by simpa [Session.after] using h
          exact hrow
        · exact hrows k' row' (by simpa [Session.after, Function.update_of_ne hk] using h)
      · intro k'
        have hk' := hbooks k'
        by_cases hk : k' = k
        · subst hk
          rw [amountAt_view_write]
          dsimp only [Session.after, Action.database]
          omega
        · rw [amountAt_view_write_of_ne hk]
          dsimp only [Session.after, Action.database]
          rw [hother k' hk]
          exact hk'
  | insert entry next =>
      refine ⟨hnext, hrows, fun k => ?_⟩
      have hk : B.amountAt ((s.after (.insert entry next)).view db) k =
          B.amountAt (s.view db) k := amountAt_congr rfl
      have hone : B.total [entry] k = B.delta entry k := by simp [total]
      have hentry := hentered k
      have hbook := hbooks k
      dsimp only [Action.database]
      rw [hk]
      dsimp only [Session.after]
      rw [total_append, hone]
      omega
  | commit next =>
      refine ⟨hnext, fun k row h => by simp [Session.after, Session.fresh] at h, fun k => ?_⟩
      simp [Session.after, Session.fresh, Session.view, total, (hentered k).2, amountAt]
  | rollback next =>
      refine ⟨hnext, fun k row h => by simp [Session.after, Session.fresh] at h, fun k => ?_⟩
      simp [Session.after, Session.fresh, Session.view, total, hentered k, amountAt]

omit [DecidableEq τ] in
/-- Code that keeps the books keeps what they assert in every interleaving. -/
theorem Kept.assertions_kept (hkept : B.Kept program admits) (opening : κ → ℤ) :
    ReadCommitted.Kept program admits (B.assertions opening) where
  begins db t request hadmits _ _ := by
    refine ⟨hkept.start_ok t request hadmits, fun k row h => by simp [Session.fresh] at h, ?_⟩
    intro k
    simp [Session.fresh, Session.view, amountAt, total, hkept.start_owed request k]
  steps db t s action hshared hown hexec := by
    refine ⟨?_, hkept.own_after hshared.1 hown hexec⟩
    cases action with
    | commit next =>
        have hview := rowsOk_view hshared.1 hown.2.1
        have hentered := hkept.exec_entered t s db _ hview hown.1 hexec
        exact ⟨hview, conserved_publish hshared.2 hown.2.2 fun k => (hentered k).1⟩
    | _ => exact hshared
  others db t t' s s' next _ _ hown _ hapart _ :=
    ⟨hown.1, hown.2.1, fun k => own_publish_of_apart hapart k (hown.2.2 k)⟩
  waiting _ _ _ _ _ _ _ _ _ _ := trivial

/-- **Conservation.** When the code keeps the books, every amount at the end of a run, in whatever
order the sessions took their statements, is the amount at its beginning moved by the entries
committed since. -/
theorem Kept.conserved (hkept : B.Kept program admits) {db : Database Row ε}
    {sys' : System τ Row ε γ} {events : List (Event (System τ Row ε γ) (Label τ β))}
    (hrun : Run (Steps program) (System.idle db) events sys') (hdb : B.RowsOk db)
    (hadmits : ∀ e ∈ events, ∀ t request, e.label = .begin t request → admits request) :
    ∃ entries, sys'.committed.log = db.log ++ entries ∧ B.RowsOk sys'.committed ∧
      ∀ k, B.amountAt sys'.committed k = B.amountAt db k + B.total entries k := by
  obtain ⟨entries, hlog⟩ := log_grows hrun
  let opening : κ → ℤ := fun k => B.amountAt db k - B.total db.log k
  have hidle : Holds (B.assertions opening) (System.idle db) :=
    holds_idle ⟨hdb, fun k => by simp [opening]⟩ fun _ => trivial
  have hend := ((hkept.assertions_kept opening).holds_run hrun hidle hadmits).2
  refine ⟨entries, hlog, hend.shared.1, fun k => ?_⟩
  have hk := hend.shared.2 k
  rw [hlog] at hk
  change B.amountAt sys'.committed k =
    B.amountAt db k - B.total db.log k + B.total (db.log ++ entries) k at hk
  rw [total_append] at hk
  omega

end Books

end ReadCommitted
