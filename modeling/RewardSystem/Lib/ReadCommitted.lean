import Mathlib.Logic.Function.Basic
import RewardSystem.Lib.Runs

/-!
# Transactions at READ COMMITTED

Sessions run transactions against one database. A statement reads the newest committed rows, under
the session's own writes, and writes at most one row. A written row stays locked until its
transaction ends: a statement that writes a row locked by another session waits, and reads again
when it goes on. The statements of different sessions interleave in any order, and a session may be
stopped between any two of its statements.
-/

namespace ReadCommitted

open Transition

/-- The rows of the keyed tables, and the rows of the append-only tables in commit order. -/
structure Database {κ : Type} (Row : κ → Type) (ε : Type) where
  rows : (k : κ) → Option (Row k)
  log : List ε

/-- A session between two of its statements, with what its transaction has not committed yet. -/
structure Session {κ : Type} (Row : κ → Type) (ε γ : Type) where
  state : γ
  writes : (k : κ) → Option (Row k)
  inserts : List ε

/-- What one statement does, and the state the session goes on in. -/
inductive Action {κ : Type} (Row : κ → Type) (ε γ : Type) where
  | goto (next : γ)
  | write (k : κ) (row : Row k) (next : γ)
  | insert (entry : ε) (next : γ)
  | commit (next : γ)
  | rollback (next : γ)

/-- The state the session goes on in. -/
def Action.next {κ : Type} {Row : κ → Type} {ε γ : Type} : Action Row ε γ → γ
  | .goto next | .write _ _ next | .insert _ next | .commit next | .rollback next => next

/-- The code every session runs, as a function of what its next statement reads. -/
structure Program (τ : Type) {κ : Type} (Row : κ → Type) (ε γ β : Type) where
  start : β → γ
  exec : τ → γ → Database Row ε → Option (Action Row ε γ)

inductive Slot {κ : Type} (Row : κ → Type) (ε γ : Type) where
  | unused
  | running (session : Session Row ε γ)
  | stopped

structure System (τ : Type) {κ : Type} (Row : κ → Type) (ε γ : Type) where
  committed : Database Row ε
  /-- The session that holds the lock of a row. -/
  owner : κ → Option τ
  slots : τ → Slot Row ε γ

inductive Label (τ β : Type) where
  | begin (t : τ) (request : β)
  | statement (t : τ)
  | stop (t : τ)

inductive Refusal where
  | used
  | notRunning
  | finished
  | blocked

variable {τ κ : Type} [DecidableEq τ] [DecidableEq κ] {Row : κ → Type} {ε γ β : Type}

namespace Session

def fresh (state : γ) : Session Row ε γ where
  state := state
  writes := fun _ => none
  inserts := []

/-- What a statement of the session reads. -/
def view (db : Database Row ε) (s : Session Row ε γ) : Database Row ε where
  rows := fun k => (s.writes k).or (db.rows k)
  log := db.log ++ s.inserts

/-- The database once the session's transaction is committed. -/
def publish (db : Database Row ε) (s : Session Row ε γ) : Database Row ε :=
  s.view db

def after (s : Session Row ε γ) : Action Row ε γ → Session Row ε γ
  | .goto next => { s with state := next }
  | .write k row next => { s with state := next, writes := Function.update s.writes k (some row) }
  | .insert entry next => { s with state := next, inserts := s.inserts ++ [entry] }
  | .commit next => fresh next
  | .rollback next => fresh next

/-- No row is written by both sessions. -/
def Apart (s s' : Session Row ε γ) : Prop :=
  ∀ k, s.writes k = none ∨ s'.writes k = none

end Session

def Action.database (db : Database Row ε) (s : Session Row ε γ) :
    Action Row ε γ → Database Row ε
  | .commit _ => s.publish db
  | _ => db

namespace System

variable (sys : System τ Row ε γ)

def put (t : τ) (slot : Slot Row ε γ) : System τ Row ε γ :=
  { sys with slots := Function.update sys.slots t slot }

/-- The locks that are left when session `t` ends its transaction. -/
def released (t : τ) (k : κ) : Option τ :=
  if sys.owner k = some t then none else sys.owner k

def perform (t : τ) (s : Session Row ε γ) :
    Action Row ε γ → Except Refusal (System τ Row ε γ)
  | .goto next => .ok (sys.put t (.running (s.after (.goto next))))
  | .write k row next =>
      if sys.owner k = none ∨ sys.owner k = some t then
        .ok ({ sys with owner := Function.update sys.owner k (some t) }.put t
          (.running (s.after (.write k row next))))
      else .error .blocked
  | .insert entry next => .ok (sys.put t (.running (s.after (.insert entry next))))
  | .commit next =>
      .ok ({ sys with committed := s.publish sys.committed, owner := sys.released t }.put t
        (.running (s.after (.commit next))))
  | .rollback next =>
      .ok ({ sys with owner := sys.released t }.put t (.running (s.after (.rollback next))))

end System

def machine (program : Program τ Row ε γ β) (sys : System τ Row ε γ) :
    Label τ β → Except Refusal (System τ Row ε γ)
  | .begin t request =>
      match sys.slots t with
      | .unused => .ok (sys.put t (.running (.fresh (program.start request))))
      | _ => .error .used
  | .statement t =>
      match sys.slots t with
      | .running s =>
          match program.exec t s.state (s.view sys.committed) with
          | none => .error .finished
          | some action => sys.perform t s action
      | _ => .error .notRunning
  | .stop t =>
      match sys.slots t with
      | .running _ => .ok ({ sys with owner := sys.released t }.put t .stopped)
      | _ => .error .notRunning

/-- The steps of all interleavings of the sessions. -/
def Steps (program : Program τ Row ε γ β) :
    System τ Row ε γ → Label τ β → System τ Row ε γ → Prop :=
  Accepts (machine program)

/-! ## What one step does -/

namespace Session

variable {db db' : Database Row ε} {s s' : Session Row ε γ} {k : κ}

omit [DecidableEq κ] in
@[simp]
theorem view_fresh (state : γ) : (fresh state : Session Row ε γ).view db = db := by
  simp [view, fresh]

@[simp]
theorem after_state (action : Action Row ε γ) : (s.after action).state = action.next := by
  cases action <;> rfl

omit [DecidableEq κ] in
theorem publish_rows_of_apart (hapart : s.Apart s') (hk : s.writes k ≠ none) :
    (s'.publish db).rows k = db.rows k := by
  have hfree : s'.writes k = none := (hapart k).resolve_left hk
  simp [publish, view, hfree]

end Session

/-- `owner'` keeps the locks of the sessions other than `t`, and covers what `s` has written. -/
structure Locked (t : τ) (owner owner' : κ → Option τ) (s : Session Row ε γ) : Prop where
  others : ∀ k t', t' ≠ t → owner k = some t' → owner' k = some t'
  own : ∀ k, s.writes k ≠ none → owner' k = some t

namespace System

variable {sys sys' : System τ Row ε γ} {t : τ} {s : Session Row ε γ}

omit [DecidableEq κ] in
theorem released_of_ne {k : κ} {t' : τ} (hne : t' ≠ t) (h : sys.owner k = some t') :
    sys.released t k = some t' := by
  simp [released, h, hne]

theorem perform_cases {action : Action Row ε γ} (h : sys.perform t s action = .ok sys')
    (hown : ∀ k, s.writes k ≠ none → sys.owner k = some t) :
    ∃ owner', Locked t sys.owner owner' (s.after action) ∧
      sys' = { committed := action.database sys.committed s, owner := owner',
               slots := Function.update sys.slots t (.running (s.after action)) } := by
  have hreleased : ∀ next : γ, Locked t sys.owner (sys.released t)
      (Session.fresh next : Session Row ε γ) := fun next =>
    { others := fun k t' hne hk => released_of_ne hne hk
      own := fun k hk => absurd rfl hk }
  cases action with
  | goto next => exact ⟨_, ⟨fun k t' _ hk => hk, hown⟩, (Except.ok.inj h).symm⟩
  | insert entry next => exact ⟨_, ⟨fun k t' _ hk => hk, hown⟩, (Except.ok.inj h).symm⟩
  | commit next => exact ⟨_, hreleased next, (Except.ok.inj h).symm⟩
  | rollback next => exact ⟨_, hreleased next, (Except.ok.inj h).symm⟩
  | write k row next =>
      simp only [perform] at h
      split at h
      case isFalse => cases h
      case isTrue hfree =>
        refine ⟨_, ⟨?_, ?_⟩, (Except.ok.inj h).symm⟩
        · intro k' t' hne hk'
          have hk : k' ≠ k := by
            rintro rfl
            rcases hfree with hfree | hfree <;> simp_all
          simpa [Function.update_of_ne hk] using hk'
        · intro k' hk'
          by_cases hk : k' = k
          · subst hk
            simp
          · have hlocked : sys.owner k' = some t :=
              hown k' (by simpa [Session.after, Function.update_of_ne hk] using hk')
            simpa [Function.update_of_ne hk] using hlocked

end System

/-- What a step can do: begin a session, run one of its statements, or stop it. -/
theorem machine_cases {program : Program τ Row ε γ β} {sys sys' : System τ Row ε γ}
    {label : Label τ β} (h : machine program sys label = .ok sys') :
    (∃ t request, label = .begin t request ∧ sys.slots t = .unused ∧
      sys' = sys.put t (.running (.fresh (program.start request)))) ∨
    (∃ t s action, label = .statement t ∧ sys.slots t = .running s ∧
      program.exec t s.state (s.view sys.committed) = some action ∧
      sys.perform t s action = .ok sys') ∨
    (∃ t s, label = .stop t ∧ sys.slots t = .running s ∧
      sys' = { sys with owner := sys.released t }.put t .stopped) := by
  cases label with
  | begin t request =>
      left
      simp only [machine] at h
      split at h
      case h_1 hslot => exact ⟨t, request, rfl, hslot, (Except.ok.inj h).symm⟩
      case h_2 => cases h
  | statement t =>
      right; left
      simp only [machine] at h
      split at h
      case h_1 s hslot =>
        split at h
        case h_1 => cases h
        case h_2 action hexec => exact ⟨t, s, action, rfl, hslot, hexec, h⟩
      case h_2 => cases h
  | stop t =>
      right; right
      simp only [machine] at h
      split at h
      case h_1 s hslot => exact ⟨t, s, rfl, hslot, (Except.ok.inj h).symm⟩
      case h_2 => cases h

theorem System.perform_slots {sys sys' : System τ Row ε γ} {t : τ} {s : Session Row ε γ}
    {action : Action Row ε γ} (h : sys.perform t s action = .ok sys') :
    sys'.slots = Function.update sys.slots t (.running (s.after action)) := by
  cases action with
  | write k row next =>
      simp only [System.perform] at h
      split at h
      · exact (Except.ok.inj h).symm ▸ rfl
      · cases h
  | _ => exact (Except.ok.inj h).symm ▸ rfl

/-- What a statement does to the slot of its session. -/
theorem statement_cases {program : Program τ Row ε γ β} {sys sys' : System τ Row ε γ} {t : τ}
    (h : Steps program sys (.statement t) sys') :
    ∃ s action, sys.slots t = .running s ∧
      program.exec t s.state (s.view sys.committed) = some action ∧
      sys'.slots t = .running (s.after action) := by
  rcases machine_cases h with ⟨t', request, hlabel, -⟩ |
    ⟨t', s, action, hlabel, hslot, hexec, hperform⟩ | ⟨t', s, hlabel, -⟩
  · cases hlabel
  · cases hlabel
    exact ⟨s, action, hslot, hexec, by simp [System.perform_slots hperform]⟩
  · cases hlabel

/-- What a step does to the slot of one session. -/
theorem slot_cases {program : Program τ Row ε γ β} {sys sys' : System τ Row ε γ}
    {label : Label τ β} (h : Steps program sys label sys') (t : τ) :
    sys'.slots t = sys.slots t ∨
    (∃ request, label = .begin t request ∧
      sys'.slots t = .running (.fresh (program.start request))) ∨
    (∃ s action, label = .statement t ∧ sys.slots t = .running s ∧
      program.exec t s.state (s.view sys.committed) = some action ∧
      sys'.slots t = .running (s.after action)) ∨
    sys'.slots t = .stopped := by
  rcases machine_cases h with ⟨t', request, hlabel, -, rfl⟩ |
    ⟨t', s, action, hlabel, hslot, hexec, hperform⟩ | ⟨t', s, -, -, rfl⟩
  · by_cases heq : t = t'
    · subst heq
      exact .inr (.inl ⟨request, hlabel, by simp [System.put]⟩)
    · exact .inl (by simp [System.put, heq])
  · have hslots := System.perform_slots hperform
    by_cases heq : t = t'
    · subst heq
      exact .inr (.inr (.inl ⟨s, action, hlabel, hslot, hexec, by simp [hslots]⟩))
    · exact .inl (by simp [hslots, heq])
  · by_cases heq : t = t'
    · subst heq
      exact .inr (.inr (.inr (by simp [System.put])))
    · exact .inl (by simp [System.put, heq])

/-! ## Invariants of all interleavings -/

/-- What is asserted of the committed database, of the sessions that have not begun, and of each
running session. -/
structure Assertions (τ : Type) {κ : Type} (Row : κ → Type) (ε γ : Type) where
  shared : Database Row ε → Prop
  unused : Database Row ε → τ → Prop
  own : Database Row ε → τ → Session Row ε γ → Prop

/-- The proof obligations of the invariant rule. Each of them is about the code of one session,
except the last two: a commit of another session, which has written none of the rows that the first
one has written, keeps what is asserted of it. -/
structure Kept (program : Program τ Row ε γ β) (admits : β → Prop)
    (A : Assertions τ Row ε γ) : Prop where
  begins : ∀ db t request, admits request → A.shared db → A.unused db t →
    A.own db t (.fresh (program.start request))
  steps : ∀ db t s action, A.shared db → A.own db t s →
    program.exec t s.state (s.view db) = some action →
    A.shared (action.database db s) ∧ A.own (action.database db s) t (s.after action)
  others : ∀ db t t' s s' next, t ≠ t' → A.shared db → A.own db t s → A.own db t' s' →
    s.Apart s' → program.exec t' s'.state (s'.view db) = some (.commit next) →
    A.own (s'.publish db) t s
  waiting : ∀ db t t' s' next, t ≠ t' → A.shared db → A.unused db t → A.own db t' s' →
    program.exec t' s'.state (s'.view db) = some (.commit next) →
    A.unused (s'.publish db) t

/-- The assertions hold, and every written row is locked by the session that wrote it. -/
structure Holds (A : Assertions τ Row ε γ) (sys : System τ Row ε γ) : Prop where
  shared : A.shared sys.committed
  unused : ∀ t, sys.slots t = .unused → A.unused sys.committed t
  own : ∀ t s, sys.slots t = .running s → A.own sys.committed t s
  locked : ∀ t s k, sys.slots t = .running s → s.writes k ≠ none → sys.owner k = some t

omit [DecidableEq τ] [DecidableEq κ] in
theorem Holds.apart {A : Assertions τ Row ε γ} {sys : System τ Row ε γ} (h : Holds A sys)
    {t t' : τ} {s s' : Session Row ε γ} (hne : t ≠ t') (ht : sys.slots t = .running s)
    (ht' : sys.slots t' = .running s') : s.Apart s' := by
  intro k
  by_contra hboth
  rw [not_or] at hboth
  have howner := h.locked t s k ht hboth.1
  have howner' := h.locked t' s' k ht' hboth.2
  exact hne (Option.some.inj (howner.symm.trans howner'))

section Invariant

variable {program : Program τ Row ε γ β} {admits : β → Prop} {A : Assertions τ Row ε γ}
  {sys sys' : System τ Row ε γ}

theorem Kept.holds_begin (hkept : Kept program admits A) (h : Holds A sys) {t : τ} {request : β}
    (hadmits : admits request) (hslot : sys.slots t = .unused) :
    Holds A (sys.put t (.running (.fresh (program.start request)))) where
  shared := h.shared
  unused t' ht' := by
    by_cases heq : t' = t
    · subst heq
      simp [System.put] at ht'
    · exact h.unused t' (by simpa [System.put, heq] using ht')
  own t' s ht' := by
    by_cases heq : t' = t
    · subst heq
      simp only [System.put, Function.update_self, Slot.running.injEq] at ht'
      subst ht'
      exact hkept.begins _ t' request hadmits h.shared (h.unused t' hslot)
    · exact h.own t' s (by simpa [System.put, heq] using ht')
  locked t' s k ht' hk := by
    by_cases heq : t' = t
    · subst heq
      simp only [System.put, Function.update_self, Slot.running.injEq] at ht'
      subst ht'
      exact absurd rfl hk
    · exact h.locked t' s k (by simpa [System.put, heq] using ht') hk

omit [DecidableEq κ] in
theorem Holds.stop (h : Holds A sys) (t : τ) :
    Holds A ({ sys with owner := sys.released t }.put t .stopped) where
  shared := h.shared
  unused t' ht' := by
    by_cases heq : t' = t
    · subst heq
      simp [System.put] at ht'
    · exact h.unused t' (by simpa [System.put, heq] using ht')
  own t' s ht' := by
    by_cases heq : t' = t
    · subst heq
      simp [System.put] at ht'
    · exact h.own t' s (by simpa [System.put, heq] using ht')
  locked t' s k ht' hk := by
    by_cases heq : t' = t
    · subst heq
      simp [System.put] at ht'
    · exact System.released_of_ne heq
        (h.locked t' s k (by simpa [System.put, heq] using ht') hk)

theorem Kept.holds_statement (hkept : Kept program admits A) (h : Holds A sys) {t : τ}
    {s : Session Row ε γ} {action : Action Row ε γ} (hslot : sys.slots t = .running s)
    (hexec : program.exec t s.state (s.view sys.committed) = some action)
    (hperform : sys.perform t s action = .ok sys') : Holds A sys' := by
  obtain ⟨owner', hlocked, rfl⟩ :=
    System.perform_cases hperform fun k => h.locked t s k hslot
  obtain ⟨hshared, hown⟩ :=
    hkept.steps sys.committed t s action h.shared (h.own t s hslot) hexec
  refine ⟨hshared, ?unused, ?own, ?locked⟩
  case unused =>
    intro t' ht'
    have hne : t' ≠ t := by
      rintro rfl
      simp at ht'
    have hunused := h.unused t' (by simpa [hne] using ht')
    cases action with
    | commit next => exact hkept.waiting _ t' t s next hne h.shared hunused (h.own t s hslot) hexec
    | _ => exact hunused
  case own =>
    intro t' s' ht'
    by_cases heq : t' = t
    · subst heq
      simp only [Function.update_self, Slot.running.injEq] at ht'
      subst ht'
      exact hown
    · have hslot' : sys.slots t' = .running s' := by simpa [heq] using ht'
      have hown' := h.own t' s' hslot'
      cases action with
      | commit next =>
          exact hkept.others _ t' t s' s next heq h.shared hown' (h.own t s hslot)
            (h.apart heq hslot' hslot) hexec
      | _ => exact hown'
  case locked =>
    intro t' s' k ht' hk
    by_cases heq : t' = t
    · subst heq
      simp only [Function.update_self, Slot.running.injEq] at ht'
      subst ht'
      exact hlocked.own k hk
    · have hslot' : sys.slots t' = .running s' := by simpa [heq] using ht'
      exact hlocked.others k t' heq (h.locked t' s' k hslot' hk)

/-- One step of any session keeps the assertions. -/
theorem Kept.holds_step (hkept : Kept program admits A) {label : Label τ β} (h : Holds A sys)
    (hstep : Steps program sys label sys')
    (hadmits : ∀ t request, label = .begin t request → admits request) : Holds A sys' := by
  rcases machine_cases hstep with ⟨t, request, hlabel, hslot, rfl⟩ |
    ⟨t, s, action, -, hslot, hexec, hperform⟩ | ⟨t, s, -, hslot, rfl⟩
  · exact hkept.holds_begin h (hadmits t request hlabel) hslot
  · exact hkept.holds_statement h hslot hexec hperform
  · exact h.stop t

/-- **The invariant rule.** Assertions that the code keeps hold around every step of every
interleaving of admitted requests, and at its end. -/
theorem Kept.holds_run (hkept : Kept program admits A)
    {events : List (Event (System τ Row ε γ) (Label τ β))}
    (hrun : Run (Steps program) sys events sys') (h : Holds A sys)
    (hadmits : ∀ e ∈ events, ∀ t request, e.label = .begin t request → admits request) :
    (∀ e ∈ events, Holds A e.before ∧ Holds A e.after) ∧ Holds A sys' :=
  Run.invariant_of_forall
    (C := fun e => ∀ t request, e.label = .begin t request → admits request)
    (fun _ _ _ h hstep hadmits => hkept.holds_step h hstep hadmits) hrun h hadmits

end Invariant

/-- A database that no session works on. -/
def System.idle (db : Database Row ε) : System τ Row ε γ where
  committed := db
  owner := fun _ => none
  slots := fun _ => .unused

omit [DecidableEq τ] [DecidableEq κ] in
theorem holds_idle {A : Assertions τ Row ε γ} {db : Database Row ε} (hshared : A.shared db)
    (hunused : ∀ t, A.unused db t) : Holds A (System.idle db) where
  shared := hshared
  unused t _ := hunused t
  own t s h := by simp [System.idle] at h
  locked t s k h := by simp [System.idle] at h

/-- The committed database changes only when a session commits. -/
theorem committed_cases {program : Program τ Row ε γ β} {sys sys' : System τ Row ε γ}
    {label : Label τ β} (h : Steps program sys label sys') :
    sys'.committed = sys.committed ∨
      ∃ t s next, label = .statement t ∧ sys.slots t = .running s ∧
        program.exec t s.state (s.view sys.committed) = some (.commit next) ∧
        sys'.committed = s.publish sys.committed := by
  rcases machine_cases h with ⟨t, request, -, -, rfl⟩ |
    ⟨t, s, action, hlabel, hslot, hexec, hperform⟩ | ⟨t, s, -, -, rfl⟩
  · exact .inl rfl
  · cases action with
    | commit next =>
        obtain rfl := Except.ok.inj hperform
        exact .inr ⟨t, s, next, hlabel, hslot, hexec, rfl⟩
    | write k row next =>
        left
        simp only [System.perform] at hperform
        split at hperform
        · obtain rfl := Except.ok.inj hperform
          rfl
        · cases hperform
    | _ =>
        obtain rfl := Except.ok.inj hperform
        exact .inl rfl
  · exact .inl rfl

/-! ## Runs whose statements meet a guard -/

section Guard

variable (guard : γ → Database Row ε → Prop)

/-- The statement of a step reads what the guard asks for. -/
def Meets (e : Event (System τ Row ε γ) (Label τ β)) : Prop :=
  match e.label with
  | .statement t =>
      match e.before.slots t with
      | .running s => guard s.state (s.view e.before.committed)
      | _ => True
  | _ => True

variable [∀ state db, Decidable (guard state db)]

instance (e : Event (System τ Row ε γ) (Label τ β)) : Decidable (Meets guard e) := by
  unfold Meets
  split
  · split <;> infer_instance
  · infer_instance

/-- The program whose statements wait until the guard holds. -/
def Program.guarded (program : Program τ Row ε γ β) : Program τ Row ε γ β where
  start := program.start
  exec t state db := if guard state db then program.exec t state db else none

omit [DecidableEq τ] [DecidableEq κ] in
theorem exec_of_guarded {program : Program τ Row ε γ β} {t : τ} {state : γ} {db : Database Row ε}
    {action : Action Row ε γ} (h : (program.guarded guard).exec t state db = some action) :
    guard state db ∧ program.exec t state db = some action := by
  simp only [Program.guarded] at h
  split at h
  case isTrue hguard => exact ⟨hguard, h⟩
  case isFalse => cases h

theorem run_guarded {program : Program τ Row ε γ β} {sys sys' : System τ Row ε γ}
    {events : List (Event (System τ Row ε γ) (Label τ β))}
    (hrun : Run (Steps program) sys events sys') (hmeets : ∀ e ∈ events, Meets guard e) :
    Run (Steps (program.guarded guard)) sys events sys' := by
  induction hrun with
  | nil => exact .nil _
  | @cons sys next last label events hstep _ ih =>
      refine .cons ?_ (ih fun e he => hmeets e (by simp [he]))
      have hhere := hmeets ⟨sys, label, next⟩ (by simp)
      cases label with
      | begin t request => exact hstep
      | stop t => exact hstep
      | statement t =>
          simp only [Steps, Accepts, machine, Program.guarded] at hstep ⊢
          simp only [Meets] at hhere
          cases hslot : sys.slots t with
          | running s =>
              simp only [hslot] at hstep hhere ⊢
              rw [if_pos hhere]
              exact hstep
          | _ => simp [hslot] at hstep

end Guard

/-- Committed entries are never taken back. -/
theorem log_grows {program : Program τ Row ε γ β} {sys sys' : System τ Row ε γ}
    {events : List (Event (System τ Row ε γ) (Label τ β))}
    (hrun : Run (Steps program) sys events sys') :
    ∃ entries, sys'.committed.log = sys.committed.log ++ entries := by
  induction hrun with
  | nil => exact ⟨[], by simp⟩
  | cons hstep _ ih =>
      obtain ⟨later, hlater⟩ := ih
      rcases machine_cases hstep with ⟨t, request, -, -, rfl⟩ |
        ⟨t, s, action, -, hslot, hexec, hperform⟩ | ⟨t, s, -, -, rfl⟩
      · exact ⟨later, hlater⟩
      · cases action with
        | commit next =>
            obtain rfl := Except.ok.inj hperform
            exact ⟨s.inserts ++ later, by
              simpa [System.put, Session.publish, Session.view] using hlater⟩
        | write k row next =>
            simp only [System.perform] at hperform
            split at hperform
            · obtain rfl := Except.ok.inj hperform
              exact ⟨later, hlater⟩
            · cases hperform
        | _ =>
            obtain rfl := Except.ok.inj hperform
            exact ⟨later, hlater⟩
      · exact ⟨later, hlater⟩

end ReadCommitted
