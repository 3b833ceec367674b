import Chrysopolis.Beam.RwLocks

/-! A read-write lock has one writer or any number of readers, as long as a reader's lock is
given back by an owner that has one. -/

set_option autoImplicit false

namespace Chrysopolis.Beam.RwLocks

open Locks (Errno intMax)

/-! ## Holders -/

/-- The owner that has locked the lock to write. -/
def writing : List Event → Option Nat
  | [] => none
  | .locked owner .write :: _ => some owner
  | .locked _ .read :: rest => writing rest
  | .unlocked owner :: rest => if writing rest = some owner then none else writing rest

/-- The owners that have locked it to read, each as often as it has. -/
def reading : List Event → List Nat
  | [] => []
  | .locked owner .read :: rest => owner :: reading rest
  | .locked _ .write :: rest => reading rest
  | .unlocked owner :: rest => (reading rest).erase owner

def Holds (state : State) (owner : Nat) : Prop :=
  writing state.log = some owner ∨ owner ∈ reading state.log

/-- The runs in which a lock is given back by an owner that holds it. -/
inductive Runs : State → Prop where
  | initial : Runs {}
  | step {state next : State} {owner : Nat} {call : Call} (runs : Runs state)
      (holder : call = .unlock → Holds state owner)
      (stepped : step state owner call = some next) : Runs next

/-! ## The words -/

/-- The words tell who holds the lock. -/
inductive Tells (rw : RwLock) (log : List Event) : Prop where
  | writer (owner : Nat) (held : writing log = some owner) (alone : reading log = [])
      (state : rw.state = -1) (writer : rw.writer = owner)
  | readers (held : writing log = none) (state : rw.state = (reading log).length)
      (bound : (reading log).length ≤ intMax)

variable {state next : State} {owner : Nat}

theorem Tells.pass (tells : Tells state.rw state.log) (want : Want) (blocking : Bool) :
    Tells (pass state owner want blocking).rw (pass state owner want blocking).log := by
  cases tells with
  | writer other held alone word writer =>
      have busy : attempt state.rw owner want = (state.rw, some .EBUSY) := by
        cases want with
        | read => simp [attempt, rwTryRead, word]
        | write => simp [attempt, rwTryWrite, word]
      simp only [RwLocks.pass, busy]
      exact .writer other held alone word writer
  | readers held word bound =>
      cases want with
      | read =>
          by_cases full : (reading state.log).length = intMax
          · have refused : attempt state.rw owner .read = (state.rw, some .EAGAIN) := by
              simp [attempt, rwTryRead, word, full, Int.not_lt.mpr (Int.natCast_nonneg intMax)]
            simp only [RwLocks.pass, refused]
            exact .readers held word bound
          · have taken : attempt state.rw owner .read =
                ({ state.rw with state := state.rw.state + 1 }, none) := by
              have room : (((reading state.log).length : Nat) : Int) ≠ (intMax : Int) := by omega
              have some' : ¬(((reading state.log).length : Nat) : Int) < 0 := by omega
              simp only [attempt, rwTryRead, word, room, some', if_false]
            simp only [RwLocks.pass, taken, if_true]
            refine .readers held ?_ ?_
            · simp [reading, word]
            · simp only [reading, List.length_cons]
              omega
      | write =>
          by_cases free : reading state.log = []
          · have taken : attempt state.rw owner .write =
                ({ state := -1, writer := owner }, none) := by
              simp [attempt, rwTryWrite, word, free]
            simp only [RwLocks.pass, taken, if_true]
            exact .writer owner rfl free rfl rfl
          · have busy : attempt state.rw owner .write = (state.rw, some .EBUSY) := by
              simp [attempt, rwTryWrite, word, free]
            simp only [RwLocks.pass, busy]
            exact .readers held word bound

theorem Tells.unlock_eq (tells : Tells state.rw state.log) (holder : Holds state owner) :
    (rwlockUnlock state.rw owner).2 = none := by
  cases tells with
  | writer other held alone word writer =>
      have same : other = owner := by
        rcases holder with writes | reads
        · exact Option.some.inj (held.symm.trans writes)
        · rw [alone] at reads
          cases reads
      simp [rwlockUnlock, word, writer, same]
  | readers held word bound =>
      have reads : owner ∈ reading state.log := by
        rcases holder with writes | reads
        · rw [held] at writes
          cases writes
        · exact reads
      have some' := List.length_pos_of_mem reads
      have word' : state.rw.state ≠ -1 := by omega
      have positive : ¬state.rw.state ≤ 0 := by omega
      simp [rwlockUnlock, word', positive]

theorem Tells.release (tells : Tells state.rw state.log) (holder : Holds state owner) :
    Tells (release state owner).rw (release state owner).log := by
  have passed := tells.unlock_eq holder
  simp only [RwLocks.release, passed, if_true]
  cases tells with
  | writer other held alone word writer =>
      have same : other = owner := by
        rcases holder with writes | reads
        · exact Option.some.inj (held.symm.trans writes)
        · rw [alone] at reads
          cases reads
      rw [rwlockUnlock, if_pos word, if_pos (writer.trans same)]
      refine .readers ?_ ?_ ?_
      · simp [writing, held, same]
      · simp [reading, alone]
      · simp [reading, alone]
  | readers held word bound =>
      have reads : owner ∈ reading state.log := by
        rcases holder with writes | reads
        · rw [held] at writes
          cases writes
        · exact reads
      have some' := List.length_pos_of_mem reads
      have word' : state.rw.state ≠ -1 := by omega
      have positive : ¬state.rw.state ≤ 0 := by omega
      rw [rwlockUnlock, if_neg word', if_neg positive]
      have fewer := List.length_erase_of_mem reads
      refine .readers ?_ ?_ ?_
      · simp [writing, held]
      · simp only [reading, fewer]
        omega
      · simp only [reading, fewer]
        omega

theorem Runs.tells (runs : Runs state) : Tells state.rw state.log := by
  induction runs with
  | initial => exact .readers rfl rfl (Nat.zero_le _)
  | @step state next owner call _ holder stepped ih =>
      cases call with
      | lock want =>
          simp only [RwLocks.step, Option.ite_none_right_eq_some, Option.some.injEq] at stepped
          exact stepped.2 ▸ ih.pass want true
      | trylock want =>
          simp only [RwLocks.step, Option.ite_none_right_eq_some, Option.some.injEq] at stepped
          exact stepped.2 ▸ ih.pass want false
      | unlock =>
          simp only [RwLocks.step, Option.ite_none_right_eq_some, Option.some.injEq] at stepped
          exact stepped.2 ▸ ih.release (holder rfl)
      | retry =>
          simp only [RwLocks.step, Option.map_eq_some_iff] at stepped
          obtain ⟨want, -, rfl⟩ := stepped
          exact ih.pass want true

theorem Tells.read_busy_iff (tells : Tells state.rw state.log) :
    (rwTryRead state.rw).2 = some .EBUSY ↔ writing state.log ≠ none := by
  cases tells with
  | writer other held alone word writer => simp [rwTryRead, word, held]
  | readers held word bound =>
      have some' : ¬state.rw.state < 0 := by omega
      by_cases full : state.rw.state = intMax
      · simp [rwTryRead, full, held, Int.not_lt.mpr (Int.natCast_nonneg intMax)]
      · simp [rwTryRead, some', full, held]

theorem Tells.read_iff (tells : Tells state.rw state.log) :
    (rwTryRead state.rw).2 = none ↔
      writing state.log = none ∧ (reading state.log).length < intMax := by
  cases tells with
  | writer other held alone word writer => simp [rwTryRead, word, held]
  | readers held word bound =>
      have some' : ¬state.rw.state < 0 := by omega
      by_cases full : state.rw.state = intMax
      · have none' : ¬(reading state.log).length < intMax := by omega
        simp [rwTryRead, full, held, none', Int.not_lt.mpr (Int.natCast_nonneg intMax)]
      · have room : (reading state.log).length < intMax := by omega
        simp [rwTryRead, some', full, held, room]

theorem Tells.write_iff (tells : Tells state.rw state.log) :
    (rwTryWrite state.rw owner).2 = none ↔ writing state.log = none ∧ reading state.log = [] := by
  cases tells with
  | writer other held alone word writer => simp [rwTryWrite, word, held]
  | readers held word bound =>
      by_cases free : reading state.log = []
      · simp [rwTryWrite, word, held, free]
      · simp [rwTryWrite, word, held, free]

/-- In every state that such a run reaches a writer is alone, and each call answers what is held:
a read lock is busy exactly with a writer, a write lock with anyone, and a holder's unlock never
fails. -/
theorem runs_exclude (runs : Runs state) (owner : Nat) :
    (∀ other, writing state.log = some other → reading state.log = []) ∧
      ((rwTryRead state.rw).2 = some .EBUSY ↔ writing state.log ≠ none) ∧
      ((rwTryRead state.rw).2 = none ↔
        writing state.log = none ∧ (reading state.log).length < intMax) ∧
      ((rwTryWrite state.rw owner).2 = none ↔
        writing state.log = none ∧ reading state.log = []) ∧
      (Holds state owner → (rwlockUnlock state.rw owner).2 = none) := by
  have tells := runs.tells
  refine ⟨?_, tells.read_busy_iff, tells.read_iff, tells.write_iff, tells.unlock_eq⟩
  intro other writes
  cases tells with
  | writer _ _ alone => exact alone
  | readers held =>
      rw [held] at writes
      cases writes

/-- A reader waits for a writer. -/
theorem runs_exclude_writer :
    ∃ state : State, Runs state ∧ state.waiting 1 = some .read ∧
      (rwTryRead state.rw).2 = some .EBUSY ∧ (rwlockUnlock state.rw 2).2 = none := by
  have written : Runs (pass {} 2 .write true) :=
    @Runs.step {} _ 2 (.lock .write) .initial (fun other => by cases other) rfl
  have waits : Runs (pass (pass {} 2 .write true) 1 .read true) :=
    @Runs.step _ _ 1 (.lock .read) written (fun other => by cases other) rfl
  obtain ⟨-, busy, -, -, unlocks⟩ := runs_exclude waits 2
  exact ⟨_, waits, rfl, busy.mpr (by decide), unlocks (.inl rfl)⟩

/-- An owner that holds nothing gives a reader's lock back, and a writer joins the reader. -/
example :
    let stolen := release (pass {} 1 .read false) 2
    let written := pass stolen 3 .write false
    writing written.log = some 3 ∧ reading written.log = [1] := by
  decide

end Chrysopolis.Beam.RwLocks
