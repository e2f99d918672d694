import KernelSweep.Report.Store
import Mathlib.Data.List.Forall2

set_option autoImplicit false

namespace KernelSweep.ResultStore

/-- The row of a result under a number. -/
def row (id : Nat) (r : Result) : Row := insertRun.row id (arguments r)

/-- The rows of results that are numbered on from `last`. -/
def rowsFrom (last : Nat) (results : List Result) : List Row :=
  (results.zipIdx (last + 1)).map fun (r, id) => row id r

@[simp] theorem rowsFrom_nil (last : Nat) : rowsFrom last [] = [] := rfl

@[simp] theorem rowsFrom_cons (last : Nat) (r : Result) (rest : List Result) :
    rowsFrom last (r :: rest) = row (last + 1) r :: rowsFrom (last + 1) rest := rfl

theorem rowsFrom_append (last : Nat) (first second : List Result) :
    rowsFrom last (first ++ second) =
      rowsFrom last first ++ rowsFrom (last + first.length) second := by
  induction first generalizing last with
  | nil => simp
  | cons r rest ih =>
    have next : last + (r :: rest).length = last + 1 + rest.length := by
      rw [List.length_cons]
      omega
    rw [List.cons_append, rowsFrom_cons, rowsFrom_cons, ih, next, List.cons_append]

theorem rowsFrom_ids (last : Nat) (results : List Result) :
    (rowsFrom last results).map (·.id) = List.range' (last + 1) results.length := by
  induction results generalizing last with
  | nil => rfl
  | cons r rest ih =>
    rw [rowsFrom_cons, List.map_cons, ih, List.length_cons, List.range'_succ]
    rfl

/-- What a row holds under the name of a column. -/
def Row.get (w : Row) (column : String) : Option Value := w.cells.lookup column

def flag (b : Bool) : Option Value := some (.int (if b then 1 else 0))

/-- What a row says about a result. -/
structure Row.Holds (w : Row) (r : Result) : Prop where
  kernel : w.get "suite" = some (.text (Text.encode r.kernel.suite)) ∧
    w.get "kernel" = some (.text (Text.encode r.kernel.name))
  setting : w.get "direction" = some (.text (Text.encode r.setting.direction)) ∧
    w.get "factor" = some (.text (Text.encode r.setting.factor)) ∧
    w.get "stride" = some (.text (Text.encode r.setting.stride))
  label : w.get "label" = some (.text (Text.encode r.label))
  flags : w.get "follow_up" = flag r.followUp ∧ w.get "timed_out" = flag r.outcome.timedOut ∧
    w.get "canceled" = flag r.outcome.canceled
  exit : w.get "exit_code" = some (.int r.outcome.exit)
  /-- A fraction of a millisecond is cut off. -/
  milliseconds : ∃ n, w.get "duration_ms" = some (.int n) ∧
    n.toInt = r.outcome.duration.nanoseconds.toInt.tdiv 1000000
  /-- From two to the 63rd on the peak reads as a negative number. -/
  peak : ∃ n, w.get "peak_rss" = some (.int n) ∧ n.toInt =
    if r.outcome.peak.toNat < 9223372036854775808 then (r.outcome.peak.toNat : Int)
    else r.outcome.peak.toNat - 18446744073709551616
  succeeded : w.get "succeeded" = flag r.succeeded
  error : w.get "error" = some
    (if r.succeeded = false ∧ r.failureText ≠ [] then .text r.failureText else .null)

theorem toInt_toInt64 (x : UInt64) :
    x.toInt64.toInt = if x.toNat < 9223372036854775808 then (x.toNat : Int)
      else x.toNat - 18446744073709551616 := by
  have value : x.toInt64.toInt = x.toBitVec.toInt := rfl
  rw [value, BitVec.toInt_eq_toNat_cond, UInt64.toNat_toBitVec]
  split <;> split <;> omega

theorem value_errorText (r : Result) :
    (Argument.optional (errorText r)).value =
      if r.succeeded = false ∧ r.failureText ≠ [] then .text r.failureText else .null := by
  unfold errorText
  cases r.succeeded <;> by_cases empty : r.failureText = [] <;> simp [empty, Argument.value]

theorem row_holds (id : Nat) (r : Result) : (row id r).Holds r where
  kernel := ⟨rfl, rfl⟩
  setting := ⟨rfl, rfl, rfl⟩
  label := rfl
  flags := ⟨rfl, rfl, rfl⟩
  exit := rfl
  milliseconds := ⟨_, rfl, Int64.toInt_div_of_ne_right _ _ (by decide)⟩
  peak := ⟨_, rfl, toInt_toInt64 r.outcome.peak⟩
  succeeded := rfl
  error := congrArg some (value_errorText r)

theorem rowsFrom_hold (last : Nat) (results : List Result) :
    List.Forall₂ Row.Holds (rowsFrom last results) results := by
  induction results generalizing last with
  | nil => exact .nil
  | cons r rest ih => exact .cons (row_holds (last + 1) r) (ih (last + 1))

namespace Table

/-- The table with results appended. -/
def adding (t : Table) (results : List Result) : Table :=
  ⟨t.rows ++ rowsFrom t.lastId results, t.lastId + results.length⟩

/-- Some row of a batch is refused, the rows having the numbers they would get. -/
def Refuses (t : Table) (accepts : Row → Prop) (batch : List Result) : Prop :=
  ∃ w ∈ rowsFrom t.lastId batch, ¬ accepts w

theorem adding_nil (t : Table) : t.adding [] = t := by
  simp [adding]

theorem adding_adding (t : Table) (first second : List Result) :
    (t.adding first).adding second = t.adding (first ++ second) := by
  simp [adding, rowsFrom_append, Nat.add_assoc]

theorem put_adding (t : Table) (r : Result) (rest : List Result) :
    (t.put (row (t.lastId + 1) r)).adding rest = t.adding (r :: rest) :=
  t.adding_adding [r] rest

theorem refuses_cons {t : Table} {accepts : Row → Prop} {r : Result} (rest : List Result) :
    t.Refuses accepts (r :: rest) ↔
      ¬ accepts (row (t.lastId + 1) r) ∨
        (t.put (row (t.lastId + 1) r)).Refuses accepts rest := by
  simp [Refuses, put, row, Insertion.row]

end Table

/-- Where an engine can stand with one database. The tables are what the table of the runs has. -/
structure Stages (e : Engine) where
  /-- Not connected. A table that is missing counts as empty. -/
  shut : e.State → Table → Prop
  /-- Connected, with nothing under way. -/
  idle : e.State → Table → Prop
  /-- In a transaction. The table was the first one when it was begun and is the second one within
  it. -/
  begun : e.State → Table → Table → Prop
  /-- In a transaction, with the insertion prepared. -/
  ready : e.State → Table → Table → Prop

/-- What is relied on of an engine, for the database at an address whose table accepts certain rows.
Any call within a transaction can fail; what was committed is still there after a rollback and after
closing. -/
structure Stages.Laws {e : Engine} (g : Stages e) (address : String) (accepts : Row → Prop) :
    Prop where
  opens : ∀ s t, g.shut s t → ∃ s' s'', e.connect address s = (s', .ok ()) ∧
    e.create createRuns s' = (s'', .ok ()) ∧ g.idle s'' t
  closes : ∀ s t, g.idle s t → g.shut (e.close s) t
  reads : ∀ s t, g.idle s t → e.table s = t
  begins : ∀ s t, g.idle s t →
    match e.begin s with
    | (s', .ok ()) => g.begun s' t t
    | (s', .error _) => g.idle s' t
  prepares : ∀ s t w, g.begun s t w →
    match e.prepare insertRun s with
    | (s', .ok ()) => g.ready s' t w
    | (s', .error _) => g.begun s' t w
  /-- A row gets the number after the last one that was given. A row that is not accepted is not
  taken. -/
  inserts : ∀ s t w given, g.ready s t w → given.length = insertRun.columns.length →
    match e.insert given s with
    | (s', .ok ()) => accepts (insertRun.row (w.lastId + 1) given) ∧
        g.ready s' t (w.put (insertRun.row (w.lastId + 1) given))
    | (s', .error _) => ∃ w', g.ready s' t w'
  finalizes : ∀ s t w, g.ready s t w → g.begun (e.finalize s) t w
  /-- A transaction that cannot be committed is undone. -/
  commits : ∀ s t w, g.ready s t w →
    match e.commit s with
    | (s', .ok ()) => g.idle s' w
    | (s', .error _) => g.idle s' t
  finalizesLate : ∀ s t, g.idle s t → g.idle (e.finalize s) t
  /-- The rows are as they were, and so is the number that comes next. -/
  undoes : ∀ s t w, g.begun s t w → g.idle (e.rollback s) t
  /-- There is nothing left to undo. -/
  undoesLate : ∀ s t, g.idle s t → g.idle (e.rollback s) t

/-- Nothing but a row that is not accepted makes a call fail. -/
structure Stages.Faultless {e : Engine} (g : Stages e) (accepts : Row → Prop) : Prop where
  begins : ∀ s t, g.idle s t → (e.begin s).2 = .ok ()
  prepares : ∀ s t w, g.begun s t w → (e.prepare insertRun s).2 = .ok ()
  inserts : ∀ s t w given, g.ready s t w → given.length = insertRun.columns.length →
    accepts (insertRun.row (w.lastId + 1) given) → (e.insert given s).2 = .ok ()
  commits : ∀ s t w, g.ready s t w → (e.commit s).2 = .ok ()

section Saving

variable {e : Engine} {g : Stages e} {address : String} {accepts : Row → Prop}
  {s : e.State} {t w : Table} {batch : List Result}

namespace Stages.Laws

variable (laws : g.Laws address accepts)
include laws

theorem openStore (shut : g.shut s t) :
    ∃ s', e.openStore address s = (s', .ok ()) ∧ g.idle s' t := by
  obtain ⟨s', s'', connected, created, idle⟩ := laws.opens s t shut
  exact ⟨s'', by simp only [Engine.openStore, connected, created], idle⟩

/-- If the insertions go through, every row was accepted and all are in the table; if not, the
transaction is still open. -/
theorem insertAll (ready : g.ready s t w) (batch : List Result) :
    match e.insertAll batch s with
    | (s', .ok ()) => ¬ w.Refuses accepts batch ∧ g.ready s' t (w.adding batch)
    | (s', .error _) => ∃ w', g.ready s' t w' := by
  induction batch generalizing s w with
  | nil =>
    rw [Engine.insertAll, Table.adding_nil]
    exact ⟨by simp [Table.Refuses], ready⟩
  | cons r rest ih =>
    have inserted := laws.inserts s t w (arguments r) ready rfl
    rw [Engine.insertAll]
    generalize e.insert (arguments r) s = out at inserted ⊢
    rcases out with ⟨s', problem | ⟨⟩⟩
    · exact inserted
    · obtain ⟨accepted, further⟩ := inserted
      have others := ih further
      dsimp only
      generalize e.insertAll rest s' = out at others ⊢
      rcases out with ⟨s'', problem | ⟨⟩⟩
      · exact others
      · obtain ⟨all, last⟩ := others
        rw [Table.refuses_cons, not_or, not_not, ← Table.put_adding]
        exact ⟨⟨accepted, all⟩, last⟩

/-- A save that goes through had no row that is refused and appends the batch; one that does not
leaves the table as it was. -/
theorem save (idle : g.idle s t) (batch : List Result) :
    match e.save batch s with
    | (s', .ok ()) => ¬ t.Refuses accepts batch ∧ g.idle s' (t.adding batch)
    | (s', .error _) => g.idle s' t := by
  have began := laws.begins s t idle
  unfold Engine.save
  generalize e.begin s = out at began ⊢
  rcases out with ⟨s₁, problem | ⟨⟩⟩
  · exact began
  have prepared := laws.prepares s₁ t t began
  dsimp only
  generalize e.prepare insertRun s₁ = out at prepared ⊢
  rcases out with ⟨s₂, problem | ⟨⟩⟩
  · exact laws.undoes _ _ _ prepared
  have inserted := laws.insertAll prepared batch
  dsimp only
  generalize e.insertAll batch s₂ = out at inserted ⊢
  rcases out with ⟨s₃, problem | ⟨⟩⟩
  · obtain ⟨written, ready⟩ := inserted
    exact laws.undoes _ _ _ (laws.finalizes _ _ _ ready)
  obtain ⟨all, ready⟩ := inserted
  have committed := laws.commits s₃ t _ ready
  dsimp only
  generalize e.commit s₃ = out at committed ⊢
  rcases out with ⟨s₄, problem | ⟨⟩⟩
  · exact laws.undoesLate _ _ (laws.finalizesLate _ _ committed)
  · exact ⟨all, laws.undoesLate _ _ (laws.finalizesLate _ _ committed)⟩

/-- A save that goes through appends the whole batch. -/
theorem idle_of_saved (idle : g.idle s t) (saved : (e.save batch s).2 = .ok ()) :
    g.idle (e.save batch s).1 (t.adding batch) := by
  have cases := laws.save idle batch
  generalize e.save batch s = out at saved cases ⊢
  rcases out with ⟨s', problem | ⟨⟩⟩
  · cases saved
  · exact cases.2

theorem insertAll_ok (faultless : g.Faultless accepts) (ready : g.ready s t w)
    (all : ¬ w.Refuses accepts batch) : (e.insertAll batch s).2 = .ok () := by
  induction batch generalizing s w with
  | nil => rfl
  | cons r rest ih =>
    rw [Table.refuses_cons, not_or, not_not] at all
    have inserted := laws.inserts s t w (arguments r) ready rfl
    have taken := faultless.inserts s t w (arguments r) ready rfl all.1
    rw [Engine.insertAll]
    generalize e.insert (arguments r) s = out at inserted taken ⊢
    rcases out with ⟨s', problem | ⟨⟩⟩
    · cases taken
    · exact ih inserted.2 all.2

/-- Nothing else failing, a batch without a refused row is saved. -/
theorem save_ok (faultless : g.Faultless accepts) (idle : g.idle s t)
    (all : ¬ t.Refuses accepts batch) : (e.save batch s).2 = .ok () := by
  have began := laws.begins s t idle
  have begins := faultless.begins s t idle
  unfold Engine.save
  generalize e.begin s = out at began begins ⊢
  rcases out with ⟨s₁, problem | ⟨⟩⟩
  · cases begins
  have prepared := laws.prepares s₁ t t began
  have prepares := faultless.prepares s₁ t t began
  dsimp only
  generalize e.prepare insertRun s₁ = out at prepared prepares ⊢
  rcases out with ⟨s₂, problem | ⟨⟩⟩
  · cases prepares
  have inserted := laws.insertAll prepared batch
  have inserts := laws.insertAll_ok faultless prepared all
  dsimp only
  generalize e.insertAll batch s₂ = out at inserted inserts ⊢
  rcases out with ⟨s₃, problem | ⟨⟩⟩
  · cases inserts
  have commits := faultless.commits s₃ t _ inserted.2
  dsimp only
  generalize e.commit s₃ = out at commits ⊢
  rcases out with ⟨s₄, problem | ⟨⟩⟩
  · cases commits
  · rfl

end Stages.Laws

/-- What is done with a store by those who use it one after the other. -/
inductive Action where
  | save (batch : List Result)
  /-- Close the database and open it again. -/
  | reopen

namespace Engine

variable (e) (address)

def act (s : e.State) : Action → e.State
  | .save batch => (e.save batch s).1
  | .reopen => (e.openStore address (e.close s)).1

def after (s : e.State) (actions : List Action) : e.State := actions.foldl (e.act address) s

/-- The batches whose saving gave no error, in order. -/
def taken (s : e.State) : List Action → List (List Result)
  | [] => []
  | .save batch :: rest =>
    match (e.save batch s).2 with
    | .ok () => batch :: taken (e.act address s (.save batch)) rest
    | .error _ => taken (e.act address s (.save batch)) rest
  | .reopen :: rest => taken (e.act address s .reopen) rest

/-- Behind what the table had at first it has one row for each of these results, in order and
numbered on. -/
structure Stores (s : e.State) (found : Table) (results : List Result) : Prop where
  rows : ∃ new, (e.table s).rows = found.rows ++ new ∧ List.Forall₂ Row.Holds new results ∧
    new.map (·.id) = List.range' (found.lastId + 1) results.length
  next : (e.table s).lastId = found.lastId + results.length
  /-- The numbers in a table that was new. -/
  ids : found = {} → (e.table s).rows.map (·.id) = List.range' 1 results.length

/-- A batch is saved whole or not at all. -/
structure SavesWhole (s : e.State) (accepts : Row → Prop) (batch : List Result) : Prop where
  /-- The rows have the numbers that they would get. -/
  refused : (∃ w ∈ rowsFrom (e.table s).lastId batch, ¬ accepts w) →
    ∃ problem, (e.save batch s).2 = .error problem
  unchanged : ∀ problem, (e.save batch s).2 = .error problem →
    e.table (e.save batch s).1 = e.table s
  appended : (e.save batch s).2 = .ok () →
    e.table (e.save batch s).1 = (e.table s).adding batch

end Engine

namespace Stages.Laws

variable (laws : g.Laws address accepts)
include laws

theorem stores_of_idle {found : Table} {results : List Result}
    (idle : g.idle s (found.adding results)) : e.Stores s found results where
  rows := by
    rw [laws.reads s _ idle]
    exact ⟨_, rfl, rowsFrom_hold _ _, rowsFrom_ids _ _⟩
  next := by
    rw [laws.reads s _ idle]
    rfl
  ids := by
    rintro rfl
    rw [laws.reads s _ idle]
    exact rowsFrom_ids 0 results

theorem savesWhole_of_idle (idle : g.idle s t) (batch : List Result) :
    e.SavesWhole s accepts batch := by
  have before := laws.reads s t idle
  have cases := laws.save idle batch
  refine ⟨fun refused => ?_, fun problem failed => ?_, fun saved => ?_⟩
  · rw [before] at refused
    generalize e.save batch s = out at cases ⊢
    rcases out with ⟨s', problem | ⟨⟩⟩
    · exact ⟨problem, rfl⟩
    · exact absurd refused cases.1
  · rw [before]
    generalize e.save batch s = out at cases failed ⊢
    rcases out with ⟨s', problem | ⟨⟩⟩
    · exact laws.reads s' t cases
    · cases failed
  · rw [before]
    exact laws.reads _ _ (laws.idle_of_saved idle saved)

/-- Each save appends its batch or changes nothing, so what is stored is what was taken. -/
theorem idle_after {found : Table} {results : List Result} (idle : g.idle s (found.adding results))
    (actions : List Action) :
    g.idle (e.after address s actions)
      (found.adding (results ++ (e.taken address s actions).flatten)) := by
  induction actions generalizing s results with
  | nil => simpa [Engine.after, Engine.taken] using idle
  | cons action rest ih =>
    have step : e.after address s (action :: rest) =
        e.after address (e.act address s action) rest := rfl
    rw [step]
    cases action with
    | reopen =>
      obtain ⟨s', opened, again⟩ := laws.openStore (laws.closes s _ idle)
      have here : e.act address s .reopen = s' := by rw [Engine.act, opened]
      rw [Engine.taken, here]
      exact ih again
    | save batch =>
      have here : e.act address s (.save batch) = (e.save batch s).1 := rfl
      have cases := laws.save idle batch
      rw [Engine.taken, here]
      generalize e.save batch s = out at cases ⊢
      rcases out with ⟨s', problem | ⟨⟩⟩
      · exact ih cases
      · have kept := cases.2
        rw [Table.adding_adding] at kept
        rw [List.flatten_cons, ← List.append_assoc]
        exact ih kept

end Stages.Laws

/-- Batches are saved whole. Whichever rows the table accepts, and whatever was saved in the
database, closed and opened again before: a save whose batch has a row that is not accepted fails,
and where nothing else goes wrong no other save does; one that fails leaves rows and numbers as they
were; and behind the rows it had at first the table has the results of the batches that were taken,
in order. -/
theorem saves_whole (laws : g.Laws address accepts) {found : Table} (shut : g.shut s found)
    (actions : List Action) :
    let opened := e.openStore address s
    let last := e.after address opened.1 actions
    opened.2 = .ok () ∧ (e.openStore address (e.close last)).2 = .ok () ∧
      (∀ batch, e.SavesWhole last accepts batch) ∧
      (g.Faultless accepts → ∀ batch, (∃ problem, (e.save batch last).2 = .error problem) ↔
        ∃ w ∈ rowsFrom (e.table last).lastId batch, ¬ accepts w) ∧
      e.Stores last found (e.taken address opened.1 actions).flatten := by
  obtain ⟨s', connected, idle⟩ := laws.openStore shut
  intro opened last
  have first : opened.1 = s' := congrArg Prod.fst connected
  rw [← found.adding_nil, ← first] at idle
  have kept := laws.idle_after idle actions
  rw [List.nil_append] at kept
  obtain ⟨s'', again, -⟩ := laws.openStore (laws.closes _ _ kept)
  have whole := laws.savesWhole_of_idle kept
  refine ⟨congrArg Prod.snd connected, congrArg Prod.snd again, whole, fun faultless batch => ?_,
    laws.stores_of_idle kept⟩
  refine ⟨fun ⟨problem, failed⟩ => ?_, (whole batch).refused⟩
  by_contra all
  rw [laws.reads _ _ kept] at all
  rw [laws.save_ok faultless kept all] at failed
  cases failed

end Saving

end KernelSweep.ResultStore
