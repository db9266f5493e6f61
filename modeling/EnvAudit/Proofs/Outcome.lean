import EnvAudit.Log
import Mathlib.Data.List.Forall2

/-! Operations that may fail: when they return, and what a list of them returns. Reporting never fails. -/
namespace EnvAudit

def Returns {α : Type} (outcome : Except Failure α) : Prop := ∃ value, outcome = .ok value

namespace Outcome
variable {α β : Type}

@[simp] theorem returns_ok (value : α) : Returns (.ok value) := ⟨value, rfl⟩

@[simp] theorem returns_pure (value : α) : Returns (pure value) := ⟨value, rfl⟩

@[simp] theorem not_returns_error (failure : Failure) : ¬ Returns (.error failure : Except Failure α) := by
  rintro ⟨value, ok⟩
  cases ok

@[simp] theorem returns_map {f : α → β} {outcome : Except Failure α} : Returns (f <$> outcome) ↔ Returns outcome := by
  cases outcome <;> simp [Functor.map, Except.map]

theorem bind_eq_ok {first : Except Failure α} {next : α → Except Failure β} {result : β} :
    (first >>= next) = .ok result ↔ ∃ value, first = .ok value ∧ next value = .ok result := by
  cases first with
  | error failure => simp [bind, Except.bind]
  | ok value => simp [bind, Except.bind]

theorem eq_ok_of_toOption {outcome : Except Failure α} {value : α} (given : outcome.toOption = some value) :
    outcome = .ok value := by
  cases outcome with
  | error failure => cases given
  | ok other =>
    injection given with same
    rw [same]

theorem bind_eq_error {first : Except Failure α} {next : α → Except Failure β} {failure : Failure} :
    (first >>= next) = .error failure ↔
      first = .error failure ∨ ∃ value, first = .ok value ∧ next value = .error failure := by
  cases first with
  | error failure => simp [bind, Except.bind]
  | ok value => simp [bind, Except.bind]

theorem returns_bind {first : Except Failure α} {next : α → Except Failure β} :
    Returns (first >>= next) ↔ ∃ value, first = .ok value ∧ Returns (next value) := by
  cases first with
  | error failure => simp [bind, Except.bind]
  | ok value => simp [bind, Except.bind]

theorem returns_bind_iff {first : Except Failure α} {next : α → Except Failure β}
    (goes : ∀ value, first = .ok value → Returns (next value)) : Returns (first >>= next) ↔ Returns first := by
  rw [returns_bind]
  constructor
  · rintro ⟨value, ok, _⟩
    exact ⟨value, ok⟩
  · rintro ⟨value, ok⟩
    exact ⟨value, ok, goes value ok⟩

theorem eq_ok_none_iff {outcome : Except Failure (Option α)} :
    outcome = .ok none ↔ Returns outcome ∧ ∀ value, outcome ≠ .ok (some value) := by
  constructor
  · rintro rfl
    exact ⟨returns_ok none, nofun⟩
  · rintro ⟨⟨value, rfl⟩, nothing⟩
    cases value with
    | none => rfl
    | some value => exact absurd rfl (nothing value)

theorem mapM_eq_ok {step : α → Except Failure β} {items : List α} {results : List β} :
    items.mapM step = .ok results ↔ List.Forall₂ (fun item result => step item = .ok result) items results := by
  induction items generalizing results with
  | nil => cases results <;> simp [pure, Except.pure]
  | cons item items ih =>
    rw [List.mapM_cons, bind_eq_ok]
    constructor
    · rintro ⟨value, head, rest⟩
      obtain ⟨values, tail, same⟩ := bind_eq_ok.mp rest
      cases same
      exact .cons head (ih.mp tail)
    · intro related
      cases related with
      | cons head tail => exact ⟨_, head, bind_eq_ok.mpr ⟨_, ih.mpr tail, rfl⟩⟩

theorem mapM_of_ok {step : α → Except Failure β} {results : α → β} {items : List α}
    (each : ∀ item ∈ items, step item = .ok (results item)) : items.mapM step = .ok (items.map results) := by
  rw [mapM_eq_ok, List.forall₂_map_right_iff, List.forall₂_same]
  exact each

theorem mapM_cons_eq_ok {step : α → Except Failure β} {item : α} {items : List α} {results : List β} :
    (item :: items).mapM step = .ok results ↔
      ∃ first others, step item = .ok first ∧ items.mapM step = .ok others ∧ results = first :: others := by
  rw [mapM_eq_ok]
  constructor
  · rintro (_ | ⟨first, others⟩)
    exact ⟨_, _, first, mapM_eq_ok.mpr others, rfl⟩
  · rintro ⟨first, others, head, tail, rfl⟩
    exact .cons head (mapM_eq_ok.mp tail)

theorem mapM_map {γ : Type} (step : α → Except Failure β) (f : β → γ) (items : List α) :
    items.mapM (fun item => f <$> step item) = List.map f <$> items.mapM step := by
  induction items with
  | nil => rfl
  | cons item rest ih => simp [ih]

theorem mem_of_mapM {step : α → Except Failure β} {items : List α} {results : List β}
    (ok : items.mapM step = .ok results) {result : β} : result ∈ results ↔ ∃ item ∈ items, step item = .ok result := by
  induction mapM_eq_ok.mp ok with
  | nil => simp
  | @cons item value items results head tail ih =>
    rw [List.mem_cons, List.exists_mem_cons_iff, ih (mapM_eq_ok.mpr tail), head, Except.ok.injEq, eq_comm]

theorem mapM_returns {step : α → Except Failure β} {items : List α} :
    Returns (items.mapM step) ↔ ∀ item ∈ items, Returns (step item) := by
  induction items with
  | nil => simp [pure, Except.pure]
  | cons item items ih =>
    rw [List.mapM_cons, returns_bind, List.forall_mem_cons, ← ih]
    constructor
    · rintro ⟨value, head, rest⟩
      obtain ⟨values, tail, _⟩ := returns_bind.mp rest
      exact ⟨⟨value, head⟩, ⟨values, tail⟩⟩
    · rintro ⟨⟨value, head⟩, ⟨values, tail⟩⟩
      exact ⟨value, head, returns_bind.mpr ⟨values, tail, returns_ok _⟩⟩

end Outcome

namespace Logged
variable {α β : Type}

theorem run_bind_ok {first : Logged α} {next : α → Logged β} {records left : List Log.Record} {value : α}
    (ok : first.run.run records = (.ok value, left)) :
    (first >>= next).run.run records = (next value).run.run left := by
  simp only [ExceptT.run, StateT.run] at ok ⊢
  simp only [bind, ExceptT.bind, StateT.bind, ExceptT.mk, ok]
  rfl

theorem run_report (level : Log.Level) (logger message : String) (records : List Log.Record) :
    (report level logger message).run.run records = (.ok (), records ++ [⟨level, logger, message⟩]) := rfl

theorem run_reports (level : Log.Level) (logger : String) (messages : List String) (records : List Log.Record) :
    (messages.forM (report level logger)).run.run records =
      (.ok (), records ++ messages.map (⟨level, logger, ·⟩)) := by
  induction messages generalizing records with
  | nil => simp [List.forM]; rfl
  | cons message rest ih =>
    rw [List.forM, run_bind_ok (run_report level logger message records), ih]
    simp

def Yields (operation : Logged α) (result : Except Failure α) : Prop :=
  ∀ records, (operation.run.run records).1 = result

theorem Yields.outcome_eq {operation : Logged α} {result : Except Failure α} (yields : Yields operation result) :
    operation.outcome.1 = result := yields []

theorem yields_pure (value : α) : Yields (pure value) (.ok value) := fun _ => rfl

theorem yields_throw (failure : Failure) : Yields (throw failure : Logged α) (.error failure) := fun _ => rfl

theorem yields_lift (result : Except Failure α) : Yields (liftM result) result := fun _ => rfl

theorem yields_report {level : Log.Level} {logger message : String} :
    Yields (report level logger message) (.ok ()) := fun _ => rfl

theorem Yields.bind {first : Logged α} {next : α → Logged β} {result : Except Failure α}
    {after : α → Except Failure β} (begun : Yields first result) (goes : ∀ value, Yields (next value) (after value)) :
    Yields (first >>= next) (result >>= after) := by
  intro records
  rw [← begun records]
  cases ran : first.run.run records with
  | mk result left =>
    cases result with
    | error failure =>
      simp only [ExceptT.run, StateT.run] at ran
      simp only [ExceptT.run, StateT.run, Bind.bind, ExceptT.bind, StateT.bind, ExceptT.mk, ran]
      rfl
    | ok value =>
      rw [run_bind_ok ran]
      exact goes value left

theorem yields_mapM {step : α → Logged β} {result : α → Except Failure β}
    (steps : ∀ item, Yields (step item) (result item)) (items : List α) :
    Yields (items.mapM step) (items.mapM result) := by
  induction items with
  | nil => exact yields_pure []
  | cons item rest ih =>
    rw [List.mapM_cons, List.mapM_cons]
    exact (steps item).bind fun _ => ih.bind fun _ => yields_pure _

theorem yields_forM {step : α → Logged Unit} (steps : ∀ item, Yields (step item) (.ok ())) (items : List α) :
    Yields (items.forM step) (.ok ()) := by
  induction items with
  | nil => exact yields_pure ()
  | cons item rest ih => exact (steps item).bind fun _ => ih

def Gives (operation : Logged α) (value : α) : Prop :=
  ∃ records left, operation.run.run records = (.ok value, left)

theorem gives_of_outcome {operation : Logged α} {value : α} (ok : operation.outcome.1 = .ok value) :
    Gives operation value := ⟨[], operation.outcome.2, Prod.ext ok rfl⟩

theorem Yields.eq_ok {operation : Logged α} {result : Except Failure α} {value : α}
    (yields : Yields operation result) (gives : Gives operation value) : result = .ok value := by
  obtain ⟨records, left, ran⟩ := gives
  rw [← yields records, ran]

theorem Gives.of_bind {first : Logged α} {next : α → Logged β} {result : β} (gives : Gives (first >>= next) result) :
    ∃ value, Gives first value ∧ Gives (next value) result := by
  obtain ⟨records, left, ran⟩ := gives
  cases begun : first.run.run records with
  | mk outcome between =>
    cases outcome with
    | error failure =>
      simp only [ExceptT.run, StateT.run] at begun
      simp only [ExceptT.run, StateT.run, Bind.bind, ExceptT.bind, StateT.bind, ExceptT.mk, begun] at ran
      cases ran
    | ok value =>
      rw [run_bind_ok begun] at ran
      exact ⟨value, ⟨records, between, begun⟩, ⟨between, left, ran⟩⟩

theorem Gives.of_mapM {step : α → Logged β} {items : List α} {results : List β}
    (gives : Gives (items.mapM step) results) {result : β} (member : result ∈ results) :
    ∃ item ∈ items, Gives (step item) result := by
  induction items generalizing results with
  | nil =>
    cases (yields_pure []).eq_ok gives
    cases member
  | cons item rest ih =>
    rw [List.mapM_cons] at gives
    obtain ⟨value, head, gives⟩ := gives.of_bind
    obtain ⟨values, tail, gives⟩ := gives.of_bind
    cases (yields_pure (value :: values)).eq_ok gives
    rcases List.mem_cons.mp member with rfl | known
    · exact ⟨item, List.mem_cons_self, head⟩
    · obtain ⟨origin, listed, given⟩ := ih tail known
      exact ⟨origin, List.mem_cons_of_mem item listed, given⟩

end Logged
end EnvAudit
