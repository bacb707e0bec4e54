/-!
# FormSchema — log records

What an operation logs is part of its result. A logged operation gives its records in order, also
when it fails.
-/

namespace FormSchema

inductive LogLevel
  | debug
  | info
  | warning
  | error
  deriving DecidableEq, Repr

inductive LogSource
  | forms
  | server
  deriving DecidableEq, Repr

structure LogRecord where
  level : LogLevel
  source : LogSource
  message : String
  deriving DecidableEq, Repr

/-- An operation that logs, and ends with a value or an error. -/
structure Logged (ε α : Type) where
  log : List LogRecord
  outcome : Except ε α

namespace Logged

variable {ε ε' α β : Type}

def ofExcept (outcome : Except ε α) : Logged ε α := ⟨[], outcome⟩

def record (level : LogLevel) (source : LogSource) (message : String) : Logged ε Unit :=
  ⟨[⟨level, source, message⟩], .ok ()⟩

def fail (e : ε) : Logged ε α := ⟨[], .error e⟩

/-- Goes on with the value of an operation; the records of both add up. -/
def andThen (a : Logged ε α) (f : α → Logged ε β) : Logged ε β :=
  match a.outcome with
  | .ok value =>
    let next := f value
    ⟨a.log ++ next.log, next.outcome⟩
  | .error e => ⟨a.log, .error e⟩

instance : Monad (Logged ε) where
  pure value := ⟨[], .ok value⟩
  bind := andThen

def mapError (f : ε → ε') (a : Logged ε α) : Logged ε' α := ⟨a.log, a.outcome.mapError f⟩

/-! ## Outcomes -/

theorem outcome_bind (a : Logged ε α) (f : α → Logged ε β) :
    (a >>= f).outcome = a.outcome.bind fun value => (f value).outcome := by
  obtain ⟨log, outcome⟩ := a
  cases outcome with
  | ok value => rfl
  | error e => rfl

theorem outcome_ofExcept (outcome : Except ε α) : (ofExcept outcome).outcome = outcome := rfl

theorem outcome_mapError (f : ε → ε') (a : Logged ε α) :
    (a.mapError f).outcome = a.outcome.mapError f := rfl

theorem outcome_pure (value : α) : (pure value : Logged ε α).outcome = .ok value := rfl

/-! ## Whole operations -/

theorem map_ok (f : α → β) (log : List LogRecord) (value : α) :
    f <$> (⟨log, .ok value⟩ : Logged ε α) = ⟨log, .ok (f value)⟩ := by
  show (⟨log ++ [], .ok (f value)⟩ : Logged ε β) = _
  rw [List.append_nil]

theorem mapError_map (f : ε → ε') (g : α → β) (a : Logged ε α) :
    (g <$> a).mapError f = g <$> a.mapError f := by
  obtain ⟨log, outcome⟩ := a
  cases outcome <;> rfl

end Logged

end FormSchema
