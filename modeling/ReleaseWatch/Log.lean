import ReleaseWatch.Failure

/-!
# Log lines

`Logged` is a computation that may fail and that writes log lines; what it has written stays when
it fails. Its outcome does not depend on the log: `outcome_bind` splits the two.
-/

namespace ReleaseWatch

/-- How much a log line matters. -/
inductive Level where
  | debug
  | info
  | warning
  | error
  deriving DecidableEq

namespace Level

def name : Level → String
  | .debug => "DEBUG"
  | .info => "INFO"
  | .warning => "WARNING"
  | .error => "ERROR"

/-- How much a line of the level matters, as thresholds count it. -/
def weight : Level → Nat
  | .debug => 10
  | .info => 20
  | .warning => 30
  | .error => 40

end Level

structure LogLine where
  level : Level
  text : String
  deriving DecidableEq

/-- What a computation came to, and the lines that it wrote. -/
structure Logged (α : Type) where
  outcome : Except Failure α
  log : List LogLine := []

namespace Logged

variable {α β : Type}

def write (level : Level) (text : String) : Logged Unit :=
  { outcome := .ok (), log := [{ level, text }] }

def ofExcept (outcome : Except Failure α) : Logged α :=
  { outcome }

/-- Goes on with a value, unless the computation before it failed. -/
def bind (first : Logged α) (next : α → Logged β) : Logged β :=
  match first.outcome with
  | .error failure => { outcome := .error failure, log := first.log }
  | .ok value =>
      { outcome := (next value).outcome, log := first.log ++ (next value).log }

instance : Monad Logged where
  pure value := { outcome := .ok value }
  bind := bind

@[simp]
theorem outcome_pure (value : α) : (pure value : Logged α).outcome = .ok value := rfl

@[simp]
theorem outcome_write (level : Level) (text : String) : (write level text).outcome = .ok () := rfl

@[simp]
theorem outcome_ofExcept (outcome : Except Failure α) : (ofExcept outcome).outcome = outcome := rfl

@[simp]
theorem outcome_bind (first : Logged α) (next : α → Logged β) :
    (first >>= next).outcome = first.outcome.bind fun value => (next value).outcome := by
  cases first with
  | mk outcome log => cases outcome <;> rfl

end Logged

end ReleaseWatch
