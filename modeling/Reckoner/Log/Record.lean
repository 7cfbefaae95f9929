import Reckoner.Json.Basic

/-!
# Log records

A record names its logger, its level and its event, and carries fields. `Logged` is a result
together with the records that were made on the way to it, in order.
-/

namespace Reckoner

namespace Log

/-- How serious a record is; the higher the rank, the more serious. -/
structure Level where
  rank : Int
  deriving DecidableEq, Repr

namespace Level

def debug : Level := ⟨10⟩

def info : Level := ⟨20⟩

def warning : Level := ⟨30⟩

def error : Level := ⟨40⟩

def critical : Level := ⟨50⟩

/-- The name of a level in a record. Levels between the named ones are told by their rank. -/
def name (level : Level) : String :=
  if level = debug then "DEBUG"
  else if level = info then "INFO"
  else if level = warning then "WARNING"
  else if level = error then "ERROR"
  else if level = critical then "CRITICAL"
  else if level.rank = 0 then "NOTSET"
  else s!"Level {level.rank}"

end Level

structure Record where
  logger : String
  level : Level
  message : String
  fields : List (String × Json)

end Log

/-- A result and the records made on the way to it. -/
structure Logged (α : Type) where
  result : α
  records : List Log.Record

namespace Logged

instance : Monad Logged where
  pure a := ⟨a, []⟩
  bind m f := ⟨(f m.result).result, m.records ++ (f m.result).records⟩

def tell (record : Log.Record) : Logged Unit :=
  ⟨(), [record]⟩

@[simp] theorem result_pure {α : Type} (a : α) : (pure a : Logged α).result = a := rfl

@[simp] theorem result_bind {α β : Type} (m : Logged α) (f : α → Logged β) :
    (m >>= f).result = (f m.result).result := rfl

@[simp] theorem bind_of_pure {α β : Type} (a : α) (f : α → Logged β) : (pure a >>= f) = f a := rfl

@[simp] theorem records_pure {α : Type} (a : α) : (pure a : Logged α).records = [] := rfl

@[simp] theorem records_bind {α β : Type} (m : Logged α) (f : α → Logged β) :
    (m >>= f).records = m.records ++ (f m.result).records := rfl

end Logged

end Reckoner
