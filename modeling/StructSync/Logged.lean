import StructSync.Log

/-!
# Values with a log

`Logged α` is a value together with the records made on the way to it, oldest first. Working out
the value never depends on the records: `value_bind` and `log_bind` take the two apart.
-/

namespace StructSync

/-- A value and the records made on the way to it. -/
structure Logged (α : Type) where
  value : α
  log : List LogRecord
deriving DecidableEq

namespace Logged

variable {α β : Type}

instance : Monad Logged where
  pure a := ⟨a, []⟩
  bind x f := ⟨(f x.value).value, x.log ++ (f x.value).log⟩

@[simp] theorem value_pure (a : α) : (pure a : Logged α).value = a := rfl

@[simp] theorem log_pure (a : α) : (pure a : Logged α).log = [] := rfl

@[simp] theorem value_bind (x : Logged α) (f : α → Logged β) :
    (x >>= f).value = (f x.value).value := rfl

@[simp] theorem log_bind (x : Logged α) (f : α → Logged β) :
    (x >>= f).log = x.log ++ (f x.value).log := rfl

/-- Leaves a record. -/
def note (level : Level) (origin : Origin) (message : String) : Logged Unit :=
  ⟨(), [⟨level, origin, message⟩]⟩

@[simp] theorem value_note (level : Level) (origin : Origin) (message : String) :
    (note level origin message).value = () := rfl

end Logged

end StructSync
