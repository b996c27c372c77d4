/-!
Records of what the library did, collected beside the values it computes.
-/
namespace Sexpr

inductive Level where
  | trace
  | debug
  | info
  deriving DecidableEq

inductive Activity where
  | scanning
  | reading
  | responding
  | testing
  deriving DecidableEq

structure Record where
  level : Level
  activity : Activity
  message : String
  deriving DecidableEq

/-- A value and the records made on the way to it, in order. -/
structure Logged (α : Type) where
  value : α
  records : List Record

namespace Logged

instance : Monad Logged where
  pure value := ⟨value, []⟩
  bind first next :=
    let second := next first.value
    ⟨second.value, first.records ++ second.records⟩

def note (level : Level) (activity : Activity) (message : String) : Logged Unit :=
  ⟨(), [⟨level, activity, message⟩]⟩

theorem records_pure (value : α) : (pure value : Logged α).records = [] := rfl

theorem value_bind (first : Logged α) (next : α → Logged β) :
    (first >>= next).value = (next first.value).value := rfl

theorem records_bind (first : Logged α) (next : α → Logged β) :
    (first >>= next).records = first.records ++ (next first.value).records := rfl

end Logged

end Sexpr
