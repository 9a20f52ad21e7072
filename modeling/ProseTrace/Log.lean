/-!
# Log entries

Operations that log return their value together with the entries that they made, oldest first.
-/

namespace ProseTrace

namespace Log

inductive Level where
  | debug
  | info
  | warning
  deriving DecidableEq

structure Entry where
  level : Level
  text : String
  deriving DecidableEq

end Log

/-- A value and what was logged on the way to it. -/
structure Logged (α : Type) where
  value : α
  entries : List Log.Entry

namespace Logged

def write (entries : List Log.Entry) : Logged Unit := ⟨(), entries⟩

def note (level : Log.Level) (text : String) : Logged Unit := write [⟨level, text⟩]

instance : Monad Logged where
  pure value := ⟨value, []⟩
  bind x f := ⟨(f x.value).value, x.entries ++ (f x.value).entries⟩

@[simp] theorem value_pure {α : Type} (a : α) : (pure a : Logged α).value = a := rfl

@[simp] theorem value_bind {α β : Type} (x : Logged α) (f : α → Logged β) :
    (x >>= f).value = (f x.value).value := rfl

instance : LawfulMonad Logged := by
  refine LawfulMonad.mk' Logged ?_ ?_ ?_
  · intro _ x
    show (⟨x.value, x.entries ++ []⟩ : Logged _) = x
    rw [List.append_nil]
  · intros
    rfl
  · intro _ _ _ x f g
    show (⟨_, (x.entries ++ (f x.value).entries) ++ (g (f x.value).value).entries⟩ : Logged _) =
      ⟨_, x.entries ++ ((f x.value).entries ++ (g (f x.value).value).entries)⟩
    rw [List.append_assoc]
    rfl

end Logged

end ProseTrace
