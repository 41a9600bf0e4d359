import CamelSpell.Log.Record

/-!
# Steps that keep a log

A step yields a value or fails; either way the records that it wrote before are kept in their order.
-/

namespace CamelSpell
namespace Log

structure Logged (ε α : Type) where
  records : List Record
  result : Except ε α

namespace Logged

variable {ε α β : Type}

protected def pure (a : α) : Logged ε α := ⟨[], .ok a⟩

protected def bind (x : Logged ε α) (f : α -> Logged ε β) : Logged ε β :=
  match x.result with
  | .ok a => let y := f a; ⟨x.records ++ y.records, y.result⟩
  | .error e => ⟨x.records, .error e⟩

instance : Monad (Logged ε) where
  pure := Logged.pure
  bind := Logged.bind

def fail (e : ε) : Logged ε α := ⟨[], .error e⟩

def mapError {ε' : Type} (f : ε -> ε') (x : Logged ε α) : Logged ε' α :=
  ⟨x.records, x.result.mapError f⟩

def ofExcept (x : Except ε α) : Logged ε α := ⟨[], x⟩

def write (scope : Option String) (s : Severity) (message : String) (fields : Fields) :
    Logged ε Unit :=
  ⟨[⟨s, scope, message, fields⟩], .ok ()⟩

def debug (scope : Option String) (message : String) : Logged ε Unit :=
  write scope .debug message []

def warn (scope : Option String) (message : String) : Logged ε Unit :=
  write scope .warn message []

@[simp] theorem records_pure (a : α) : (pure a : Logged ε α).records = [] := rfl

@[simp] theorem result_pure (a : α) : (pure a : Logged ε α).result = .ok a := rfl

theorem result_bind (x : Logged ε α) (f : α -> Logged ε β) :
    (x >>= f).result = x.result.bind fun a => (f a).result := by
  show (Logged.bind x f).result = _
  unfold Logged.bind
  split <;> rename_i h <;> rw [h] <;> rfl

theorem exists_of_result_bind {x : Logged ε α} {f : α -> Logged ε β} {b : β}
    (h : (x >>= f).result = .ok b) : exists a, x.result = .ok a ∧ (f a).result = .ok b := by
  rw [result_bind] at h
  cases hx : x.result with
  | ok a =>
      rw [hx] at h
      exact ⟨a, rfl, h⟩
  | error e =>
      rw [hx] at h
      cases h

theorem records_bind_ok {x : Logged ε α} {a : α} (f : α -> Logged ε β) (h : x.result = .ok a) :
    (x >>= f).records = x.records ++ (f a).records := by
  show (Logged.bind x f).records = _
  simp [Logged.bind, h]

theorem records_bind_error {x : Logged ε α} {e : ε} (f : α -> Logged ε β)
    (h : x.result = .error e) : (x >>= f).records = x.records := by
  show (Logged.bind x f).records = _
  simp [Logged.bind, h]

theorem result_mapError {ε' : Type} (f : ε -> ε') (x : Logged ε α) :
    (x.mapError f).result = x.result.mapError f :=
  rfl

theorem mapError_ok_iff {ε' : Type} {f : ε -> ε'} {x : Logged ε α} {a : α} :
    (x.mapError f).result = .ok a <-> x.result = .ok a := by
  rcases x with ⟨records, result⟩
  cases result with
  | ok b =>
      show (Except.ok b : Except ε' α) = .ok a <-> (Except.ok b : Except ε α) = .ok a
      rw [Except.ok.injEq, Except.ok.injEq]
  | error e =>
      show (Except.error (f e) : Except ε' α) = .ok a <-> (Except.error e : Except ε α) = .ok a
      exact ⟨nofun, nofun⟩

theorem bind_congr {x : Logged ε α} {f g : α -> Logged ε β}
    (h : forall a, x.result = .ok a -> f a = g a) : (x >>= f) = (x >>= g) := by
  show Logged.bind x f = Logged.bind x g
  unfold Logged.bind
  cases hx : x.result with
  | ok a => simp only [h a hx]
  | error e => rfl

end Logged
end Log
end CamelSpell
