/-!
# Traced computations

A computation that may fail and leaves a trace of what it did. The trace of a computation that
fails holds everything done before it failed.
-/

namespace RichTemplate

structure Traced (ε τ α : Type) where
  result : Except ε α
  trace : List τ

namespace Traced

variable {ε τ α β : Type}

def ofExcept (result : Except ε α) : Traced ε τ α :=
  ⟨result, []⟩

def mark (t : τ) : Traced ε τ Unit :=
  ⟨.ok (), [t]⟩

def fail (e : ε) : Traced ε τ α :=
  ofExcept (.error e)

def andThen (x : Traced ε τ α) (f : α → Traced ε τ β) : Traced ε τ β :=
  match x.result with
  | .ok a =>
    let y := f a
    ⟨y.result, x.trace ++ y.trace⟩
  | .error e => ⟨.error e, x.trace⟩

instance : Monad (Traced ε τ) where
  pure a := ofExcept (.ok a)
  bind := andThen

def mapResult (f : Except ε α → Except ε β) (x : Traced ε τ α) : Traced ε τ β :=
  ⟨f x.result, x.trace⟩

def mapTrace {τ' : Type} (f : τ → τ') (x : Traced ε τ α) : Traced ε τ' α :=
  ⟨x.result, x.trace.map f⟩

def mapResultError {ε' : Type} (f : ε → ε') (x : Traced ε τ α) : Traced ε' τ α :=
  ⟨x.result.mapError f, x.trace⟩

end Traced

end RichTemplate
