/-! Steps that are repeated until they have an answer, in any monad. A limit that no input comes
near makes every repetition end. -/

namespace LineShell.Unix

/-- Repeats a step until it has an answer, or else gives another one. -/
def iterate {m : Type → Type} [Monad m] {σ α : Type} (otherwise : m α) (step : σ → m (σ ⊕ α)) :
    Nat → σ → m α
  | 0, _ => otherwise
  | limit + 1, s => do
    match ← step s with
    | .inl s => iterate otherwise step limit s
    | .inr a => return a

/-- The most steps of one repetition. -/
def maxSteps : Nat := 0x40000000

end LineShell.Unix
