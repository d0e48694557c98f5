import LineShell.Unix.Machine

/-! Work that shares the machine with other work. Work is a function of the machine that runs until
it is done, until it has to wait, or until it starts other work; in the last two cases what is left
of it is a function again. So what several processes do can be interleaved, and whoever does that
decides about the order. -/

namespace LineShell.Unix

/-- What happens when some work, of which nobody needs an answer, goes on. -/
inductive Course
  | ended (m : Machine)
  /-- The rest can go on as soon as the machine fulfils a condition. -/
  | waits (ready : Machine → Bool) (m : Machine) (rest : Machine → Course)
  /-- Other work is started beside the rest. -/
  | forks (child : Machine → Course) (m : Machine) (rest : Machine → Course)

/-- What happens when some work with an answer goes on. -/
inductive Progress (α : Type)
  | done (a : α) (m : Machine)
  | waits (ready : Machine → Bool) (m : Machine) (rest : Machine → Progress α)
  | forks (child : Machine → Course) (m : Machine) (rest : Machine → Progress α)

namespace Progress

/-- Goes on with other work when the answer is there. -/
def bind {α β : Type} (f : α → Machine → Progress β) : Progress α → Progress β
  | done a m => f a m
  | waits ready m rest => waits ready m fun m => (rest m).bind f
  | forks child m rest => forks child m fun m => (rest m).bind f

/-- Forgets that there is an answer. -/
def course {α : Type} : Progress α → Course
  | done _ m => .ended m
  | waits ready m rest => .waits ready m fun m => (rest m).course
  | forks child m rest => .forks child m fun m => (rest m).course

end Progress

/-- Work with an answer. -/
def Task (α : Type) : Type := Machine → Progress α

namespace Task

/-- Work that is done already. -/
@[always_inline, inline]
protected def pure {α : Type} (a : α) : Task α := fun m => .done a m

/-- Work after other work. -/
@[always_inline, inline]
protected def bind {α β : Type} (x : Task α) (f : α → Task β) : Task β := fun m =>
  match x m with
  | .done a m => f a m
  | p => p.bind f

instance : Monad Task where
  pure := Task.pure
  bind := Task.bind

/-- A request that is answered at once. -/
@[always_inline, inline]
def ask {α : Type} (request : StateM Machine α) : Task α := fun m =>
  let (a, m) := request m
  .done a m

/-- Waits until the machine fulfils a condition; if it does so already that takes no time. -/
def await (ready : Machine → Bool) : Task Unit := fun m =>
  if ready m then .done () m else .waits ready m (.done ())

/-- Lets others go on for a while. -/
def yield : Task Unit := fun m => .waits (fun _ => true) m (.done ())

/-- Starts work beside this one. -/
def spawn {α : Type} (child : Task α) : Task Unit := fun m =>
  .forks (fun m => (child m).course) m (.done ())

end Task

/-- Work that can go on as soon as the machine fulfils a condition. -/
structure Thread where
  ready : Machine → Bool
  rest : Machine → Course

/-- Follows some work until it ends or waits. Whatever it starts is put behind all others, and so is
the rest of it. -/
def Course.follow (others : List Thread) : Course → Machine × List Thread
  | ended m => (m, others)
  | waits ready m rest => (m, others ++ [⟨ready, rest⟩])
  | forks child m rest => (rest m).follow (others ++ [⟨fun _ => true, child⟩])

namespace Machine

/-- The number of commands that are run before it is the turn of another process. -/
def turnLength : Nat := 200

/-- Lets work go on by turns, until all of it has ended or waits for ever. -/
def schedule : Nat → List Thread → Machine → Machine
  | 0, _, m => m
  | turns + 1, threads, m =>
    match threads.span (!·.ready m) with
    | (_, []) => m
    | (before, thread :: behind) =>
      let (m, threads) := (thread.rest { m with turn := turnLength }).follow (behind ++ before)
      m.schedule turns threads

end Machine

end LineShell.Unix
