/-!
# Work that can break off

Work is done step by step on a state, and every step finds what the steps before it left. A failure
breaks it off and leaves what was done until then, unless it is caught.

`Work.runFrom` tells what comes out and what was done, and it has one equation for each way to put
work together.
-/

namespace Reckoner

/-- Work on a state `σ` that can break off with a failure `ε`. -/
abbrev Work (ε σ α : Type) := ExceptT ε (StateM σ) α

namespace Work

variable {ε σ α β : Type} {state : σ}

def runFrom (state : σ) (work : Work ε σ α) : Except ε α × σ :=
  work.run state

@[simp] theorem runFrom_pure (a : α) : (pure a : Work ε σ α).runFrom state = (.ok a, state) :=
  rfl

@[simp] theorem runFrom_throw (failure : ε) :
    (throw failure : Work ε σ α).runFrom state = (.error failure, state) :=
  rfl

@[simp] theorem runFrom_get : (get : Work ε σ σ).runFrom state = (.ok state, state) :=
  rfl

@[simp] theorem runFrom_set (other : σ) :
    (set other : Work ε σ PUnit).runFrom state = (.ok (), other) :=
  rfl

@[simp] theorem runFrom_modify (change : σ → σ) :
    (modify change : Work ε σ PUnit).runFrom state = (.ok (), change state) :=
  rfl

@[simp] theorem runFrom_bind (work : Work ε σ α) (next : α → Work ε σ β) :
    (work >>= next).runFrom state = match work.runFrom state with
      | (.ok a, done) => (next a).runFrom done
      | (.error failure, done) => (.error failure, done) := by
  simp only [runFrom, ExceptT.run, bind, ExceptT.bind, ExceptT.mk, ExceptT.bindCont, StateT.bind]
  rcases work state with ⟨_ | _, _⟩ <;> rfl

@[simp] theorem runFrom_map (f : α → β) (work : Work ε σ α) :
    (f <$> work).runFrom state = match work.runFrom state with
      | (.ok a, done) => (.ok (f a), done)
      | (.error failure, done) => (.error failure, done) := by
  rw [← bind_pure_comp, runFrom_bind]
  simp

@[simp] theorem runFrom_tryCatch (work : Work ε σ α) (handler : ε → Work ε σ α) :
    (tryCatch work handler).runFrom state = match work.runFrom state with
      | (.ok a, done) => (.ok a, done)
      | (.error failure, done) => (handler failure).runFrom done := by
  simp only [runFrom, tryCatch, tryCatchThe, MonadExceptOf.tryCatch, ExceptT.tryCatch, ExceptT.run,
    ExceptT.mk, bind, StateT.bind]
  rcases work state with ⟨_ | _, _⟩ <;> rfl

/-- What is done in the end is done after a failure as well. The failure goes on then, unless a new
one takes its place. -/
@[simp] theorem runFrom_tryFinally (work : Work ε σ α) (cleanup : Work ε σ Unit) :
    (tryFinally work cleanup).runFrom state =
      match cleanup.runFrom (work.runFrom state).2 with
      | (.ok (), done) => ((work.runFrom state).1, done)
      | (.error failure, done) => (.error failure, done) := by
  show ((fun a => a.1) <$> tryFinally' work fun _ => cleanup) state =
    match cleanup (work state).2 with
    | (.ok (), done) => ((work state).1, done)
    | (.error failure, done) => (.error failure, done)
  simp only [tryFinally', Functor.map, ExceptT.map, ExceptT.mk, bind, StateT.bind]
  rcases work state with ⟨_ | _, done⟩
  · simp only [pure]
    rcases cleanup done with ⟨_ | _, _⟩ <;> rfl
  · simp only [pure]
    rcases cleanup done with ⟨_ | _, _⟩ <;> rfl

end Work

end Reckoner
