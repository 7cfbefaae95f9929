import Reckoner.Service
import Reckoner.Work

/-!
# What the handling of a request comes to

Each step of the handling is summed up by what comes out of it and by the progress that it leaves.
Only opening and leaving a scope change the context, so all that is done within a scope finds one id
in force. `serve_eq` puts the steps together.
-/

namespace Reckoner

/-- Whatever is wanted, some id is in force within a scope. -/
theorem Context.text?_enter (c : Context) (wanted : Option String) (texts : Nat → String) :
    (c.enter wanted).text? texts = some (((c.enter wanted).text? texts).getD "") := by
  simp only [enter, bind, text?]
  split <;> rfl

namespace Service

open Net (Answer Request)

/-! ## Steps -/

namespace Handling

variable {α β : Type} {texts : Nat → String} {p : Progress}

/-- Handling a request is work on its progress. -/
theorem runFrom_eq (step : Handling α) : step.runFrom p = Work.runFrom p step :=
  rfl

@[simp] theorem runFrom_currentId? :
    Work.runFrom p (currentId? texts) = (.ok (p.context.text? texts), p) :=
  rfl

@[simp] theorem runFrom_emit (record : Log.Record) :
    Work.runFrom p (emit texts record) =
      (.ok (), { p with entries := p.entries ++ [p.context.stamp texts record] }) :=
  rfl

@[simp] theorem runFrom_forM_emit (records : List Log.Record) :
    Work.runFrom p (forM records (emit texts)) =
      (.ok (), { p with entries := p.entries ++ records.map (p.context.stamp texts) }) := by
  induction records generalizing p with
  | nil => simp
  | cons record records ih => simp [ih, Context.stamp]

theorem runFrom_carryOut (act : Query.Cache → Logged Effect) :
    Work.runFrom p (carryOut texts act) =
      ((act p.cache).result.answer,
        { cache := (act p.cache).result.cache
          context := p.context
          entries := p.entries ++ (act p.cache).records.map (p.context.stamp texts)
          sent := p.sent ++ (act p.cache).result.sent }) := by
  simp only [carryOut, Work.runFrom_bind, Work.runFrom_get, runFrom_forM_emit, Work.runFrom_modify]
  rfl

/-- What comes out once problems are reported under an id. -/
def reported (report : Option String → Problem → Answer) (id? : Option String) :
    Except Failure Answer → Except Failure Answer
  | .error (.problem problem) => .ok (report id? problem)
  | outcome => outcome

theorem runFrom_reporting (report : Option String → Problem → Answer) (step : Handling Answer) :
    Work.runFrom p (reporting texts report step) =
      (reported report ((Work.runFrom p step).2.context.text? texts) (Work.runFrom p step).1,
        (Work.runFrom p step).2) := by
  rw [reporting, Work.runFrom_tryCatch]
  rcases Work.runFrom p step with ⟨(problem | _) | answer, q⟩
  · simp [reported]
  · rfl
  · rfl

theorem runFrom_inScope (wanted : Option String) (step : String → Handling α) :
    Work.runFrom p (inScope texts wanted step) =
      let opened := { p with context := p.context.enter wanted }
      let done := Work.runFrom opened (step ((opened.context.text? texts).getD ""))
      (done.1, { done.2 with context := done.2.context.leave }) := by
  simp [inScope]

end Handling

/-! ## The service -/

/-- The context within which a request is served. -/
def State.within (state : State) (r : Request) : Context :=
  state.context.enter (r.header? "x-request-id")

/-- The id under which a request is served. -/
def State.idOf (state : State) (texts : Nat → String) (r : Request) : String :=
  ((state.within r).text? texts).getD ""

theorem State.text?_within (state : State) (texts : Nat → String) (r : Request) :
    (state.within r).text? texts = some (state.idOf texts r) :=
  Context.text?_enter ..

/-- What the reply says, told from what was done for the request. -/
def showOutcome (s : Settings) (r : Request) (requestId : String) :
    Except Failure Answer → Shown
  | .ok answer => showAnswer s r requestId answer
  | .error (.problem problem) => showAnswer s r requestId (report (some requestId) problem)
  | .error .unhandled => .broken

variable (s : Settings) (world : World) (state : State) (r : Request)

theorem runFrom_handle :
    let effect := perform s world.network state.cache r
    (handle s world r).runFrom ⟨state.cache, state.context, [], []⟩ =
      ((Handling.reported report (some (state.idOf world.ids r)) effect.result.answer).map
          (state.idOf world.ids r, ·),
        { cache := effect.result.cache
          context := (state.within r).leave
          entries := (record "request.start" r :: effect.records ++ [record "request.end" r]).map
            ((state.within r).stamp world.ids)
          sent := effect.result.sent }) := by
  intro effect
  rw [handle, Handling.runFrom_eq, Handling.runFrom_inScope]
  simp only [Work.runFrom_bind, Handling.runFrom_emit, Work.runFrom_tryFinally,
    Handling.runFrom_reporting, Handling.runFrom_carryOut]
  have named : (state.context.enter (r.header? "x-request-id")).text? world.ids =
      some (state.idOf world.ids r) := state.text?_within world.ids r
  rw [named]
  cases Handling.reported report (some (state.idOf world.ids r)) effect.result.answer <;>
    simp [State.within, Except.map, effect]

theorem serve_eq :
    let effect := perform s world.network state.cache r
    serve s world state r =
      ({ shown := showOutcome s r (state.idOf world.ids r) effect.result.answer
         entries := (record "request.start" r :: effect.records ++ [record "request.end" r]).map
           ((state.within r).stamp world.ids)
         sent := effect.result.sent },
        { cache := effect.result.cache, context := (state.within r).leave }) := by
  intro effect
  have shown : showHandled s r
      ((Handling.reported report (some (state.idOf world.ids r)) effect.result.answer).map
        (state.idOf world.ids r, ·)) =
      showOutcome s r (state.idOf world.ids r) effect.result.answer := by
    rcases effect.result.answer with (problem | _) | answer <;> rfl
  rw [serve, runFrom_handle, ← shown]

end Service

end Reckoner
