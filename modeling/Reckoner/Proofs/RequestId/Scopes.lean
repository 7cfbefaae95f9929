import Reckoner.RequestId.Scope

/-!
# What scopes leave in force

`Block.account` tells what a block comes to without tickets and without an id that is stored
anywhere. The bindings in force are handed down: a scope adds one for its body, and what follows the
scope has those from before. `runFrom_run` shows that a run comes to just that. It goes by induction
on the block, and what carries it is that a run only adds tickets, so the one of a scope is still
good when the scope is left.
-/

namespace Reckoner

/-! ## Accounts -/

/-- An id is in force for the body of a scope, or since it was put in force by hand. -/
inductive Binding where
  | ofScope (id : RequestId)
  | ofPut (id : RequestId)
  deriving DecidableEq, Repr

namespace Binding

def id : Binding → RequestId
  | ofScope id | ofPut id => id

/-- The id in force under some bindings, innermost first, where `outer` was in force before. -/
def innermost (outer : Option RequestId) : List Binding → Option RequestId
  | [] => outer
  | binding :: _ => some binding.id

/-- What those are told who ask for the id in force. -/
def answer (texts : Nat → String) (outer : Option RequestId) (bindings : List Binding) :
    Option String :=
  (innermost outer bindings).map (·.text texts)

end Binding

open Binding (innermost answer)

structure Account (ε : Type) where
  outcome : Except ε Unit
  /-- The bindings that are in force then, innermost first. -/
  bindings : List Binding
  generated : Nat
  /-- The bindings that were in force each time when someone asked. -/
  asked : List (List Binding)

namespace Account

variable {ε : Type}

/-- The account of what comes next, with what was asked before it. -/
def andThen (first : Account ε) (next : List Binding → Nat → Account ε) : Account ε :=
  let second := next first.bindings first.generated
  { second with asked := first.asked ++ second.asked }

/-- Only these bindings stay in force. -/
def backTo (account : Account ε) (bindings : List Binding) : Account ε :=
  { account with bindings }

/-- After a failure nobody goes back, so all that is in force stays. -/
def backIfDone (account : Account ε) (bindings : List Binding) : Account ε :=
  match account.outcome with
  | .ok () => account.backTo bindings
  | .error _ => account

theorem backIfDone_of_ok {account : Account ε} (ok : account.outcome = .ok ())
    (bindings : List Binding) : account.backIfDone bindings = account.backTo bindings := by
  simp only [backIfDone, ok]

theorem backIfDone_of_error {account : Account ε} {failure : ε}
    (failed : account.outcome = .error failure) (bindings : List Binding) :
    account.backIfDone bindings = account := by
  simp only [backIfDone, failed]

end Account

/-- The account of a block that starts under some bindings, after `n` ids were generated. -/
def Block.account {ε : Type} (texts : Nat → String) (outer : Option RequestId) :
    Block ε → List Binding → Nat → Account ε
  | done, bindings, n => ⟨.ok (), bindings, n, []⟩
  | ask next, bindings, n =>
    let account := (next (answer texts outer bindings)).account texts outer bindings n
    { account with asked := bindings :: account.asked }
  | put wanted, bindings, n =>
    let (id, n) := RequestId.choose wanted n
    ⟨.ok (), .ofPut id :: bindings, n, []⟩
  | raise failure, bindings, n => ⟨.error failure, bindings, n, []⟩
  | andThen first second, bindings, n =>
    let account := first.account texts outer bindings n
    match account.outcome with
    | .ok () => account.andThen (second.account texts outer)
    | .error _ => account
  | rescue body handler, bindings, n =>
    let account := body.account texts outer bindings n
    match account.outcome with
    | .ok () => account
    | .error failure => account.andThen ((handler failure).account texts outer)
  | scope wanted body, bindings, n =>
    let (id, n) := RequestId.choose wanted n
    ((body (id.text texts)).account texts outer (.ofScope id :: bindings) n).backTo bindings
  | pair wanted body, bindings, n =>
    let (id, n) := RequestId.choose wanted n
    (body.account texts outer (.ofPut id :: bindings) n).backIfDone bindings
  | guardedPair wanted body, bindings, n =>
    let (id, n) := RequestId.choose wanted n
    (body.account texts outer (.ofPut id :: bindings) n).backTo bindings

section

variable {ε : Type} {texts : Nat → String} {used : ε} {flow : Flow} {wanted : Option String}

/-! ## Steps -/

/-- The flow `done` back where `flow` was, with the ticket used that was handed out then. -/
def Flow.backFrom (flow done : Flow) (later : List Ticket.State) : Flow :=
  { done with current := flow.current, tickets := flow.tickets ++ .used :: later }

namespace Scoped

variable {α : Type} {done : Flow} {outcome : Except ε α} {later : List Ticket.State}

@[simp] theorem runFrom_put :
    (put wanted : Scoped ε Ticket).runFrom flow =
      (.ok ⟨flow.tickets.length⟩, flow.replace wanted) :=
  rfl

@[simp] theorem runFrom_current? :
    (current? texts : Scoped ε (Option String)).runFrom flow =
      (.ok (flow.current.map (·.text texts)), flow) :=
  rfl

theorem runFrom_goBack {ticket : Ticket} {back : Option RequestId}
    (valid : flow.tickets[ticket.place]? = some (.valid back)) :
    (goBack used ticket).runFrom flow = (.ok (), flow.goneBack ticket back) := by
  simp [goBack, valid]

/-- As long as the work only adds tickets, the way back is open. -/
theorem runFrom_goBack_from (valid : done.tickets = flow.tickets ++ .valid flow.current :: later) :
    (goBack used ⟨flow.tickets.length⟩).runFrom done = (.ok (), flow.backFrom done later) := by
  have good : done.tickets[flow.tickets.length]? = some (.valid flow.current) := by
    simp [valid]
  rw [runFrom_goBack good]
  simp [Flow.goneBack, Flow.backFrom, valid]

theorem runFrom_within {work : Scoped ε α}
    (worked : work.runFrom (flow.replace wanted) = (outcome, done))
    (valid : done.tickets = flow.tickets ++ .valid flow.current :: later) :
    (within used wanted work).runFrom flow = (outcome, flow.backFrom done later) := by
  simp [within, worked, runFrom_goBack_from valid]

theorem runFrom_meanwhile_of_ok {work : Scoped ε Unit}
    (worked : work.runFrom (flow.replace wanted) = (.ok (), done))
    (valid : done.tickets = flow.tickets ++ .valid flow.current :: later) :
    (meanwhile used wanted work).runFrom flow = (.ok (), flow.backFrom done later) := by
  simp [meanwhile, worked, runFrom_goBack_from valid]

theorem runFrom_meanwhile_of_error {work : Scoped ε Unit} {failure : ε}
    (failed : work.runFrom (flow.replace wanted) = (.error failure, done)) :
    (meanwhile used wanted work).runFrom flow = (.error failure, done) := by
  simp [meanwhile, failed]

theorem runFrom_scope {body : String → Scoped ε α}
    (worked : (body ((RequestId.choose wanted flow.generated).1.text texts)).runFrom
      (flow.replace wanted) = (outcome, done))
    (valid : done.tickets = flow.tickets ++ .valid flow.current :: later) :
    (scope texts used wanted body).runFrom flow = (outcome, flow.backFrom done later) :=
  runFrom_within worked valid

end Scoped

/-! ## Runs -/

namespace Account

variable {outer : Option RequestId} {account : Account ε} {later : List Ticket.State}

/-- The flow that has come to what the account tells, with the tickets that were added. -/
def reached (texts : Nat → String) (outer : Option RequestId) (account : Account ε) (flow : Flow)
    (later : List Ticket.State) : Flow where
  current := innermost outer account.bindings
  generated := account.generated
  tickets := flow.tickets ++ later
  told := flow.told ++ account.asked.map (answer texts outer)

theorem reached_andThen {next : List Binding → Nat → Account ε} {between : List Ticket.State} :
    (next account.bindings account.generated).reached texts outer
        (account.reached texts outer flow between) later =
      (account.andThen next).reached texts outer flow (between ++ later) := by
  simp [reached, andThen]

theorem reached_replace :
    account.reached texts outer (flow.replace wanted) later =
      account.reached texts outer flow (.valid flow.current :: later) := by
  simp [reached, Flow.replace]

variable {work : Scoped ε Unit} {bindings : List Binding}

theorem backFrom_reached {ticket : Ticket.State}
    (current : flow.current = innermost outer bindings) :
    flow.backFrom (account.reached texts outer flow (ticket :: later)) later =
      (account.backTo bindings).reached texts outer flow (.used :: later) := by
  simp [Flow.backFrom, reached, backTo, current]

theorem exists_reached_within (current : flow.current = innermost outer bindings)
    (worked : work.runFrom (flow.replace wanted) =
      (account.outcome, account.reached texts outer (flow.replace wanted) later)) :
    ∃ added, (Scoped.within used wanted work).runFrom flow =
      ((account.backTo bindings).outcome,
        (account.backTo bindings).reached texts outer flow added) := by
  rw [reached_replace] at worked
  rw [Scoped.runFrom_within worked rfl, backFrom_reached current]
  exact ⟨_, rfl⟩

theorem exists_reached_meanwhile (current : flow.current = innermost outer bindings)
    (worked : work.runFrom (flow.replace wanted) =
      (account.outcome, account.reached texts outer (flow.replace wanted) later)) :
    ∃ added, (Scoped.meanwhile used wanted work).runFrom flow =
      ((account.backIfDone bindings).outcome,
        (account.backIfDone bindings).reached texts outer flow added) := by
  rw [reached_replace] at worked
  cases outcome : account.outcome with
  | ok =>
    rw [outcome] at worked
    rw [Scoped.runFrom_meanwhile_of_ok worked rfl, backFrom_reached current,
      backIfDone_of_ok outcome]
    exact ⟨_, by rw [← outcome]; rfl⟩
  | error failure =>
    rw [outcome] at worked
    rw [Scoped.runFrom_meanwhile_of_error worked, backIfDone_of_error outcome]
    exact ⟨_, by rw [outcome]⟩

end Account

open Scoped Account in
/-- A run comes to what the account tells, and takes away no ticket that was handed out before. -/
theorem Block.runFrom_run (outer : Option RequestId) (block : Block ε) (flow : Flow)
    (bindings : List Binding) (current : flow.current = innermost outer bindings) :
    let account := block.account texts outer bindings flow.generated
    ∃ later, (block.run texts used).runFrom flow =
      (account.outcome, account.reached texts outer flow later) := by
  induction block generalizing flow bindings with
  | done | raise _ => exact ⟨[], by simp [run, account, reached, ← current]⟩
  | put wanted =>
    refine ⟨[.valid flow.current], ?_⟩
    simp [run, account, reached, Flow.replace, innermost, Binding.id]
  | ask next ih =>
    have told : flow.current.map (·.text texts) = answer texts outer bindings := by
      rw [current, answer]
    obtain ⟨later, ran⟩ := ih (answer texts outer bindings)
      { flow with told := flow.told ++ [answer texts outer bindings] } bindings current
    refine ⟨later, ?_⟩
    simp only [run, runFrom_current?, Work.runFrom_bind, Work.runFrom_modify, told, ran]
    simp [account, reached]
  -- What comes second starts from what was reached, under the bindings that are left then.
  | andThen first second ihFirst ihSecond =>
    obtain ⟨between, ranFirst⟩ := ihFirst flow bindings current
    simp only [run, Work.runFrom_bind, ranFirst, account]
    cases outcome : (first.account texts outer bindings flow.generated).outcome with
    | error failure => exact ⟨between, by simp only [outcome]⟩
    | ok =>
      obtain ⟨later, ranSecond⟩ := ihSecond (reached texts outer _ flow between) _ rfl
      exact ⟨between ++ later, by rw [← reached_andThen]; exact ranSecond⟩
  | rescue body handler ihBody ihHandler =>
    obtain ⟨between, ranBody⟩ := ihBody flow bindings current
    simp only [run, Work.runFrom_tryCatch, ranBody, account]
    cases outcome : (body.account texts outer bindings flow.generated).outcome with
    | ok => exact ⟨between, by simp only [outcome]⟩
    | error failure =>
      obtain ⟨later, ranHandler⟩ := ihHandler failure (reached texts outer _ flow between) _ rfl
      exact ⟨between ++ later, by rw [← reached_andThen]; exact ranHandler⟩
  -- The body starts with the new id in force, and its account with a binding for it. Its tickets
  -- come after the one of the scope, which is therefore still in its place.
  | scope wanted body ih =>
    obtain ⟨later, ran⟩ := ih _ (flow.replace wanted) (.ofScope _ :: bindings) rfl
    exact exists_reached_within current ran
  | pair wanted body ih =>
    obtain ⟨later, ran⟩ := ih (flow.replace wanted) (.ofPut _ :: bindings) rfl
    exact exists_reached_meanwhile current ran
  | guardedPair wanted body ih =>
    obtain ⟨later, ran⟩ := ih (flow.replace wanted) (.ofPut _ :: bindings) rfl
    exact exists_reached_within current ran

/-! ## Scopes -/

variable (texts)

/-- A run from `flow` comes to what the account tells, and whoever asks is told the innermost id. -/
structure Account.Tells (account : Account ε) (flow : Flow) (ran : Except ε Unit × Flow) :
    Prop where
  outcome : ran.1 = account.outcome
  current : ran.2.current = innermost flow.current account.bindings
  told : ran.2.told = flow.told ++ account.asked.map (answer texts flow.current)

/-- A scope that is run from `flow` has an id of its own, `inside` is how its body runs under that
id, `asked` are the bindings within the scope under which someone asks there, and `outside` is how
the scope runs. -/
structure Encloses (wanted : Option String) (flow : Flow) (own : RequestId)
    (asked : List (List Binding)) (inside outside : Except ε Unit × Flow) : Prop where
  given : ∀ id, wanted = some id → id ≠ "" → own.text texts = id
  generated : wanted = none ∨ wanted = some "" → own = .generated flow.generated
  nonempty : own.text texts ≠ ""
  told : outside.2.told = flow.told ++ asked.map (answer texts (some own))
  /-- Where nothing else is in force within the scope, its own id is. -/
  undisturbed : ∀ i, asked[i]? = some [] →
    outside.2.told[flow.told.length + i]? = some (some (own.text texts))
  restored : outside.2.current = flow.current
  passed : outside.1 = inside.1

variable {texts}

theorem Block.account_tells (block : Block ε) (flow : Flow) :
    (block.account texts flow.current [] flow.generated).Tells texts flow
      ((block.run texts used).runFrom flow) := by
  obtain ⟨later, ran⟩ := block.runFrom_run flow.current flow [] rfl
  rw [ran]
  exact ⟨rfl, rfl, rfl⟩

theorem RequestId.text_choose_ne_empty (nonempty : ∀ n, texts n ≠ "") (wanted : Option String)
    (n : Nat) : (choose wanted n).1.text texts ≠ "" := by
  by_cases empty : wanted = none ∨ wanted = some ""
  · rw [choose_of_empty empty]
    exact nonempty n
  · obtain ⟨id, rfl⟩ := Option.ne_none_iff_exists'.1 fun none => empty (.inl none)
    have present : id ≠ "" := fun blank => empty (.inr (congrArg some blank))
    rw [choose_of_nonempty present]
    exact present

theorem told_of_alone {asked : List (List Binding)} {before told : List (Option String)}
    {own : RequestId} (all : told = before ++ asked.map (answer texts (some own))) {i : Nat}
    (alone : asked[i]? = some []) : told[before.length + i]? = some (some (own.text texts)) := by
  rw [all, List.getElem?_append_right (Nat.le_add_right ..)]
  simp [alone, answer, innermost]

/-- A scope leaves in force what it has found, however its body ends, and lets every failure
through. Within it its own id is in force unless something else is that came later. -/
theorem scopes_restore_what_they_found {ε : Type} (texts : Nat → String)
    (nonempty : ∀ n, texts n ≠ "") (used : ε) (flow : Flow) :
    (∀ block : Block ε,
      (block.account texts flow.current [] flow.generated).Tells texts flow
        ((block.run texts used).runFrom flow)) ∧
    ∀ wanted (body : String → Block ε), ∃ own,
      let opened := flow.replace wanted
      let block := body (own.text texts)
      opened.current = some own ∧
        Encloses texts wanted flow own (block.account texts (some own) [] opened.generated).asked
          ((block.run texts used).runFrom opened)
          (((Block.scope wanted body).run texts used).runFrom flow) := by
  refine ⟨fun block => block.account_tells flow, fun wanted body => ?_⟩
  let own := (RequestId.choose wanted flow.generated).1
  refine ⟨own, rfl, ?_⟩
  obtain ⟨later, ran⟩ := (body (own.text texts)).runFrom_run (some own) (flow.replace wanted) [] rfl
  rw [Account.reached_replace] at ran
  rw [Block.run, Scoped.runFrom_scope ran rfl, ran]
  refine ⟨?given, ?generated, RequestId.text_choose_ne_empty nonempty wanted _, rfl,
    fun _ alone => told_of_alone rfl alone, rfl, rfl⟩
  case given =>
    rintro id rfl present
    simp only [own, RequestId.choose_of_nonempty present, RequestId.text]
  case generated =>
    intro empty
    simp only [own, RequestId.choose_of_empty empty]

end

/-- A failure in a scope without an id to give, within a scope where another id was put in force. -/
theorem scopes_restore_what_they_found_after_failure :
    let texts : Nat → String := fun n => String.ofList (List.replicate (n + 1) 'x')
    let ask : Block String := .ask fun _ => .done
    let inner : Block String := .scope none fun id => .andThen ask (.raise id)
    let body : String → Block String := fun _ => .andThen ask (.andThen (.put (some "b"))
      (.andThen ask inner))
    let block : Block String := .rescue (.scope (some "a") body) fun _ => ask
    (∀ n, texts n ≠ "") ∧
      ((block.run texts "used").runFrom .start).1 = .ok () ∧
      ((block.run texts "used").runFrom .start).2.told = [some "a", some "b", some "x", none] ∧
      (((Block.scope (some "a") body).run texts "used").runFrom .start).1 = .error "x" ∧
      (((Block.scope (some "a") body).run texts "used").runFrom .start).2.current = none := by
  intro texts ask inner body block
  have nonempty : ∀ n, texts n ≠ "" := by
    intro n empty
    simpa [texts] using congrArg String.length empty
  obtain ⟨accounts, scopes⟩ := scopes_restore_what_they_found texts nonempty "used" .start
  obtain ⟨own, opened, encloses⟩ := scopes (some "a") body
  have same : own = .given "a" := by
    cases opened
    rfl
  subst same
  refine ⟨nonempty, (accounts block).outcome.trans (by cbv),
    (accounts block).told.trans (by decide +kernel), ?_, encloses.restored⟩
  -- The failure of the body is told by its own account, from where the scope was opened.
  obtain ⟨inside, _⟩ :=
    scopes_restore_what_they_found texts nonempty "used" (Flow.start.replace (some "a"))
  exact (encloses.passed.trans (inside (body "a")).outcome).trans (by cbv)

end Reckoner
