import Mathlib.Data.List.Forall2
import Mathlib.Data.List.Nodup
import Reckoner.Proofs.RequestId.Scopes

/-!
# Tickets and the ids to go back to

A `Context` keeps the ids to go back to in two lists, one for scopes and one for what was replaced
by hand. A `Holder` keeps tickets in their place. The two come to the same id in whatever order
scopes are opened and left and ids are replaced and restored, and no ticket is used twice: `Keeps`
says that the tickets held are good for the ids in the lists, and since none of them is held twice,
going back with one leaves the others good.
-/

namespace Reckoner

/-- What can be done about the id in force. -/
inductive Move where
  | enter (wanted : Option String)
  | leave
  | replace (wanted : Option String)
  | restore

def Context.move (c : Context) : Move → Context
  | .enter wanted => c.enter wanted
  | .leave => c.leave
  | .replace wanted => c.replace wanted
  | .restore => c.restore

/-- A flow, with the tickets of the open scopes, innermost first, and those of the ids that were put
in force by hand, latest first. -/
structure Holder where
  flow : Flow
  scopes : List Ticket
  replaced : List Ticket

namespace Holder

variable {ε α : Type}

def start : Holder :=
  ⟨.start, [], []⟩

def carryOut (h : Holder) (work : Scoped ε α) : Except ε (α × Holder) :=
  match work.runFrom h.flow with
  | (.ok a, flow) => .ok (a, { h with flow })
  | (.error failure, _) => .error failure

def move (used : ε) (h : Holder) : Move → Except ε Holder
  | .enter wanted => do
    let (ticket, h) ← h.carryOut (Scoped.put wanted)
    return { h with scopes := ticket :: h.scopes }
  | .leave =>
    match h.scopes with
    | [] => return h
    | ticket :: scopes => do
      let ((), h) ← h.carryOut (Scoped.goBack used ticket)
      return { h with scopes }
  | .replace wanted => do
    let (ticket, h) ← h.carryOut (Scoped.put wanted)
    return { h with replaced := ticket :: h.replaced }
  | .restore =>
    match h.replaced with
    | [] => return h
    | ticket :: replaced => do
      let ((), h) ← h.carryOut (Scoped.goBack used ticket)
      return { h with replaced }

end Holder

/-! ## Good tickets -/

namespace Flow

variable {flow : Flow} {ticket other : Ticket} {back : Option RequestId} {wanted : Option String}

/-- The ticket is still good, for going back to that id. -/
def Honours (flow : Flow) (ticket : Ticket) (back : Option RequestId) : Prop :=
  flow.tickets[ticket.place]? = some (.valid back)

theorem Honours.place_lt (good : flow.Honours ticket back) : ticket.place < flow.tickets.length :=
  (List.getElem?_eq_some_iff.1 good).1

theorem Honours.replace (good : flow.Honours ticket back) :
    (flow.replace wanted).Honours ticket back := by
  simp only [Honours, Flow.replace]
  rw [List.getElem?_append_left good.place_lt]
  exact good

theorem honours_new : (flow.replace wanted).Honours ⟨flow.tickets.length⟩ flow.current := by
  simp [Honours, Flow.replace]

theorem Honours.ne_new (good : flow.Honours ticket back) : ticket ≠ ⟨flow.tickets.length⟩ := by
  rintro rfl
  exact Nat.lt_irrefl _ good.place_lt

theorem Honours.goneBack (good : flow.Honours ticket back) (different : ticket ≠ other)
    (found : Option RequestId) : (flow.goneBack other found).Honours ticket back := by
  have apart : other.place ≠ ticket.place := by
    rintro same
    cases ticket
    cases other
    exact different (congrArg _ same.symm)
  simp only [Honours, Flow.goneBack]
  rw [List.getElem?_set_ne apart]
  exact good

end Flow

theorem Context.bind_eq (c : Context) (wanted : Option String) :
    c.bind wanted = { c with
      current := some (RequestId.choose wanted c.generated).1
      generated := (RequestId.choose wanted c.generated).2 } := by
  unfold bind RequestId.choose
  split <;> simp_all

theorem Context.enter_eq (c : Context) (wanted : Option String) :
    c.enter wanted = ⟨some (RequestId.choose wanted c.generated).1,
      (RequestId.choose wanted c.generated).2, c.current :: c.scopes, c.replaced⟩ := by
  rw [enter, bind_eq]

theorem Context.replace_eq (c : Context) (wanted : Option String) :
    c.replace wanted = ⟨some (RequestId.choose wanted c.generated).1,
      (RequestId.choose wanted c.generated).2, c.scopes, c.current :: c.replaced⟩ := by
  rw [replace, bind_eq]

/-! ## Moves -/

/-- The tickets held are good for the ids that the context keeps, and none is held twice. -/
structure Keeps (h : Holder) (c : Context) : Prop where
  current : h.flow.current = c.current
  generated : h.flow.generated = c.generated
  scopes : List.Forall₂ h.flow.Honours h.scopes c.scopes
  replaced : List.Forall₂ h.flow.Honours h.replaced c.replaced
  distinct : (h.scopes ++ h.replaced).Nodup

namespace Keeps

variable {ε : Type} {used : ε} {flow : Flow} {tickets : List Ticket}
  {found : List (Option RequestId)}

theorem start : Keeps .start .empty :=
  ⟨rfl, rfl, .nil, .nil, List.nodup_nil⟩

theorem forall₂_replace (good : List.Forall₂ flow.Honours tickets found)
    (wanted : Option String) : List.Forall₂ (flow.replace wanted).Honours tickets found :=
  good.imp fun _ _ good => good.replace

/-- The ticket that is handed out next is none of those that are good. -/
theorem new_notMem (good : List.Forall₂ flow.Honours tickets found) :
    ⟨flow.tickets.length⟩ ∉ tickets := by
  induction good with
  | nil => exact List.not_mem_nil
  | cons good _ ih => simp [good.ne_new.symm, ih]

theorem forall₂_goneBack (good : List.Forall₂ flow.Honours tickets found) {other : Ticket}
    (different : other ∉ tickets) (back : Option RequestId) :
    List.Forall₂ (flow.goneBack other back).Honours tickets found := by
  induction good with
  | nil => exact .nil
  | cons good _ ih =>
    simp only [List.mem_cons, not_or] at different
    exact .cons (good.goneBack (Ne.symm different.1) back) (ih different.2)

/-- Going back with a ticket that is held once leaves all others good. -/
theorem goneBack {ticket : Ticket} {scopes replaced : List Ticket}
    {foundScopes foundReplaced : List (Option RequestId)} (back : Option RequestId)
    (goodScopes : List.Forall₂ flow.Honours scopes foundScopes)
    (goodReplaced : List.Forall₂ flow.Honours replaced foundReplaced)
    (distinct : (ticket :: (scopes ++ replaced)).Nodup) :
    Keeps ⟨flow.goneBack ticket back, scopes, replaced⟩
      ⟨back, flow.generated, foundScopes, foundReplaced⟩ := by
  obtain ⟨apart, distinct⟩ := List.nodup_cons.1 distinct
  simp only [List.mem_append, not_or] at apart
  exact ⟨rfl, rfl, forall₂_goneBack goodScopes apart.1 back,
    forall₂_goneBack goodReplaced apart.2 back, distinct⟩

theorem move {h : Holder} {c : Context} (keeps : Keeps h c) (move : Move) :
    ∃ next, h.move used move = .ok next ∧ Keeps next (c.move move) := by
  obtain ⟨flow, scopes, replaced⟩ := h
  obtain ⟨_, _, foundScopes, foundReplaced⟩ := c
  obtain ⟨rfl, rfl, goodScopes, goodReplaced, distinct⟩ := keeps
  simp only at goodScopes goodReplaced distinct
  -- The next ticket is held nowhere yet, whichever list it is for.
  have newScope := new_notMem goodScopes
  have newReplaced := new_notMem goodReplaced
  cases move with
  | enter wanted =>
    refine ⟨⟨flow.replace wanted, ⟨flow.tickets.length⟩ :: scopes, replaced⟩, rfl, ?_⟩
    rw [Context.move, Context.enter_eq]
    exact ⟨rfl, rfl, .cons Flow.honours_new (forall₂_replace goodScopes wanted),
      forall₂_replace goodReplaced wanted, by simp [newScope, newReplaced, distinct]⟩
  | replace wanted =>
    refine ⟨⟨flow.replace wanted, scopes, ⟨flow.tickets.length⟩ :: replaced⟩, rfl, ?_⟩
    rw [Context.move, Context.replace_eq]
    refine ⟨rfl, rfl, forall₂_replace goodScopes wanted,
      .cons Flow.honours_new (forall₂_replace goodReplaced wanted), ?_⟩
    rw [List.nodup_middle]
    simp [newScope, newReplaced, distinct]
  | leave =>
    cases goodScopes with
    | nil => exact ⟨_, rfl, rfl, rfl, .nil, goodReplaced, distinct⟩
    | @cons ticket back scopes _ good goodScopes =>
      refine ⟨_, ?_, Keeps.goneBack back goodScopes goodReplaced distinct⟩
      simp [Holder.move, Holder.carryOut, Scoped.runFrom_goBack good]
  | restore =>
    cases goodReplaced with
    | nil => exact ⟨_, rfl, rfl, rfl, goodScopes, .nil, distinct⟩
    | @cons ticket back replaced _ good goodReplaced =>
      -- This ticket stands between the two lists, and is taken to the front.
      refine ⟨_, ?_, Keeps.goneBack back goodScopes goodReplaced (List.nodup_middle.1 distinct)⟩
      simp [Holder.move, Holder.carryOut, Scoped.runFrom_goBack good]

theorem moves {h : Holder} {c : Context} (keeps : Keeps h c) (moves : List Move) :
    ∃ last, moves.foldlM (Holder.move used) h = .ok last ∧
      Keeps last (moves.foldl Context.move c) := by
  induction moves generalizing h c with
  | nil => exact ⟨h, rfl, keeps⟩
  | cons move moves ih =>
    obtain ⟨next, moved, kept⟩ := keeps.move move
    obtain ⟨last, ran, keptOn⟩ := ih kept
    exact ⟨last, by rw [List.foldlM_cons, moved]; exact ran, keptOn⟩

end Keeps

/-- Whatever is done, with tickets it never fails and comes to the same id. -/
theorem exists_holder_after {ε : Type} (used : ε) (moves : List Move) :
    ∃ last, moves.foldlM (Holder.move used) .start = .ok last ∧
      last.flow.current = (moves.foldl Context.move .empty).current := by
  obtain ⟨last, ran, keeps⟩ := Keeps.start.moves moves
  exact ⟨last, ran, keeps.current⟩

end Reckoner
