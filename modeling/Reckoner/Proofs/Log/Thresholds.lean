import Mathlib.Data.List.Forall2
import Reckoner.RequestId

/-!
# What is written of a run of records

The name of a logger tells what it asks for, `thresholdOf`: what is chosen for the calculator if the
name is `qalc` or goes on from there with a point, and so on. This is what loggers find out by looking
for those in use above them, as every name above a name is a front of it, `below_of_mem_lineage`, and
a configured one is found, `mem_above`.

The one exception are names that go on with two points at once. The look from one point to the next
can step over the point that matters, so that it depends on the other loggers in use, and on when it
was looked first, whether such a name counts as below. `Decided` says what is true of every decision
and `Sound` that a registry holds no others. Dealing with a record keeps it so, `Sound.log`, and the
run follows, `Sound.logAll`.

No record is written twice, since a logger with a handler keeps its records to itself,
`handlersOf_eq`.
-/

namespace Reckoner.Log

/-! ## Names -/

/-- A name is another one, or goes on from there with a point. -/
def Below (top name : String) : Prop :=
  name = top ∨ top.toList ++ ['.'] <+: name.toList

instance (top name : String) : Decidable (Below top name) :=
  inferInstanceAs (Decidable (_ ∨ _))

/-- A name goes on with two points from that of the calculator or the server. -/
def Blurred (name : String) : Prop :=
  "qalc..".toList <+: name.toList ∨ "uvicorn..".toList <+: name.toList

instance (name : String) : Decidable (Blurred name) :=
  inferInstanceAs (Decidable (_ ∨ _))

/-- What the logger of a name asks for, given what is chosen for the calculator. -/
def thresholdOf (chosen : Level) (name : String) : Level :=
  if Below "qalc" name then chosen
  else if Below "uvicorn" name then .info
  else .warning

theorem Below.trans {top middle name : String} (below : Below top middle)
    (below' : Below middle name) : Below top name := by
  rcases below with rfl | before
  · exact below'
  · rcases below' with rfl | before'
    · exact .inr before
    · exact .inr (before.trans ((List.prefix_append _ _).trans before'))

/-- The calculator and the server have no names in common. -/
theorem not_below_qalc {name : String} (below : Below "uvicorn" name) : ¬Below "qalc" name := by
  have head {top : String} (under : Below top name) : top.toList <+: name.toList := by
    rcases under with rfl | before
    · exact List.prefix_refl _
    · exact (List.prefix_append _ _).trans before
  intro both
  obtain ⟨rest, same⟩ := head below
  obtain ⟨rest', same'⟩ := head both
  rw [← same] at same'
  cases (List.cons.inj same').1

/-! ## Lineages -/

/-- What stands above a name is a front of it. -/
theorem exists_eq_of_mem_above {inUse : List String} {backwards : List Char} {front : String}
    (member : front ∈ above inUse backwards) :
    ∃ rest, backwards.reverse = front.toList ++ '.' :: rest := by
  fun_induction above inUse backwards with
  | case1 c rest found ih =>
    rcases List.mem_cons.1 member with rfl | member
    · exact ⟨[], by simp⟩
    · obtain ⟨more, same⟩ := ih member
      exact ⟨more ++ ['.'], by rw [List.reverse_cons, same]; simp⟩
  | case2 c rest unused ih =>
    obtain ⟨more, same⟩ := ih member
    exact ⟨more ++ [c, '.'], by simp [same]⟩
  | case3 c rest _ ih =>
    obtain ⟨more, same⟩ := ih member
    exact ⟨more ++ [c], by simp [same]⟩
  | case4 => cases member

theorem below_of_mem_lineage {inUse : List String} {name front : String}
    (member : front ∈ lineage inUse name) : Below front name := by
  rcases List.mem_cons.1 member with rfl | member
  · exact .inl rfl
  · obtain ⟨rest, same⟩ := exists_eq_of_mem_above member
    rw [List.reverse_reverse] at same
    exact .inr ⟨rest, by simp [same]⟩

theorem above_cons {inUse : List String} {c : Char} (other : c ≠ '.') (rest : List Char) :
    above inUse (c :: rest) = above inUse rest := by
  rw [above]
  rintro d rest' rfl _
  exact other rfl

/-- Whether or not something is in use at a point, the look goes on behind it. -/
theorem mem_above_point {inUse : List String} {front : String} {c : Char} {rest : List Char}
    (found : front ∈ above inUse (c :: rest)) (unused : front ∈ above inUse rest) :
    front ∈ above inUse ('.' :: c :: rest) := by
  rw [above]
  split
  · exact List.mem_cons_of_mem _ found
  · exact unused

theorem getLast?_ne_of_cons {c d : Char} {rest : List Char}
    (last : (c :: rest).getLast? ≠ some d) : rest.getLast? ≠ some d := by
  cases rest with
  | nil => simp
  | cons e rest => rwa [List.getLast?_cons_cons] at last

/-- A logger in use is found above a name that goes on from it with a single point. The name is
given backwards, and so is what stands behind the point. -/
theorem mem_above {inUse : List String} {top : String} (used : top ∈ inUse) (nonempty : top ≠ "") :
    ∀ behind : List Char, behind.getLast? ≠ some '.' →
      top ∈ above inUse (behind ++ '.' :: top.toList.reverse)
  | [], _ => by
    cases reversed : top.toList.reverse with
    | nil => exact absurd (by simpa using reversed) nonempty
    | cons c rest =>
      have same : String.ofList (c :: rest).reverse = top := by
        rw [← reversed, List.reverse_reverse, String.ofList_toList]
      rw [List.nil_append, above, same, if_pos used]
      exact List.mem_cons_self
  | [c], single => by
    have other : c ≠ '.' := by simpa using single
    rw [List.singleton_append, above_cons other]
    exact mem_above used nonempty [] (by simp)
  | c :: d :: behind, single => by
    have inner := mem_above used nonempty (d :: behind) (getLast?_ne_of_cons single)
    by_cases point : c = '.'
    · subst point
      exact mem_above_point inner (mem_above used nonempty behind
        (getLast?_ne_of_cons (getLast?_ne_of_cons single)))
    · rw [List.cons_append, above_cons point]
      exact inner

theorem mem_lineage_of_below {inUse : List String} {top name : String} (used : top ∈ inUse)
    (nonempty : top ≠ "") (below : Below top name)
    (single : ¬top.toList ++ ['.', '.'] <+: name.toList) : top ∈ lineage inUse name := by
  rcases below with rfl | ⟨rest, same⟩
  · exact List.mem_cons_self
  · have backwards : name.toList.reverse = rest.reverse ++ '.' :: top.toList.reverse := by
      simp [← same]
    rw [lineage, backwards]
    apply List.mem_cons_of_mem
    apply mem_above used nonempty
    rw [List.getLast?_reverse]
    intro head
    obtain ⟨more, rfl⟩ := List.head?_eq_some_iff.1 head
    exact single ⟨more, by simp [← same]⟩

/-! ## What loggers ask for -/

/-- A logger is that of the calculator, one of the server's, or not configured. -/
theorem setup_cases (chosen : Threshold) (name : String) :
    (name = "qalc" ∧ setup chosen name = ⟨chosen, [.lineWriter], false⟩) ∨
      (Below "uvicorn" name ∧ setup chosen name = ⟨some .info, [.lineWriter], false⟩) ∨
      setup chosen name = .plain := by
  by_cases server : name ∈ ["uvicorn", "uvicorn.error", "uvicorn.access"]
  · have below : ∀ front ∈ ["uvicorn", "uvicorn.error", "uvicorn.access"],
        Below "uvicorn" front := by decide
    refine .inr (.inl ⟨below name server, ?_⟩)
    simp only [List.mem_cons, List.not_mem_nil, or_false] at server
    rcases server with rfl | rfl | rfl <;> rfl
  · simp only [List.mem_cons, List.not_mem_nil, or_false, not_or] at server
    by_cases calculator : name = "qalc"
    · subst calculator
      exact .inl ⟨rfl, rfl⟩
    · refine .inr (.inr ?_)
      simp [setup, configuration, List.lookup_cons, List.lookup_nil, beq_eq_false_iff_ne.2 server.1,
        beq_eq_false_iff_ne.2 server.2.1, beq_eq_false_iff_ne.2 server.2.2,
        beq_eq_false_iff_ne.2 calculator]

/-- A record gets to one handler, from whatever loggers. -/
theorem handlersOf_eq (chosen : Threshold) (loggers : List String) :
    handlersOf chosen loggers = [.lineWriter] := by
  induction loggers with
  | nil => rfl
  | cons name loggers ih =>
    rcases setup_cases chosen name with ⟨_, own⟩ | ⟨_, own⟩ | own
    · simp [handlersOf, own]
    · simp [handlersOf, own]
    · simp [handlersOf, own, Setup.plain, ih]

section Thresholds

variable {chosen : Level} {inUse : List String} {name : String}

/-- What a logger above a name has of its own is what the name asks for. -/
theorem threshold_of_mem_lineage {front : String} (member : front ∈ lineage inUse name)
    {level : Level} (asks : (setup (some chosen) front).threshold = some level) :
    level = thresholdOf chosen name := by
  have below := below_of_mem_lineage member
  rcases setup_cases (some chosen) front with ⟨rfl, own⟩ | ⟨server, own⟩ | own
  · rw [own] at asks
    simp only [Option.some.injEq] at asks
    simp [thresholdOf, below, asks]
  · rw [own] at asks
    simp only [Option.some.injEq] at asks
    have under := server.trans below
    simp [thresholdOf, not_below_qalc under, under, asks]
  · rw [own] at asks
    cases asks

theorem levelOf_eq_or (chosen : Level) (inUse : List String) (name : String) :
    levelOf (some chosen) (lineage inUse name) = thresholdOf chosen name ∨
      levelOf (some chosen) (lineage inUse name) = rootLevel := by
  unfold levelOf
  cases found : (lineage inUse name).findSome? fun front =>
      (setup (some chosen) front).threshold with
  | none => exact .inr rfl
  | some level =>
    obtain ⟨front, member, asks⟩ := List.exists_of_findSome?_eq_some found
    exact .inl (threshold_of_mem_lineage member asks)

/-- With the configured loggers in use, the look upwards finds what the name asks for. -/
theorem levelOf_eq (used : "qalc" ∈ inUse ∧ "uvicorn" ∈ inUse) (clear : ¬Blurred name) :
    levelOf (some chosen) (lineage inUse name) = thresholdOf chosen name := by
  have finds {front : String} {level : Level} (member : front ∈ lineage inUse name)
      (asks : (setup (some chosen) front).threshold = some level) :
      levelOf (some chosen) (lineage inUse name) = thresholdOf chosen name := by
    unfold levelOf
    cases found : (lineage inUse name).findSome? fun front =>
        (setup (some chosen) front).threshold with
    | none =>
      rw [List.findSome?_eq_none_iff] at found
      rw [found front member] at asks
      cases asks
    | some level =>
      obtain ⟨front, member, asks⟩ := List.exists_of_findSome?_eq_some found
      exact threshold_of_mem_lineage member asks
  by_cases calculator : Below "qalc" name
  · have member : "qalc" ∈ lineage inUse name :=
      mem_lineage_of_below used.1 (by decide) calculator fun blurred => clear (.inl blurred)
    exact finds member rfl
  · by_cases server : Below "uvicorn" name
    · have member : "uvicorn" ∈ lineage inUse name :=
        mem_lineage_of_below used.2 (by decide) server fun blurred => clear (.inr blurred)
      exact finds member rfl
    -- Nothing above is configured, and the root asks for as much as the name.
    · have rest : thresholdOf chosen name = rootLevel := by
        simp [thresholdOf, calculator, server, rootLevel]
      rw [rest]
      simpa [rest] using levelOf_eq_or chosen inUse name

end Thresholds

/-! ## Decisions -/

/-- What is true of a decision about a level. It goes by the name of the logger, unless the name is
blurred; then the level counts as serious enough if it is for the name and for the root, and only if
it is for one of them. -/
structure Decided (chosen : Level) (name : String) (level : Level) (admitted : Bool) : Prop where
  clear : ¬Blurred name → (admitted = true ↔ (thresholdOf chosen name).rank ≤ level.rank)
  enough : (thresholdOf chosen name).rank ≤ level.rank → rootLevel.rank ≤ level.rank →
    admitted = true
  needed : admitted = true →
    (thresholdOf chosen name).rank ≤ level.rank ∨ rootLevel.rank ≤ level.rank

/-- The configured loggers are in use, and nothing else was decided. -/
structure Sound (chosen : Level) (r : Registry) : Prop where
  used : "qalc" ∈ r.inUse ∧ "uvicorn" ∈ r.inUse
  decided : ∀ name level admitted, ((name, level), admitted) ∈ r.decided →
    Decided chosen name level admitted

variable {chosen : Level} {r : Registry}

theorem sound_start (chosen : Level) (others : List String) :
    Sound chosen (.start (some chosen) others) := by
  constructor
  · simp [Registry.start, configuration]
  · intro name level admitted remembered
    cases remembered

theorem Sound.use (sound : Sound chosen r) (name : String) : Sound chosen (r.use name) :=
  ⟨⟨List.mem_cons_of_mem _ sound.used.1, List.mem_cons_of_mem _ sound.used.2⟩, sound.decided⟩

theorem decided_levelOf (used : "qalc" ∈ r.inUse ∧ "uvicorn" ∈ r.inUse) (name : String)
    (level : Level) : Decided chosen name level
      ((levelOf (some chosen) (lineage r.inUse name)).rank ≤ level.rank) := by
  refine ⟨fun clear => ?_, fun enough serious => ?_, fun admitted => ?_⟩
  · rw [levelOf_eq used clear, decide_eq_true_eq]
  · rcases levelOf_eq_or chosen r.inUse name with same | same
    · simpa [same] using enough
    · simpa [same] using serious
  · rcases levelOf_eq_or chosen r.inUse name with same | same
    · exact .inl (by simpa [same] using admitted)
    · exact .inr (by simpa [same] using admitted)

/-- A decision is taken over or made, and either is sound. -/
theorem Sound.admits (sound : Sound chosen r) (name : String) (level : Level) :
    Decided chosen name level (r.admits (some chosen) name level) := by
  unfold Registry.admits
  cases remembered : r.decided.lookup (name, level) with
  | none => exact decided_levelOf sound.used name level
  | some admitted =>
    obtain ⟨before, after, same, _⟩ := List.lookup_eq_some_iff.1 remembered
    exact sound.decided name level admitted (by simp [same])

/-- What dealing with a record keeps. -/
theorem Sound.log (sound : Sound chosen r) (record : Record) :
    Sound chosen (r.log (some chosen) record).2 := by
  have used := sound.use record.logger
  refine ⟨used.used, ?_⟩
  intro name level admitted remembered
  rcases List.mem_cons.1 remembered with same | remembered
  · cases same
    exact used.admits record.logger record.level
  · exact used.decided name level admitted remembered

theorem Registry.log_handlers (sound : Sound chosen r) (record : Record) :
    ∃ admitted, Decided chosen record.logger record.level admitted ∧
      (r.log (some chosen) record).1 = if admitted then [.lineWriter] else [] :=
  ⟨_, (sound.use record.logger).admits record.logger record.level, by
    simp [Registry.log, handlersOf_eq]⟩

/-! ## Lines -/

/-- The lines that are written for a record: at most one, as was decided. -/
structure Written (chosen : Level) (record : Record) (line : Json) (written : List Json) : Prop where
  once : written = [] ∨ written = [line]
  decided : Decided chosen record.logger record.level !written.isEmpty

theorem written_of_decided {chosen : Level} {e : Entry} {admitted : Bool}
    (decided : Decided chosen e.record.logger e.record.level admitted) :
    Written chosen e.record e.line
      ((if admitted then [Handler.lineWriter] else []).map (·.emit e)) := by
  cases admitted with
  | false => exact ⟨.inl rfl, decided⟩
  | true => exact ⟨.inr rfl, decided⟩

theorem Sound.logAll (sound : Sound chosen r) (entries : List Entry) :
    List.Forall₂ (fun e written => Written chosen e.record e.line written) entries
      ((r.logAll (some chosen) entries).map fun (e, handlers) => handlers.map (·.emit e)) := by
  induction entries generalizing r with
  | nil => exact .nil
  | cons e entries ih =>
    obtain ⟨admitted, decided, handlers⟩ := Registry.log_handlers sound e.record
    refine .cons ?_ (ih (sound.log e.record))
    show Written chosen e.record e.line
      ((r.log (some chosen) e.record).1.map (·.emit e))
    rw [handlers]
    exact written_of_decided decided

theorem get?_requestId_line (e : Entry) : e.line.get? "request_id" = some (.str e.shownId) := by
  simp [Entry.line, Json.get?, Json.lookup?]

/-! ## Levels by name -/

theorem upperLetter_eq {c : Char} (ascii : Text.toUpper c ≠ 'ı' ∧ Text.toUpper c ≠ 'ſ') :
    upperLetter c = Text.toUpper c := by
  unfold upperLetter
  split
  · rename_i same
    exact absurd (by rw [same]; decide) ascii.1
  · split
    · rename_i same
      exact absurd (by rw [same]; decide) ascii.2
    · rfl

/-- The levels that can be chosen are told by their names in any case. -/
theorem ofName?_of_upper {chosen : Level} {spelled : String}
    (named : chosen ∈ [Level.debug, .info, .warning, .error, .critical])
    (inAnyCase : Text.upper spelled = chosen.name) :
    Threshold.ofName? spelled = some (some chosen) := by
  have letters : spelled.toList.map Text.toUpper = chosen.name.toList := by
    rw [← inAnyCase, Text.upper, String.toList_ofList]
  have ascii : ∀ level ∈ [Level.debug, .info, .warning, .error, .critical],
      level.name.toList.all (fun c => c ≠ 'ı' ∧ c ≠ 'ſ') = true := by decide
  have upper : String.ofList (spelled.toList.map upperLetter) = chosen.name := by
    rw [← inAnyCase, Text.upper]
    congr 1
    apply List.map_congr_left
    intro c member
    have letter : Text.toUpper c ∈ chosen.name.toList := letters ▸ List.mem_map_of_mem member
    exact upperLetter_eq (by simpa using List.all_eq_true.1 (ascii chosen named) _ letter)
  rw [Threshold.ofName?, upper]
  simp only [List.mem_cons, List.not_mem_nil, or_false] at named
  rcases named with rfl | rfl | rfl | rfl | rfl <;> rfl

/-! ## Main result -/

/-- With a level chosen by its name, each of a run of records is written in its turn, once if it is
serious enough by the name of its logger and not at all otherwise, with the id in force when it was
made. Only for blurred names the level of the root can take the place of that by the name. -/
theorem written_once_by_threshold (texts : Nat → String) (chosen : Level)
    (named : chosen ∈ [Level.debug, .info, .warning, .error, .critical]) (spelled : String)
    (inAnyCase : Text.upper spelled = chosen.name) (others : List String)
    (made : List (Context × Record)) :
    ∃ threshold, Threshold.ofName? spelled = some threshold ∧
      ∃ written : List (List Json),
        lines threshold others (made.map fun (c, record) => c.stamp texts record) =
          written.flatten ∧
        List.Forall₂ (fun (c, record) lines =>
          Written chosen record (c.stamp texts record).line lines ∧
          ∀ line ∈ lines, line.get? "request_id" =
            some (.str (((c.text? texts).filter (· ≠ "")).getD "-"))) made written := by
  refine ⟨some chosen, ofName?_of_upper named inAnyCase, _, List.flatMap_def, ?_⟩
  have all := (sound_start chosen others).logAll (made.map fun (c, record) => c.stamp texts record)
  rw [List.forall₂_map_left_iff] at all
  refine all.imp fun {made lines} written => ⟨written, ?_⟩
  intro line member
  rcases written.once with nothing | single
  · rw [nothing] at member
    cases member
  · rw [single] at member
    obtain rfl := List.mem_singleton.1 member
    exact get?_requestId_line _

/-- Loggers below the calculator's and beside it, one of the server's and the root, with two ids and
none in force. -/
theorem written_once_by_threshold_of_neighbours :
    let a := Context.empty.enter (some "a")
    let made : List (Context × Record) :=
      [(a, ⟨"qalc.x.y", .info, "1", []⟩), (a, ⟨"qalcx", .info, "2", []⟩),
        (.empty, ⟨"uvicorn.error.x", ⟨25⟩, "3", []⟩), (.empty, ⟨"", .error, "4", []⟩)]
    Text.upper "Info" = Level.info.name ∧
      ∃ written : List (List Json), written.length = 4 ∧
        lines (some .info) ["qalc."] (made.map fun (c, record) => c.stamp (fun _ => "") record) =
          written.flatten ∧
        ∃ first rest, written = first :: rest ∧
          (∀ line ∈ first, line.get? "request_id" = some (.str "a")) ∧ first.length = 1 := by
  intro a made
  have inAnyCase : Text.upper "Info" = Level.info.name := by decide
  obtain ⟨threshold, named, written, whole, each⟩ :=
    written_once_by_threshold (fun _ => "") .info (by decide) "Info" inAnyCase ["qalc."] made
  cases (show Threshold.ofName? "Info" = some (some .info) by decide).symm.trans named
  obtain ⟨first, rest, ⟨head, id⟩, _, same⟩ := List.forall₂_cons_left_iff.1 each
  refine ⟨inAnyCase, written, each.length_eq.symm, whole, first, rest, same, id, ?_⟩
  have clear : ¬Blurred "qalc.x.y" := by decide
  have serious := (head.decided.clear clear).2 (by decide)
  rcases head.once with nothing | single
  · simp [nothing] at serious
  · simp [single]

/-- A name that goes on with two points is not found to be below, and its record is not written. -/
theorem two_points_not_below :
    Below "qalc" "qalc..x" ∧ Level.info.rank ≤ Level.info.rank ∧
      lines (some .info) [] [⟨⟨"qalc..x", .info, "", []⟩, none⟩] = [] := by
  exact ⟨by decide, Int.le_refl _, rfl⟩

end Reckoner.Log
