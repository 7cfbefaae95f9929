import Reckoner.Proofs.Console.Reports

/-!
# Sessions of expressions and of lines

Expressions are evaluated alike whether they are arguments or lines of the input,
`run_alike_either_way`. Each outcome is shown on a line of its own, so the lines of the output are
the reports of the outcomes in order, `pieces_output`.

Of an input only the lines count that are evaluated, `readLines`. Blank lines and all that is behind
a word that ends the session are passed over, so inputs that differ in these only come to the same,
`Amends.readLines_eq`. A session may as well take the lines one by one and count the failures,
`run_eq_foldl_step`.

The settings of an order are told by `switches`; behind a double dash every argument is an
expression, whatever it looks like, `ofArguments?_switches`.
-/

namespace Reckoner

open Text (pieces)

/-! ## Lines -/

namespace Text

variable {separator : Char}

theorem pieces_of_notMem {line : List Char} (whole : separator ∉ line) :
    pieces separator line = [line] := by
  induction line with
  | nil => rfl
  | cons c line ih =>
    simp only [List.mem_cons, not_or] at whole
    simp [pieces, Ne.symm whole.1, ih whole.2]

theorem pieces_append_cons {line : List Char} (whole : separator ∉ line) (rest : List Char) :
    pieces separator (line ++ separator :: rest) = line :: pieces separator rest := by
  induction line with
  | nil => simp [pieces]
  | cons c line ih =>
    simp only [List.mem_cons, not_or] at whole
    simp [pieces, Ne.symm whole.1, ih whole.2]

/-- Lines that are ended one by one. -/
theorem pieces_flatMap {lines : List (List Char)} (whole : ∀ line ∈ lines, separator ∉ line) :
    pieces separator (lines.flatMap (· ++ [separator])) = lines ++ [[]] := by
  induction lines with
  | nil => rfl
  | cons line lines ih =>
    have later := ih fun line member => whole line (List.mem_cons_of_mem _ member)
    simp [pieces_append_cons (whole line List.mem_cons_self), later]

/-- Lines with separators between them, and perhaps one behind the last. -/
theorem pieces_intercalate {lines : List (List Char)} (given : lines ≠ [])
    (whole : ∀ line ∈ lines, separator ∉ line) {ending : List Char}
    (ends : ending ∈ [[], [separator]]) :
    pieces separator ([separator].intercalate lines ++ ending) =
      lines ++ if ending = [] then [] else [[]] := by
  induction lines with
  | nil => exact absurd rfl given
  | cons line lines ih =>
    have plain := whole line List.mem_cons_self
    cases lines with
    | nil =>
      simp only [List.mem_cons, List.not_mem_nil, or_false] at ends
      rcases ends with rfl | rfl
      · simp [pieces_of_notMem plain]
      · simp [pieces_append_cons plain, pieces]
    | cons other lines =>
      have later := ih (by simp) fun line member => whole line (List.mem_cons_of_mem _ member)
      rw [List.intercalate_cons_cons, List.append_assoc, List.append_assoc, List.singleton_append,
        pieces_append_cons plain, later]
      rfl

end Text

namespace Console

/-! ## Lines that are evaluated -/

/-- A line that is evaluated: it neither is blank nor ends the session. -/
def IsExpression (line : List Char) : Prop :=
  isBlankLine line = false ∧ isQuit line = false

instance : DecidablePred IsExpression :=
  fun _ => inferInstanceAs (Decidable (_ ∧ _))

theorem isQuit_of_isBlankLine {line : List Char} (blank : isBlankLine line = true) :
    isQuit line = false := by
  have nothing : Text.trim line = [] := List.isEmpty_iff.1 blank
  rw [isQuit, nothing]
  decide

theorem readLines_cons (line : List Char) (lines : List (List Char)) :
    readLines (line :: lines) =
      if isQuit line then [] else if isBlankLine line then readLines lines
      else line :: readLines lines := by
  cases quit : isQuit line <;> cases blank : isBlankLine line <;> simp [readLines, quit, blank]

theorem readLines_of_isExpression {lines : List (List Char)}
    (plain : ∀ line ∈ lines, IsExpression line) : readLines lines = lines := by
  induction lines with
  | nil => rfl
  | cons line lines ih =>
    obtain ⟨visible, goesOn⟩ := plain line List.mem_cons_self
    simp [readLines_cons, visible, goesOn, ih fun other member =>
      plain other (List.mem_cons_of_mem _ member)]

/-- Inputs, as their lines, that differ in blank lines or behind a word that ends the session. -/
inductive Amends : List (List Char) → List (List Char) → Prop where
  | blank {front back line} : isBlankLine line = true →
      Amends (front ++ back) (front ++ line :: back)
  | ended {front back back' line} : isQuit line = true →
      Amends (front ++ line :: back) (front ++ line :: back')
  | refl {lines} : Amends lines lines
  | symm {lines lines'} : Amends lines lines' → Amends lines' lines
  | trans {lines lines' lines''} : Amends lines lines' → Amends lines' lines'' →
      Amends lines lines''

theorem readLines_append_congr (front : List (List Char)) {back back' : List (List Char)}
    (same : readLines back = readLines back') :
    readLines (front ++ back) = readLines (front ++ back') := by
  induction front with
  | nil => exact same
  | cons line front ih => simp only [List.cons_append, readLines_cons, ih]

/-- A line without anything in it, as there is behind the last end of a line. -/
theorem readLines_append_empty (lines : List (List Char)) :
    readLines (lines ++ [[]]) = readLines lines := by
  have nothing : readLines [[]] = readLines [] := by decide
  have same := readLines_append_congr lines nothing
  rwa [List.append_nil] at same

theorem Amends.readLines_eq {lines lines' : List (List Char)} (amends : Amends lines lines') :
    readLines lines = readLines lines' := by
  induction amends with
  | @blank front back line blank =>
    apply readLines_append_congr
    simp [readLines_cons, blank, isQuit_of_isBlankLine blank]
  | @ended front back back' line quit =>
    apply readLines_append_congr
    simp [readLines_cons, quit]
  | refl => rfl
  | symm _ ih => exact ih.symm
  | trans _ _ ih ih' => exact ih.trans ih'

/-! ## Line by line -/

/-- A session while it reads its input. -/
structure Reading where
  /-- No word has ended the session. -/
  goesOn : Bool
  failures : Nat
  shown : String

namespace Reading

def start : Reading :=
  ⟨true, 0, ""⟩

def step (c : Calculator) (asJson : Bool) (r : Reading) (line : List Char) : Reading :=
  if !r.goesOn then r
  else if isQuit line then { r with goesOn := false }
  else if isBlankLine line then r
  else
    let e := c.evaluate (.str (String.ofList line))
    { r with
      failures := if e.isSuccess then r.failures else r.failures + 1
      shown := r.shown ++ (e.report asJson ++ "\n") }

def transcript (r : Reading) : Transcript :=
  ⟨if r.failures = 0 then 0 else 1, r.shown⟩

variable {c : Calculator} {asJson : Bool} {r : Reading}

theorem foldl_step_of_ended (ended : r.goesOn = false) (lines : List (List Char)) :
    lines.foldl (step c asJson) r = r := by
  induction lines with
  | nil => rfl
  | cons line lines ih =>
    have same : step c asJson r line = r := by simp [step, ended]
    rw [List.foldl_cons, same, ih]

/-- The outcomes of the lines that are evaluated are counted and shown on top of what was there. -/
theorem foldl_step (goesOn : r.goesOn = true) (lines : List (List Char)) :
    let outcomes := (readLines lines).map fun line => c.evaluate (.str (String.ofList line))
    (lines.foldl (step c asJson) r).failures = r.failures + outcomes.countP (!·.isSuccess) ∧
    (lines.foldl (step c asJson) r).shown =
      r.shown ++ String.join (outcomes.map fun e => e.report asJson ++ "\n") := by
  induction lines generalizing r with
  | nil => simp [readLines, String.join]
  | cons line lines ih =>
    rw [List.foldl_cons, readLines_cons]
    cases quit : isQuit line with
    | true =>
      have ended : step c asJson r line = { r with goesOn := false } := by
        simp [step, goesOn, quit]
      simp [ended, foldl_step_of_ended, String.join]
    | false =>
      cases blank : isBlankLine line with
      | true =>
        have passed : step c asJson r line = r := by simp [step, quit, blank]
        simpa [passed] using ih goesOn
      | false =>
        have evaluated : (step c asJson r line).goesOn = true := by
          simp [step, goesOn, quit, blank]
        obtain ⟨counted, shown⟩ := ih evaluated
        rw [counted, shown]
        simp only [step, goesOn, quit, blank, Bool.not_true, Bool.false_eq_true, if_false,
          List.map_cons, List.countP_cons, String.join_cons, String.append_assoc, and_true]
        cases (c.evaluate (.str (String.ofList line))).isSuccess <;> simp
        omega

/-- Taken one by one, the lines of an input come to what they come to together. -/
theorem transcript_foldl_step (lines : List (List Char)) :
    (lines.foldl (step c asJson) start).transcript =
      evaluateAll c asJson ((readLines lines).map String.ofList) := by
  obtain ⟨counted, shown⟩ := @foldl_step c asJson start rfl lines
  rw [transcript, counted, shown, evaluateAll]
  simp [start, Function.comp_def, List.countP_eq_zero]

end Reading

/-! ## Orders -/

/-- The arguments for the settings of an order. -/
def switches (asJson : Bool) (limit? : Option String) : List String :=
  (if asJson then ["--json"] else []) ++ (limit?.map ("--max-length=" ++ ·)).toList

theorem classify_limit (text : String) :
    classify ("--max-length=" ++ text) = .ok (.switch .maxLength (some text.toList)) := by
  have spelled : ("--max-length=" ++ text).toList =
      '-' :: '-' :: ("max-length".toList ++ '=' :: text.toList) := by simp
  rw [classify, spelled]
  have inexact : switchOf? ('-' :: '-' :: ("max-length".toList ++ '=' :: text.toList)) = none := rfl
  have cut : Text.splitFirst? '=' ('-' :: '-' :: ("max-length".toList ++ '=' :: text.toList)) =
      some ("--max-length".toList, text.toList) := rfl
  simp only [inexact, classifyDashed, cut]
  rfl

/-- What these arguments are. -/
def switchArguments (asJson : Bool) (limit? : Option String) : List Argument :=
  (if asJson then [.switch .json none] else []) ++
    (limit?.map fun text => .switch .maxLength (some text.toList)).toList

/-- The limit that a setting asks for. -/
def limitOf (limit? : Option String) : Except Refusal (Option Int) :=
  match limit? with
  | none => .ok none
  | some text =>
    match Text.typedInteger? text.toList with
    | some n => .ok (some n)
    | none => .error .usage

theorem classifyAll_switches (asJson : Bool) (limit? : Option String) (texts : List String) :
    classifyAll (switches asJson limit? ++ "--" :: texts) =
      .ok (switchArguments asJson limit? ++ .marker :: texts.map .word) := by
  have json : classify "--json" = .ok (.switch .json none) := by decide
  have other (text : String) : "--max-length=" ++ text ≠ "--" := by
    intro same
    have spelled := congrArg String.toList same
    simp at spelled
  cases asJson <;> cases limit? <;>
    simp [switches, switchArguments, classifyAll, classify_limit, other, json] <;> rfl

theorem takeAll_words {p : Progress} (texts : List String) (here : p.stage = .here) :
    takeAll p (texts.map .word) =
      .ok { p with expressions := texts.reverse ++ p.expressions } := by
  induction texts generalizing p with
  | nil => rfl
  | cons text texts ih =>
    have taken : p.take [text] = { p with expressions := text :: p.expressions } := by
      simp [Progress.take, here]
    rw [List.map_cons, takeAll, taken, @ih { p with expressions := text :: p.expressions } here]
    simp

theorem takeAll_switches (asJson : Bool) (limit? : Option String) (expressions : List String) :
    takeAll .start (switchArguments asJson limit? ++ .marker :: expressions.map .word) =
      (limitOf limit?).map fun limit => ⟨.here, expressions.reverse, asJson, limit, false⟩ := by
  cases limit? with
  | none =>
    cases asJson <;>
      simp [switchArguments, takeAll, takeAll_words, Progress.take, Progress.pass, Progress.start,
        limitOf, Except.map]
  | some text =>
    cases read : Text.typedInteger? text.toList <;> cases asJson <;>
      simp [switchArguments, takeAll, takeAll_words, Progress.take, Progress.pass, Progress.start,
        Progress.limit, limitOf, read, Except.map]

/-- Behind a double dash all is taken as it is. -/
theorem ofArguments?_switches (asJson : Bool) (limit? : Option String) (expressions : List String) :
    Order.ofArguments? (switches asJson limit? ++ "--" :: expressions) =
      (limitOf limit?).map fun limit => ⟨expressions, asJson, limit⟩ := by
  unfold Order.ofArguments?
  rw [classifyAll_switches]
  show (takeAll .start _ >>= _) = _
  rw [takeAll_switches]
  cases limitOf limit? with
  | error refusal => rfl
  | ok limit => simp [bind, Except.bind, Except.map, pure, Except.pure]

/-! ## Sessions -/

/-- Each outcome has a line of its own. -/
theorem pieces_output (c : Calculator) (asJson : Bool) (expressions : List String) :
    pieces '\n' (evaluateAll c asJson expressions).output.toList =
      (expressions.map fun text => ((c.evaluate (.str text)).report asJson).toList) ++ [[]] := by
  have whole : ∀ line ∈ expressions.map fun text =>
      ((c.evaluate (.str text)).report asJson).toList, '\n' ∉ line :=
    List.forall_mem_map.2 fun text _ => (c.graphic_report text asJson).notMem_lineFeed
  rw [← Text.pieces_flatMap whole]
  simp [evaluateAll, String.toList_join, List.flatMap_map]

theorem expressionsOf_intercalate {expressions : List String} (given : expressions ≠ [])
    (plain : ∀ text ∈ expressions, '\n' ∉ text.toList ∧ IsExpression text.toList) {ending : String}
    (ends : ending ∈ ["", "\n"]) :
    expressionsOf ("\n".intercalate expressions ++ ending) = expressions := by
  have whole : ∀ line ∈ expressions.map String.toList, '\n' ∉ line :=
    List.forall_mem_map.2 fun text member => (plain text member).1
  have evaluated : ∀ line ∈ expressions.map String.toList, IsExpression line :=
    List.forall_mem_map.2 fun text member => (plain text member).2
  have ended : ending.toList ∈ [[], ['\n']] := by
    simp only [List.mem_cons, List.not_mem_nil, or_false] at ends
    rcases ends with rfl | rfl <;> decide
  have lines := Text.pieces_intercalate (by simpa using given) whole ended
  have spelled : ("\n".intercalate expressions ++ ending).toList =
      ['\n'].intercalate (expressions.map String.toList) ++ ending.toList := by
    simp [String.toList_intercalate]
  rw [expressionsOf, spelled, lines]
  split
  · simp [readLines_of_isExpression evaluated, Function.comp_def]
  · simp [readLines_append_empty, readLines_of_isExpression evaluated, Function.comp_def]

theorem run_of_order {arguments : List String} {o : Order}
    (order : Order.ofArguments? arguments = .ok o) (input : String) :
    run arguments input = .ok (o.run input) := by
  rw [run, order]
  rfl

/-- Without expressions in the order the lines are taken one by one. -/
theorem run_eq_foldl_step {arguments : List String} {asJson : Bool} {limit : Option Int}
    (order : Order.ofArguments? arguments = .ok ⟨[], asJson, limit⟩) (input : String) :
    run arguments input = .ok ((pieces '\n' input.toList).foldl
      (Reading.step (.ofLimit limit) asJson) .start).transcript := by
  rw [run_of_order order, Reading.transcript_foldl_step]
  rfl

theorem Amends.run_eq {input input' : String}
    (amends : Amends (pieces '\n' input.toList) (pieces '\n' input'.toList))
    (arguments : List String) : run arguments input = run arguments input' := by
  have same : expressionsOf input = expressionsOf input' := by
    rw [expressionsOf, expressionsOf, amends.readLines_eq]
  simp only [run, Order.run, same]

/-- Whichever way expressions arrive, they come to the same: as arguments, or as the lines of the
input. Each outcome is shown on a line, and the code tells whether an evaluation failed. Of any
input, blank lines and all behind a line that ends the session make no difference. -/
theorem run_alike_either_way :
    (∀ (asJson : Bool) (limit : Option Int) (expressions : List String), expressions ≠ [] →
      (∀ text ∈ expressions, '\n' ∉ text.toList ∧ IsExpression text.toList) →
      ∃ t : Transcript,
        (∀ arguments, Order.ofArguments? arguments = .ok ⟨expressions, asJson, limit⟩ →
          ∀ input, run arguments input = .ok t) ∧
        (∀ arguments, Order.ofArguments? arguments = .ok ⟨[], asJson, limit⟩ →
          ∀ ending ∈ ["", "\n"],
            run arguments ("\n".intercalate expressions ++ ending) = .ok t) ∧
        let outcomes := expressions.map fun text => (Calculator.ofLimit limit).evaluate (.str text)
        pieces '\n' t.output.toList = outcomes.map (fun e => (e.report asJson).toList) ++ [[]] ∧
        t.code = if outcomes.all Envelope.isSuccess then 0 else 1) ∧
    (∀ (asJson : Bool) (limit? : Option String) (limit : Option Int),
      limitOf limit? = .ok limit → ∀ expressions,
      Order.ofArguments? (switches asJson limit? ++ "--" :: expressions) =
        .ok ⟨expressions, asJson, limit⟩) ∧
    ∀ (arguments : List String) (input input' : String),
      Amends (pieces '\n' input.toList) (pieces '\n' input'.toList) →
      run arguments input = run arguments input' := by
  constructor
  · intro asJson limit expressions given plain
    let c := Calculator.ofLimit limit
    refine ⟨evaluateAll c asJson expressions, ?_, ?_, ?_, ?_⟩
    · intro arguments order input
      rw [run_of_order order]
      simp [Order.run, given, c]
    · intro arguments order ending ends
      rw [run_of_order order, Order.run, expressionsOf_intercalate given plain ends]
      rfl
    · rw [pieces_output, List.map_map]
      rfl
    · rfl
  constructor
  · intro asJson limit? limit asked expressions
    rw [ofArguments?_switches, asked]
    rfl
  · intro arguments input input' amends
    exact amends.run_eq arguments

theorem run_alike_either_way_of_two_lines :
    let switches := ["--json", "--max-length", "50"]
    (∃ t, run (switches ++ ["--", "-1 + 2", "1 / 0"]) "5" = .ok t ∧
      run switches "-1 + 2\n1 / 0\n" = .ok t ∧ t.code = 1) ∧
    Order.ofArguments? ["--max-length= 7 ", "--", "-1"] = .ok ⟨["-1"], false, some 7⟩ ∧
    run switches "1\n \n Quit\n2" = run switches "1\n Quit\n" := by
  intro switches
  obtain ⟨alike, asked, amended⟩ := run_alike_either_way
  constructor
  · have plain : ∀ text ∈ ["-1 + 2", "1 / 0"], '\n' ∉ text.toList ∧ IsExpression text.toList := by
      decide +kernel
    obtain ⟨t, given, lines, shown, code⟩ :=
      alike true (some 50) ["-1 + 2", "1 / 0"] (by decide) plain
    refine ⟨t, given _ (by decide +kernel) _, ?_, ?_⟩
    · exact lines switches (by decide +kernel) "\n" (by decide)
    · rw [code]
      decide +kernel
  constructor
  · exact asked false (some " 7 ") (some 7) (by decide +kernel) ["-1"]
  · apply amended
    have shorter := @Amends.blank ["1".toList] [" Quit".toList, "2".toList] " ".toList (by decide)
    have earlier := @Amends.ended ["1".toList] ["2".toList] [[]] " Quit".toList (by decide)
    exact shorter.symm.trans earlier

end Console

end Reckoner
