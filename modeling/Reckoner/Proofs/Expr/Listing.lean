import Mathlib.Data.List.Nodup
import Reckoner.Proofs.Expr.Parsing

/-!
# The listing of a tree

The nodes of a tree are listed by a loop over a stack of trees. `Turns` is that loop turn by turn.
Between two turns the nodes that are listed, followed by those of the trees that are still on the
stack, are those of the tree in preorder, and every turn takes one node off the stack. So the loop
ends, after as many turns as the tree has nodes, and with the preorder.

Two more views of the listing tell that nothing is lost or doubled in it. Every place in the tree,
`at?`, is visited once. And since a tree keeps every token but the parentheses,
`Derives.inorder_eq`, its number nodes are the number tokens of the text.
-/

namespace Reckoner

/-! ## The loop -/

namespace Expr

/-- The trees that a node puts on the stack, topmost first. -/
def operands : Expr → List Expr
  | number _ => []
  | signed _ operand => [operand]
  | binary _ left right => [left, right]

/-- A number of turns of the loop, from a stack to a stack, with the nodes that they list. The loop
ends when the stack is empty. -/
inductive Turns : Nat → List Expr → List Expr → List Expr → Prop where
  | none {stack} : Turns 0 stack [] stack
  | more {n node stack listed rest} : Turns n (node.operands ++ stack) listed rest →
      Turns (n + 1) (node :: stack) (node :: listed) rest

theorem preorder_eq_cons (node : Expr) :
    node.preorder = node :: node.operands.flatMap preorder := by
  cases node <;> simp [preorder, operands]

theorem size_eq_succ (node : Expr) : node.size = pendingSize node.operands + 1 := by
  cases node <;> simp [size, pendingSize, operands]

theorem pendingSize_append (trees stack : List Expr) :
    pendingSize (trees ++ stack) = pendingSize trees + pendingSize stack := by
  simp [pendingSize]

/-- What a turn keeps: nothing is lost between the listing and the stack. -/
theorem Turns.preorder_eq {n : Nat} {stack listed rest : List Expr}
    (turns : Turns n stack listed rest) :
    stack.flatMap preorder = listed ++ rest.flatMap preorder := by
  induction turns with
  | none => rfl
  | @more n node stack listed rest _ ih =>
    calc (node :: stack).flatMap preorder
        = node :: (node.operands ++ stack).flatMap preorder := by
          simp [preorder_eq_cons node]
      _ = node :: listed ++ rest.flatMap preorder := by simp [ih]

/-- What a turn uses up. -/
theorem Turns.pendingSize_eq {n : Nat} {stack listed rest : List Expr}
    (turns : Turns n stack listed rest) : pendingSize stack = n + pendingSize rest := by
  induction turns with
  | none => simp
  | @more n node stack listed rest _ ih =>
    have first : pendingSize (node :: stack) = node.size + pendingSize stack := by
      simp [pendingSize]
    rw [pendingSize_append] at ih
    rw [first, size_eq_succ]
    omega

/-- The loop gets to its end from every stack. -/
theorem turns_walk (stack : List Expr) : Turns (pendingSize stack) stack (walk stack) [] := by
  have step {node : Expr} {stack : List Expr} (turns : Turns (pendingSize (node.operands ++ stack))
      (node.operands ++ stack) (walk (node.operands ++ stack)) []) :
      Turns (pendingSize (node :: stack)) (node :: stack)
        (node :: walk (node.operands ++ stack)) [] := by
    have size : pendingSize (node :: stack) = pendingSize (node.operands ++ stack) + 1 :=
      turns.more.pendingSize_eq
    rw [size]
    exact turns.more
  fun_induction walk stack with
  | case1 => exact .none
  | case2 numeral stack ih => exact step ih
  | case3 sign operand stack ih => exact step ih
  | case4 o left right stack ih => exact step ih

/-! ## Places -/

/-- The way down from a node: to its left or only operand, or to its right one. -/
inductive Side where
  | left
  | right
  deriving DecidableEq

/-- The node at a place, which is told by the way down from the root. -/
def at? : Expr → List Side → Option Expr
  | tree, [] => some tree
  | signed _ operand, .left :: place => operand.at? place
  | binary _ left _, .left :: place => left.at? place
  | binary _ _ right, .right :: place => right.at? place
  | _, _ => none

/-- The places of a tree, in preorder. -/
def places : Expr → List (List Side)
  | number _ => [[]]
  | signed _ operand => [] :: operand.places.map (.left :: ·)
  | binary _ left right =>
    [] :: (left.places.map (.left :: ·) ++ right.places.map (.right :: ·))

theorem map_at?_places (tree : Expr) : tree.places.map tree.at? = tree.preorder.map some := by
  induction tree with
  | number _ => rfl
  | signed _ operand ih => simp [places, preorder, at?, Function.comp_def, ← ih]
  | binary _ left right ihl ihr =>
    simp [places, preorder, at?, Function.comp_def, ← ihl, ← ihr]

theorem mem_places {tree : Expr} {place : List Side} :
    place ∈ tree.places ↔ (tree.at? place).isSome := by
  induction tree generalizing place with
  | number _ =>
    cases place with
    | nil => simp [places, at?]
    | cons side place => simp [places, at?]
  | signed _ operand ih =>
    match place with
    | [] => simp [places, at?]
    | .left :: place => simp [places, at?, ih]
    | .right :: place => simp [places, at?]
  | binary _ left right ihl ihr =>
    match place with
    | [] => simp [places, at?]
    | .left :: place => simp [places, at?, ihl]
    | .right :: place => simp [places, at?, ihr]

theorem nodup_places (tree : Expr) : tree.places.Nodup := by
  have below {side : Side} {places : List (List Side)} (nodup : places.Nodup) :
      (places.map (side :: ·)).Nodup :=
    nodup.map fun _ _ same => (List.cons.inj same).2
  induction tree with
  | number _ => simp [places]
  | signed _ operand ih => simp [places, below ih]
  | binary _ left right ihl ihr =>
    -- The places below the two operands begin with different sides.
    simp [places, List.nodup_append, below ihl, below ihr]

/-! ## Tokens -/

/-- The numeral of a number node. -/
def numeral? : Expr → Option Numeral
  | number numeral => some numeral
  | _ => none

end Expr

/-- The numeral of a number token. -/
def Lexeme.numeral? : Lexeme → Option Numeral
  | number numeral => some numeral
  | _ => none

namespace Expr

theorem filterMap_numeral?_preorder (tree : Expr) :
    tree.preorder.filterMap numeral? = tree.inorder.filterMap Lexeme.numeral? := by
  induction tree with
  | number _ => rfl
  | signed _ operand ih =>
    simp [preorder, inorder, List.filterMap_cons, numeral?, Lexeme.numeral?, ih]
  | binary _ left right ihl ihr =>
    simp [preorder, inorder, List.filterMap_cons, numeral?, Lexeme.numeral?, ihl, ihr]

theorem length_inorder (tree : Expr) : tree.inorder.length = tree.size := by
  induction tree with
  | number _ => rfl
  | signed _ operand ih => simp [inorder, size, ih]
  | binary _ left right ihl ihr =>
    simp only [inorder, size, List.length_append, List.length_cons, ihl, ihr]
    omega

theorem filterMap_numeral?_filter (lexemes : List Lexeme) :
    (lexemes.filter (!·.isParenthesis)).filterMap Lexeme.numeral? =
      lexemes.filterMap Lexeme.numeral? := by
  rw [List.filterMap_filter]
  apply List.filterMap_congr
  intro lexeme _
  cases lexeme <;> simp [Lexeme.isParenthesis, Lexeme.numeral?]

theorem filter_tokens_of_parse {text : List Char} {tree : Expr} (parsed : parse text = .ok tree) :
    ∃ tokens, tokenize text = .ok tokens ∧
      (tokens.map Token.lexeme).filter (!·.isParenthesis) = tree.inorder := by
  obtain ⟨tokens, cut, parsed⟩ := parse_eq_ok.1 parsed
  obtain ⟨depth, _, derives⟩ := ofTokens?_eq_ok_iff_derives.1 parsed
  exact ⟨tokens, cut, derives.inorder_eq⟩

/-! ## Main result -/

/-- The loop lists a tree in preorder and visits every place in it once, and then it ends. For a text
the number nodes of the listing are its number tokens, in order, and there is a node for every token
that is no parenthesis. -/
theorem nodes_listed :
    (∀ tree : Expr,
      Turns tree.size [tree] tree.nodes [] ∧
      (∀ n listed stack, Turns n [tree] listed stack →
        n ≤ tree.size ∧ tree.preorder = listed ++ stack.flatMap preorder) ∧
      tree.nodes = tree.preorder ∧
      ∃ places : List (List Side), places.Nodup ∧
        (∀ place, place ∈ places ↔ (tree.at? place).isSome) ∧
        places.map tree.at? = tree.nodes.map some) ∧
    (∀ text tree, parse text = .ok tree → ∃ tokens, tokenize text = .ok tokens ∧
      tree.nodes.filterMap numeral? = tokens.filterMap (·.lexeme.numeral?) ∧
      tree.nodes.length = tokens.countP (!·.lexeme.isParenthesis)) := by
  have single (tree : Expr) : pendingSize [tree] = tree.size := by simp [pendingSize]
  refine ⟨fun tree => ⟨?ends, ?bounded, nodes_eq_preorder tree, tree.places, tree.nodup_places,
    fun place => mem_places, ?visited⟩, ?tokens⟩
  case ends =>
    have ends := turns_walk [tree]
    rwa [single] at ends
  case bounded =>
    intro n listed stack turns
    have used := turns.pendingSize_eq
    have kept := turns.preorder_eq
    rw [single] at used
    exact ⟨by omega, by simpa using kept⟩
  case visited => rw [nodes_eq_preorder, map_at?_places]
  case tokens =>
    intro text tree parsed
    obtain ⟨tokens, cut, kept⟩ := filter_tokens_of_parse parsed
    refine ⟨tokens, cut, ?_, ?_⟩
    · rw [nodes_eq_preorder, filterMap_numeral?_preorder, ← kept, filterMap_numeral?_filter,
        List.filterMap_map]
      rfl
    · rw [nodes_eq_preorder, length_preorder, ← length_inorder, ← kept, ← List.countP_eq_length_filter,
        List.countP_map]
      rfl

/-- A sign, a power and a pair of parentheses: six nodes, from a text of eight tokens. -/
theorem nodes_listed_of_signed_power :
    let numeral := fun d => Numeral.integer ⟨d, []⟩
    let tree := Expr.binary .mul
      (.signed .minus (.binary .hat (.number (numeral 1)) (.number (numeral 2))))
      (.number (numeral 3))
    parse "-(1^2)*3".toList = .ok tree ∧ Turns 6 [tree] tree.nodes [] ∧
      tree.nodes.filterMap numeral? = [numeral 1, numeral 2, numeral 3] := by
  intro numeral tree
  have parsed : parse "-(1^2)*3".toList = .ok tree := by decide +kernel
  obtain ⟨tokens, cut, numbers, _⟩ := nodes_listed.2 _ _ parsed
  have cut' : tokenize "-(1^2)*3".toList = .ok [⟨.op .sub, 0⟩, ⟨.opening, 1⟩,
      ⟨.number (numeral 1), 2⟩, ⟨.op .hat, 3⟩, ⟨.number (numeral 2), 4⟩, ⟨.closing, 5⟩, ⟨.op .mul, 6⟩,
      ⟨.number (numeral 3), 7⟩] := by decide +kernel
  cases cut.symm.trans cut'
  exact ⟨parsed, (nodes_listed.1 tree).1, numbers⟩

end Expr

end Reckoner
