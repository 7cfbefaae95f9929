import Reckoner.Proofs.Expr.Depth
import Reckoner.Proofs.Expr.Lexing
import Reckoner.Proofs.Expr.Parsing

/-!
# Parsing undoes printing

A tree is printed without any blank, and with parentheses around the operands that a reader would
otherwise take apart:

* `Slot` tells where an operand stands, and `Slot.encloses` which trees need parentheses there,
* `Expr.print` is the printed text, and `Expr.nesting` tells how deep that text nests.

The text is cut at the lexemes that were printed, and these derive the tree, `Expr.derives_lexemes`.
No other derivation of the same lexemes nests less deep, so the text is read exactly if it nests no
deeper than is allowed, `Expr.parse_print`.
-/

namespace Reckoner

open Text (isBlank)

/-! ## Slots -/

namespace Expr

def isSum : Expr → Bool
  | binary o _ _ => o.isAdditive
  | _ => false

def isProduct : Expr → Bool
  | binary o _ _ => o.isMultiplicative
  | _ => false

def isNumber : Expr → Bool
  | number _ => true
  | _ => false

end Expr

/-- Where an operand stands. -/
inductive Slot where
  | leftOfSum
  | rightOfSum
  | leftOfProduct
  | rightOfProduct
  | behindSign
  | base
  | exponent

/-- Whether a tree is put between parentheses in a slot. -/
def Slot.encloses : Slot → Expr → Bool
  | leftOfSum, _ => false
  | rightOfSum, e | leftOfProduct, e => e.isSum
  | rightOfProduct, e | behindSign, e | exponent, e => e.isSum || e.isProduct
  | base, e => !e.isNumber

def Op.leftSlot : Op → Slot
  | add | sub => .leftOfSum
  | mul | div | rem => .leftOfProduct
  | hat | pow => .base

def Op.rightSlot : Op → Slot
  | add | sub => .rightOfSum
  | mul | div | rem => .rightOfProduct
  | hat | pow => .exponent

theorem Sign.chars_op (sign : Sign) : sign.op.chars = [sign.char] := by
  cases sign <;> rfl

theorem Sign.sign?_op (sign : Sign) : sign.op.sign? = some sign := by
  cases sign <;> rfl

/-! ## Printing -/

namespace Expr

def parenthesize (enclosed : Bool) (text : List Char) : List Char :=
  if enclosed then '(' :: (text ++ [')']) else text

/-- The text of a tree, with as few parentheses as the tree allows. -/
def print : Expr → List Char
  | number numeral => numeral.chars
  | signed sign operand =>
    sign.char :: parenthesize (Slot.behindSign.encloses operand) operand.print
  | binary o left right =>
    parenthesize (o.leftSlot.encloses left) left.print ++
      (o.chars ++ parenthesize (o.rightSlot.encloses right) right.print)

/-- How deep the printed text nests: parentheses, signs and exponents each go one level down. -/
def nesting : Expr → Nat
  | number _ => 0
  | signed _ operand => operand.nesting + (Slot.behindSign.encloses operand).toNat + 1
  | binary o left right =>
    max (left.nesting + (o.leftSlot.encloses left).toNat)
      (right.nesting + (o.rightSlot.encloses right).toNat + o.isPower.toNat)

def enclose (enclosed : Bool) (lexemes : List Lexeme) : List Lexeme :=
  if enclosed then .opening :: (lexemes ++ [.closing]) else lexemes

/-- The lexemes of the printed text. -/
def lexemes : Expr → List Lexeme
  | number numeral => [.number numeral]
  | signed sign operand =>
    .op sign.op :: enclose (Slot.behindSign.encloses operand) operand.lexemes
  | binary o left right =>
    enclose (o.leftSlot.encloses left) left.lexemes ++
      .op o :: enclose (o.rightSlot.encloses right) right.lexemes

theorem flatMap_enclose (enclosed : Bool) (lexemes : List Lexeme) :
    (enclose enclosed lexemes).flatMap Lexeme.chars =
      parenthesize enclosed (lexemes.flatMap Lexeme.chars) := by
  cases enclosed <;> simp [enclose, parenthesize, Lexeme.chars]

theorem flatMap_lexemes (e : Expr) : e.lexemes.flatMap Lexeme.chars = e.print := by
  induction e with
  | number numeral => simp [lexemes, print, Lexeme.chars]
  | signed sign operand ih =>
    simp [lexemes, print, flatMap_enclose, Lexeme.chars, Sign.chars_op, ih]
  | binary o left right ihl ihr =>
    simp [lexemes, print, flatMap_enclose, Lexeme.chars, ihl, ihr]

theorem isBlank_of_mem_print {e : Expr} {c : Char} (member : c ∈ e.print) : isBlank c = false := by
  rw [← flatMap_lexemes] at member
  obtain ⟨lexeme, _, spelled⟩ := List.mem_flatMap.1 member
  exact Lexeme.isBlank_of_mem_chars spelled

/-! ## Printed trees are derived -/

/-- How loosely a construct binds. Each construct is also one of every higher rank. -/
def Construct.rank : Construct → Nat
  | primary => 0
  | power => 1
  | operand => 2
  | term => 3
  | sum => 4

theorem Derives.loosen {tight loose : Construct} {lexemes : List Lexeme} {tree : Expr}
    {depth : Nat} (derives : Derives tight lexemes tree depth) (looser : tight.rank ≤ loose.rank) :
    Derives loose lexemes tree depth := by
  cases loose with
  | primary =>
    cases tight with
    | primary => exact derives
    | power | operand | term | sum => cases looser
  | power =>
    cases tight with
    | primary => exact derives.primary
    | power => exact derives
    | operand | term | sum => simp [Construct.rank] at looser
  | operand =>
    cases tight with
    | primary => exact derives.primary.power
    | power => exact derives.power
    | operand => exact derives
    | term | sum => simp [Construct.rank] at looser
  | term =>
    cases tight with
    | primary => exact derives.primary.power.operand
    | power => exact derives.power.operand
    | operand => exact derives.operand
    | term => exact derives
    | sum => simp [Construct.rank] at looser
  | sum =>
    cases tight with
    | primary => exact derives.primary.power.operand.term
    | power => exact derives.power.operand.term
    | operand => exact derives.operand.term
    | term => exact derives.term
    | sum => exact derives

/-- The construct that a tree is printed as. -/
def construct : Expr → Construct
  | number _ => .primary
  | signed _ _ => .operand
  | binary o _ _ => if o.isAdditive then .sum else if o.isMultiplicative then .term else .power

end Expr

/-- The loosest construct that may stand in a slot without parentheses. -/
def Slot.construct : Slot → Expr.Construct
  | leftOfSum => .sum
  | rightOfSum | leftOfProduct => .term
  | rightOfProduct | behindSign | exponent => .operand
  | base => .primary

/-- Exactly those trees are enclosed that the slot has no room for. -/
theorem Slot.encloses_eq (slot : Slot) (e : Expr) :
    slot.encloses e = decide (slot.construct.rank < e.construct.rank) := by
  cases e with
  | number _ => cases slot <;> rfl
  | signed _ _ => cases slot <;> rfl
  | binary o _ _ => cases slot <;> cases o <;> rfl

namespace Expr

theorem Derives.enclosed {e : Expr} (derives : Derives e.construct e.lexemes e e.nesting)
    (slot : Slot) :
    Derives slot.construct (enclose (slot.encloses e) e.lexemes) e
      (e.nesting + (slot.encloses e).toNat) := by
  cases encloses : slot.encloses e with
  | true =>
    have whole : e.construct.rank ≤ Construct.sum.rank := by
      cases e.construct <;> decide
    exact (derives.loosen whole).parenthesized.loosen (Nat.zero_le _)
  | false =>
    rw [slot.encloses_eq, decide_eq_false_iff_not, Nat.not_lt] at encloses
    exact derives.loosen encloses

/-- The printed lexemes derive the tree, as deep as the text nests. -/
theorem derives_lexemes (e : Expr) : Derives e.construct e.lexemes e e.nesting := by
  induction e with
  | number numeral => exact .number
  | signed sign operand ih => exact .signed sign.sign?_op (ih.enclosed .behindSign)
  | binary o left right ihl ihr =>
    have left := ihl.enclosed o.leftSlot
    have right := ihr.enclosed o.rightSlot
    cases o with
    | add | sub => exact .joinTerm rfl left right
    | mul | div | rem => exact .joinOperand rfl left right
    | hat | pow => exact .raised rfl left right

theorem derives_sum_lexemes (e : Expr) : Derives .sum e.lexemes e e.nesting := by
  refine e.derives_lexemes.loosen ?_
  cases e.construct <;> decide

/-! ## Main result -/

/-- Printing a tree and parsing the text gives the tree back, with every numeral and every operator
as it was spelled. The text has no blanks. If it nests too deep it is not parsed at all, so it never
gives another tree. -/
theorem parse_print (e : Expr) :
    (∀ c ∈ e.print, isBlank c = false) ∧
    (parse e.print = .ok e ↔ e.nesting ≤ maxNesting) ∧
    (∀ tree, parse e.print = .ok tree → tree = e) := by
  obtain ⟨tokens, cut, spelled⟩ := tokenizeFrom_written e.derives_lexemes.framed.chain 0
  rw [flatMap_lexemes] at cut
  have parses : ∀ tree, parse e.print = .ok tree ↔
      ∃ depth, depth ≤ maxNesting ∧ Derives .sum e.lexemes tree depth := by
    intro tree
    have parsed : parse e.print = ofTokens? tokens := by simp [parse, tokenize, cut]
    rw [parsed, ofTokens?_eq_ok_iff_derives, spelled]
  refine ⟨fun c => isBlank_of_mem_print, ?_, ?_⟩
  · rw [parses]
    constructor
    · rintro ⟨depth, bound, derives⟩
      rwa [e.derives_sum_lexemes.depth_unique derives]
    · intro bound
      exact ⟨e.nesting, bound, e.derives_sum_lexemes⟩
  · intro tree parsed
    obtain ⟨depth, _, derives⟩ := (parses tree).1 parsed
    exact derives.unique e.derives_sum_lexemes

/-- A difference behind a sign, a power as a base, and a power behind a sign in an exponent. -/
theorem parse_print_powers_in_product :
    ∃ e : Expr, e.print = "-(1-2.)*(.5**3)^-4^5".toList ∧
      ('(' ∈ e.print ∧ isBlank '(' = false) ∧
      (e.nesting = 3 ∧ parse e.print = .ok e) ∧
      ∃ tree, parse e.print = .ok tree ∧ tree = e := by
  refine ⟨.binary .mul
    (.signed .minus (.binary .sub (.number (.integer ⟨1, []⟩)) (.number (.mixed ⟨2, []⟩ []))))
    (.binary .hat (.binary .pow (.number (.fraction ⟨5, []⟩)) (.number (.integer ⟨3, []⟩)))
      (.signed .minus
        (.binary .hat (.number (.integer ⟨4, []⟩)) (.number (.integer ⟨5, []⟩))))), ?_⟩
  have member : '(' ∈ "-(1-2.)*(.5**3)^-4^5".toList := by decide
  obtain ⟨unblank, parses, only⟩ := parse_print (.binary .mul
    (.signed .minus (.binary .sub (.number (.integer ⟨1, []⟩)) (.number (.mixed ⟨2, []⟩ []))))
    (.binary .hat (.binary .pow (.number (.fraction ⟨5, []⟩)) (.number (.integer ⟨3, []⟩)))
      (.signed .minus
        (.binary .hat (.number (.integer ⟨4, []⟩)) (.number (.integer ⟨5, []⟩))))))
  have parsed := parses.2 (by decide)
  exact ⟨by decide, ⟨member, unblank _ member⟩, ⟨by decide, parsed⟩, _, parsed, only _ parsed⟩

end Expr

end Reckoner
