import Reckoner.Text.Pieces

/-!
# Punycode

A text in the letters, digits and hyphens of ASCII. The characters of ASCII come first, and then,
behind a hyphen, where the others are put in. Those are put in by ascending code points, and of one
code point from left to right. From one place to the next is a gap: the count of steps in which
first the place moves on through the text and then the code point moves on by one.

* `encode` writes a text,
* `decode?` reads it back.
-/

namespace Reckoner.Net.Host.Punycode

open Text (splitLast?)

/-! ## Digits -/

def digitChar (d : Nat) : Char :=
  if d < 26 then Char.ofNat (0x61 + d) else Char.ofNat (0x30 + (d - 26))

/-- The digit that a character stands for, with letters in either case. -/
def digit? (c : Char) : Option Nat :=
  if 'a' ≤ c ∧ c ≤ 'z' then some (c.toNat - 0x61)
  else if 'A' ≤ c ∧ c ≤ 'Z' then some (c.toNat - 0x41)
  else if '0' ≤ c ∧ c ≤ '9' then some (c.toNat - 0x30 + 26)
  else none

/-- A digit below the threshold of its place ends a number. -/
def threshold (bias place : Nat) : Nat :=
  min 26 (max 1 (36 * (place + 1) - bias))

theorem one_le_threshold (bias place : Nat) : 1 ≤ threshold bias place := by
  unfold threshold
  omega

/-- The digits of a number from a place on, the least significant first. -/
def writeNumber (bias place n : Nat) : List Char :=
  let t := threshold bias place
  if n < t then [digitChar n]
  else digitChar (t + (n - t) % (36 - t)) :: writeNumber bias (place + 1) ((n - t) / (36 - t))
termination_by n
decreasing_by
  have positive := one_le_threshold bias place
  have smaller := Nat.div_le_self (n - threshold bias place) (36 - threshold bias place)
  omega

/-! ## Bias -/

/-- What is left of a gap once it is divided until it is small, and 36 for each division. -/
def shrink (gap steps : Nat) : Nat × Nat :=
  if 455 < gap then shrink (gap / 35) (steps + 36) else (gap, steps)
termination_by gap
decreasing_by omega

/-- The bias after a gap, when the text has some length with the character put in. -/
def nextBias (isFirst : Bool) (length gap : Nat) : Nat :=
  let halved := if isFirst then gap / 700 else gap / 2
  let (rest, steps) := shrink (halved + halved / length) 0
  steps + 36 * rest / (rest + 38)

/-- The bias before any gap. -/
def firstBias : Nat := 72

/-! ## Writing -/

def isBasic (c : Char) : Bool :=
  c.toNat < 0x80

/-- Where the characters outside ASCII go: each with its code point, and the count of characters
that are before it when it is put in. What is before a text is given as its code points. -/
def places (before : List Nat) : List Char → List (Nat × Nat)
  | [] => []
  | c :: text =>
    let rest := places (c.toNat :: before) text
    if isBasic c then rest else (c.toNat, (before.filter (· ≤ c.toNat)).length) :: rest

/-- The gaps between places, from a code point and a place on, in a text of some length. -/
def gaps (code place length : Nat) : List (Nat × Nat) → List Nat
  | [] => []
  | (c, p) :: rest =>
    ((c - code) * (length + 1) + p - place) :: gaps c (p + 1) (length + 1) rest

def writeGaps (bias : Nat) (isFirst : Bool) (length : Nat) : List Nat → List Char
  | [] => []
  | gap :: rest =>
    writeNumber bias 0 gap ++
      writeGaps (nextBias isFirst (length + 1) gap) false (length + 1) rest

def encode (text : List Char) : List Char :=
  let basic := text.filter isBasic
  let ordered := (places [] text).mergeSort fun a b => a.1 ≤ b.1
  basic ++ (if basic.isEmpty then [] else ['-']) ++
    writeGaps firstBias true basic.length (gaps 0x80 0 basic.length ordered)

/-! ## Reading -/

/-- Reads gaps, in the middle of a number: what it amounts to so far, and what its next digit is
worth. -/
def readGaps (bias : Nat) (isFirst : Bool) (length place worth sum : Nat) :
    List Char → Option (List Nat)
  | [] => if place = 0 then some [] else none
  | c :: text =>
    match digit? c with
    | none => none
    | some d =>
      let t := threshold bias place
      let gap := sum + d * worth
      if d < t then
        (readGaps (nextBias isFirst (length + 1) gap) false (length + 1) 0 1 0 text).map (gap :: ·)
      else readGaps bias isFirst length (place + 1) (worth * (36 - t)) gap text

/-- Puts characters into a text, from a code point and a place on. -/
def fillIn (code place : Nat) (text : List Char) : List Nat → Option (List Char)
  | [] => some text
  | gap :: rest =>
    let length := text.length + 1
    let code := code + (place + gap) / length
    let place := (place + gap) % length
    if code ≤ 0x10FFFF then fillIn code (place + 1) (text.insertIdx place (Char.ofNat code)) rest
    else none

def decode? (written : List Char) : Option (List Char) :=
  let (basic, digits) := (splitLast? '-' written).getD ([], written)
  (readGaps firstBias true basic.length 0 1 0 digits).bind (fillIn 0x80 0 basic)

end Reckoner.Net.Host.Punycode
