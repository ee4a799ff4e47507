import YiiNavigator.Text.Position
import YiiNavigator.Record.Value

/-!
# Actions

An action is a method of a controller: its name, the place of its declaration and its body. A body
without an end reaches to the end of the text, and one that ends where it starts is no body.
-/

namespace YiiNavigator

/-- The record of an action. `bodyEnd` is missing when the body has no end. -/
structure Action where
  name : Text
  declaration : Int
  bodyStart : Int
  bodyEnd : Option Int
  position : Position
deriving DecidableEq, Repr

namespace Action

/-- Whether the body has an end. -/
def isBounded (a : Action) : Bool :=
  a.bodyEnd.isSome

/-- Whether there is a body. -/
def hasBody (a : Action) : Bool :=
  match a.bodyEnd with
  | none => true
  | some stop => decide (a.bodyStart < stop)

/-- Whether an offset lies in the body; the offset of its end counts. -/
def covers (a : Action) (offset : Int) : Bool :=
  a.hasBody && decide (a.bodyStart ≤ offset) && match a.bodyEnd with
    | none => true
    | some stop => decide (offset ≤ stop)

/-- The text of the body. -/
def body (a : Action) (text : Text) : Text :=
  Text.slice text a.bodyStart (a.bodyEnd.getD text.length)

/-! ## Reading a record -/

/-- What is wrong with the order of the offsets. -/
def disorder? (a : Action) : Option Cause :=
  if a.bodyStart < a.declaration then some .bodyBeforeDeclaration
  else match a.bodyEnd with
    | none => none
    | some stop => if stop < a.bodyStart then some .endBeforeBody else none

/-- The number that stands for the end of a body without one. -/
def unbounded : Int := -1

/-- The end of a body that a number denotes. -/
def endOfNumber (i : Int) : Option Int :=
  if i = unbounded then none else some i

/-- The number that denotes the end of a body. -/
def endNumber (a : Action) : Int :=
  a.bodyEnd.getD unbounded

/-- Reads a position. -/
def readPosition : Value → Checked Position
  | .record fields => Checked.apply (Checked.apply (.ok Position.mk)
      (Value.field fields "row".toList Value.readInteger))
      (Value.field fields "column".toList Value.readInteger)
  | _ => Checked.fail .notPosition

/-- Reads an action. The order of its offsets is checked when every field is right. -/
def ofRecord (fields : List (Text × Value)) : Checked Action := do
  let integer (name : String) := Value.field fields name.toList Value.readInteger
  let build (name : Text) (declaration bodyStart bodyEnd : Int) (position : Position) : Action :=
    ⟨name, declaration, bodyStart, endOfNumber bodyEnd, position⟩
  let a ← Checked.apply (Checked.apply (Checked.apply (Checked.apply (Checked.apply (.ok build)
    (Value.field fields "name".toList Value.readText))
    (integer "declaration_offset")) (integer "body_start_offset"))
    (Value.fieldOr unbounded fields "body_end_offset".toList Value.readInteger))
    (Value.field fields "position".toList readPosition)
  match a.disorder? with
  | none => return a
  | some cause => Checked.fail cause

end Action
end YiiNavigator
