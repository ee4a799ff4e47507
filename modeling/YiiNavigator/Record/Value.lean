import YiiNavigator.Text.Integer

/-!
# Loosely typed records

Settings and records arrive as values whose types are not known beforehand. Reading one of them
checks every field and collects the faults of all, in the order of the fields.
-/

namespace YiiNavigator

/-- A value as it arrives. Integers are exact and have no bounds. Floating numbers are binary, so
that each is a significand times a power of two, unless it is not finite. -/
inductive Value where
  | null
  | boolean (b : Bool)
  | integer (i : Int)
  | floating (significand exponent : Int)
  | notFinite
  | text (t : Text)
  | list
  | record (fields : List (Text × Value))
deriving Inhabited

/-- What may be wrong with a field or a record. -/
inductive Cause where
  | missing
  | notText
  | emptyText
  | malformedExtension
  | notInteger
  | unreadableInteger
  | overlongInteger
  | fractionalInteger
  | infiniteInteger
  | notPosition
  | bodyBeforeDeclaration
  | endBeforeBody
deriving DecidableEq, Repr

/-- A fault and where it lies: the names of the fields that lead to it, none for the record as a
whole. -/
structure Fault where
  location : List Text
  cause : Cause
deriving DecidableEq, Repr

namespace Cause

/-- The short name of a cause. -/
def code : Cause → Text
  | missing => "missing".toList
  | notText => "string_type".toList
  | emptyText => "string_too_short".toList
  | malformedExtension => "string_pattern_mismatch".toList
  | notInteger => "int_type".toList
  | unreadableInteger => "int_parsing".toList
  | overlongInteger => "int_parsing_size".toList
  | fractionalInteger => "int_from_float".toList
  | infiniteInteger => "finite_number".toList
  | notPosition => "model_type".toList
  | bodyBeforeDeclaration => "value_error".toList
  | endBeforeBody => "value_error".toList

/-- A cause in words. -/
def message : Cause → Text
  | missing => "Field required".toList
  | notText => "Input should be a valid string".toList
  | emptyText => "String should have at least 1 character".toList
  | malformedExtension => "String should match pattern '^\\.\\w+$'".toList
  | notInteger => "Input should be a valid integer".toList
  | unreadableInteger =>
    "Input should be a valid integer, unable to parse string as an integer".toList
  | overlongInteger =>
    "Unable to parse input string as an integer, exceeded maximum size".toList
  | fractionalInteger =>
    "Input should be a valid integer, got a number with a fractional part".toList
  | infiniteInteger => "Input should be a finite number".toList
  | notPosition => "Input should be a valid dictionary or instance of Position".toList
  | bodyBeforeDeclaration =>
    "Value error, body_start_offset precedes declaration_offset".toList
  | endBeforeBody => "Value error, body_end_offset precedes body_start_offset".toList

end Cause

/-! ## Checked values -/

/-- A value, or the faults that stand in its way. -/
abbrev Checked (α : Type) := Except (List Fault) α

namespace Checked

variable {α β : Type}

/-- A fault of the record as a whole. -/
def fail (cause : Cause) : Checked α :=
  .error [⟨[], cause⟩]

/-- A function applied to a value; the faults of both are collected. -/
def apply (f : Checked (α → β)) (x : Checked α) : Checked β :=
  match f, x with
  | .ok f, .ok x => .ok (f x)
  | .ok _, .error faults => .error faults
  | .error faults, .ok _ => .error faults
  | .error faults, .error more => .error (faults ++ more)

/-- A value read inside a field: its faults lie below the field. -/
def within (name : Text) (x : Checked α) : Checked α :=
  x.mapError fun faults => faults.map fun fault => { fault with location := name :: fault.location }

end Checked

namespace Value

/-! ## Reading fields -/

/-- The value under a name; the last one counts when there are several. -/
def lookup? (fields : List (Text × Value)) (name : Text) : Option Value :=
  fields.reverse.lookup name

/-- Reads a required field. -/
def field {α : Type} (fields : List (Text × Value)) (name : Text) (read : Value → Checked α) :
    Checked α :=
  Checked.within name (match lookup? fields name with
    | none => Checked.fail .missing
    | some value => read value)

/-- Reads a field that has a default. -/
def fieldOr {α : Type} (default : α) (fields : List (Text × Value)) (name : Text)
    (read : Value → Checked α) : Checked α :=
  Checked.within name (match lookup? fields name with
    | none => .ok default
    | some value => read value)

/-- Reads a text. -/
def readText : Value → Checked Text
  | text t => .ok t
  | _ => Checked.fail .notText

/-- The integer that a floating number is, if it has no fractional part. -/
def whole? (significand exponent : Int) : Option Int :=
  if 0 ≤ exponent then some (significand * Nat.pow 2 exponent.toNat)
  else
    let unit : Int := Nat.pow 2 (-exponent).toNat
    if significand % unit = 0 then some (significand / unit) else none

/-- Reads a floating number as an integer, which has to be smaller than 2⁶³ in size. -/
def readFloating (significand exponent : Int) : Checked Int :=
  match whole? significand exponent with
  | none => Checked.fail .fractionalInteger
  | some i => if i.natAbs < Nat.pow 2 63 then .ok i else Checked.fail .overlongInteger

/-- Reads an integer. The text of an integer counts, so does a floating number without a fractional
part, and a truth value counts as 0 or 1. -/
def readInteger : Value → Checked Int
  | integer i => .ok i
  | boolean b => .ok (if b then 1 else 0)
  | floating significand exponent => readFloating significand exponent
  | notFinite => Checked.fail .infiniteInteger
  | text t => match Text.readInteger t with
    | .ok i => .ok i
    | .error .malformed => Checked.fail .unreadableInteger
    | .error .tooLong => Checked.fail .overlongInteger
  | _ => Checked.fail .notInteger

end Value
end YiiNavigator
