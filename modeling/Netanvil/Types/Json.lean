/-
# JSON values

The values that cross the HTTP APIs. Text and bytes are not modelled: a body is the
value it parses to. A number that is printed may be parsed as another one (`reread`).
-/
import Mathlib.Data.Rat.Defs

namespace Netanvil.Types

/-- JSON values. Integers and other numbers are kept apart, as the parser keeps them;
the keys of an object are distinct. -/
inductive Json where
  | null
  | bool (b : Bool)
  | int (n : Int)
  | float (x : ℚ)
  | str (s : String)
  | arr (items : List Json)
  | obj (fields : List (String × Json))

namespace Json

def get (key : String) : Json → Option Json
  | .obj fields => fields.lookup key
  | _ => none

def asF64 : Json → Option ℚ
  | .int n => some n
  | .float x => some x
  | _ => none

/-- Counters are unbounded in this model, so only negative numbers are refused. -/
def asU64 : Json → Option Nat
  | .int (.ofNat n) => some n
  | _ => none

def asStr : Json → Option String
  | .str s => some s
  | _ => none

def asObj : Json → Option (List (String × Json))
  | .obj fields => some fields
  | _ => none

/-- The value its text is parsed to, if `text` is what becomes of a number that is no integer. -/
def reread (text : ℚ → ℚ) : Json → Json
  | .float x => .float (text x)
  | .arr items => .arr (items.map fun j => j.reread text)
  | .obj fields => .obj (fields.map fun field => (field.1, field.2.reread text))
  | j => j
decreasing_by
  · have := List.sizeOf_lt_of_mem ‹_ ∈ items›
    simp only [arr.sizeOf_spec]
    omega
  · have := List.sizeOf_lt_of_mem ‹_ ∈ fields›
    have : sizeOf field = 1 + sizeOf field.1 + sizeOf field.2 := rfl
    simp only [obj.sizeOf_spec]
    omega

/-! ## Fields of a derived decoder

Unknown keys are ignored. A field of an optional type may be missing or null; one with
a default may be missing, but not null. -/

variable {α : Type} (decode : Json → Option α) (key : String) (j : Json)

def required : Option α := (j.get key).bind decode

def optional : Option (Option α) :=
  match j.get key with
  | none => some none
  | some .null => some none
  | some v => (decode v).map some

def defaulted (default : α) : Option α :=
  match j.get key with
  | none => some default
  | some v => decode v

end Json

end Netanvil.Types
