import RunnerGateway.Text.Blank

/-!
# The environment

The variables that a program is started with: names with values that are bytes.  A variable whose
value is not UTF-8 counts as unset.  Some variables have an older name that is still read; each such
reading leaves a note, and the notes stand in the order of the readings.
-/

namespace RunnerGateway

/-- The variables with their values. -/
abbrev Environment := List (String × List UInt8)

/-- A variable was read by its older name. -/
structure Deprecation where
  oldName : String
  newName : String
  deriving DecidableEq, Repr

/-- What the operator is told. -/
def Deprecation.message (d : Deprecation) : String :=
  "Environment variable '" ++ d.oldName ++ "' is deprecated, use '" ++ d.newName ++ "' instead"

/-- A value with the notes that reading it left. -/
structure Noted (α : Type) where
  value : α
  notes : List Deprecation := []
  deriving Repr

namespace Noted

/-- The value of a reading that leaves no note. -/
protected def pure (a : α) : Noted α where
  value := a

/-- One reading after the other; the notes of the first come first. -/
protected def bind (x : Noted α) (f : α → Noted β) : Noted β :=
  let y := f x.value
  { value := y.value, notes := x.notes ++ y.notes }

instance : Monad Noted where
  pure := Noted.pure
  bind := Noted.bind

end Noted

/-- The text means that something is switched on. -/
def isAffirmative (text : String) : Bool :=
  let word := (Text.trimBlank text.toList).map Text.lowerAscii
  word = "1".toList || word = "true".toList || word = "yes".toList || word = "on".toList

namespace Environment

/-- The value of a variable as bytes. -/
def bytes? (env : Environment) (name : String) : Option (List UInt8) :=
  env.lookup name

/-- The value of a variable, if it is text. -/
def text? (env : Environment) (name : String) : Option String :=
  (env.bytes? name).bind fun value => String.fromUTF8? value.toByteArray

/-- The value of a variable, or else of the older name for it, which leaves a note. -/
def renamed? (env : Environment) (name oldName : String) : Noted (Option String) :=
  match env.text? name with
  | some value => pure (some value)
  | none =>
    match env.text? oldName with
    | some value => { value := some value, notes := [⟨oldName, name⟩] }
    | none => pure none

/-- What `read` makes of the value of a variable or of the older name for it, or `default`. -/
def renamedAs (env : Environment) (name oldName : String) (read : String → Option α)
    (default : α) : Noted α := do
  return ((← env.renamed? name oldName).bind read).getD default

/-- The variable is a switch that is on; unset it is `default`. -/
def switch (env : Environment) (name : String) (default : Bool) : Bool :=
  ((env.text? name).map isAffirmative).getD default

/-- The variable or the older name for it is a switch that is on. -/
def renamedSwitch (env : Environment) (name oldName : String) : Noted Bool :=
  env.renamedAs name oldName (fun value => some (isAffirmative value)) false

/-- The value of a variable, unless it is empty. -/
def nonEmpty? (env : Environment) (name : String) : Option String :=
  (env.text? name).filter fun value => value ≠ ""

end Environment
end RunnerGateway
