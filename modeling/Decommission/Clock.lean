import Decommission.Text.Digits

/-!
# Clocks

A clock tells the time that has passed and the date, and lets time pass.  Every look at it may find
that time has gone on.  A pause can be cut short by a signal.
-/

namespace Decommission

/-- A date and a time of day. -/
structure Stamp where
  year : Nat
  month : Nat
  day : Nat
  hour : Nat
  minute : Nat
  second : Nat
  deriving DecidableEq, Repr

/-- A stamp as it begins a line of the run log. -/
def Stamp.display (stamp : Stamp) : String :=
  Text.decimal 4 stamp.year ++ "/" ++ Text.decimal 2 stamp.month ++ "/" ++
    Text.decimal 2 stamp.day ++ " " ++ Text.decimal 2 stamp.hour ++ ":" ++
    Text.decimal 2 stamp.minute ++ ":" ++ Text.decimal 2 stamp.second

inductive Signal where
  | hangup
  | interrupt
  | terminate
  deriving DecidableEq, Repr

def Signal.number : Signal → Nat
  | .hangup => 1
  | .interrupt => 2
  | .terminate => 15

/-- A clock with states `τ`. -/
structure Clock (τ : Type) where
  /-- Milliseconds since some moment in the past. -/
  now : τ → Nat × τ
  stamp : τ → Stamp × τ
  /-- Lets a number of milliseconds pass. -/
  pause : Nat → τ → Option Signal × τ

end Decommission
