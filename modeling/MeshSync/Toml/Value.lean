import MeshSync.Numeral

/-! # TOML values -/

namespace MeshSync.Toml

/-- A number that is no integer. -/
inductive Real where
  | finite (numeral : Numeral)
  | infinite (negative : Bool)
  | undefined
  deriving DecidableEq, Inhabited

/-- A day of the calendar. -/
structure Date where
  year : Nat
  month : Nat
  day : Nat
  deriving DecidableEq, Inhabited

/-- A time of the day. -/
structure Time where
  hour : Nat
  minute : Nat
  second : Nat
  /-- The digits of the part of a second. -/
  fraction : List Char
  deriving DecidableEq, Inhabited

/-- How far a clock is ahead of universal time, in minutes. -/
inductive Offset where
  | universal
  | minutes (ahead : Int)
  deriving DecidableEq, Inhabited

/-- A moment, as far as it is told. -/
inductive Moment where
  | day (date : Date)
  | time (time : Time)
  | both (date : Date) (time : Time) (offset : Option Offset)
  deriving DecidableEq, Inhabited

/-- A value. -/
inductive Value where
  | string (text : String)
  | integer (number : Int)
  | real (number : Real)
  | bool (truth : Bool)
  | moment (moment : Moment)
  | array (items : List Value)
  | table (entries : List (String × Value))
  deriving Inhabited

end MeshSync.Toml
