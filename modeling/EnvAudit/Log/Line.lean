import EnvAudit.Log
import EnvAudit.Text.Basic
import EnvAudit.Text.Digit

/-! The printed form of a record: a bracket with the level's letter, the time and the part of the program, then the
message. -/
namespace EnvAudit.Log

structure Date where
  year : Int
  month : Nat
  day : Nat
deriving Repr, DecidableEq

/-- The date that lies a number of days after the first day of 1970. Years are counted from March on, so that leap
days come last, in eras of 400 years. -/
def dateOfDay (days : Int) : Date :=
  let shifted := days + 719468
  let era := shifted.fdiv 146097
  let dayOfEra := (shifted.fmod 146097).toNat
  let yearOfEra := (dayOfEra - dayOfEra / 1460 + dayOfEra / 36524 - dayOfEra / 146096) / 365
  let dayOfYear := dayOfEra - (365 * yearOfEra + yearOfEra / 4 - yearOfEra / 100)
  let marchMonth := (5 * dayOfYear + 2) / 153
  let day := dayOfYear - (153 * marchMonth + 2) / 5 + 1
  let month := if marchMonth < 10 then marchMonth + 3 else marchMonth - 9
  let year := (yearOfEra : Int) + era * 400 + (if month ≤ 2 then 1 else 0)
  ⟨year, month, day⟩

private def padded (width n : Nat) : String := String.ofList (Text.padZeros width (Text.decimal n))

private def paddedYear (year : Int) : String :=
  if year < 0 then "-" ++ padded 3 year.natAbs else padded 4 year.natAbs

def timestamp (seconds : Int) (milliseconds : Nat) : String :=
  let date := dateOfDay (seconds.fdiv 86400)
  let second := (seconds.fmod 86400).toNat
  paddedYear date.year ++ "-" ++ padded 2 date.month ++ "-" ++ padded 2 date.day ++ " "
    ++ padded 2 (second / 3600) ++ ":" ++ padded 2 (second / 60 % 60) ++ ":" ++ padded 2 (second % 60) ++ "."
    ++ padded 3 milliseconds

def levelName (number : Nat) : String :=
  match Level.all.find? (·.number == number) with
  | some level => level.name
  | none => if number == 0 then "NOTSET" else "Level " ++ toString number

def shortName (logger : String) : String :=
  if logger == "env_doctor" then "EnvDoctor"
  else
    match Text.dropStart? "env_doctor.".toList logger.toList with
    | some rest => String.ofList (rest.dropWhile (· == '_'))
    | none => logger

def resetCode : String := "\x1b[0m"

def colorCode (levelName : String) : String :=
  match levelName with
  | "DEBUG" => "\x1b[36m"
  | "INFO" => "\x1b[32m"
  | "WARNING" => "\x1b[33m"
  | "ERROR" => "\x1b[31m"
  | "CRITICAL" => "\x1b[35m"
  | _ => resetCode

def line (color : Bool) (levelNumber : Nat) (logger : String) (seconds : Int) (milliseconds : Nat) (message : String) :
    String :=
  let name := levelName levelNumber
  let bracket := "[" ++ String.ofList (name.toList.take 1) ++ " " ++ timestamp seconds milliseconds ++ " "
    ++ shortName logger ++ "]"
  (if color then colorCode name ++ bracket ++ resetCode else bracket) ++ " " ++ message

end EnvAudit.Log
