import EnvAudit.Log.Line

/-! The time at which something is reported. -/
namespace EnvAudit

structure Clock where
  seconds : Int
  microseconds : Nat := 0
deriving Repr, DecidableEq

namespace Clock

def milliseconds (clock : Clock) : Nat := clock.microseconds / 1000

/-- The date and the time with their offset from universal time; parts of a second are given only when there are
any. -/
def stamp (clock : Clock) : String :=
  let whole := (Log.timestamp clock.seconds 0).toList
  let fraction := if clock.microseconds == 0 then [] else '.' :: Text.padZeros 6 (Text.decimal clock.microseconds)
  String.ofList (whole.take 10 ++ 'T' :: (whole.drop 11).take 8 ++ fraction) ++ "+00:00"

end Clock
end EnvAudit
