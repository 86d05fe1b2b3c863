/-! Finish times as durations: hours, minutes and seconds, each only if it is not zero. -/

namespace LinkedRaces

def durationPart (n : Nat) (unit : String) : String := if n = 0 then "" else toString n ++ unit

def formatDuration (seconds : Nat) : String :=
  if seconds = 0 then "PT0S"
  else
    "PT" ++ durationPart (seconds / 3600) "H" ++ durationPart (seconds % 3600 / 60) "M" ++
      durationPart (seconds % 60) "S"

end LinkedRaces
