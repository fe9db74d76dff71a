import BoardSim.Text.Hex

/-!
# Durations

A duration is written in the largest of the units s, ms, µs and ns that it reaches, with as many
decimals as it needs.
-/

namespace BoardSim.Text

/-- `whole` units and `part` of `scale` parts of one, where `scale` is ten to the `digits`. -/
def decimalUnits (whole part digits : Nat) : String :=
  let decimals := (padLeft digits '0' (toString part)).toList.reverse.dropWhile (· == '0')
  if decimals.isEmpty then toString whole
  else toString whole ++ "." ++ String.ofList decimals.reverse

/-- The text of a duration in nanoseconds. -/
def duration (nanos : Nat) : String :=
  if 1000000000 ≤ nanos then
    decimalUnits (nanos / 1000000000) (nanos % 1000000000) 9 ++ "s"
  else if 1000000 ≤ nanos then decimalUnits (nanos / 1000000) (nanos % 1000000) 6 ++ "ms"
  else if 1000 ≤ nanos then decimalUnits (nanos / 1000) (nanos % 1000) 3 ++ "µs"
  else toString nanos ++ "ns"

end BoardSim.Text
