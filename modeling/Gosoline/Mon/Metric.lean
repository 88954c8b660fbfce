import Gosoline.Time

/-!
# Metric data

`mon.MetricDatum`, and the priority and unit constants of package `mon` that the producer
daemon's metrics use.
-/

namespace Gosoline.Mon

/-- `PriorityLow`. -/
def priorityLow : ℤ := 1

/-- `PriorityHigh`. -/
def priorityHigh : ℤ := 2

/-- `UnitCount`, which is `cloudwatch.StandardUnitCount`. -/
def unitCount : String := "Count"

/-- `UnitCountAverage`. -/
def unitCountAverage : String := "UnitCountAverage"

/-- `UnitMillisecondsAverage`. -/
def unitMillisecondsAverage : String := "UnitMillisecondsAverage"

/-- `MetricDatum`; the `MetricDimensions` map is given by its entries. Fields a writer leaves
unset keep Go's zero values. -/
structure MetricDatum where
  priority : ℤ := 0
  timestamp : Time := 0
  metricName : String
  dimensions : List (String × String)
  value : Float
  unit : String := ""

/-- `MetricDatum.IsValid`: a datum needs a name, a priority and a unit. -/
def MetricDatum.isValid (d : MetricDatum) : Except String Unit :=
  if d.metricName = "" then .error "missing metric name"
  else if d.priority = 0 then .error ("metric " ++ d.metricName ++ " has no priority")
  else if d.unit = "" then .error ("metric " ++ d.metricName ++ " has no unit")
  else .ok ()

end Gosoline.Mon
