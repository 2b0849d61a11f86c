/-!
# Time in ticks

A quarter note lasts 480 ticks. Positions are added up in whole ticks; milliseconds come from
them by the tempo, in beats per minute.
-/

namespace VocalScore

/-- A position or a duration in ticks. -/
structure Tick where
  count : UInt64
  deriving DecidableEq, Repr

namespace Tick

/-- Ticks in a quarter note. -/
def perQuarter : UInt32 := 480

/-- The start of a piece. -/
def zero : Tick := ⟨0⟩

/-- A length in ticks as a score gives it. -/
def ofLength (n : UInt32) : Tick := ⟨n.toUInt64⟩

/-- The sum of two spans. -/
def add (a b : Tick) : Tick := ⟨a.count + b.count⟩

instance : Add Tick := ⟨add⟩

theorem count_add (a b : Tick) : (a + b).count = a.count + b.count := rfl

/-- Earlier positions come first. -/
def order (a b : Tick) : Ordering := compare a.count b.count

/-- The milliseconds that one tick lasts at a tempo. -/
def milliseconds (tempo : Float) : Float := 60000.0 / (tempo * 480.0)

/-- The milliseconds that a span lasts at a tempo. -/
def toMilliseconds (t : Tick) (tempo : Float) : Float := t.count.toFloat * milliseconds tempo

end Tick

end VocalScore
