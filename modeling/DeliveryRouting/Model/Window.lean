/-! # Model: arrival windows

A window is the closed interval of arrival times, in seconds from the start of the shift, at which
a delivery may be served. An arrival before it opens waits; a window that closes before it opens
admits nothing. -/

namespace DeliveryRouting

/-- An inclusive interval of arrival times. -/
structure Window where
  opens : Int
  closes : Int
  deriving Repr, DecidableEq, Inhabited

namespace Window

/-- The window of a whole shift. -/
def shift (shiftLength : Int) : Window := ⟨0, shiftLength⟩

/-- The part of a window inside the shift, possibly empty. -/
def clampToShift (w : Window) (shiftLength : Int) : Window :=
  ⟨max w.opens 0, min w.closes shiftLength⟩

/-- The window is open at `arrival`. -/
def admits (w : Window) (arrival : Int) : Bool :=
  decide (w.opens ≤ arrival) && decide (arrival ≤ w.closes)

/-- Time by which an arrival comes after the window closes. -/
def overtime (w : Window) (arrival : Int) : Int := max (arrival - w.closes) 0

/-- Service starts on arrival, or when the window opens if that is later. -/
def serviceStart (w : Window) (arrival : Int) : Int := max arrival w.opens

variable {w : Window} {arrival shiftLength : Int}

theorem admits_iff : w.admits arrival = true ↔ w.opens ≤ arrival ∧ arrival ≤ w.closes := by
  simp [admits]

/-- Clamping a window leaves the arrivals inside the shift. -/
theorem admits_clampToShift :
    (w.clampToShift shiftLength).admits arrival = true ↔
      w.admits arrival = true ∧ 0 ≤ arrival ∧ arrival ≤ shiftLength := by
  simp only [admits_iff, clampToShift]
  omega

theorem overtime_eq_zero_iff : w.overtime arrival = 0 ↔ arrival ≤ w.closes := by
  unfold overtime
  omega

/-- Waiting helps unless it is too late, or the window admits nothing. -/
theorem admits_serviceStart :
    w.admits (w.serviceStart arrival) = true ↔ w.opens ≤ w.closes ∧ arrival ≤ w.closes := by
  simp only [admits_iff, serviceStart]
  omega

end Window

end DeliveryRouting
