import RaftScaffold.Basic

set_option autoImplicit false

/-! # Durations

The spans of time of `chrono` (signed, in nanoseconds) and of the standard library (unsigned), with the
conversions that `network/state.rs` and `config.rs` use. -/

namespace RaftScaffold

/-- `chrono::Duration`. -/
structure Duration where
  nanos : Int
  deriving DecidableEq, Repr

/-- `std::time::Duration`. -/
structure StdDuration where
  nanos : Nat
  deriving DecidableEq, Repr

/-- `std::time::Duration::as_millis`. -/
def StdDuration.asMillis (self : StdDuration) : Nat := self.nanos / 1000000

structure OutOfRangeError where
  deriving DecidableEq, Repr

def OutOfRangeError.debug (_ : OutOfRangeError) : String := "OutOfRangeError(())"

namespace Duration

/-- The difference of two clock readings. -/
def between (last entry : DateTime) : Duration := ⟨last - entry⟩

def milliseconds (millis : Int) : Duration := ⟨millis * 1000000⟩

/-- `Duration::seconds`, which keeps durations within an `i64` of milliseconds. -/
def seconds (secs : Int64) : Except Panic Duration :=
  if secs.toInt * 1000 < -9223372036854775808 ∨ 9223372036854775807 < secs.toInt * 1000 then
    .error ⟨"Duration::seconds out of bounds"⟩
  else .ok ⟨secs.toInt * 1000000000⟩

/-- `Duration::num_milliseconds`: the whole milliseconds, rounded towards zero. -/
def numMilliseconds (self : Duration) : Int := self.nanos.tdiv 1000000

/-- `Duration::to_std`. -/
def toStd (self : Duration) : Except OutOfRangeError StdDuration :=
  if self.nanos < 0 then .error {} else .ok ⟨self.nanos.toNat⟩

@[simp] theorem numMilliseconds_milliseconds (millis : Int) :
    (milliseconds millis).numMilliseconds = millis := Int.mul_tdiv_cancel millis (by decide)

theorem toStd_eq_ok {d : Duration} {std : StdDuration} :
    d.toStd = .ok std ↔ 0 ≤ d.nanos ∧ (std.nanos : Int) = d.nanos := by
  obtain ⟨nanos⟩ := std
  unfold toStd
  split
  · simp only [reduceCtorEq, false_iff]
    omega
  · simp only [Except.ok.injEq, StdDuration.mk.injEq]
    omega

/-- Whole milliseconds that are not negative convert to themselves. -/
theorem toStd_milliseconds {millis : Int} (h : 0 ≤ millis) :
    ∃ std, (milliseconds millis).toStd = .ok std ∧ (std.asMillis : Int) = millis := by
  refine ⟨⟨(millis * 1000000).toNat⟩, ?_, ?_⟩
  · rw [toStd_eq_ok]
    simp only [milliseconds]
    omega
  · simp only [StdDuration.asMillis]
    omega

end Duration

end RaftScaffold
