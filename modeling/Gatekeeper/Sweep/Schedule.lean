import Gatekeeper.Time.Duration

/-!
# `Gatekeeper.Sweep.Schedule`: when sweeps start

The first sweep is due at once. A sweep starts when it is due and the one before
has ended. One that starts on time, or up to five milliseconds late, sets the next
due time one interval after its own; one that starts later sets it one interval
after its start, so a slow sweep is followed by no burst. When the shutdown comes,
a sweep under way is finished and no other starts.

* `runSweeps`: the starts of all sweeps and the end of the run.
-/

set_option autoImplicit false

namespace Gatekeeper.Sweep

/-- How late a sweep may start without moving the schedule: five milliseconds. -/
def lateness : Nat := 5000000

/-- The due time after a sweep that was due at one time and started at another. -/
def nextDue (interval due start : Moment) : Moment :=
  if due + lateness < start then start + interval else due + interval

/-- The course of a sweeper's run. -/
structure Course where
  starts : List Moment
  stopped : Moment
  deriving DecidableEq, Repr

/-- The course from a sweep that is due at `due`, when the one before ended at
`free`; `lasts` gives the time that the sweeps from here on take, and those past
its end take none. At most `fuel` sweeps are followed. -/
def runFrom (interval stop : Moment) : Nat → Moment → Moment → List Moment → Course
  | 0, _, free, _ => ⟨[], max stop free⟩
  | fuel + 1, due, free, lasts =>
    let start := max due free
    if stop ≤ start then ⟨[], max stop free⟩
    else
      let rest := runFrom interval stop fuel (nextDue interval due start)
        (start + lasts.headD 0) lasts.tail
      { rest with starts := start :: rest.starts }

/-- The course of a run with the given interval between sweeps, durations of
sweeps and time of shutdown. Each start is at least an interval, less the
permitted lateness, after the one before, so the shutdown bounds their number. -/
def runSweeps (interval : Duration) (lasts : List Moment) (stop : Moment) : Course :=
  runFrom interval.nanos stop (stop + 1) 0 0 lasts

end Gatekeeper.Sweep
