import SartoriusLib.Devices.Balance

/-!
# Streams

A stream takes its samples from `poll`, or from the autoprint output of the balance.
-/

namespace SartoriusLib.StreamingSession

open Lib

variable {W : Type}

inductive StreamMode where
  | poll
  | autoprint
  deriving DecidableEq, Repr

/-- One autoprint read: the time that remains, and the clock of its rounds. -/
abbrev ReadClock : Type := Rat × List Rat

/-- The reading of `_read_autoprint_sample`: a read that ends in a parse error is repeated until the deadline. -/
def readAutoprintSample (T : Transport W) : List ReadClock → ReadClock → Py (Host W) Reading
  | [], (remaining, clock) => readSbiAutoprintReading T remaining clock
  | next :: later, (remaining, clock) =>
      exceptClasses [.parseError] (readSbiAutoprintReading T remaining clock) fun _ =>
        readAutoprintSample T later next

/-- The reading of the next sample. -/
def nextReading (T : Transport W) (mode : StreamMode) (first : ReadClock) (later : List ReadClock) :
    Py (Host W) Reading :=
  match mode with
  | .poll => Balance.poll T first.1 first.2
  | .autoprint => readAutoprintSample T later first

end SartoriusLib.StreamingSession
