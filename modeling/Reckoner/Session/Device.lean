import Reckoner.Session.Course

/-!
# Output devices

A session writes to a `Device`, which may fail: a device may refuse a certain flush or have room
for a certain number of bytes only. `Device.play` performs the events of a course until the device
fails, and `runSession` is the outcome of a session, which consists of what the device has taken
and the failure that cut the session off, if any.
-/

namespace Reckoner

/-- What an output device still bears. -/
structure Device where
  /-- The number of flushes before the one that fails, if one does. -/
  flushes : Option Nat := none
  /-- The number of bytes for which there is room, if it is limited. -/
  room : Option Nat := none

/-- The reasons for which a session is cut off. -/
inductive Failure where
  /-- The device refuses a flush. -/
  | flush (occasion : Occasion)
  /-- The device has no room for a text. -/
  | write
  /-- A line of the input is not the encoding of a text. -/
  | undecodable
deriving DecidableEq

/-- The text that tells a user of the failure. -/
def Failure.message : Failure → Text
  | flush .prompt => "flushing prompt: flush failed".toList
  | flush .farewell => "flushing output: flush failed".toList
  | write => "write failed".toList
  | undecodable => "reading input: stream did not contain valid UTF-8".toList

/-- What a session has written, and the failure that cut it off, if any. -/
structure Outcome where
  transcript : Text
  failure : Option Failure
deriving DecidableEq

namespace Device

/-- The device of which the flush with a given number fails, counted from one. -/
def failingFlush : Nat → Device
  | 0 => {}
  | n + 1 => { flushes := some n }

/-- The device with room for a number of bytes. -/
def withRoom (bytes : Nat) : Device :=
  { room := some bytes }

/-- The device after an event, or the reason why it fails. -/
def bear (d : Device) : Event → Except Failure Device
  | .write text =>
    match d.room with
    | none => .ok d
    | some n =>
      if text.utf8Length ≤ n then .ok { d with room := some (n - text.utf8Length) }
      else .error .write
  | .flush occasion =>
    match d.flushes with
    | none => .ok d
    | some 0 => .error (.flush occasion)
    | some (n + 1) => .ok { d with flushes := some n }

/-- The text that an event adds to the output. -/
def written : Event → Text
  | .write text => text
  | .flush _ => []

/-- What is written by events until the device fails, and the failure. -/
def play (d : Device) : List Event → Outcome
  | [] => ⟨[], none⟩
  | e :: rest =>
    match d.bear e with
    | .error failure => ⟨[], some failure⟩
    | .ok next =>
      let o := next.play rest
      ⟨written e ++ o.transcript, o.failure⟩

end Device

/-- The failure with which a session ends on a device that bears all its events. -/
def Ending.failure : Ending → Option Failure
  | farewell => none
  | undecodable => some .undecodable

/-- The outcome of a course on a device. -/
def Course.outcome (d : Device) (c : Course) : Outcome :=
  let o := d.play c.events
  ⟨o.transcript, o.failure.or c.ending.failure⟩

/-- The outcome of a session on an input and a device. -/
def runSession (o : SessionOptions) (d : Device) (input : List UInt8) : Outcome :=
  (sessionCourse o input).outcome d

end Reckoner
