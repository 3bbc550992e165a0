import Scenarist.Text.Basic

/-! # Sinks

A sink takes bytes. It may accept only so many of them, and it may fail to be
flushed. A write that does not fit is accepted up to the limit and then
fails. -/

namespace Scenarist.App

def encode (text : Text) : List UInt8 :=
  text.flatMap String.utf8EncodeChar

/-- What a sink says of a write that does not fit, and of a flush that fails. -/
structure Faults where
  full : Text := "sink is full"
  flush : Text := "flush failed"
deriving DecidableEq, Repr

structure Sink where
  accepted : List UInt8 := []
  limit : Option Nat := none
  flushFails : Bool := false
  faults : Faults := {}
deriving DecidableEq, Repr

namespace Sink

/-- Whether a write fits. -/
def accepts (sink : Sink) (bytes : List UInt8) : Bool :=
  match sink.limit with
  | none => true
  | some limit => sink.accepted.length + bytes.length ≤ limit

/-- What the sink says of a write, if it refuses it. -/
def refusal (sink : Sink) (bytes : List UInt8) : Option Text :=
  if sink.accepts bytes then none else some sink.faults.full

/-- The sink after a write. -/
def append (sink : Sink) (bytes : List UInt8) : Sink :=
  let all := sink.accepted ++ bytes
  match sink.limit with
  | none => { sink with accepted := all }
  | some limit => { sink with accepted := all.take limit }

end Sink

end Scenarist.App
