/-! A signal that is watched. Whoever watches it can look at it at any time, and is told when it was
sent since they were last told. -/

namespace ProductCatalog.Catalog

structure Signal where
  isOn : Bool := false
  /-- How often the signal was sent. -/
  version : Nat := 0
deriving DecidableEq, Repr

/-- Somebody who watches a signal. A copy of a receiver has been told what the original has. -/
structure Receiver where
  /-- The version that they were told of last. -/
  seen : Nat := 0
deriving DecidableEq, Repr

namespace Signal

/-- Sends the signal to those who watch it. If nobody does, it is not sent. -/
def send (receivers : List Receiver) (signal : Signal) : Signal :=
  if receivers = [] then signal else { isOn := true, version := signal.version + 1 }

/-- The receiver once they are told what is new to them, if anything is. -/
def news? (receiver : Receiver) (signal : Signal) : Option Receiver :=
  if receiver.seen = signal.version then none else some { seen := signal.version }

/-- The end of the wait for the signal. It has come for everybody if the signal is on. -/
def awaited? (signal : Signal) : Option Receiver :=
  if signal.isOn then some { seen := signal.version } else none

end Signal

end ProductCatalog.Catalog
