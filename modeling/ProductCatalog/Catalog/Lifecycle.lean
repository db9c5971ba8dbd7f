import ProductCatalog.Catalog.Signal
import ProductCatalog.Store.Connection

/-! How the program ends. A shutdown is announced to everybody who watches for it; then the
background tasks are waited for, and the store is closed. The services that announce it are copies
of one another and share everything but the receivers through which they look. -/

namespace ProductCatalog.Catalog

abbrev Task := Nat

structure Lifecycle where
  connection : Store.Connection
  signal : Signal := {}
  /-- The receivers of the services. -/
  services : List Receiver := [{}]
  subscribers : List Receiver := []
  /-- The tasks that no shutdown has waited for yet, in order of registration. -/
  tasks : List Task := []
deriving DecidableEq

namespace Lifecycle

def receivers (lifecycle : Lifecycle) : List Receiver :=
  lifecycle.services ++ lifecycle.subscribers

def triggered (lifecycle : Lifecycle) : Bool :=
  lifecycle.signal.isOn

/-- Makes a copy of the service with a receiver. -/
def copy (service : Receiver) (lifecycle : Lifecycle) : Lifecycle :=
  { lifecycle with services := lifecycle.services ++ [service] }

def drop (service : Receiver) (lifecycle : Lifecycle) : Lifecycle :=
  { lifecycle with services := lifecycle.services.erase service }

/-- Gives out a receiver, which is a copy of that of the service. -/
def subscribe (service : Receiver) (lifecycle : Lifecycle) : Lifecycle :=
  { lifecycle with subscribers := lifecycle.subscribers ++ [service] }

def unsubscribe (subscriber : Receiver) (lifecycle : Lifecycle) : Lifecycle :=
  { lifecycle with subscribers := lifecycle.subscribers.erase subscriber }

/-- Takes down what a subscriber was told. -/
def tell (index : Nat) (told : Receiver) (lifecycle : Lifecycle) : Lifecycle :=
  { lifecycle with subscribers := lifecycle.subscribers.set index told }

def register (task : Task) (lifecycle : Lifecycle) : Lifecycle :=
  { lifecycle with tasks := lifecycle.tasks ++ [task] }

def trigger (lifecycle : Lifecycle) : Lifecycle :=
  { lifecycle with signal := lifecycle.signal.send lifecycle.receivers }

/-- Hands over the tasks that are left. -/
def collect (lifecycle : Lifecycle) : List Task × Lifecycle :=
  (lifecycle.tasks, { lifecycle with tasks := [] })

/-- Closes the store, whether or not the last checkpoint can be written. -/
def close (lifecycle : Lifecycle) : Lifecycle :=
  let (_, connection) := Store.checkpoint lifecycle.connection
  { lifecycle with connection := connection.close }

/-- Announces the end, waits for the tasks that are left for as long as that may take, and closes
the store. -/
def shutDown (lifecycle : Lifecycle) : List Task × Lifecycle :=
  let (tasks, lifecycle) := lifecycle.trigger.collect
  (tasks, lifecycle.close)

def perform {α : Type} (action : Store.Action α) (lifecycle : Lifecycle) :
    Except Store.Fault α × Lifecycle :=
  let (outcome, connection) := action lifecycle.connection
  (outcome, { lifecycle with connection })

end Lifecycle

/-- What the task does next that writes checkpoints: it ends, it goes on listening, or it writes
one when the time comes. -/
inductive Turn where
  | ends
  | listens (receiver : Receiver)
  | writes
deriving DecidableEq, Repr

/-- News come before the time. -/
def Turn.next (signal : Signal) (receiver : Receiver) : Turn :=
  match signal.news? receiver with
  | some told => if signal.isOn then ends else listens told
  | none => writes

end ProductCatalog.Catalog
