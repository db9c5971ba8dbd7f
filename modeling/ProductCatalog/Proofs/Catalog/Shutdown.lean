import ProductCatalog.Catalog.Lifecycle
import ProductCatalog.Proofs.Catalog.Loading
import ProductCatalog.Proofs.Http.StoreFailure

/-! The end of the program, while anybody may call it. Calls come from any copy of the service and
in any order, and between the stages of a shutdown others may happen, other shutdowns among them.
-/

namespace ProductCatalog.Catalog

open Store (Connection DataFault Database Fault)

/-- The program with the shutdowns that are not over. -/
structure System where
  lifecycle : Lifecycle
  /-- The shutdowns that are announced and have not taken their tasks. -/
  announced : Nat := 0
  /-- The shutdowns that wait for their tasks. -/
  waiting : Nat := 0

inductive Event where
  | copy
  | drop
  | subscribe
  | unsubscribe
  | tell
  | register (task : Task)
  | trigger
  | ask (answer : Bool)
  | announce
  | collect (tasks : List Task)
  | close
  | work
deriving DecidableEq

namespace Event

/-- Whether the end is announced by the event. -/
def announces : Event → Bool
  | trigger | announce => true
  | _ => false

def registered : Event → List Task
  | register task => [task]
  | _ => []

/-- The tasks that a shutdown takes. -/
def taken : Event → List Task
  | collect tasks => tasks
  | _ => []

end Event

/-- What may happen next. Only a copy of the service that is still there can be called, and the last
copy is not dropped: without one nobody can send the signal, and nobody waits for it any longer. A
shutdown announces the end, takes the tasks, and closes the store, in this order. -/
inductive Step : System → Event → System → Prop
  | copy {system : System} {service : Receiver} (there : service ∈ system.lifecycle.services) :
      Step system .copy { system with lifecycle := system.lifecycle.copy service }
  | drop {system : System} {service : Receiver} (there : service ∈ system.lifecycle.services)
      (others : 1 < system.lifecycle.services.length) :
      Step system .drop { system with lifecycle := system.lifecycle.drop service }
  | subscribe {system : System} {service : Receiver}
      (there : service ∈ system.lifecycle.services) :
      Step system .subscribe { system with lifecycle := system.lifecycle.subscribe service }
  | unsubscribe {system : System} {subscriber : Receiver}
      (there : subscriber ∈ system.lifecycle.subscribers) :
      Step system .unsubscribe
        { system with lifecycle := system.lifecycle.unsubscribe subscriber }
  | tell {system : System} {index : Nat} {subscriber told : Receiver}
      (there : system.lifecycle.subscribers[index]? = some subscriber)
      (news : system.lifecycle.signal.news? subscriber = some told) :
      Step system .tell { system with lifecycle := system.lifecycle.tell index told }
  | register {system : System} {service : Receiver} (task : Task)
      (there : service ∈ system.lifecycle.services) :
      Step system (.register task) { system with lifecycle := system.lifecycle.register task }
  | trigger {system : System} {service : Receiver}
      (there : service ∈ system.lifecycle.services) :
      Step system .trigger { system with lifecycle := system.lifecycle.trigger }
  | ask {system : System} {service : Receiver} (there : service ∈ system.lifecycle.services) :
      Step system (.ask system.lifecycle.triggered) system
  | announce {system : System} {service : Receiver}
      (there : service ∈ system.lifecycle.services) :
      Step system .announce { system with
        lifecycle := system.lifecycle.trigger, announced := system.announced + 1 }
  | collect {lifecycle : Lifecycle} {announced waiting : Nat} :
      Step ⟨lifecycle, announced + 1, waiting⟩ (.collect lifecycle.collect.1)
        ⟨lifecycle.collect.2, announced, waiting + 1⟩
  | close {lifecycle : Lifecycle} {announced waiting : Nat} :
      Step ⟨lifecycle, announced, waiting + 1⟩ .close ⟨lifecycle.close, announced, waiting⟩
  | work {system : System} {α : Type} (change : Database → Except Fault (α × Database)) :
      Step system .work
        { system with lifecycle := (system.lifecycle.perform (Store.change change)).2 }

inductive Run : System → List Event → System → Prop
  | nil {system : System} : Run system [] system
  | cons {first second last : System} {event : Event} {events : List Event}
      (step : Step first event second) (rest : Run second events last) :
      Run first (event :: events) last

namespace Run

variable {first last : System}

theorem split {before behind : List Event} (run : Run first (before ++ behind) last) :
    ∃ middle, Run first before middle ∧ Run middle behind last := by
  induction before generalizing first with
  | nil => exact ⟨first, Run.nil, run⟩
  | cons event before ih =>
      cases run with
      | cons step rest =>
          obtain ⟨middle, reached, continued⟩ := ih rest
          exact ⟨middle, Run.cons step reached, continued⟩

end Run

/-! The tasks. -/

def registered (events : List Event) : List Task :=
  events.flatMap Event.registered

def taken (events : List Event) : List Task :=
  events.flatMap Event.taken

variable {first second last : System} {event : Event} {events : List Event}

theorem Step.tasks (step : Step first event second) :
    first.lifecycle.tasks ++ event.registered = event.taken ++ second.lifecycle.tasks := by
  cases step with
  | register task => rfl
  | collect => rfl
  | _ => exact List.append_nil _

/-- What was left and what is registered is taken or left. -/
theorem Run.tasks (run : Run first events last) :
    first.lifecycle.tasks ++ registered events = taken events ++ last.lifecycle.tasks := by
  induction run with
  | nil => exact List.append_nil _
  | @cons first second last event events step rest ih =>
      calc first.lifecycle.tasks ++ registered (event :: events)
          = (first.lifecycle.tasks ++ event.registered) ++ registered events := by
            simp only [registered, List.flatMap_cons, List.append_assoc]
        _ = event.taken ++ (second.lifecycle.tasks ++ registered events) := by
            rw [step.tasks, List.append_assoc]
        _ = taken (event :: events) ++ last.lifecycle.tasks := by
            rw [ih]
            simp only [taken, List.flatMap_cons, List.append_assoc]

/-! The signal. -/

theorem Signal.send_of_mem {receiver : Receiver} {receivers : List Receiver}
    (there : receiver ∈ receivers) (signal : Signal) :
    signal.send receivers = { isOn := true, version := signal.version + 1 } := by
  have somebody : receivers ≠ [] := List.ne_nil_of_mem there
  rw [Signal.send, if_neg somebody]

/-- A service that calls watches the signal itself, so that the signal is sent. -/
theorem Lifecycle.signal_trigger {lifecycle : Lifecycle} {service : Receiver}
    (there : service ∈ lifecycle.services) :
    lifecycle.trigger.signal = { isOn := true, version := lifecycle.signal.version + 1 } :=
  Signal.send_of_mem (List.mem_append_left _ there) lifecycle.signal

theorem Step.signal (step : Step first event second) :
    second.lifecycle.signal =
      if event.announces then { isOn := true, version := first.lifecycle.signal.version + 1 }
      else first.lifecycle.signal := by
  cases step with
  | trigger there => exact Lifecycle.signal_trigger there
  | announce there => exact Lifecycle.signal_trigger there
  | _ => rfl

def Announced (events : List Event) : Prop :=
  ∃ event ∈ events, event.announces = true

theorem Run.triggered_iff (run : Run first events last) :
    last.lifecycle.triggered = true ↔ first.lifecycle.triggered = true ∨ Announced events := by
  induction run with
  | nil => simp [Announced]
  | @cons first second last event events step rest ih =>
      have here : second.lifecycle.triggered = true ↔
          first.lifecycle.triggered = true ∨ event.announces = true := by
        rw [Lifecycle.triggered, step.signal]
        by_cases announces : event.announces = true
        · simp [announces]
        · simp [announces, Lifecycle.triggered]
      rw [ih, here, or_assoc]
      simp [Announced]

/-! The receivers. -/

/-- Services are never told, and nobody is told of what was not sent. While a shutdown is under way
the signal is on. -/
structure System.Sound (system : System) : Prop where
  sent : system.lifecycle.signal.isOn = true ↔ 0 < system.lifecycle.signal.version
  services : ∀ service ∈ system.lifecycle.services, service.seen = 0
  subscribers : ∀ subscriber ∈ system.lifecycle.subscribers,
    subscriber.seen ≤ system.lifecycle.signal.version
  underway : 0 < system.announced + system.waiting → system.lifecycle.signal.isOn = true

theorem Step.isOn (step : Step first event second)
    (on : first.lifecycle.signal.isOn = true) : second.lifecycle.signal.isOn = true := by
  rw [step.signal]
  split
  · rfl
  · exact on

theorem Step.version_le (step : Step first event second) :
    first.lifecycle.signal.version ≤ second.lifecycle.signal.version := by
  rw [step.signal]
  split
  · exact Nat.le_succ _
  · exact Nat.le_refl _

theorem Step.services (step : Step first event second)
    (unaware : ∀ service ∈ first.lifecycle.services, service.seen = 0) :
    ∀ service ∈ second.lifecycle.services, service.seen = 0 := by
  cases step with
  | copy there =>
      intro service member
      rcases List.mem_append.mp member with old | new
      · exact unaware service old
      · rw [List.mem_singleton.mp new]
        exact unaware _ there
  | drop =>
      intro service member
      exact unaware service (List.mem_of_mem_erase member)
  | _ => exact unaware

theorem Step.subscribers (step : Step first event second) (sound : first.Sound) :
    ∀ subscriber ∈ second.lifecycle.subscribers,
      subscriber.seen ≤ second.lifecycle.signal.version := by
  have old : ∀ subscriber ∈ first.lifecycle.subscribers,
      subscriber.seen ≤ second.lifecycle.signal.version := by
    intro subscriber member
    exact Nat.le_trans (sound.subscribers subscriber member) step.version_le
  cases step with
  | @subscribe _ service there =>
      intro subscriber member
      rcases List.mem_append.mp member with before | new
      · exact old subscriber before
      · -- a copy of a service, which was never told of anything
        rw [List.mem_singleton.mp new, sound.services service there]
        exact Nat.zero_le _
  | unsubscribe =>
      intro subscriber member
      exact old subscriber (List.mem_of_mem_erase member)
  | @tell _ index subscriber told there news =>
      intro other member
      rcases List.mem_or_eq_of_mem_set member with before | rfl
      · exact old other before
      · rw [Signal.news?, Option.ite_none_left_eq_some] at news
        cases news.2
        exact Nat.le_refl _
  | _ => exact old

theorem Step.sound (step : Step first event second) (sound : first.Sound) : second.Sound where
  sent := by
    rw [step.signal]
    split
    · simp
    · exact sound.sent
  services := step.services sound.services
  subscribers := step.subscribers sound
  underway := by
    intro some_shutdown
    cases step with
    | announce there => rw [Lifecycle.signal_trigger there]
    | trigger there => rw [Lifecycle.signal_trigger there]
    | @collect lifecycle announced waiting =>
        have before : 0 < announced + 1 + waiting := by omega
        exact sound.underway before
    | @close lifecycle announced waiting =>
        have before : 0 < announced + (waiting + 1) := by omega
        exact sound.underway before
    | _ => exact sound.underway some_shutdown

theorem Run.sound (run : Run first events last) (sound : first.Sound) : last.Sound := by
  induction run with
  | nil => exact sound
  | cons step rest ih => exact ih (step.sound sound)

namespace System.Sound

variable {system : System}

end System.Sound

/-! The store. -/

theorem Lifecycle.connection_close (lifecycle : Lifecycle) :
    lifecycle.close.connection = lifecycle.connection.close := by
  have kept : (Store.checkpoint lifecycle.connection).2 = lifecycle.connection := by
    rw [Store.checkpoint, Store.inspect, Store.change]
    split <;> rfl
  rw [← kept]
  rfl

theorem Step.connection (step : Step first event second)
    (closed : first.lifecycle.connection.isOpen = false) :
    second.lifecycle.connection = first.lifecycle.connection := by
  cases step with
  | close => rw [Lifecycle.connection_close, Connection.close, ← closed]
  | work change =>
      change (Store.change change first.lifecycle.connection).2 = first.lifecycle.connection
      rw [Store.change_closed change closed]
  | _ => rfl

theorem Run.connection (run : Run first events last)
    (closed : first.lifecycle.connection.isOpen = false) :
    last.lifecycle.connection = first.lifecycle.connection := by
  induction run with
  | nil => rfl
  | cons step rest ih =>
      have kept := step.connection closed
      rw [ih (by rw [kept, closed]), kept]

/-- The store is closed once a shutdown is over, and the end was announced before. -/
theorem Run.closed (run : Run first events last) (sound : first.Sound) (ended : .close ∈ events) :
    last.lifecycle.connection.isOpen = false ∧ last.lifecycle.triggered = true := by
  obtain ⟨before, behind, rfl⟩ := List.append_of_mem ended
  obtain ⟨middle, reached, continued⟩ := run.split
  cases continued with
  | cons step rest =>
      have middle_sound := reached.sound sound
      cases step with
      | @close lifecycle announced waiting =>
          -- the shutdown that closes the store was still waiting, and so it is announced
          have underway : 0 < announced + (waiting + 1) := by omega
          have on : lifecycle.triggered = true := middle_sound.underway underway
          have closed : lifecycle.close.connection.isOpen = false := by
            rw [Lifecycle.connection_close]
            rfl
          refine ⟨?_, rest.triggered_iff.mpr (Or.inl on)⟩
          rw [rest.connection closed, closed]

/-- The program when nothing has happened to it. -/
def System.start (connection : Connection) : System where
  lifecycle := { connection }

end ProductCatalog.Catalog
