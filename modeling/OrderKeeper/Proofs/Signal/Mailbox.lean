import OrderKeeper.Proofs.Signal.Queue
import OrderKeeper.Signal.Dispatcher

/-!
Contract: the queue as producers, consumers and a dispatcher share it.

Owns: the mailbox with the record of every signal that arrived and of where it went, the steps
of all who use it, and the order of the record in every run of such steps.

Does not own: the order in which signals leave.

All tasks share one thread.  So a dispatcher that is stopped is gone at once: between the stop
and its end it would have to be run again, and it is not.  A dispatcher gives way when it has
handed a signal to the bus, until the bus answers.
-/

set_option autoImplicit false

namespace OrderKeeper

/-! ## Steps -/

/-- Where a signal that left the queue went. -/
inductive SignalFate where
  | takenOut
  | expired
  /-- The bus was handed the signal. -/
  | handed
deriving DecidableEq, Repr

/-- A signal that left the queue, with its number in the order of arrival. -/
structure Departure where
  number : Nat
  signal : Signal
  fate : SignalFate
  time : Instant

inductive DispatcherPhase where
  /-- It takes the next signal as soon as it is its turn. -/
  | ready
  /-- It waits for the answer of the bus. -/
  | handing (number : Nat)

structure Mailbox where
  queue : SignalQueue
  /-- The numbers of the waiting signals. -/
  numbers : List Nat
  /-- All signals that were put, as they were queued. -/
  arrived : List Signal
  clock : Instant
  dispatcher : Option DispatcherPhase
  departures : List Departure
  /-- What the bus answered. -/
  answers : List (Nat × BusAnswer)

inductive MailboxEvent where
  | put (signal : Signal)
  | takeOut
  | moveClock (now : Instant)
  | start
  | stop
  /-- It is the dispatcher's turn. -/
  | dispatch
  | answer (answer : BusAnswer)

/-- The signal that leaves next with its number, and what remains. -/
def SignalQueue.takeNumbered (queue : SignalQueue) (numbers : List Nat) :
    Option ((Nat × Signal) × SignalQueue × List Nat) :=
  match queue.nextIndex?, queue.dequeue? with
  | some index, some (signal, rest) =>
      some ((numbers.getD index 0, signal), rest, numbers.eraseIdx index)
  | _, _ => none

namespace Mailbox

def empty (clock : Instant) : Mailbox where
  queue := .empty
  numbers := []
  arrived := []
  clock := clock
  dispatcher := none
  departures := []
  answers := []

def put (mailbox : Mailbox) (signal : Signal) : Mailbox :=
  { mailbox with
    queue := mailbox.queue.enqueue signal
    numbers := mailbox.numbers ++ [mailbox.arrived.length]
    arrived := mailbox.arrived ++ [SignalQueue.asQueued signal] }

/-- The next signal leaves, for where it goes according to the signal. -/
def depart (mailbox : Mailbox) (fateOf : Signal → SignalFate) : Mailbox :=
  match mailbox.queue.takeNumbered mailbox.numbers with
  | none => mailbox
  | some ((number, signal), queue, numbers) =>
      { mailbox with
        queue
        numbers
        departures := mailbox.departures ++ [⟨number, signal, fateOf signal, mailbox.clock⟩]
        dispatcher :=
          match fateOf signal with
          | .handed => some (.handing number)
          | _ => mailbox.dispatcher }

/-- The fate of a signal that the dispatcher takes. -/
def dispatchedFate (clock : Instant) (signal : Signal) : SignalFate :=
  if signal.hasLapsed clock then .expired else .handed

/-- Starts a dispatcher unless one runs. -/
def start (mailbox : Mailbox) : Mailbox :=
  match mailbox.dispatcher with
  | none => { mailbox with dispatcher := some .ready }
  | some _ => mailbox

/-- The dispatcher takes the next signal, if it is ready to. -/
def dispatch (mailbox : Mailbox) : Mailbox :=
  match mailbox.dispatcher with
  | some .ready => mailbox.depart (dispatchedFate mailbox.clock)
  | _ => mailbox

/-- The bus answers the dispatcher, if it waits for that. -/
def hear (mailbox : Mailbox) (answer : BusAnswer) : Mailbox :=
  match mailbox.dispatcher with
  | some (.handing number) =>
      { mailbox with
        dispatcher := some .ready
        answers := mailbox.answers ++ [(number, answer)] }
  | _ => mailbox

def step (mailbox : Mailbox) : MailboxEvent → Mailbox
  | .put signal => mailbox.put signal
  | .takeOut => mailbox.depart fun _ => .takenOut
  | .moveClock now => { mailbox with clock := now }
  | .start => mailbox.start
  | .stop => { mailbox with dispatcher := none }
  | .dispatch => mailbox.dispatch
  | .answer answer => mailbox.hear answer

def run (mailbox : Mailbox) (events : List MailboxEvent) : Mailbox :=
  events.foldl step mailbox

end Mailbox

/-! ## Departures -/

namespace SignalQueue

/-- Numbers of the waiting signals: each counts the signals that arrived before. -/
structure IsNumbered (queue : SignalQueue) (arrived : List Signal) (numbers : List Nat) : Prop where
  waiting : queue.waiting.map some = numbers.map fun number => arrived[number]?
  ascending : numbers.Pairwise (· < ·)

theorem takeNumbered_eq_none_iff (queue : SignalQueue) (numbers : List Nat) :
    queue.takeNumbered numbers = none ↔ queue.waiting = [] := by
  rw [← queue.dequeue?_eq_none_iff]
  unfold takeNumbered
  cases leaves : queue.dequeue? with
  | none => simp
  | some left =>
      obtain ⟨earlier, _, -, -, isPlace, -⟩ := dequeue?_split leaves
      simp [isPlace]

section Numbered

variable {queue rest : SignalQueue} {arrived : List Signal} {numbers left : List Nat}
  {number : Nat} {signal : Signal}

theorem IsNumbered.length_eq (numbered : queue.IsNumbered arrived numbers) :
    numbers.length = queue.waiting.length := by
  have lengths := congrArg List.length numbered.waiting
  rw [List.length_map, List.length_map] at lengths
  exact lengths.symm

/-- A signal leaves from between those that stay, and its number from between theirs. -/
theorem IsNumbered.split (numbered : queue.IsNumbered arrived numbers)
    (taken : queue.takeNumbered numbers = some ((number, signal), rest, left)) :
    ∃ earlier later earlierNumbers laterNumbers,
      numbers = earlierNumbers ++ number :: laterNumbers ∧
      left = earlierNumbers ++ laterNumbers ∧ rest.waiting = earlier ++ later ∧
      arrived[number]? = some signal ∧
      earlier.map some = earlierNumbers.map (fun other => arrived[other]?) ∧
      later.map some = laterNumbers.map (fun other => arrived[other]?) ∧
      (∀ other ∈ earlier, rank other < rank signal) ∧
      ∀ other ∈ later, rank other ≤ rank signal := by
  unfold takeNumbered at taken
  split at taken
  · rename_i index next others isNext leaves
    cases taken
    obtain ⟨earlier, later, waiting, remains, isPlace, lower, notHigher⟩ := dequeue?_split leaves
    obtain rfl : index = earlier.length := Option.some.inj (isNext.symm.trans isPlace)
    have inRange : earlier.length < numbers.length := by
      rw [numbered.length_eq, waiting, List.length_append, List.length_cons]
      omega
    have isNumber : numbers.getD earlier.length 0 = numbers[earlier.length] := by
      simp [List.getD, inRange]
    have parts : numbers = numbers.take earlier.length ++
        numbers[earlier.length] :: numbers.drop (earlier.length + 1) := by
      rw [List.getElem_cons_drop, List.take_append_drop]
    have both := numbered.waiting
    rw [waiting, parts, List.map_append, List.map_append, List.map_cons, List.map_cons] at both
    have lengths : (earlier.map some).length =
        ((numbers.take earlier.length).map fun other => arrived[other]?).length := by
      rw [List.length_map, List.length_map, List.length_take_of_le (Nat.le_of_lt inRange)]
    obtain ⟨sameEarlier, sameRest⟩ := List.append_inj both lengths
    obtain ⟨sameSignal, sameLater⟩ := List.cons.inj sameRest
    rw [isNumber]
    exact ⟨earlier, later, numbers.take earlier.length, numbers.drop (earlier.length + 1), parts,
      List.eraseIdx_eq_take_drop_succ numbers earlier.length, remains, sameSignal.symm,
      sameEarlier, sameLater, lower, notHigher⟩
  · cases taken

/-- What remains is numbered as it was. -/
theorem IsNumbered.remaining (numbered : queue.IsNumbered arrived numbers)
    (taken : queue.takeNumbered numbers = some ((number, signal), rest, left)) :
    rest.IsNumbered arrived left := by
  obtain ⟨earlier, later, earlierNumbers, laterNumbers, parts, isLeft, remains, -, sameEarlier,
    sameLater, -, -⟩ := numbered.split taken
  constructor
  · rw [remains, isLeft, List.map_append, List.map_append, sameEarlier, sameLater]
  · have ascending := numbered.ascending
    rw [parts] at ascending
    rw [isLeft]
    exact ascending.sublist (List.Sublist.append_left (List.sublist_cons_self _ _) _)

theorem IsNumbered.taken_perm (numbered : queue.IsNumbered arrived numbers)
    (taken : queue.takeNumbered numbers = some ((number, signal), rest, left)) :
    numbers.Perm (number :: left) := by
  obtain ⟨_, _, earlierNumbers, laterNumbers, parts, isLeft, -⟩ := numbered.split taken
  rw [parts, isLeft]
  exact List.perm_middle

theorem IsNumbered.taken_signal (numbered : queue.IsNumbered arrived numbers)
    (taken : queue.takeNumbered numbers = some ((number, signal), rest, left)) :
    arrived[number]? = some signal := by
  obtain ⟨_, _, _, _, -, -, -, isSignal, -⟩ := numbered.split taken
  exact isSignal

end Numbered

end SignalQueue

namespace Mailbox

/-- How a signal may leave by an event: someone takes it out, or the dispatcher takes it. -/
inductive Departs (mailbox : Mailbox) : MailboxEvent → (Signal → SignalFate) → Prop where
  | takenOut : mailbox.Departs .takeOut fun _ => .takenOut
  | dispatched (isReady : mailbox.dispatcher = some .ready) :
      mailbox.Departs .dispatch (dispatchedFate mailbox.clock)

/-- A step puts a signal, lets one leave, or leaves all signals where they are. -/
theorem step_cases (mailbox : Mailbox) (event : MailboxEvent) :
    (∃ signal, event = .put signal ∧ mailbox.step event = mailbox.put signal) ∨
      (∃ fateOf, mailbox.Departs event fateOf ∧ mailbox.step event = mailbox.depart fateOf) ∨
      ((mailbox.step event).queue = mailbox.queue ∧
        (mailbox.step event).numbers = mailbox.numbers ∧
        (mailbox.step event).arrived = mailbox.arrived ∧
        (mailbox.step event).departures = mailbox.departures) := by
  cases event with
  | put signal => exact Or.inl ⟨signal, rfl, rfl⟩
  | takeOut => exact Or.inr (Or.inl ⟨_, .takenOut, rfl⟩)
  | moveClock now => exact Or.inr (Or.inr ⟨rfl, rfl, rfl, rfl⟩)
  | stop => exact Or.inr (Or.inr ⟨rfl, rfl, rfl, rfl⟩)
  | start =>
      refine Or.inr (Or.inr ?_)
      unfold step start
      cases mailbox.dispatcher <;> exact ⟨rfl, rfl, rfl, rfl⟩
  | answer answer =>
      refine Or.inr (Or.inr ?_)
      unfold step hear
      rcases mailbox.dispatcher with _ | ⟨_ | _⟩ <;> exact ⟨rfl, rfl, rfl, rfl⟩
  | dispatch =>
      cases phase : mailbox.dispatcher with
      | none =>
          refine Or.inr (Or.inr ?_)
          simp [step, dispatch, phase]
      | some current =>
          cases current with
          | ready =>
              refine Or.inr (Or.inl ⟨_, .dispatched phase, ?_⟩)
              simp [step, dispatch, phase]
          | handing number =>
              refine Or.inr (Or.inr ?_)
              simp [step, dispatch, phase]

/-! ## What every step keeps -/

/-- The record is in order: the waiting signals are those of their numbers, in the order of
arrival, and every signal that arrived either waits or has left, once. -/
structure IsSound (mailbox : Mailbox) : Prop where
  numbered : mailbox.queue.IsNumbered mailbox.arrived mailbox.numbers
  accounted : (List.range mailbox.arrived.length).Perm
    (mailbox.numbers ++ mailbox.departures.map Departure.number)
  departed : ∀ departure ∈ mailbox.departures,
    mailbox.arrived[departure.number]? = some departure.signal

theorem IsSound.empty (clock : Instant) : (Mailbox.empty clock).IsSound where
  numbered := ⟨rfl, List.Pairwise.nil⟩
  accounted := List.Perm.nil
  departed := fun _ impossible => nomatch impossible

section Sound

variable {mailbox : Mailbox}

theorem IsSound.number_lt (sound : mailbox.IsSound) {number : Nat}
    (waits : number ∈ mailbox.numbers) : number < mailbox.arrived.length := by
  have member := sound.accounted.mem_iff.mpr (List.mem_append_left _ waits)
  exact List.mem_range.mp member

/-- Where a record has to do with the queue only, it stays in order. -/
theorem IsSound.of_same (sound : mailbox.IsSound) {other : Mailbox}
    (queue : other.queue = mailbox.queue) (numbers : other.numbers = mailbox.numbers)
    (arrived : other.arrived = mailbox.arrived)
    (departures : other.departures = mailbox.departures) : other.IsSound where
  numbered := by rw [queue, numbers, arrived]; exact sound.numbered
  accounted := by rw [numbers, arrived, departures]; exact sound.accounted
  departed := by rw [arrived, departures]; exact sound.departed

theorem IsSound.put (sound : mailbox.IsSound) (signal : Signal) : (mailbox.put signal).IsSound := by
  have old : ∀ {number : Nat}, number < mailbox.arrived.length →
      (mailbox.arrived ++ [SignalQueue.asQueued signal])[number]? = mailbox.arrived[number]? :=
    fun inRange => List.getElem?_append_left inRange
  refine ⟨⟨?_, ?_⟩, ?_, ?_⟩
  · show (mailbox.queue.waiting ++ [SignalQueue.asQueued signal]).map some =
      (mailbox.numbers ++ [mailbox.arrived.length]).map
        fun number => (mailbox.arrived ++ [SignalQueue.asQueued signal])[number]?
    rw [List.map_append, List.map_append, sound.numbered.waiting]
    congr 1
    · exact List.map_congr_left fun number waits => (old (sound.number_lt waits)).symm
    · simp
  · show (mailbox.numbers ++ [mailbox.arrived.length]).Pairwise (· < ·)
    rw [List.pairwise_append]
    refine ⟨sound.numbered.ascending, List.pairwise_singleton _ _, ?_⟩
    intro number waits last isLast
    rw [List.mem_singleton.mp isLast]
    exact sound.number_lt waits
  · show (List.range (mailbox.arrived ++ [SignalQueue.asQueued signal]).length).Perm
      (mailbox.numbers ++ [mailbox.arrived.length] ++ mailbox.departures.map Departure.number)
    rw [List.length_append, List.length_singleton, List.range_succ]
    refine (sound.accounted.append_right _).trans ?_
    rw [List.append_assoc, List.append_assoc]
    exact List.Perm.append_left _ List.perm_append_comm
  · intro departure member
    have number_lt : departure.number < mailbox.arrived.length := by
      have accounted := sound.accounted.mem_iff.mpr
        (List.mem_append_right _ (List.mem_map_of_mem member))
      exact List.mem_range.mp accounted
    exact (old number_lt).trans (sound.departed departure member)

/-- What the departure of a signal does to the record. -/
theorem depart_cases (mailbox : Mailbox) (fateOf : Signal → SignalFate) :
    (mailbox.queue.waiting = [] ∧ mailbox.depart fateOf = mailbox) ∨
      ∃ number signal queue numbers,
        mailbox.queue.takeNumbered mailbox.numbers = some ((number, signal), queue, numbers) ∧
        (mailbox.depart fateOf).queue = queue ∧ (mailbox.depart fateOf).numbers = numbers ∧
        (mailbox.depart fateOf).arrived = mailbox.arrived ∧
        (mailbox.depart fateOf).departures =
          mailbox.departures ++ [⟨number, signal, fateOf signal, mailbox.clock⟩] := by
  unfold depart
  cases taken : mailbox.queue.takeNumbered mailbox.numbers with
  | none =>
      exact Or.inl ⟨(mailbox.queue.takeNumbered_eq_none_iff mailbox.numbers).mp taken, rfl⟩
  | some next =>
      obtain ⟨⟨number, signal⟩, queue, numbers⟩ := next
      exact Or.inr ⟨number, signal, queue, numbers, rfl, rfl, rfl, rfl, rfl⟩

theorem IsSound.depart (sound : mailbox.IsSound) (fateOf : Signal → SignalFate) :
    (mailbox.depart fateOf).IsSound := by
  rcases mailbox.depart_cases fateOf with ⟨-, unchanged⟩ | ⟨number, signal, queue, numbers, taken,
    sameQueue, sameNumbers, sameArrived, sameDepartures⟩
  · rw [unchanged]
    exact sound
  · refine ⟨?_, ?_, ?_⟩
    · rw [sameQueue, sameNumbers, sameArrived]
      exact sound.numbered.remaining taken
    · rw [sameArrived, sameNumbers, sameDepartures, List.map_append, List.map_singleton,
        ← List.append_assoc]
      refine sound.accounted.trans (List.Perm.trans ?_ (List.perm_append_singleton _ _).symm)
      exact (sound.numbered.taken_perm taken).append_right _
    · intro departure member
      rw [sameArrived]
      rw [sameDepartures] at member
      rcases List.mem_append.mp member with before | now
      · exact sound.departed departure before
      · rw [List.mem_singleton.mp now]
        exact sound.numbered.taken_signal taken

theorem IsSound.step (sound : mailbox.IsSound) (event : MailboxEvent) :
    (mailbox.step event).IsSound := by
  rcases mailbox.step_cases event with ⟨signal, -, puts⟩ | ⟨fateOf, -, departs⟩ |
    ⟨queue, numbers, arrived, departures⟩
  · rw [puts]
    exact sound.put signal
  · rw [departs]
    exact sound.depart fateOf
  · exact sound.of_same queue numbers arrived departures

theorem IsSound.run (sound : mailbox.IsSound) (events : List MailboxEvent) :
    (mailbox.run events).IsSound := by
  induction events generalizing mailbox with
  | nil => exact sound
  | cons event rest inductionHypothesis => exact inductionHypothesis (sound.step event)

end Sound

end Mailbox

end OrderKeeper
