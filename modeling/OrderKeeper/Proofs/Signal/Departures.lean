import Mathlib.Data.List.Sort
import OrderKeeper.Proofs.Signal.Mailbox

/-!
Contract: the order in which signals leave a mailbox, and where they go.

Owns: the precedence among signals that arrived, the order in which those that wait would be
taken out, its independence of what comes later, and the main statement on all runs.
-/

set_option autoImplicit false

namespace OrderKeeper

open SignalQueue (rank)

/-! ## Precedence -/

/-- Of two signals that wait, the first leaves before the second: its rank is higher, or it has
the same rank and arrived before. -/
def Precedes (arrived : List Signal) (first second : Nat) : Prop :=
  ∃ early ∈ arrived[first]?, ∃ late ∈ arrived[second]?,
    rank late < rank early ∨ rank late = rank early ∧ first < second

theorem Precedes.asymm {arrived : List Signal} {first second : Nat}
    (precedes : Precedes arrived first second) : ¬Precedes arrived second first := by
  rintro ⟨late, isLate, early, isEarly, ranked⟩
  obtain ⟨_, isEarly', _, isLate', ranked'⟩ := precedes
  cases Option.mem_unique isEarly isEarly'
  cases Option.mem_unique isLate isLate'
  omega

/-- Whether one signal precedes another does not depend on what arrives later. -/
theorem Precedes.of_append {arrived more : List Signal} {first second : Nat}
    (precedes : Precedes (arrived ++ more) first second) (firstOld : first < arrived.length)
    (secondOld : second < arrived.length) : Precedes arrived first second := by
  unfold Precedes at precedes ⊢
  rwa [List.getElem?_append_left firstOld, List.getElem?_append_left secondOld] at precedes

namespace SignalQueue

section Numbered

variable {queue rest : SignalQueue} {arrived : List Signal} {numbers left : List Nat}
  {number : Nat} {signal : Signal}

/-- The signal that leaves precedes all that stay. -/
theorem IsNumbered.precedes (numbered : queue.IsNumbered arrived numbers)
    (taken : queue.takeNumbered numbers = some ((number, signal), rest, left)) :
    ∀ other ∈ left, Precedes arrived number other := by
  obtain ⟨earlier, later, earlierNumbers, laterNumbers, parts, isLeft, -, isSignal, sameEarlier,
    sameLater, lower, notHigher⟩ := numbered.split taken
  intro other member
  rw [isLeft] at member
  rcases List.mem_append.mp member with before | after
  · have found : arrived[other]? ∈ earlier.map some :=
      sameEarlier ▸ List.mem_map_of_mem before
    obtain ⟨otherSignal, otherMember, isOther⟩ := List.mem_map.mp found
    exact ⟨signal, isSignal, otherSignal, isOther.symm, Or.inl (lower otherSignal otherMember)⟩
  · have found : arrived[other]? ∈ later.map some := sameLater ▸ List.mem_map_of_mem after
    obtain ⟨otherSignal, otherMember, isOther⟩ := List.mem_map.mp found
    have ascending := numbered.ascending
    rw [parts] at ascending
    have arrivedBefore : number < other :=
      (List.pairwise_cons.mp (List.pairwise_append.mp ascending).2.1).1 other after
    refine ⟨signal, isSignal, otherSignal, isOther.symm, ?_⟩
    have ranked := notHigher otherSignal otherMember
    omega

end Numbered

/-- The numbers in the order in which signals leave if one after the other is taken out; `fuel`
bounds how many. -/
def takeAll : Nat → SignalQueue → List Nat → List Nat
  | 0, _, _ => []
  | fuel + 1, queue, numbers =>
      match queue.takeNumbered numbers with
      | none => []
      | some ((number, _), rest, left) => number :: takeAll fuel rest left

/-- All waiting signals leave, each before those that it precedes. -/
theorem IsNumbered.takeAll {arrived : List Signal} {fuel : Nat} :
    ∀ {queue : SignalQueue} {numbers : List Nat}, queue.IsNumbered arrived numbers →
      numbers.length = fuel →
      (queue.takeAll fuel numbers).Perm numbers ∧
        (queue.takeAll fuel numbers).Pairwise (Precedes arrived) := by
  induction fuel with
  | zero =>
      intro queue numbers _ isEmpty
      rw [List.length_eq_zero_iff.mp isEmpty]
      exact ⟨List.Perm.nil, List.Pairwise.nil⟩
  | succ fuel inductionHypothesis =>
      intro queue numbers numbered sameLength
      unfold SignalQueue.takeAll
      cases taken : queue.takeNumbered numbers with
      | none =>
          have isEmpty := (queue.takeNumbered_eq_none_iff numbers).mp taken
          have lengths := numbered.length_eq
          rw [isEmpty, List.length_nil] at lengths
          omega
      | some next =>
          obtain ⟨⟨number, signal⟩, rest, left⟩ := next
          have perm := numbered.taken_perm taken
          have leftLength : left.length = fuel := by
            have lengths := perm.length_eq
            rw [List.length_cons] at lengths
            omega
          obtain ⟨restPerm, restPairwise⟩ :=
            inductionHypothesis (numbered.remaining taken) leftLength
          refine ⟨(restPerm.cons number).trans perm.symm, ?_⟩
          rw [List.pairwise_cons]
          refine ⟨fun other member => ?_, restPairwise⟩
          exact numbered.precedes taken other (restPerm.mem_iff.mp member)

end SignalQueue

namespace Mailbox

/-! ## The order of removal -/

/-- The numbers of the waiting signals in the order in which they would be taken out. -/
def removalOrder (mailbox : Mailbox) : List Nat :=
  mailbox.queue.takeAll mailbox.queue.size mailbox.numbers

section Removal

variable {mailbox : Mailbox}

theorem IsSound.removalOrder_perm (sound : mailbox.IsSound) :
    mailbox.removalOrder.Perm mailbox.numbers :=
  (sound.numbered.takeAll sound.numbered.length_eq).1

theorem IsSound.removalOrder_pairwise (sound : mailbox.IsSound) :
    mailbox.removalOrder.Pairwise (Precedes mailbox.arrived) :=
  (sound.numbered.takeAll sound.numbered.length_eq).2

theorem IsSound.removalOrder_old (sound : mailbox.IsSound) :
    mailbox.removalOrder.filter (· < mailbox.arrived.length) = mailbox.removalOrder := by
  rw [List.filter_eq_self]
  intro number member
  exact decide_eq_true (sound.number_lt (sound.removalOrder_perm.mem_iff.mp member))

/-- A signal that is put takes its place among the others, which keep their order. -/
theorem IsSound.removalOrder_put (sound : mailbox.IsSound) (signal : Signal) :
    (mailbox.put signal).removalOrder.filter (· < mailbox.arrived.length) =
      mailbox.removalOrder := by
  have after := sound.put signal
  have old : ∀ {number : Nat}, number ∈ (mailbox.put signal).removalOrder.filter
      (· < mailbox.arrived.length) → number < mailbox.arrived.length :=
    fun member => of_decide_eq_true (List.mem_filter.mp member).2
  have perm : ((mailbox.put signal).removalOrder.filter (· < mailbox.arrived.length)).Perm
      mailbox.removalOrder := by
    refine (after.removalOrder_perm.filter _).trans (List.Perm.trans ?_
      sound.removalOrder_perm.symm)
    have kept : (mailbox.put signal).numbers.filter (· < mailbox.arrived.length) =
        mailbox.numbers := by
      show (mailbox.numbers ++ [mailbox.arrived.length]).filter _ = _
      rw [List.filter_append]
      have all : mailbox.numbers.filter (· < mailbox.arrived.length) = mailbox.numbers := by
        rw [List.filter_eq_self]
        exact fun number member => decide_eq_true (sound.number_lt member)
      rw [all]
      simp
    rw [kept]
  refine List.Perm.eq_of_pairwise ?_ ?_ sound.removalOrder_pairwise perm
  · intro first second _ _ firstBefore secondBefore
    exact absurd secondBefore firstBefore.asymm
  · refine List.Pairwise.imp_of_mem ?_ (after.removalOrder_pairwise.filter _)
    intro first second firstMember secondMember precedes
    exact Precedes.of_append precedes (old firstMember) (old secondMember)

/-- Those that wait leave in the order in which they would be taken out, whatever happens. -/
theorem IsSound.removalOrder_step (sound : mailbox.IsSound) (event : MailboxEvent) :
    ∃ left, (mailbox.step event).departures = mailbox.departures ++ left ∧
      mailbox.arrived.length ≤ (mailbox.step event).arrived.length ∧
      mailbox.removalOrder =
        (left.map Departure.number ++ (mailbox.step event).removalOrder).filter
          (· < mailbox.arrived.length) := by
  rcases mailbox.step_cases event with ⟨signal, -, puts⟩ | ⟨fateOf, -, departs⟩ |
    ⟨queue, numbers, arrived, departures⟩
  · rw [puts]
    refine ⟨[], (List.append_nil _).symm, ?_, (sound.removalOrder_put signal).symm⟩
    show _ ≤ (mailbox.arrived ++ [SignalQueue.asQueued signal]).length
    rw [List.length_append]
    exact Nat.le_add_right _ _
  · rw [departs]
    rcases mailbox.depart_cases fateOf with ⟨-, unchanged⟩ | ⟨number, signal, queue, numbers, taken,
      sameQueue, sameNumbers, sameArrived, sameDepartures⟩
    · rw [unchanged]
      exact ⟨[], (List.append_nil _).symm, Nat.le_refl _, sound.removalOrder_old.symm⟩
    · refine ⟨_, sameDepartures, Nat.le_of_eq (congrArg List.length sameArrived.symm), ?_⟩
      have inOrder : mailbox.removalOrder = number :: (mailbox.depart fateOf).removalOrder := by
        have size : mailbox.queue.size = queue.size + 1 := by
          have lengths := (sound.numbered.taken_perm taken).length_eq
          have restLength := (sound.numbered.remaining taken).length_eq
          rw [sound.numbered.length_eq, List.length_cons, restLength] at lengths
          exact lengths
        unfold removalOrder
        rw [size, sameQueue, sameNumbers]
        simp [SignalQueue.takeAll, taken]
      rw [List.map_singleton, List.singleton_append, ← inOrder]
      exact sound.removalOrder_old.symm
  · refine ⟨[], ?_, Nat.le_of_eq (congrArg List.length arrived.symm), ?_⟩
    · rw [departures, List.append_nil]
    · have same : (mailbox.step event).removalOrder = mailbox.removalOrder := by
        unfold removalOrder
        rw [queue, numbers]
      rw [List.map_nil, List.nil_append, same]
      exact sound.removalOrder_old.symm

theorem IsSound.removalOrder_run (sound : mailbox.IsSound) (events : List MailboxEvent) :
    ∃ left, (mailbox.run events).departures = mailbox.departures ++ left ∧
      mailbox.arrived.length ≤ (mailbox.run events).arrived.length ∧
      mailbox.removalOrder =
        (left.map Departure.number ++ (mailbox.run events).removalOrder).filter
          (· < mailbox.arrived.length) := by
  induction events generalizing mailbox with
  | nil =>
      exact ⟨[], (List.append_nil _).symm, Nat.le_refl _, sound.removalOrder_old.symm⟩
  | cons event rest inductionHypothesis =>
      obtain ⟨first, firstLeft, firstArrived, firstOrder⟩ := sound.removalOrder_step event
      obtain ⟨later, laterLeft, laterArrived, laterOrder⟩ := inductionHypothesis (sound.step event)
      refine ⟨first ++ later, ?_, Nat.le_trans firstArrived laterArrived, ?_⟩
      · show ((mailbox.step event).run rest).departures = _
        rw [laterLeft, firstLeft, List.append_assoc]
      · -- What is old to the first step is old to all that follow.
        have narrower : ∀ numbers : List Nat,
            (numbers.filter (· < (mailbox.step event).arrived.length)).filter
                (· < mailbox.arrived.length) =
              numbers.filter (· < mailbox.arrived.length) := by
          intro numbers
          rw [List.filter_filter]
          refine List.filter_congr fun number _ => ?_
          rw [Bool.and_eq_left_iff_imp]
          intro old
          exact decide_eq_true (Nat.lt_of_lt_of_le (of_decide_eq_true old) firstArrived)
        rw [firstOrder, laterOrder, List.filter_append, narrower, ← List.filter_append,
          List.map_append, List.append_assoc]
        rfl

end Removal

/-! ## What a step lets go -/

/-- A signal leaves at the time of the clock, is handed to the bus only before it lapses and
dropped only after, and none that stays is above it by value or before it at its very
priority. -/
structure LeavesInTurn (before after : Mailbox) (departure : Departure) : Prop where
  time : departure.time = before.clock
  handed : departure.fate = .handed → departure.signal.hasLapsed before.clock = false
  expired : departure.fate = .expired → departure.signal.hasLapsed before.clock = true
  foremost : ∀ number ∈ after.numbers, ∀ other ∈ before.arrived[number]?,
    departure.signal.priority.below other.priority = false ∧
      (other.priority = departure.signal.priority → departure.number < number)

section Turns

variable {mailbox : Mailbox}

/-- The fate of a signal fits the clock. -/
theorem Departs.fits {event : MailboxEvent} {fateOf : Signal → SignalFate}
    (departs : mailbox.Departs event fateOf) (signal : Signal) :
    (fateOf signal = .handed → signal.hasLapsed mailbox.clock = false) ∧
      (fateOf signal = .expired → signal.hasLapsed mailbox.clock = true) := by
  cases departs with
  | takenOut => exact ⟨fun impossible => (nomatch impossible), fun impossible => nomatch impossible⟩
  | dispatched isReady =>
      unfold dispatchedFate
      cases signal.hasLapsed mailbox.clock <;> simp

/-- A step lets go of no signal or of one, whose turn it is. -/
theorem IsSound.step_departures (sound : mailbox.IsSound) (event : MailboxEvent) :
    (mailbox.step event).departures = mailbox.departures ∨
      ∃ departure, (mailbox.step event).departures = mailbox.departures ++ [departure] ∧
        mailbox.LeavesInTurn (mailbox.step event) departure := by
  rcases mailbox.step_cases event with ⟨signal, -, puts⟩ | ⟨fateOf, departs, isDepart⟩ |
    ⟨-, -, -, departures⟩
  · rw [puts]
    exact Or.inl rfl
  · rw [isDepart]
    rcases mailbox.depart_cases fateOf with ⟨-, unchanged⟩ | ⟨number, signal, queue, numbers, taken,
      sameQueue, sameNumbers, sameArrived, sameDepartures⟩
    · rw [unchanged]
      exact Or.inl rfl
    · refine Or.inr ⟨_, sameDepartures, rfl, (departs.fits signal).1, (departs.fits signal).2, ?_⟩
      intro other stays otherSignal isOther
      rw [sameNumbers] at stays
      obtain ⟨early, isEarly, late, isLate, ranked⟩ := sound.numbered.precedes taken other stays
      cases Option.mem_unique isOther isLate
      cases Option.mem_unique isEarly (sound.numbered.taken_signal taken)
      dsimp only
      have notHigher : rank otherSignal ≤ rank signal := by omega
      refine ⟨SignalQueue.not_below_of_rank notHigher, fun samePriority => ?_⟩
      have sameRank : rank otherSignal = rank signal := congrArg Binary64.rank samePriority
      omega
  · exact Or.inl departures

/-- Without a dispatcher, and none being started, signals are taken out or stay. -/
theorem step_without_dispatcher (stopped : mailbox.dispatcher = none) {event : MailboxEvent}
    (notStart : event ≠ .start) :
    (mailbox.step event).dispatcher = none ∧
      ∃ left, (mailbox.step event).departures = mailbox.departures ++ left ∧
        ∀ departure ∈ left, departure.fate = .takenOut := by
  have nothing : mailbox.departures = mailbox.departures ++ [] := (List.append_nil _).symm
  have noneLeft : ∀ departure ∈ ([] : List Departure), departure.fate = .takenOut :=
    fun _ impossible => nomatch impossible
  cases event with
  | put signal => exact ⟨stopped, [], nothing, noneLeft⟩
  | moveClock now => exact ⟨stopped, [], nothing, noneLeft⟩
  | stop => exact ⟨rfl, [], nothing, noneLeft⟩
  | start => exact absurd rfl notStart
  | dispatch =>
      have unchanged : mailbox.step .dispatch = mailbox := by simp [step, dispatch, stopped]
      rw [unchanged]
      exact ⟨stopped, [], nothing, noneLeft⟩
  | answer answer =>
      have unchanged : mailbox.step (.answer answer) = mailbox := by simp [step, hear, stopped]
      rw [unchanged]
      exact ⟨stopped, [], nothing, noneLeft⟩
  | takeOut =>
      unfold step depart
      cases mailbox.queue.takeNumbered mailbox.numbers with
      | none => exact ⟨stopped, [], nothing, noneLeft⟩
      | some next =>
          refine ⟨stopped, _, rfl, fun departure member => ?_⟩
          rw [List.mem_singleton.mp member]

theorem run_without_dispatcher (stopped : mailbox.dispatcher = none) {events : List MailboxEvent}
    (noStart : ∀ event ∈ events, event ≠ .start) :
    ∃ left, (mailbox.run events).departures = mailbox.departures ++ left ∧
      ∀ departure ∈ left, departure.fate = .takenOut := by
  induction events generalizing mailbox with
  | nil => exact ⟨[], (List.append_nil _).symm, fun _ impossible => nomatch impossible⟩
  | cons event rest inductionHypothesis =>
      obtain ⟨stillStopped, first, firstLeft, firstTaken⟩ :=
        step_without_dispatcher stopped (noStart event List.mem_cons_self)
      obtain ⟨later, laterLeft, laterTaken⟩ := inductionHypothesis stillStopped
        fun other member => noStart other (List.mem_cons_of_mem event member)
      refine ⟨first ++ later, ?_, ?_⟩
      · show ((mailbox.step event).run rest).departures = _
        rw [laterLeft, firstLeft, List.append_assoc]
      · intro departure member
        rcases List.mem_append.mp member with early | late
        · exact firstTaken departure early
        · exact laterTaken departure late

end Turns

end Mailbox

/-! ## What the bus answers -/

/-- The signal that an event puts, as it is queued. -/
def MailboxEvent.arrival? : MailboxEvent → Option Signal
  | .put signal => some (SignalQueue.asQueued signal)
  | _ => none

/-- The same event, but for what the bus answers. -/
def MailboxEvent.SameButAnswer : MailboxEvent → MailboxEvent → Prop
  | .answer _, .answer _ => True
  | first, second => first = second

namespace Mailbox

/-- The same mailbox, but for what the bus answered to the same signals. -/
def SameButAnswers (first second : Mailbox) : Prop :=
  second = { first with answers := second.answers } ∧
    second.answers.map Prod.fst = first.answers.map Prod.fst

/-- A departure does not look at the answers. -/
theorem SameButAnswers.depart {first second : Mailbox} (same : first.SameButAnswers second)
    (fateOf : Signal → SignalFate) :
    (first.depart fateOf).SameButAnswers (second.depart fateOf) := by
  obtain ⟨isSecond, sameNumbers⟩ := same
  rw [isSecond]
  unfold Mailbox.depart
  dsimp only
  cases first.queue.takeNumbered first.numbers with
  | none => exact ⟨rfl, sameNumbers⟩
  | some next => exact ⟨rfl, sameNumbers⟩

theorem SameButAnswers.step {first second : Mailbox} (same : first.SameButAnswers second)
    {firstEvent secondEvent : MailboxEvent} (sameEvent : firstEvent.SameButAnswer secondEvent) :
    (first.step firstEvent).SameButAnswers (second.step secondEvent) := by
  have sameDispatcher : second.dispatcher = first.dispatcher := by rw [same.1]
  have sameClock : second.clock = first.clock := by rw [same.1]
  obtain ⟨isSecond, sameNumbers⟩ := same
  cases firstEvent with
  | answer firstAnswer =>
      obtain ⟨secondAnswer, rfl⟩ : ∃ answer, secondEvent = .answer answer := by
        cases secondEvent with
        | answer answer => exact ⟨answer, rfl⟩
        | _ => cases sameEvent
      unfold Mailbox.step hear
      rw [sameDispatcher]
      rcases first.dispatcher with _ | ⟨_ | number⟩
      · exact ⟨isSecond, sameNumbers⟩
      · exact ⟨isSecond, sameNumbers⟩
      · exact ⟨by rw [isSecond], by simp [sameNumbers]⟩
  | put signal =>
      cases sameEvent
      exact ⟨by rw [isSecond]; rfl, sameNumbers⟩
  | moveClock now =>
      cases sameEvent
      exact ⟨by rw [isSecond]; rfl, sameNumbers⟩
  | stop =>
      cases sameEvent
      exact ⟨by rw [isSecond]; rfl, sameNumbers⟩
  | takeOut =>
      cases sameEvent
      exact SameButAnswers.depart ⟨isSecond, sameNumbers⟩ fun _ => .takenOut
  | start =>
      cases sameEvent
      unfold Mailbox.step start
      rw [sameDispatcher]
      cases first.dispatcher with
      | none => exact ⟨by rw [isSecond], sameNumbers⟩
      | some _ => exact ⟨isSecond, sameNumbers⟩
  | dispatch =>
      cases sameEvent
      unfold Mailbox.step dispatch
      rw [sameDispatcher, sameClock]
      rcases first.dispatcher with _ | ⟨_ | number⟩
      · exact ⟨isSecond, sameNumbers⟩
      · exact SameButAnswers.depart ⟨isSecond, sameNumbers⟩ _
      · exact ⟨isSecond, sameNumbers⟩

theorem SameButAnswers.run {first second : Mailbox} (same : first.SameButAnswers second)
    {firstEvents secondEvents : List MailboxEvent}
    (sameEvents : List.Forall₂ MailboxEvent.SameButAnswer firstEvents secondEvents) :
    (first.run firstEvents).SameButAnswers (second.run secondEvents) := by
  induction sameEvents generalizing first second with
  | nil => exact same
  | cons sameEvent _ inductionHypothesis => exact inductionHypothesis (same.step sameEvent)

/-! ## All of a run -/

theorem depart_arrived (mailbox : Mailbox) (fateOf : Signal → SignalFate) :
    (mailbox.depart fateOf).arrived = mailbox.arrived := by
  rcases mailbox.depart_cases fateOf with ⟨-, unchanged⟩ | ⟨_, _, _, _, -, -, -, arrived, -⟩
  · rw [unchanged]
  · exact arrived

theorem step_arrived (mailbox : Mailbox) (event : MailboxEvent) :
    (mailbox.step event).arrived = mailbox.arrived ++ event.arrival?.toList := by
  cases event with
  | put signal => rfl
  | takeOut => exact (depart_arrived mailbox _).trans (List.append_nil _).symm
  | moveClock now => exact (List.append_nil _).symm
  | stop => exact (List.append_nil _).symm
  | start =>
      refine Eq.trans ?_ (List.append_nil _).symm
      unfold step start
      cases mailbox.dispatcher <;> rfl
  | dispatch =>
      refine Eq.trans ?_ (List.append_nil _).symm
      unfold step dispatch
      rcases mailbox.dispatcher with _ | ⟨_ | _⟩
      · rfl
      · exact depart_arrived mailbox _
      · rfl
  | answer answer =>
      refine Eq.trans ?_ (List.append_nil _).symm
      unfold step hear
      rcases mailbox.dispatcher with _ | ⟨_ | _⟩ <;> rfl

/-- What arrived is what was put. -/
theorem run_arrived (mailbox : Mailbox) (events : List MailboxEvent) :
    (mailbox.run events).arrived = mailbox.arrived ++ events.filterMap MailboxEvent.arrival? := by
  induction events generalizing mailbox with
  | nil => exact (List.append_nil _).symm
  | cons event rest inductionHypothesis =>
      refine (inductionHypothesis (mailbox.step event)).trans ?_
      rw [step_arrived, List.append_assoc, List.filterMap_cons]
      cases event.arrival? <;> rfl

/-- Producers, consumers, the clock, the bus and those who start and stop the dispatcher, in any
order.  Every signal that was put either waits, or has left once: taken out, handed to the bus,
or dropped as expired.  Each leaves in its turn; a bus that refuses or breaks down changes
nothing but the answers.  After a stop, until a start, signals are at most taken out.  Those that
waited leave in the order in which they would have left then, whatever happens. -/
theorem run_accounts_for_signals (clock : Instant) (events : List MailboxEvent) :
    let mailbox := (Mailbox.empty clock).run events
    mailbox.arrived = events.filterMap MailboxEvent.arrival? ∧
    mailbox.queue.waiting.map some =
      mailbox.numbers.map (fun number => mailbox.arrived[number]?) ∧
    (∀ departure ∈ mailbox.departures,
      mailbox.arrived[departure.number]? = some departure.signal) ∧
    (List.range mailbox.arrived.length).Perm
      (mailbox.numbers ++ mailbox.departures.map Departure.number) ∧
    (∀ event, (mailbox.step event).departures = mailbox.departures ∨
      ∃ departure, (mailbox.step event).departures = mailbox.departures ++ [departure] ∧
        mailbox.LeavesInTurn (mailbox.step event) departure) ∧
    (∀ others, List.Forall₂ MailboxEvent.SameButAnswer events others →
      mailbox.SameButAnswers ((Mailbox.empty clock).run others)) ∧
    ∀ later,
      let last := (mailbox.step .stop).run later
      ∃ left, last.departures = mailbox.departures ++ left ∧
        ((∀ event ∈ later, event ≠ .start) → ∀ departure ∈ left, departure.fate = .takenOut) ∧
        mailbox.removalOrder =
          (left.map Departure.number ++ last.removalOrder).filter
            (· < mailbox.arrived.length) := by
  intro mailbox
  have sound : mailbox.IsSound := (IsSound.empty clock).run events
  refine ⟨?_, sound.numbered.waiting, sound.departed, sound.accounted, sound.step_departures,
    ?_, ?_⟩
  · exact (run_arrived (Mailbox.empty clock) events).trans (List.nil_append _)
  · intro others same
    exact SameButAnswers.run ⟨rfl, rfl⟩ same
  · intro later last
    obtain ⟨left, isLeft, -, inOrder⟩ := (sound.step .stop).removalOrder_run later
    refine ⟨left, isLeft, fun noStart => ?_, inOrder⟩
    obtain ⟨taken, isTaken, areTaken⟩ := run_without_dispatcher
      (rfl : (mailbox.step .stop).dispatcher = none) noStart
    obtain rfl : left = taken := List.append_cancel_left (isLeft.symm.trans isTaken)
    exact areTaken

end Mailbox

end OrderKeeper
