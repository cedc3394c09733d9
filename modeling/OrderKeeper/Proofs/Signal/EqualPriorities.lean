import OrderKeeper.Proofs.Signal.Departures

/-!
Contract: the order in which signals of equal priority leave.

Owns: equality of priorities by value, the ranks of equal priorities, the precedence among signals
that have them, and the order in which such signals leave in every run.

Does not own: signals of different priorities.

Equal priorities have one rank, except that the two zeros, which are equal, are ranked apart.  So a
signal of priority `0` overtakes those of priority `-0` that wait.  A priority that is not a number
counts as `0` here as well.
-/

set_option autoImplicit false

namespace OrderKeeper

/-! ## Equality by value -/

namespace Binary64

def negativeZero : Binary64 :=
  ofMagnitude true 0

/-- Equality by value: both are numbers and neither is below the other. -/
def Equals (x y : Binary64) : Prop :=
  x.isNaN = false ∧ y.isNaN = false ∧ x.below y = false ∧ y.below x = false

instance (x y : Binary64) : Decidable (x.Equals y) :=
  inferInstanceAs (Decidable (_ ∧ _))

/-- A number is made of its sign and its magnitude. -/
theorem ofMagnitude_parts (x : Binary64) : ofMagnitude x.isNegative x.magnitude = x := by
  have inRange := x.bits.toNat_lt
  have whole : (if x.isNegative then 2 ^ (63 : Nat) else 0) + x.magnitude = x.bits.toNat := by
    unfold isNegative magnitude
    by_cases signed : 2 ^ (63 : Nat) ≤ x.bits.toNat
    · rw [decide_eq_true signed, if_pos rfl]
      omega
    · rw [decide_eq_false signed, if_neg Bool.false_ne_true]
      omega
  unfold ofMagnitude
  rw [whole, UInt64.ofNat_toNat]

/-- Numbers that are equal by value are the same or the two zeros. -/
theorem Equals.same_or_zeros {x y : Binary64} (equal : x.Equals y) :
    x = y ∨ (x = negativeZero ∧ y = zero) ∨ (x = zero ∧ y = negativeZero) := by
  obtain ⟨xNumber, yNumber, xNotBelow, yNotBelow⟩ := equal
  unfold below at xNotBelow yNotBelow
  simp only [xNumber, yNumber, Bool.or_self, Bool.false_eq_true, if_false, decide_eq_false_iff_not]
    at xNotBelow yNotBelow
  have zeroParts : ofMagnitude false 0 = zero := by decide
  rw [← ofMagnitude_parts x, ← ofMagnitude_parts y]
  cases xSign : x.isNegative <;> cases ySign : y.isNegative <;>
    simp only [xSign, ySign, if_true, Bool.false_eq_true, if_false] at xNotBelow yNotBelow
  · have sameMagnitude : x.magnitude = y.magnitude := by omega
    exact Or.inl (by rw [sameMagnitude])
  · have xZero : x.magnitude = 0 := by omega
    have yZero : y.magnitude = 0 := by omega
    rw [xZero, yZero, zeroParts]
    exact Or.inr (Or.inr ⟨rfl, rfl⟩)
  · have xZero : x.magnitude = 0 := by omega
    have yZero : y.magnitude = 0 := by omega
    rw [xZero, yZero, zeroParts]
    exact Or.inr (Or.inl ⟨rfl, rfl⟩)
  · have sameMagnitude : x.magnitude = y.magnitude := by omega
    exact Or.inl (by rw [sameMagnitude])

end Binary64

/-! ## Precedence -/

section Precedence

variable {arrived : List Signal} {first second : Nat} {early late : Signal}

/-- Of two signals of equal priority the earlier one precedes, unless it has the negative zero and
the other one the positive zero. -/
theorem precedes_of_equal (inOrder : first < second) (isEarly : arrived[first]? = some early)
    (isLate : arrived[second]? = some late) (equal : early.priority.Equals late.priority)
    (notZeros : ¬(early.priority = .negativeZero ∧ late.priority = .zero)) :
    Precedes arrived first second := by
  refine ⟨early, isEarly, late, isLate, ?_⟩
  unfold SignalQueue.rank
  rcases equal.same_or_zeros with same | zeros | ⟨earlyZero, lateZero⟩
  · rw [same]
    exact Or.inr ⟨rfl, inOrder⟩
  · exact absurd zeros notZeros
  · rw [earlyZero, lateZero]
    exact Or.inl (by decide)

/-- The positive zero precedes the negative one wherever it arrived. -/
theorem precedes_of_zeros (isEarly : arrived[first]? = some early)
    (isLate : arrived[second]? = some late) (earlyZero : early.priority = .negativeZero)
    (lateZero : late.priority = .zero) : Precedes arrived second first := by
  refine ⟨late, isLate, early, isEarly, Or.inl ?_⟩
  unfold SignalQueue.rank
  rw [earlyZero, lateZero]
  decide

end Precedence

/-- Whenever one number is in a list, another one is in the list before it. -/
def ComesBefore (first second : Nat) (numbers : List Nat) : Prop :=
  ∀ earlier later, numbers = earlier ++ second :: later → first ∈ earlier

/-- In a list that is in order of precedence, what precedes comes before. -/
theorem comesBefore_of_precedes {arrived : List Signal} {first second : Nat} {numbers : List Nat}
    (precedes : Precedes arrived first second) (inOrder : numbers.Pairwise (Precedes arrived))
    (listed : first ∈ numbers) : ComesBefore first second numbers := by
  rintro earlier later rfl
  rcases List.mem_append.mp listed with before | after
  · exact before
  · rcases List.mem_cons.mp after with same | behind
    · rw [same] at precedes
      exact absurd precedes precedes.asymm
    · have overtaken := (List.pairwise_append.mp inOrder).2.1
      exact absurd ((List.pairwise_cons.mp overtaken).1 first behind) precedes.asymm

namespace Mailbox

section Sound

variable {mailbox : Mailbox}

/-- What waits has left after a run, or waits still. -/
theorem IsSound.left_or_waits (sound : mailbox.IsSound) {events : List MailboxEvent}
    {left : List Departure}
    (isLeft : (mailbox.run events).departures = mailbox.departures ++ left) :
    ∀ number ∈ mailbox.numbers,
      number ∈ left.map Departure.number ∨ number ∈ (mailbox.run events).numbers := by
  obtain ⟨others, isOthers, -, inOrder⟩ := sound.removalOrder_run events
  obtain rfl : left = others := List.append_cancel_left (isLeft.symm.trans isOthers)
  intro number waits
  have listed := sound.removalOrder_perm.mem_iff.mpr waits
  rw [inOrder] at listed
  refine (List.mem_append.mp (List.mem_filter.mp listed).1).imp_right fun later => ?_
  exact (sound.run events).removalOrder_perm.mem_iff.mp later

/-- Of two signals that wait, the one that precedes leaves before, whatever happens. -/
theorem IsSound.leaves_before (sound : mailbox.IsSound) {first second : Nat}
    (waits : first ∈ mailbox.numbers) (alsoWaits : second ∈ mailbox.numbers)
    (precedes : Precedes mailbox.arrived first second) {events : List MailboxEvent}
    {left : List Departure}
    (isLeft : (mailbox.run events).departures = mailbox.departures ++ left) :
    ComesBefore first second (left.map Departure.number) := by
  obtain ⟨others, isOthers, -, inOrder⟩ := sound.removalOrder_run events
  obtain rfl : left = others := List.append_cancel_left (isLeft.symm.trans isOthers)
  intro earlier later split
  have before := comesBefore_of_precedes precedes sound.removalOrder_pairwise
    (sound.removalOrder_perm.mem_iff.mpr waits)
  have secondOld := decide_eq_true (sound.number_lt alsoWaits)
  -- What leaves or waits in the end is, of the signals that wait now, what waits now in its order.
  rw [split, List.append_assoc, List.cons_append, List.filter_append,
    List.filter_cons_of_pos (p := fun number => number < mailbox.arrived.length) secondOld]
    at inOrder
  exact (List.mem_filter.mp (before _ _ inOrder)).1

/-- While anything waits, taking out lets one signal leave. -/
theorem IsSound.takeOut_departs (sound : mailbox.IsSound) (waits : mailbox.numbers ≠ []) :
    ∃ departure, (mailbox.step .takeOut).departures = mailbox.departures ++ [departure] := by
  rcases mailbox.depart_cases fun _ => .takenOut with ⟨isEmpty, -⟩ | ⟨_, _, _, _, -, -, -, -,
    departures⟩
  · have lengths := sound.numbered.length_eq
    rw [isEmpty, List.length_nil, List.length_eq_zero_iff] at lengths
    exact absurd lengths waits
  · exact ⟨_, departures⟩

end Sound

/-! ## Main statement -/

/-- Two signals that wait at one time, the first of which arrived before the second, with priorities
that are equal by value, a priority that is not a number counting as `0`.  Whatever happens later, the
first one leaves before the second, unless it has the priority `-0` and the second `0`: then the
second always leaves before the first.  Signals leave as long as they are taken out and any wait. -/
theorem equal_priorities_leave_in_order (clock : Instant) (events later : List MailboxEvent) :
    let mailbox := (Mailbox.empty clock).run events
    let last := mailbox.run later
    mailbox.arrived = events.filterMap MailboxEvent.arrival? ∧
    ∃ left, last.departures = mailbox.departures ++ left ∧
      (∀ number ∈ mailbox.numbers,
        number ∈ left.map Departure.number ∨ number ∈ last.numbers) ∧
      (last.numbers ≠ [] →
        ∃ departure, (last.step .takeOut).departures = last.departures ++ [departure]) ∧
      ∀ first ∈ mailbox.numbers, ∀ second ∈ mailbox.numbers, first < second →
        ∀ early ∈ mailbox.arrived[first]?, ∀ late ∈ mailbox.arrived[second]?,
          early.priority.Equals late.priority →
          (¬(early.priority = .negativeZero ∧ late.priority = .zero) →
            ComesBefore first second (left.map Departure.number)) ∧
          (early.priority = .negativeZero ∧ late.priority = .zero →
            ComesBefore second first (left.map Departure.number)) := by
  intro mailbox last
  have sound : mailbox.IsSound := (IsSound.empty clock).run events
  obtain ⟨left, isLeft, -, -⟩ := sound.removalOrder_run later
  refine ⟨(run_arrived (Mailbox.empty clock) events).trans (List.nil_append _), left, isLeft,
    sound.left_or_waits isLeft, (sound.run later).takeOut_departs, ?_⟩
  intro first waits second alsoWaits inOrder early isEarly late isLate equal
  constructor
  · intro notZeros
    exact sound.leaves_before waits alsoWaits
      (precedes_of_equal inOrder isEarly isLate equal notZeros) isLeft
  · rintro ⟨earlyZero, lateZero⟩
    exact sound.leaves_before alsoWaits waits
      (precedes_of_zeros isEarly isLate earlyZero lateZero) isLeft

/-- Three signals of equal priority that leave in the order in which they arrived. -/
theorem three_equal_signals_leave_in_order :
    let signal := fun (topic : String) (priority : Binary64) =>
      { (default : Signal) with topic, priority }
    let mailbox := (Mailbox.empty ⟨0, 0⟩).run
      [.put (signal "zero" .zero), .put (signal "none" .nan), .put (signal "low" .negativeZero)]
    ∃ left, (mailbox.run [.takeOut, .takeOut, .takeOut]).departures = mailbox.departures ++ left ∧
      left.map (fun departure => departure.signal.topic) = ["zero", "none", "low"] ∧
      ComesBefore 0 1 (left.map Departure.number) ∧ ComesBefore 1 2 (left.map Departure.number) := by
  intro signal mailbox
  obtain ⟨-, left, isLeft, -, -, inOrder⟩ := equal_priorities_leave_in_order ⟨0, 0⟩
    [.put (signal "zero" .zero), .put (signal "none" .nan), .put (signal "low" .negativeZero)]
    [.takeOut, .takeOut, .takeOut]
  refine ⟨left, isLeft, ?_, ?_, ?_⟩
  · have topics := congrArg
      (List.map fun departure : Departure => departure.signal.topic) isLeft.symm
    exact topics.trans (by decide)
  · exact (inOrder 0 (by decide) 1 (by decide) (by decide) _ rfl _ rfl (by decide)).1 (by decide)
  · exact (inOrder 1 (by decide) 2 (by decide) (by decide) _ rfl _ rfl (by decide)).1 (by decide)

/-- A signal of priority `0` that arrives after one of priority `-0` is taken out before it, although
the two priorities are equal. -/
theorem zero_overtakes_negative_zero :
    let signal := fun (topic : String) (priority : Binary64) =>
      { (default : Signal) with topic, priority }
    let mailbox := (Mailbox.empty ⟨0, 0⟩).run
      [.put (signal "first" .negativeZero), .put (signal "second" .zero)]
    Binary64.negativeZero.Equals .zero ∧ mailbox.numbers = [0, 1] ∧
      mailbox.arrived.map Signal.topic = ["first", "second"] ∧
      (mailbox.step .takeOut).departures.map Departure.number = [1] ∧
      (mailbox.run [.takeOut, .takeOut]).departures.map Departure.number = [1, 0] := by
  decide

end Mailbox

end OrderKeeper
