import Mathlib.Algebra.GroupWithZero.Nat
import Mathlib.Data.List.Chain
import Mathlib.Data.List.DropRight
import OrderKeeper.Proofs.Dictionary
import OrderKeeper.Throttle

/-!
Contract: what throttles by key let through, over any run of messages.

Owns: the effect of one message on the throttle of its key, the log of a run, the state of each
throttle as the log tells it, and the pace, the counts and the independence of the keys.

Does not own: the clock.  A run takes the times as they come; the pace alone needs them to ascend.

The state of a throttle is a function of the log: the time of its key's last emission, and how many
messages of the key were held back since.  What holds of every run is read off that.
-/

set_option autoImplicit false

namespace OrderKeeper

/-! ## One message -/

namespace Throttle

/-- The effect of a message on the throttle of its key: one that is let through takes the count
along. -/
def letThrough (throttle : Throttle) (now : Nat) : Throttle × Option Nat :=
  match throttle.shouldEmit now with
  | (next, true) => (next.takeSuppressed.1, some next.takeSuppressed.2)
  | (next, false) => (next, none)

theorem letThrough_cases (throttle : Throttle) (now : Nat) :
    (∃ last, throttle.lastEmission = some last ∧ now - last < throttle.interval ∧
        throttle.letThrough now =
          ({ throttle with suppressed := throttle.suppressed + 1 }, none)) ∨
      ((∀ last, throttle.lastEmission = some last → throttle.interval ≤ now - last) ∧
        throttle.letThrough now =
          (⟨throttle.interval, some now, 0⟩, some throttle.suppressed)) := by
  unfold letThrough shouldEmit
  cases emitted : throttle.lastEmission with
  | none =>
      right
      simp [takeSuppressed]
  | some last =>
      by_cases early : now - last < throttle.interval
      · left
        simp [early]
      · right
        simp [early, takeSuppressed]
        omega

end Throttle

/-- A message of a key, at the time at which it is to be written. -/
structure Message where
  time : Nat
  key : String
deriving DecidableEq, Repr

/-- A message with its answer: the count that it takes along if it is let through. -/
structure Verdict extends Message where
  answer : Option Nat
deriving DecidableEq, Repr

namespace KeyedThrottle

/-- The throttle of a key, which is new until a message of the key comes. -/
def throttleOf (keyed : KeyedThrottle) (key : String) : Throttle :=
  (keyed.throttles.get? key).getD (.create keyed.interval)

def next (keyed : KeyedThrottle) (message : Message) : KeyedThrottle :=
  (keyed.letThrough message.time message.key).1

def verdictOn (keyed : KeyedThrottle) (message : Message) : Verdict :=
  ⟨message, (keyed.letThrough message.time message.key).2⟩

theorem letThrough_eq (keyed : KeyedThrottle) (now : Nat) (key : String) :
    keyed.letThrough now key =
      ({ keyed with
          throttles := keyed.throttles.insert key ((keyed.throttleOf key).letThrough now).1 },
        ((keyed.throttleOf key).letThrough now).2) := by
  unfold letThrough Throttle.letThrough
  rw [← throttleOf]
  dsimp only
  obtain ⟨next, emits⟩ := (keyed.throttleOf key).shouldEmit now
  cases emits <;> rfl

theorem answer_verdictOn (keyed : KeyedThrottle) (message : Message) :
    (keyed.verdictOn message).answer =
      ((keyed.throttleOf message.key).letThrough message.time).2 := by
  simp [verdictOn, letThrough_eq]

theorem throttleOf_next_self (keyed : KeyedThrottle) (message : Message) :
    (keyed.next message).throttleOf message.key =
      ((keyed.throttleOf message.key).letThrough message.time).1 := by
  simp [next, letThrough_eq, throttleOf, Dictionary.get?_insert]

theorem throttleOf_next_other (keyed : KeyedThrottle) {message : Message} {key : String}
    (different : message.key ≠ key) :
    (keyed.next message).throttleOf key = keyed.throttleOf key := by
  simp [next, letThrough_eq, throttleOf, Dictionary.get?_insert, different.symm]

/-! ## Runs -/

def after (keyed : KeyedThrottle) (messages : List Message) : KeyedThrottle :=
  messages.foldl next keyed

/-- The verdicts on the messages of a run, in order. -/
def log : KeyedThrottle → List Message → List Verdict
  | _, [] => []
  | keyed, message :: rest => keyed.verdictOn message :: (keyed.next message).log rest

theorem map_toMessage_log (keyed : KeyedThrottle) (messages : List Message) :
    (keyed.log messages).map Verdict.toMessage = messages := by
  induction messages generalizing keyed with
  | nil => rfl
  | cons message rest inductionHypothesis =>
      rw [log, List.map_cons, inductionHypothesis]
      rfl

theorem length_log (keyed : KeyedThrottle) (messages : List Message) :
    (keyed.log messages).length = messages.length := by
  rw [← List.length_map Verdict.toMessage, map_toMessage_log]

theorem log_append (keyed : KeyedThrottle) (earlier later : List Message) :
    keyed.log (earlier ++ later) = keyed.log earlier ++ (keyed.after earlier).log later := by
  induction earlier generalizing keyed with
  | nil => rfl
  | cons message rest inductionHypothesis =>
      simp only [List.cons_append, log, inductionHypothesis]
      rfl

theorem log_concat (keyed : KeyedThrottle) (messages : List Message) (message : Message) :
    keyed.log (messages ++ [message]) =
      keyed.log messages ++ [(keyed.after messages).verdictOn message] :=
  log_append keyed messages [message]

theorem after_concat (keyed : KeyedThrottle) (messages : List Message) (message : Message) :
    keyed.after (messages ++ [message]) = (keyed.after messages).next message := by
  simp [after]

/-- Up to each of its verdicts a log is the log of the messages so far. -/
theorem log_split {keyed : KeyedThrottle} {messages : List Message} {before later : List Verdict}
    {verdict : Verdict} (split : keyed.log messages = before ++ verdict :: later) :
    ∃ earlier rest, messages = earlier ++ verdict.toMessage :: rest ∧
      before = keyed.log earlier ∧
      verdict = (keyed.after earlier).verdictOn verdict.toMessage := by
  have parts := map_toMessage_log keyed messages
  rw [split, List.map_append, List.map_cons] at parts
  rw [← parts, log_append] at split
  have sameLength : (keyed.log (before.map Verdict.toMessage)).length = before.length := by
    rw [length_log, List.length_map]
  obtain ⟨sameBefore, sameRest⟩ := List.append_inj split sameLength
  exact ⟨before.map Verdict.toMessage, later.map Verdict.toMessage, parts.symm,
    sameBefore.symm, (List.cons.inj sameRest).1.symm⟩

end KeyedThrottle

/-! ## What a log tells -/

namespace Verdict

def emits (key : String) (verdict : Verdict) : Bool :=
  verdict.key = key && verdict.answer.isSome

def holdsBack (key : String) (verdict : Verdict) : Bool :=
  verdict.key = key && verdict.answer.isNone

theorem emits_iff {key : String} {verdict : Verdict} :
    verdict.emits key = true ↔ verdict.key = key ∧ verdict.answer.isSome = true := by
  simp [emits]

end Verdict

namespace KeyedThrottle

def emissionsOf (key : String) (log : List Verdict) : List Verdict :=
  log.filter (Verdict.emits key)

def lastEmission? (key : String) (log : List Verdict) : Option Nat :=
  (emissionsOf key log).getLast?.map fun verdict => verdict.time

/-- The number of messages of a key that were held back. -/
def heldBack (key : String) (log : List Verdict) : Nat :=
  log.countP (Verdict.holdsBack key)

/-- The number of messages of a key that were held back since its last emission, or ever if there
is none. -/
def heldBackSince (key : String) (log : List Verdict) : Nat :=
  heldBack key (log.rtakeWhile fun verdict => !verdict.emits key)

/-- The sum of the counts that the emissions of a key took along. -/
def reported (key : String) (log : List Verdict) : Nat :=
  ((emissionsOf key log).map fun verdict => verdict.answer.getD 0).sum

/-- The throttle of a key as a log tells it. -/
def recalled (interval : Nat) (key : String) (log : List Verdict) : Throttle :=
  ⟨interval, lastEmission? key log, heldBackSince key log⟩

section Concat

variable {key : String} {log : List Verdict} {verdict : Verdict} {count last : Nat}

theorem emissionsOf_concat (emits : verdict.emits key = true) :
    emissionsOf key (log ++ [verdict]) = emissionsOf key log ++ [verdict] := by
  simp [emissionsOf, emits]

theorem emissionsOf_concat_silent (silent : verdict.emits key = false) :
    emissionsOf key (log ++ [verdict]) = emissionsOf key log := by
  simp [emissionsOf, silent]

theorem lastEmission?_concat (emits : verdict.emits key = true) :
    lastEmission? key (log ++ [verdict]) = some verdict.time := by
  simp [lastEmission?, emissionsOf_concat emits]

theorem lastEmission?_concat_silent (silent : verdict.emits key = false) :
    lastEmission? key (log ++ [verdict]) = lastEmission? key log := by
  simp [lastEmission?, emissionsOf_concat_silent silent]

theorem heldBack_concat :
    heldBack key (log ++ [verdict]) = heldBack key log + (verdict.holdsBack key).toNat := by
  cases held : verdict.holdsBack key <;> simp [heldBack, held]

theorem heldBackSince_concat (emits : verdict.emits key = true) :
    heldBackSince key (log ++ [verdict]) = 0 := by
  simp [heldBackSince, heldBack, emits]

theorem heldBackSince_concat_silent (silent : verdict.emits key = false) :
    heldBackSince key (log ++ [verdict]) =
      heldBackSince key log + (verdict.holdsBack key).toNat := by
  unfold heldBackSince
  rw [List.rtakeWhile_concat_pos _ _ _ (by simp [silent]), heldBack_concat]

theorem reported_concat (emits : verdict.emits key = true) :
    reported key (log ++ [verdict]) = reported key log + verdict.answer.getD 0 := by
  simp [reported, emissionsOf_concat emits]

theorem reported_concat_silent (silent : verdict.emits key = false) :
    reported key (log ++ [verdict]) = reported key log := by
  simp [reported, emissionsOf_concat_silent silent]

theorem recalled_concat_other (interval : Nat) (different : verdict.key ≠ key) :
    recalled interval key (log ++ [verdict]) = recalled interval key log := by
  have silent : verdict.emits key = false := by simp [Verdict.emits, different]
  have notHeld : verdict.holdsBack key = false := by simp [Verdict.holdsBack, different]
  simp [recalled, lastEmission?_concat_silent silent, heldBackSince_concat_silent silent, notHeld]

theorem recalled_concat_heldBack (interval : Nat) (own : verdict.key = key)
    (held : verdict.answer = none) :
    recalled interval key (log ++ [verdict]) =
      { recalled interval key log with
        suppressed := (recalled interval key log).suppressed + 1 } := by
  have silent : verdict.emits key = false := by simp [Verdict.emits, held]
  have isHeld : verdict.holdsBack key = true := by simp [Verdict.holdsBack, own, held]
  simp [recalled, lastEmission?_concat_silent silent, heldBackSince_concat_silent silent, isHeld]

theorem recalled_concat_emission (interval : Nat) (own : verdict.key = key)
    (through : verdict.answer = some count) :
    recalled interval key (log ++ [verdict]) = ⟨interval, some verdict.time, 0⟩ := by
  have emits : verdict.emits key = true := by simp [Verdict.emits, own, through]
  simp [recalled, lastEmission?_concat emits, heldBackSince_concat emits]

theorem mem_of_lastEmission (isLast : lastEmission? key log = some last) :
    ∃ verdict ∈ log, verdict.key = key ∧ verdict.time = last := by
  unfold lastEmission? at isLast
  obtain ⟨verdict, found, sameTime⟩ := Option.map_eq_some_iff.mp isLast
  obtain ⟨member, emits⟩ := List.mem_filter.mp (List.mem_of_getLast? found)
  exact ⟨verdict, member, (Verdict.emits_iff.mp emits).1, sameTime⟩

theorem heldBackSince_of_absent (absent : ∀ verdict ∈ log, verdict.key ≠ key) :
    heldBackSince key log = 0 := by
  apply List.countP_eq_zero.mpr
  intro verdict member
  have different := absent verdict ((List.rtakeWhile_suffix _ _).subset member)
  simp [Verdict.holdsBack, different]

end Concat

section Run

variable (interval : Nat)

/-- After every run, each throttle is what the log tells of it. -/
theorem throttleOf_after (messages : List Message) (key : String) :
    ((create interval).after messages).throttleOf key =
      recalled interval key ((create interval).log messages) := by
  induction messages using List.reverseRecOn with
  | nil => rfl
  | append_singleton messages message inductionHypothesis =>
      rw [after_concat, log_concat]
      -- The last message moves the throttle of its own key, and the log of that key with it.
      by_cases own : message.key = key
      · subst own
        have answer := answer_verdictOn ((create interval).after messages) message
        have own : (((create interval).after messages).verdictOn message).key = message.key := rfl
        rw [throttleOf_next_self]
        rw [inductionHypothesis] at answer ⊢
        rcases Throttle.letThrough_cases
            (recalled interval message.key ((create interval).log messages)) message.time with
          ⟨-, -, -, held⟩ | ⟨-, through⟩
        · rw [held] at answer ⊢
          rw [recalled_concat_heldBack interval own answer]
        · rw [through] at answer ⊢
          rw [recalled_concat_emission interval own answer]
          rfl
      · rw [throttleOf_next_other _ own, recalled_concat_other interval own, inductionHypothesis]

/-- The next message is held back if the last emission of its key is less than the interval ago, and
let through with the count since that emission otherwise. -/
theorem verdict_cases (messages : List Message) (message : Message) :
    let log := (create interval).log messages
    let verdict := ((create interval).after messages).verdictOn message
    (∃ last, lastEmission? message.key log = some last ∧ message.time - last < interval ∧
        verdict.answer = none) ∨
      ((∀ last, lastEmission? message.key log = some last → interval ≤ message.time - last) ∧
        verdict.answer = some (heldBackSince message.key log)) := by
  intro log verdict
  have answer : verdict.answer = _ := answer_verdictOn ((create interval).after messages) message
  rw [throttleOf_after] at answer
  rcases Throttle.letThrough_cases (recalled interval message.key log) message.time with
    ⟨last, isLast, early, held⟩ | ⟨late, through⟩
  · exact Or.inl ⟨last, isLast, early, by rw [answer, held]⟩
  · exact Or.inr ⟨late, by rw [answer, through]; rfl⟩

variable {interval} {messages : List Message} {message : Message} {key : String}

theorem answer_of_first
    (absent : ∀ verdict ∈ (create interval).log messages, verdict.key ≠ message.key) :
    (((create interval).after messages).verdictOn message).answer = some 0 := by
  obtain ⟨last, isLast, -, -⟩ | ⟨-, through⟩ := verdict_cases interval messages message
  · obtain ⟨verdict, member, own, -⟩ := mem_of_lastEmission isLast
    exact absurd own (absent verdict member)
  · rw [through, heldBackSince_of_absent absent]

/-- An emission takes along the count since the one before. -/
theorem answer_of_emits
    (emits : (((create interval).after messages).verdictOn message).emits key = true) :
    (((create interval).after messages).verdictOn message).answer =
      some (heldBackSince key ((create interval).log messages)) := by
  obtain ⟨own, through⟩ := Verdict.emits_iff.mp emits
  obtain rfl : message.key = key := own
  obtain ⟨-, -, -, held⟩ | ⟨-, count⟩ := verdict_cases interval messages message
  · rw [held] at through
    cases through
  · exact count

/-- The first message of a key is let through, so that a key with any message has an emission. -/
theorem exists_lastEmission {verdict : Verdict}
    (member : verdict ∈ (create interval).log messages) (own : verdict.key = key) :
    ∃ last, lastEmission? key ((create interval).log messages) = some last := by
  induction messages using List.reverseRecOn with
  | nil => cases member
  | append_singleton messages message inductionHypothesis =>
      rw [log_concat] at member ⊢
      cases emits : (((create interval).after messages).verdictOn message).emits key with
      | true => exact ⟨_, lastEmission?_concat emits⟩
      | false =>
          rw [lastEmission?_concat_silent emits]
          rcases List.mem_append.mp member with old | new
          · exact inductionHypothesis old
          · have here := List.mem_singleton.mp new
            subst here
            subst own
            obtain ⟨last, isLast, -, -⟩ | ⟨-, through⟩ := verdict_cases interval messages message
            · exact ⟨last, isLast⟩
            · simp [Verdict.emits, through] at emits

theorem reported_add_heldBackSince (interval : Nat) (messages : List Message) (key : String) :
    reported key ((create interval).log messages) +
        heldBackSince key ((create interval).log messages) =
      heldBack key ((create interval).log messages) := by
  induction messages using List.reverseRecOn with
  | nil => rfl
  | append_singleton messages message inductionHypothesis =>
      rw [log_concat, heldBack_concat]
      cases emits : (((create interval).after messages).verdictOn message).emits key with
      | true =>
          have answer := answer_of_emits emits
          have notHeld :
              (((create interval).after messages).verdictOn message).holdsBack key = false := by
            simp [Verdict.holdsBack, answer]
          rw [reported_concat emits, heldBackSince_concat emits, answer, notHeld]
          simpa using inductionHypothesis
      | false =>
          rw [reported_concat_silent emits, heldBackSince_concat_silent emits]
          omega

/-- A count is never above the number of messages, so one of 64 bits does not run over before
that many have come. -/
theorem suppressed_le_length (interval : Nat) (messages : List Message) (key : String) :
    (((create interval).after messages).throttleOf key).suppressed ≤ messages.length := by
  have accounted := reported_add_heldBackSince interval messages key
  have counted : heldBack key ((create interval).log messages) ≤ _ := List.countP_le_length
  rw [length_log] at counted
  rw [throttleOf_after]
  show heldBackSince key _ ≤ _
  omega

/-! ## Pace -/

/-- Times that ascend, or stay. -/
def InOrder (messages : List Message) : Prop :=
  messages.Pairwise fun earlier later => earlier.time ≤ later.time

theorem lastEmission_le (ordered : InOrder (messages ++ [message])) {last : Nat}
    (isLast : lastEmission? key ((create interval).log messages) = some last) :
    last ≤ message.time := by
  obtain ⟨verdict, member, -, rfl⟩ := mem_of_lastEmission isLast
  have earlier := List.mem_map_of_mem (f := Verdict.toMessage) member
  rw [map_toMessage_log] at earlier
  exact (List.pairwise_append.mp ordered).2.2 _ earlier _ (List.mem_singleton_self message)

theorem answer_eq_none_iff (ordered : InOrder (messages ++ [message])) {last : Nat}
    (isLast : lastEmission? message.key ((create interval).log messages) = some last) :
    (((create interval).after messages).verdictOn message).answer = none ↔
      message.time < last + interval := by
  have notLater := lastEmission_le ordered isLast
  obtain ⟨other, isOther, early, held⟩ | ⟨late, through⟩ :=
    verdict_cases interval messages message
  · obtain rfl : other = last := Option.some.inj (isOther.symm.trans isLast)
    simp only [held, true_iff]
    omega
  · have apart := late last isLast
    simp only [through, reduceCtorEq, false_iff]
    omega

/-- One verdict comes at least an interval after another. -/
def Spaced (interval : Nat) (earlier later : Verdict) : Prop :=
  earlier.time + interval ≤ later.time

instance : Trans (Spaced interval) (Spaced interval) (Spaced interval) where
  trans := by
    intro first second third before after
    unfold Spaced at before after ⊢
    omega

theorem emissions_spaced (ordered : InOrder messages) :
    (emissionsOf key ((create interval).log messages)).Pairwise (Spaced interval) := by
  -- It is enough that neighbours are spaced, and each is so from the last one before it.
  rw [← List.isChain_iff_pairwise]
  induction messages using List.reverseRecOn with
  | nil => exact List.IsChain.nil
  | append_singleton messages message inductionHypothesis =>
      have before := inductionHypothesis (List.pairwise_append.mp ordered).1
      rw [log_concat]
      cases emits : (((create interval).after messages).verdictOn message).emits key with
      | false => rwa [emissionsOf_concat_silent emits]
      | true =>
          rw [emissionsOf_concat emits]
          apply before.append (List.IsChain.singleton _)
          intro previous isPrevious newest isNewest
          obtain rfl := Option.some.inj isNewest
          have isLast : lastEmission? key ((create interval).log messages) = some previous.time :=
            congrArg (Option.map fun verdict : Verdict => verdict.time) isPrevious
          obtain rfl : message.key = key := (Verdict.emits_iff.mp emits).1
          have late := (answer_eq_none_iff ordered isLast).not.mp (by simp [answer_of_emits emits])
          exact Nat.not_lt.mp late

end Run

/-! ## Independence -/

/-- What the throttle of a key does depends on the messages of that key alone. -/
theorem log_filter {keyed other : KeyedThrottle} {key : String}
    (same : keyed.throttleOf key = other.throttleOf key) (messages : List Message) :
    (keyed.log messages).filter (fun verdict => verdict.key = key) =
      other.log (messages.filter fun message => message.key = key) := by
  induction messages generalizing keyed other with
  | nil => rfl
  | cons message rest inductionHypothesis =>
      by_cases own : message.key = key
      · subst own
        have sameNext : (keyed.next message).throttleOf message.key =
            (other.next message).throttleOf message.key := by
          rw [throttleOf_next_self, throttleOf_next_self, same]
        have sameVerdict : keyed.verdictOn message = other.verdictOn message := by
          simp [verdictOn, letThrough_eq, same]
        have isOwn : (other.verdictOn message).key = message.key := rfl
        simp [log, sameVerdict, isOwn, inductionHypothesis sameNext]
      · have sameNext : (keyed.next message).throttleOf key = other.throttleOf key := by
          rw [throttleOf_next_other keyed own, same]
        have notOwn : (keyed.verdictOn message).key ≠ key := own
        simp [log, notOwn, own, inductionHypothesis sameNext]

/-! ## Main statement -/

/-- Throttles by key, new at first, and messages of any keys at times that never go back.  Each
message has its verdict.  The first message of a key is let through, and a later one is held back
exactly if less than the interval has passed since the last emission of its key, so that two
emissions of a key are at least the interval apart.  An emission takes along the number of messages
of its key held back since the one before; what was taken along and what the throttle still counts
are all that was held back, and the count is never above the number of messages.  Without the
messages of other keys, the verdicts on a key are the same. -/
theorem run_paces_keys (interval : Nat) (messages : List Message) (ordered : InOrder messages)
    (key : String) :
    let keyed := create interval
    let log := keyed.log messages
    log.map Verdict.toMessage = messages ∧
      (∀ before verdict later, log = before ++ verdict :: later → verdict.key = key →
        ((∀ other ∈ before, other.key ≠ key) → verdict.answer = some 0) ∧
        ((∃ other ∈ before, other.key = key) →
          ∃ last, lastEmission? key before = some last ∧
            (verdict.answer = none ↔ verdict.time < last + interval)) ∧
        (∀ count, verdict.answer = some count → count = heldBackSince key before)) ∧
      (emissionsOf key log).Pairwise (fun earlier later =>
        earlier.time + interval ≤ later.time) ∧
      reported key log + ((keyed.after messages).throttleOf key).suppressed = heldBack key log ∧
      ((keyed.after messages).throttleOf key).suppressed ≤ messages.length ∧
      log.filter (fun verdict => verdict.key = key) =
        keyed.log (messages.filter fun message => message.key = key) := by
  intro keyed log
  refine ⟨map_toMessage_log keyed messages, ?_, emissions_spaced ordered, ?_,
    suppressed_le_length interval messages key, log_filter rfl messages⟩
  · intro before verdict later split own
    obtain ⟨earlier, rest, rfl, rfl, isVerdict⟩ := log_split split
    have orderedSoFar : InOrder (earlier ++ [verdict.toMessage]) := by
      refine List.Pairwise.sublist ?_ ordered
      simp
    subst own
    refine ⟨?_, ?_, ?_⟩
    · intro absent
      rw [isVerdict]
      exact answer_of_first absent
    · rintro ⟨other, member, sameKey⟩
      obtain ⟨last, isLast⟩ := exists_lastEmission member sameKey
      refine ⟨last, isLast, ?_⟩
      have decided := answer_eq_none_iff orderedSoFar isLast
      rwa [← isVerdict] at decided
    · intro count taken
      have emits : verdict.emits verdict.key = true := by simp [Verdict.emits, taken]
      rw [isVerdict] at emits taken
      exact Option.some.inj (taken.symm.trans (answer_of_emits emits))
  · rw [throttleOf_after]
    exact reported_add_heldBackSince interval messages key

/-- Two keys that take turns.  Each is held back by its own last emission alone; the emission of `A`
at time 10 comes as soon as it may and takes along the two messages held back before. -/
theorem two_keys_keep_pace :
    let messages : List Message := [⟨0, "A"⟩, ⟨3, "B"⟩, ⟨4, "A"⟩, ⟨9, "A"⟩, ⟨10, "A"⟩, ⟨12, "B"⟩,
      ⟨13, "B"⟩, ⟨19, "A"⟩]
    let keyed := create 10
    let log := keyed.log messages
    InOrder messages ∧
      log.map Verdict.answer = [some 0, some 0, none, none, some 2, none, some 1, none] ∧
      2 = heldBackSince "A" (log.take 4) ∧
      (∃ last, lastEmission? "A" (log.take 7) = some last ∧ 19 < last + 10) ∧
      (emissionsOf "A" log).Pairwise (fun earlier later => earlier.time + 10 ≤ later.time) ∧
      reported "A" log + ((keyed.after messages).throttleOf "A").suppressed = heldBack "A" log ∧
      reported "A" log = 2 ∧ heldBack "A" log = 3 ∧
      log.filter (fun verdict => verdict.key = "A") =
        keyed.log [⟨0, "A"⟩, ⟨4, "A"⟩, ⟨9, "A"⟩, ⟨10, "A"⟩, ⟨19, "A"⟩] := by
  intro messages keyed log
  have ordered : InOrder messages := by
    unfold InOrder
    decide
  obtain ⟨-, decided, apart, accounted, -, alone⟩ := run_paces_keys 10 messages ordered "A"
  have atTen : log = log.take 4 ++ ⟨⟨10, "A"⟩, some 2⟩ :: log.drop 5 := by decide +kernel
  have atNineteen : log = log.take 7 ++ ⟨⟨19, "A"⟩, none⟩ :: log.drop 8 := by decide +kernel
  have taken := (decided _ _ _ atTen rfl).2.2 2 rfl
  obtain ⟨last, isLast, isHeld⟩ :=
    (decided _ _ _ atNineteen rfl).2.1 ⟨⟨⟨0, "A"⟩, some 0⟩, by decide +kernel, rfl⟩
  exact ⟨ordered, by decide +kernel, taken, ⟨last, isLast, isHeld.mp rfl⟩, apart, accounted,
    by decide +kernel, by decide +kernel, alone⟩

end KeyedThrottle

end OrderKeeper
