import Mathlib.Data.List.Perm.Basic
import OrderKeeper.Pair.Linked
import OrderKeeper.Paper.Core
import OrderKeeper.Proofs.Ledger.Contents

/-!
Contract: the creation of a pair with any broker.

Owns: brokers that keep a log of the tickets they are given, what a link changes in the ledger, and
that a pair is linked as a whole or left as the placements left it.

Does not own: what becomes of a linked pair.

The broker may write what it likes and answer with any id.  All that is asked of it is that the ids
of two placed legs differ.
-/

set_option autoImplicit false

namespace OrderKeeper

variable {World : Type}

/-! ## Brokers with a log -/

/-- The tickets that a broker was given, each with its answer. -/
abbrev TicketLog := List (OrderTicket × Except Refusal Receipt)

def State.withTickets (state : State World) (log : TicketLog) : State (World × TicketLog) where
  ledger := state.ledger
  world := (state.world, log)

/-- The broker as it is, but for a log of its tickets. -/
def Broker.logged (broker : Broker World) : Broker (World × TicketLog) where
  place := fun now ticket state =>
    let (answer, next) :=
      broker.place now ticket { ledger := state.ledger, world := state.world.1 }
    (answer, next.withTickets (state.world.2 ++ [(ticket, answer)]))

theorem Broker.place_logged (broker : Broker World) (now : Instant) (ticket : OrderTicket)
    (state : State World) (log : TicketLog) :
    broker.logged.place now ticket (state.withTickets log) =
      let (answer, next) := broker.place now ticket state
      (answer, next.withTickets (log ++ [(ticket, answer)])) :=
  rfl

/-! ## Linking two orders -/

/-- An order that joined a group. -/
def Order.joined (now : Instant) (group : String) (order : Order) : Order :=
  { order with pairGroup := some group, updatedAt := now }

/-- The orders under two ids joined a group, and no other order changed. -/
def Ledger.JoinedIn (before after : Ledger) (now : Instant) (group : String)
    (first second : OrderId) : Prop :=
  after.orders = before.orders.map fun order =>
    if order.id = first ∨ order.id = second then order.joined now group else order

/-- Two orders of the ledger are linked, and nothing else changes. -/
theorem linkPair_of_stored {ledger : Ledger} {first second : Receipt} (now : Instant)
    (group : String) (firstStored : ledger.get? first.id ≠ none)
    (secondStored : ledger.get? second.id ≠ none) :
    let answer := linkPair now group first second ledger
    answer.1 = .ok ⟨group, first, second⟩ ∧
      ledger.JoinedIn answer.2 now group first.id second.id := by
  have isAnswer : linkPair now group first second ledger =
      (.ok ⟨group, first, second⟩,
        ((ledger.joinGroup now first.id group).1.joinGroup now second.id group).1) := by
    simp [linkPair, firstStored, secondStored]
  intro answer
  have sameAnswer : answer = _ := isAnswer
  rw [sameAnswer]
  refine ⟨rfl, ?_⟩
  unfold Ledger.JoinedIn
  rw [Ledger.joinGroup_orders, Ledger.joinGroup_orders, List.map_map]
  refine List.map_congr_left fun order _ => ?_
  rw [Function.comp_apply]
  by_cases isFirst : order.id = first.id
  · rw [if_pos isFirst, if_pos (Or.inl isFirst)]
    split <;> rfl
  · rw [if_neg isFirst]
    by_cases isSecond : order.id = second.id
    · rw [if_pos isSecond, if_pos (Or.inr isSecond)]
      rfl
    · rw [if_neg isSecond, if_neg (by simp [isFirst, isSecond])]

/-- Two orders that join a new group are the whole of it. -/
theorem Ledger.JoinedIn.groupMembers {before after : Ledger} {now : Instant} {group : String}
    {one two : Order} (joined : before.JoinedIn after now group one.id two.id)
    (isNew : ∀ order ∈ before.orders, order.pairGroup ≠ some group)
    (oneMember : one ∈ before.orders) (twoMember : two ∈ before.orders)
    (distinct : one.id ≠ two.id) :
    (after.groupMembers group).Perm [one.joined now group, two.joined now group] := by
  have members : after.groupMembers group =
      (before.orders.filter fun order => order.id = one.id ∨ order.id = two.id).map
        (Order.joined now group) := by
    have inGroup : ∀ order ∈ before.orders,
        (((fun order => decide (order.pairGroup = some group)) ∘ fun order =>
          if order.id = one.id ∨ order.id = two.id then order.joined now group else order) order) =
        decide (order.id = one.id ∨ order.id = two.id) := by
      intro order member
      rw [Function.comp_apply]
      by_cases chosen : order.id = one.id ∨ order.id = two.id
      · rw [if_pos chosen, decide_eq_true chosen]
        exact decide_eq_true rfl
      · rw [if_neg chosen, decide_eq_false chosen]
        exact decide_eq_false (isNew order member)
    unfold Ledger.groupMembers
    rw [joined, List.filter_map, List.filter_congr inGroup]
    refine List.map_congr_left fun order member => if_pos ?_
    exact of_decide_eq_true (List.mem_filter.mp member).2
  have nodup : before.orders.Nodup := before.distinct_ids.of_map _
  have differ : one ≠ two := fun same => distinct (congrArg Order.id same)
  have chosen : (before.orders.filter fun order => order.id = one.id ∨ order.id = two.id).Perm
      [one, two] := by
    rw [List.perm_ext_iff_of_nodup (nodup.filter _) (by simp [differ])]
    intro order
    simp only [List.mem_filter, decide_eq_true_eq, List.mem_cons, List.not_mem_nil, or_false]
    constructor
    · rintro ⟨member, same | same⟩
      · exact .inl (Ledger.eq_of_same_id member oneMember same)
      · exact .inr (Ledger.eq_of_same_id member twoMember same)
    · rintro (rfl | rfl)
      · exact ⟨oneMember, .inl rfl⟩
      · exact ⟨twoMember, .inr rfl⟩
  rw [members]
  exact chosen.map _

/-- The failure that a pair is given up for: the refusal of the first ticket, else that of the second
one, else the first answered id that the ledger does not have. -/
inductive PairFailure.IsFirstOf (firstAnswer secondAnswer : Except Refusal Receipt)
    (ledger : Ledger) : PairFailure → Prop
  | firstRefused {cause : Refusal} (refused : firstAnswer = .error cause) :
      IsFirstOf firstAnswer secondAnswer ledger (.legFailed .first cause)
  | secondRefused {first : Receipt} {cause : Refusal} (placed : firstAnswer = .ok first)
      (refused : secondAnswer = .error cause) :
      IsFirstOf firstAnswer secondAnswer ledger (.legFailed .second cause)
  | firstMissing {first second : Receipt} (placed : firstAnswer = .ok first)
      (alsoPlaced : secondAnswer = .ok second) (missing : ledger.get? first.id = none) :
      IsFirstOf firstAnswer secondAnswer ledger (.notInLedger first.id)
  | secondMissing {first second : Receipt} (placed : firstAnswer = .ok first)
      (alsoPlaced : secondAnswer = .ok second) (stored : ledger.get? first.id ≠ none)
      (missing : ledger.get? second.id = none) :
      IsFirstOf firstAnswer secondAnswer ledger (.notInLedger second.id)

/-- A link of two orders that lack one is given up, and leaves the ledger as it was. -/
theorem linkPair_of_missing {ledger : Ledger} {first second : Receipt} (now : Instant)
    (group : String) (missing : ledger.get? first.id = none ∨ ledger.get? second.id = none) :
    ∃ failure, linkPair now group first second ledger = (.error failure, ledger) ∧
      failure.IsFirstOf (.ok first) (.ok second) ledger := by
  unfold linkPair
  cases firstFound : ledger.get? first.id with
  | none => exact ⟨_, rfl, .firstMissing rfl rfl firstFound⟩
  | some order =>
      have secondMissing : ledger.get? second.id = none := by
        rcases missing with firstMissing | secondMissing
        · rw [firstFound] at firstMissing
          cases firstMissing
        · exact secondMissing
      rw [secondMissing]
      exact ⟨_, rfl, .secondMissing rfl rfl (by simp [firstFound]) secondMissing⟩

/-- What a linked pair changes in a state: its two orders joined its group, which no other order is
in, and all else is as before. -/
structure LinkedPair.Links (pair : LinkedPair) (now : Instant) (before after : State World) :
    Prop where
  sameWorld : after.world = before.world
  joined : before.ledger.JoinedIn after.ledger now pair.group pair.first.id pair.second.id
  wholeGroup : ∃ one two, before.ledger.get? pair.first.id = some one ∧
    before.ledger.get? pair.second.id = some two ∧
    (after.ledger.groupMembers pair.group).Perm
      [one.joined now pair.group, two.joined now pair.group]

/-! ## The answers to two tickets -/

/-- What becomes of a pair in the state that its placements leave. -/
def linkAnswers (now : Instant) (group : String) (firstAnswer secondAnswer : Except Refusal Receipt)
    (state : State World) : Except PairFailure LinkedPair × State World :=
  match firstAnswer, secondAnswer with
  | .error cause, _ => (.error (.legFailed .first cause), state)
  | _, .error cause => (.error (.legFailed .second cause), state)
  | .ok first, .ok second =>
      let (answer, ledger) := linkPair now group first second state.ledger
      (answer, { state with ledger })

section Answers

variable (now : Instant) (group : String) {state : State World}

/-- A pair of which both legs are in the ledger is linked. -/
theorem linkAnswers_links {group : String} {one two : Receipt} (distinct : one.id ≠ two.id)
    (isNew : ∀ order ∈ state.ledger.orders, order.pairGroup ≠ some group)
    (firstStored : state.ledger.get? one.id ≠ none)
    (secondStored : state.ledger.get? two.id ≠ none) :
    let linked := linkAnswers now group (.ok one) (.ok two) state
    linked.1 = .ok ⟨group, one, two⟩ ∧
      LinkedPair.Links ⟨group, one, two⟩ now state linked.2 := by
  obtain ⟨answered, joined⟩ := linkPair_of_stored now group firstStored secondStored
  refine ⟨answered, rfl, joined, ?_⟩
  obtain ⟨first, firstFound⟩ := Option.ne_none_iff_exists'.mp firstStored
  obtain ⟨second, secondFound⟩ := Option.ne_none_iff_exists'.mp secondStored
  obtain ⟨firstMember, firstId⟩ := (state.ledger.get?_eq_some_iff _ _).mp firstFound
  obtain ⟨secondMember, secondId⟩ := (state.ledger.get?_eq_some_iff _ _).mp secondFound
  refine ⟨first, second, firstFound, secondFound, ?_⟩
  rw [← firstId, ← secondId] at joined distinct
  exact joined.groupMembers isNew firstMember secondMember distinct

/-- A pair that lacks a leg is given up, and leaves the state as it was. -/
theorem linkAnswers_leaves {firstAnswer secondAnswer : Except Refusal Receipt}
    (incomplete : ∀ one two, firstAnswer = .ok one → secondAnswer = .ok two →
      state.ledger.get? one.id = none ∨ state.ledger.get? two.id = none) :
    ∃ failure, linkAnswers now group firstAnswer secondAnswer state = (.error failure, state) ∧
      failure.IsFirstOf firstAnswer secondAnswer state.ledger := by
  cases firstAnswer with
  | error cause => exact ⟨_, rfl, .firstRefused rfl⟩
  | ok one =>
      cases secondAnswer with
      | error cause => exact ⟨_, rfl, .secondRefused rfl rfl⟩
      | ok two =>
          obtain ⟨failure, answered, isFirst⟩ :=
            linkPair_of_missing now group (incomplete one two rfl rfl)
          exact ⟨failure, by simp only [linkAnswers, answered], isFirst⟩

end Answers

/-! ## Main statement -/

section Placement

variable {broker : Broker World} {now : Instant} {group : String} {first second : OrderTicket}
  {state middle after : State World} {firstAnswer secondAnswer : Except Refusal Receipt}

/-- The answers to both tickets decide what becomes of the pair. -/
theorem placePair_eq (firstPlaced : broker.place now first state = (firstAnswer, middle))
    (secondPlaced : broker.place now second middle = (secondAnswer, after)) :
    placePair broker now group first second state =
      linkAnswers now group firstAnswer secondAnswer after := by
  simp only [placePair, firstPlaced, secondPlaced]
  rfl

/-- Both tickets are given to the broker once and in turn, whatever it answers. -/
theorem placePair_logged (log : TicketLog)
    (firstPlaced : broker.place now first state = (firstAnswer, middle))
    (secondPlaced : broker.place now second middle = (secondAnswer, after)) :
    placePair broker.logged now group first second (state.withTickets log) =
      let (answer, last) := placePair broker now group first second state
      (answer, last.withTickets (log ++ [(first, firstAnswer), (second, secondAnswer)])) := by
  have firstLogged := broker.place_logged now first state log
  have secondLogged :=
    broker.place_logged now second middle (log ++ [(first, firstAnswer)])
  rw [firstPlaced] at firstLogged
  rw [secondPlaced] at secondLogged
  dsimp only at firstLogged secondLogged
  rw [List.append_assoc] at secondLogged
  rw [placePair_eq firstLogged secondLogged, placePair_eq firstPlaced secondPlaced]
  cases firstAnswer with
  | error cause => rfl
  | ok one =>
      cases secondAnswer with
      | error cause => rfl
      | ok two => rfl

/-- Two tickets are placed as a pair with any broker that does not answer both with one id, under a
group that no order is in.  The broker is given the first ticket and then the second one, each once.
The pair is answered exactly if both tickets are placed and the ledger has both ids; then its two
orders joined the group, they are the whole of it, and nothing else changed since the placements.
If the pair is given up, nothing changed since the placements, and the failure is the first there
is. -/
theorem placePair_all_or_nothing (log : TicketLog)
    (firstPlaced : broker.place now first state = (firstAnswer, middle))
    (secondPlaced : broker.place now second middle = (secondAnswer, after))
    (distinct : ∀ one two, firstAnswer = .ok one → secondAnswer = .ok two → one.id ≠ two.id)
    (isNew : ∀ order ∈ after.ledger.orders, order.pairGroup ≠ some group) :
    let placed := placePair broker now group first second state
    placePair broker.logged now group first second (state.withTickets log) =
        (placed.1, placed.2.withTickets
          (log ++ [(first, firstAnswer), (second, secondAnswer)])) ∧
      ((∃ pair, placed.1 = .ok pair) ↔
        ∃ one two, firstAnswer = .ok one ∧ secondAnswer = .ok two ∧
          after.ledger.get? one.id ≠ none ∧ after.ledger.get? two.id ≠ none) ∧
      (∀ pair, placed.1 = .ok pair → pair.group = group ∧ firstAnswer = .ok pair.first ∧
        secondAnswer = .ok pair.second ∧ pair.Links now after placed.2) ∧
      ∀ failure, placed.1 = .error failure → placed.2 = after ∧
        failure.IsFirstOf firstAnswer secondAnswer after.ledger := by
  intro placed
  have isPlaced : placed = linkAnswers now group firstAnswer secondAnswer after :=
    placePair_eq firstPlaced secondPlaced
  refine ⟨placePair_logged log firstPlaced secondPlaced, ?_⟩
  rw [isPlaced]
  by_cases complete : ∃ one two, firstAnswer = .ok one ∧ secondAnswer = .ok two ∧
      after.ledger.get? one.id ≠ none ∧ after.ledger.get? two.id ≠ none
  · obtain ⟨one, two, rfl, rfl, firstStored, secondStored⟩ := id complete
    obtain ⟨answered, links⟩ :=
      linkAnswers_links now (distinct one two rfl rfl) isNew firstStored secondStored
    refine ⟨⟨fun _ => complete, fun _ => ⟨_, answered⟩⟩, fun pair isPair => ?_,
      fun failure failed => ?_⟩
    · obtain rfl := Except.ok.inj (answered.symm.trans isPair)
      exact ⟨rfl, rfl, rfl, links⟩
    · cases answered.symm.trans failed
  · have incomplete : ∀ one two, firstAnswer = .ok one → secondAnswer = .ok two →
        after.ledger.get? one.id = none ∨ after.ledger.get? two.id = none := by
      intro one two isFirst isSecond
      by_contra neither
      exact complete ⟨one, two, isFirst, isSecond, not_or.mp neither⟩
    obtain ⟨failure, failed, isFirst⟩ := linkAnswers_leaves now group incomplete
    rw [failed]
    refine ⟨⟨?_, fun both => absurd both complete⟩, ?_, ?_⟩
    · rintro ⟨pair, isPair⟩
      cases isPair
    · intro pair isPair
      cases isPair
    · intro other isOther
      obtain rfl := Except.error.inj isOther
      exact ⟨rfl, isFirst⟩

end Placement

/-- A target and a stop for one position, on a paper venue with nothing on it: both are placed and
linked. -/
theorem target_and_stop_are_linked :
    let broker := (PaperMarket.broker (PaperCore.numberedId "order") ["PAPER"]).toBroker
    let target := OrderTicket.limit "target" "BTC.PAPER" .sell .one .one
    let stop := OrderTicket.stopMarket "stop" "BTC.PAPER" .sell .one .one
    let start : State PaperMarket := { ledger := .empty, world := .ofNames ["PAPER"] }
    let after := (broker.place ⟨0, 0⟩ stop (broker.place ⟨0, 0⟩ target start).2).2
    let pair : LinkedPair :=
      ⟨"pair", ⟨⟨"order:1"⟩, some "PAPER-1"⟩, ⟨⟨"order:2"⟩, some "PAPER-2"⟩⟩
    let placed := placePair broker ⟨0, 0⟩ "pair" target stop start
    let logged := placePair broker.logged ⟨0, 0⟩ "pair" target stop (start.withTickets [])
    placed.1 = .ok pair ∧ pair.Links ⟨0, 0⟩ after placed.2 ∧
      logged.2.world.2 = [(target, .ok pair.first), (stop, .ok pair.second)] := by
  intro broker target stop start after pair placed logged
  have firstAnswer : (broker.place ⟨0, 0⟩ target start).1 = .ok pair.first := by decide +kernel
  have secondAnswer :
      (broker.place ⟨0, 0⟩ stop (broker.place ⟨0, 0⟩ target start).2).1 = .ok pair.second := by
    decide +kernel
  have isNew : ∀ order ∈ after.ledger.orders, order.pairGroup ≠ some "pair" := by decide +kernel
  have stored : after.ledger.get? pair.first.id ≠ none ∧ after.ledger.get? pair.second.id ≠ none := by
    decide +kernel
  have distinct : ∀ one two : Receipt, .ok pair.first = (.ok one : Except Refusal Receipt) →
      .ok pair.second = (.ok two : Except Refusal Receipt) → one.id ≠ two.id := by
    rintro one two ⟨⟩ ⟨⟩
    decide
  obtain ⟨isLogged, answered, linked, -⟩ :=
    placePair_all_or_nothing [] (Prod.ext firstAnswer rfl) (Prod.ext secondAnswer rfl) distinct isNew
  obtain ⟨answer, isAnswer⟩ := answered.mpr ⟨_, _, rfl, rfl, stored.1, stored.2⟩
  obtain ⟨group_eq, first_eq, second_eq, links⟩ := linked answer isAnswer
  have isPair : answer = pair := by
    obtain ⟨group, one, two⟩ := answer
    obtain rfl : group = "pair" := group_eq
    obtain rfl := Except.ok.inj first_eq
    obtain rfl := Except.ok.inj second_eq
    rfl
  rw [isPair] at isAnswer links
  refine ⟨isAnswer, links, ?_⟩
  have logged_eq : logged = _ := isLogged
  rw [logged_eq]
  rfl

end OrderKeeper
