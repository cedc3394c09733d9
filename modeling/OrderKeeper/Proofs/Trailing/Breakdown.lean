import OrderKeeper.Paper.Core
import OrderKeeper.Proofs.Trailing.Book

/-!
Contract: the trails that a tick treats.

Owns: the look that a tick takes at each trail, what it leaves of the trail, what it is counted
as, and how far a tick gets when the arithmetic of a trail has no result.

Does not own: the order that a triggered trail fires.

A tick goes through the trails in the order of their ids.  The first one that breaks ends it, so
the later ones keep the state they had and are not counted.
-/

set_option autoImplicit false

namespace OrderKeeper

/-! ## Counts -/

namespace TrailOutcome

/-- Whether the trail reacted to a price. -/
def observes : TrailOutcome → Bool
  | .observed _ => true
  | .fired _ _ _ => true
  | _ => false

def skips : TrailOutcome → Bool
  | .unpriced => true
  | _ => false

/-- The cause for which the trail has no reaction. -/
def cause? : TrailOutcome → Option ArithmeticError
  | .broken cause => some cause
  | _ => none

theorem eq_broken {outcome : TrailOutcome} {cause : ArithmeticError}
    (caused : outcome.cause? = some cause) : outcome = .broken cause := by
  cases outcome with
  | broken other => exact congrArg broken (Option.some.inj caused)
  | _ => cases caused

end TrailOutcome

namespace TickSummary

theorem add_observed (summary : TickSummary) (outcome : TrailOutcome) :
    (summary.add outcome).observed = summary.observed + outcome.observes.toNat := by
  cases outcome with
  | observed reaction => cases reaction <;> rfl
  | fired symbol stop answer => cases answer <;> rfl
  | _ => rfl

theorem add_skipped (summary : TickSummary) (outcome : TrailOutcome) :
    (summary.add outcome).skipped = summary.skipped + outcome.skips.toNat := by
  cases outcome with
  | observed reaction => cases reaction <;> rfl
  | fired symbol stop answer => cases answer <;> rfl
  | _ => rfl

/-- A counter that each outcome raises by one or leaves is the number of those that raise it. -/
theorem counter_foldl {counter : TickSummary → Nat} {raises : TrailOutcome → Bool}
    (step : ∀ summary outcome,
      counter (TickSummary.add summary outcome) = counter summary + (raises outcome).toNat)
    (outcomes : List TrailOutcome) (summary : TickSummary) :
    counter (outcomes.foldl add summary) = counter summary + outcomes.countP raises := by
  induction outcomes generalizing summary with
  | nil => rfl
  | cons outcome rest inductionHypothesis =>
      rw [List.foldl_cons, inductionHypothesis, step, List.countP_cons]
      have commuted := Nat.add_right_comm (counter summary) (raises outcome).toNat
        (rest.countP raises)
      cases raised : raises outcome with
      | false => simp
      | true => simpa [raised, Nat.add_assoc] using commuted

theorem observed_ofOutcomes (outcomes : List TrailOutcome) :
    (ofOutcomes outcomes).observed = outcomes.countP TrailOutcome.observes :=
  (counter_foldl add_observed outcomes empty).trans (Nat.zero_add _)

theorem skipped_ofOutcomes (outcomes : List TrailOutcome) :
    (ofOutcomes outcomes).skipped = outcomes.countP TrailOutcome.skips :=
  (counter_foldl add_skipped outcomes empty).trans (Nat.zero_add _)

end TickSummary

variable {World : Type}

theorem TickResult.failure?_eq (result : TickResult World) :
    result.failure? = result.outcomes.findSome? TrailOutcome.cause? := by
  unfold failure?
  congr 1

/-! ## Looks -/

/-- A trail of a tick and the price that its venue has for it when its turn comes. -/
structure Look where
  id : String
  trail : Trail
  price? : Option Decimal

namespace Look

/-- The cause for which the trail has no reaction to its price. -/
def failure? (look : Look) : Option ArithmeticError :=
  look.price?.bind fun price =>
    match (look.trail.feed price).2 with
    | .error cause => some cause
    | .ok _ => none

/-- What is left of the trail: it reacts once to its price and leaves the set if that triggers
it; without a price it stays as it is. -/
def after (look : Look) : Option Trail :=
  match look.price? with
  | none => some look.trail
  | some price =>
      match look.trail.feed price with
      | (_, .ok (.triggered _)) => none
      | (trail, _) => some trail

/-- What one step of a tick does for a look. -/
structure Treats (look : Look) (book next : TrailBook) (outcome : TrailOutcome) : Prop where
  here : next.get? look.id = look.after
  elsewhere : ∀ other ≠ look.id, next.get? other = book.get? other
  cause : outcome.cause? = look.failure?
  observed : look.failure? = none → outcome.observes = look.price?.isSome
  skipped : outcome.skips = look.price?.isNone

end Look

/-- The look that a tick takes at a trail. -/
def lookAt (directory : VenueDirectory World) (id : String) (trail : Trail)
    (state : State World) : Look :=
  ⟨id, trail, (usablePrice? directory trail.symbol state.world).1⟩

/-- The looks of a tick that goes on when a trail breaks. -/
def looks (directory : VenueDirectory World) (broker : Broker World) (now : Instant) :
    List (String × Trail) → TrailBook → State World → List Look
  | [], _, _ => []
  | (id, trail) :: rest, book, state =>
      let (book', state', _) := tickTrail directory broker now id book state
      lookAt directory id trail state :: looks directory broker now rest book' state'

/-- The looks of a tick over all trails of a book. -/
def TrailBook.looks (book : TrailBook) (directory : VenueDirectory World) (broker : Broker World)
    (now : Instant) (state : State World) : List Look :=
  OrderKeeper.looks directory broker now book.trails.entries book state

section Tick

variable (directory : VenueDirectory World) (broker : Broker World) (now : Instant)

theorem looks_entries (entries : List (String × Trail)) (book : TrailBook) (state : State World) :
    (looks directory broker now entries book state).map (fun look => (look.id, look.trail)) =
      entries := by
  induction entries generalizing book state with
  | nil => rfl
  | cons entry rest inductionHypothesis =>
      unfold looks
      rw [List.map_cons, inductionHypothesis]
      rfl

/-- A trail that does not trigger is kept as its price leaves it. -/
theorem Look.Treats.of_kept {look : Look} {book : TrailBook} {next : Trail}
    {outcome : TrailOutcome} (stays : look.after = some next)
    (cause : outcome.cause? = look.failure?)
    (observed : look.failure? = none → outcome.observes = look.price?.isSome)
    (skipped : outcome.skips = look.price?.isNone) :
    look.Treats book (book.put look.id next) outcome where
  here := by rw [TrailBook.get?_put, if_pos rfl, stays]
  elsewhere other different := by rw [TrailBook.get?_put, if_neg different]
  cause := cause
  observed := observed
  skipped := skipped

theorem tickTrail_treats {id : String} {trail : Trail} {book : TrailBook}
    (found : book.get? id = some trail) (state : State World) :
    let treated := tickTrail directory broker now id book state
    (lookAt directory id trail state).Treats book treated.1 treated.2.2 := by
  have entry : book.trails.get? id = some trail := found
  unfold tickTrail lookAt
  rw [found]
  dsimp only
  obtain ⟨price, world⟩ := usablePrice? directory trail.symbol state.world
  cases price with
  | none => exact ⟨found, fun _ _ => rfl, rfl, fun _ => rfl, rfl⟩
  | some price =>
      dsimp only
      unfold TrailBook.feed
      rw [entry]
      dsimp only
      rcases feeding : trail.feed price with ⟨fed, cause | reaction⟩
      · exact .of_kept (by simp [Look.after, feeding])
          (by simp [Look.failure?, feeding, TrailOutcome.cause?])
          (by simp [Look.failure?, feeding]) rfl
      · have reacts : none = (Look.mk id trail (some price)).failure? := by
          simp [Look.failure?, feeding]
        cases reaction with
        | triggered stop =>
            refine ⟨?_, fun other different => ?_, reacts, fun _ => rfl, rfl⟩
            · refine (TrailBook.get?_remove book id id).trans ?_
              simp [Look.after, feeding]
            · exact (TrailBook.get?_remove book id other).trans (if_neg different)
        | _ => exact .of_kept (by simp [Look.after, feeding]) reacts (fun _ => rfl) rfl

end Tick

/-- What a tick has done with its looks: it treated some in turn, and if others are left, it broke
at the first of them and did not get to those behind it. -/
structure TickResult.Covers (result : TickResult World) (treated left : List Look) : Prop where
  whole : ∀ look ∈ treated, look.failure? = none ∧ result.book.get? look.id = look.after
  observed : result.outcomes.countP TrailOutcome.observes =
    treated.countP fun look => look.price?.isSome
  skipped : result.outcomes.countP TrailOutcome.skips =
    treated.countP fun look => look.price?.isNone
  failure : result.failure? = left.head?.bind Look.failure?
  broken : ∀ look ∈ left.head?, look.failure? ≠ none ∧ result.book.get? look.id = look.after
  untouched : ∀ look ∈ left.tail, result.book.get? look.id = some look.trail

namespace TickResult.Covers

variable {look : Look} {book next : TrailBook} {outcome : TrailOutcome}

/-- A tick that breaks at its first trail. -/
theorem stop {state : State World} {later : List Look} (treats : look.Treats book next outcome)
    (breaks : look.failure? ≠ none)
    (untouched : ∀ other ∈ later, next.get? other.id = some other.trail) :
    TickResult.Covers ⟨next, state, [outcome]⟩ [] (look :: later) := by
  obtain ⟨cause, failed⟩ := Option.ne_none_iff_exists'.mp breaks
  have isBroken := TrailOutcome.eq_broken (treats.cause.trans failed)
  refine ⟨by simp, ?_, ?_, ?_, ?_, untouched⟩
  · rw [isBroken]
    rfl
  · rw [isBroken]
    rfl
  · rw [failure?_eq]
    simp [treats.cause, failed]
  · intro first isFirst
    obtain rfl := Option.some.inj isFirst
    exact ⟨breaks, treats.here⟩

/-- A tick that goes on after its first trail. -/
theorem goOn {result : TickResult World} {treated left : List Look}
    (treats : look.Treats book next outcome) (reacts : look.failure? = none)
    (kept : result.book.get? look.id = look.after) (covers : result.Covers treated left) :
    ({ result with outcomes := outcome :: result.outcomes } : TickResult World).Covers
      (look :: treated) left where
  whole := List.forall_mem_cons.mpr ⟨⟨reacts, kept⟩, covers.whole⟩
  observed := by
    rw [List.countP_cons, List.countP_cons, covers.observed, treats.observed reacts]
  skipped := by
    rw [List.countP_cons, List.countP_cons, covers.skipped, treats.skipped]
  failure := by
    rw [← covers.failure, failure?_eq, failure?_eq, List.findSome?_cons, treats.cause, reacts]
  broken := covers.broken
  untouched := covers.untouched

theorem left_eq_nil {result : TickResult World} {treated left : List Look}
    (covers : result.Covers treated left) (completes : result.failure? = none) : left = [] := by
  cases left with
  | nil => rfl
  | cons first rest =>
      have failed := (covers.broken first rfl).1
      exact absurd (covers.failure.symm.trans completes) failed

end TickResult.Covers

section Tick

variable (directory : VenueDirectory World) (broker : Broker World) (now : Instant)

theorem tickTrails_of_broken {id : String} {book next : TrailBook} {state after : State World}
    {cause : ArithmeticError}
    (step : tickTrail directory broker now id book state = (next, after, .broken cause))
    (rest : List String) :
    tickTrails directory broker now (id :: rest) book state =
      ⟨next, after, [.broken cause]⟩ := by
  rw [tickTrails, step]

theorem tickTrails_of_whole {id : String} {book next : TrailBook} {state after : State World}
    {outcome : TrailOutcome}
    (step : tickTrail directory broker now id book state = (next, after, outcome))
    (whole : outcome.cause? = none) (rest : List String) :
    tickTrails directory broker now (id :: rest) book state =
      let result := tickTrails directory broker now rest next after
      { result with outcomes := outcome :: result.outcomes } := by
  rw [tickTrails, step]
  cases outcome with
  | broken cause => cases whole
  | _ => rfl

theorem tickTrails_covers {entries : List (String × Trail)}
    (distinct : (entries.map Prod.fst).Nodup) {book : TrailBook}
    (held : ∀ entry ∈ entries, book.get? entry.1 = some entry.2) (state : State World) :
    let result := tickTrails directory broker now (entries.map Prod.fst) book state
    (∀ id ∉ entries.map Prod.fst, result.book.get? id = book.get? id) ∧
      ∃ treated left, looks directory broker now entries book state = treated ++ left ∧
        result.Covers treated left := by
  induction entries generalizing book state with
  | nil =>
      exact ⟨fun _ _ => rfl, [], [], rfl, ⟨by simp, rfl, rfl, rfl, by simp, by simp⟩⟩
  | cons entry rest inductionHypothesis =>
      obtain ⟨id, trail⟩ := entry
      obtain ⟨new, restDistinct⟩ := List.nodup_cons.mp distinct
      have treats := tickTrail_treats directory broker now
        (held (id, trail) List.mem_cons_self) state
      rcases step : tickTrail directory broker now id book state with ⟨next, after, outcome⟩
      rw [step] at treats
      have kept : ∀ other ∈ rest, next.get? other.1 = some other.2 := by
        intro other member
        have different : other.1 ≠ id := by
          rintro rfl
          exact new (List.mem_map.mpr ⟨other, member, rfl⟩)
        rw [treats.elsewhere other.1 different]
        exact held other (List.mem_cons_of_mem _ member)
      have begun : looks directory broker now ((id, trail) :: rest) book state =
          lookAt directory id trail state :: looks directory broker now rest next after := by
        rw [looks, step]
      have elsewhere (other : String) (absent : other ∉ ((id, trail) :: rest).map Prod.fst) :
          other ∉ rest.map Prod.fst ∧ next.get? other = book.get? other := by
        obtain ⟨different, later⟩ := not_or.mp (mt List.mem_cons.mpr absent)
        exact ⟨later, treats.elsewhere other different⟩
      rw [begun, List.map_cons]
      cases reacts : (lookAt directory id trail state).failure? with
      | some cause =>
          obtain rfl := TrailOutcome.eq_broken (treats.cause.trans reacts)
          rw [tickTrails_of_broken directory broker now step]
          refine ⟨fun other absent => (elsewhere other absent).2, [], _, rfl,
            .stop treats (by simp [reacts]) fun look member => ?_⟩
          have isEntry : (look.id, look.trail) ∈ rest := by
            rw [← looks_entries directory broker now rest next after]
            exact List.mem_map.mpr ⟨look, member, rfl⟩
          exact kept _ isEntry
      | none =>
          obtain ⟨frame, treated, left, split, covers⟩ :=
            inductionHypothesis restDistinct kept after
          rw [tickTrails_of_whole directory broker now step (treats.cause.trans reacts), split]
          refine ⟨fun other absent => ?_, _ :: treated, left, rfl,
            covers.goOn treats reacts ((frame id new).trans treats.here)⟩
          obtain ⟨later, same⟩ := elsewhere other absent
          exact (frame other later).trans same

/-! ## Main statement -/

/-- A tick completes, with every trail observed once at the price that its venue has for it, or
skipped and left as it is, and with every trail counted, exactly if no trail breaks at its price.
Otherwise this holds of the trails before the first one that breaks, and those after it are left as
they are, whatever their prices. -/
theorem tick_treats_unless_broken (book : TrailBook) (state : State World) :
    let result := tickOnce directory broker now book state
    let all := book.looks directory broker now state
    all.map (fun look => (look.id, look.trail)) = book.trails.entries ∧
      ((result.failure? = none ∧ (∀ look ∈ all, result.book.get? look.id = look.after) ∧
          result.summary.observed = all.countP (fun look => look.price?.isSome) ∧
          result.summary.skipped = all.countP (fun look => look.price?.isNone) ∧
          result.summary.observed + result.summary.skipped = book.size) ↔
        ∀ look ∈ all, look.failure? = none) ∧
      ∃ treated left, all = treated ++ left ∧ result.Covers treated left := by
  intro result all
  have entries : all.map (fun look => (look.id, look.trail)) = book.trails.entries :=
    looks_entries directory broker now _ book state
  have held : ∀ entry ∈ book.trails.entries, book.get? entry.1 = some entry.2 :=
    fun entry member => (Dictionary.get?_eq_some_iff _ _ _).mpr member
  obtain ⟨-, treated, left, split, covers⟩ :
      _ ∧ ∃ treated left, all = treated ++ left ∧ result.Covers treated left :=
    tickTrails_covers directory broker now book.trails.keys_nodup held state
  refine ⟨entries, ⟨fun ⟨completes, _⟩ look member => ?_, fun whole => ?_⟩, treated, left, split,
    covers⟩
  · rw [split, covers.left_eq_nil completes, List.append_nil] at member
    exact (covers.whole look member).1
  · have nothingLeft : left = [] := by
      cases left with
      | nil => rfl
      | cons first rest =>
          exact absurd (whole first (by simp [split])) (covers.broken first rfl).1
    rw [nothingLeft, List.append_nil] at split
    have observed : result.summary.observed = all.countP fun look => look.price?.isSome := by
      rw [split, ← covers.observed]
      exact TickSummary.observed_ofOutcomes _
    have skipped : result.summary.skipped = all.countP fun look => look.price?.isNone := by
      rw [split, ← covers.skipped]
      exact TickSummary.skipped_ofOutcomes _
    have completes : result.failure? = none := by
      rw [covers.failure, nothingLeft]
      rfl
    refine ⟨completes, fun look member => ?_, observed, skipped, ?_⟩
    · exact (covers.whole look (split ▸ member)).2
    · rw [observed, skipped]
      have everyone : book.size = all.length := by
        rw [TrailBook.size, Dictionary.size, ← entries, List.length_map]
      rw [everyone, List.length_eq_countP_add_countP (fun look => look.price?.isSome)]
      congr 2
      funext look
      cases look.price? <;> rfl

end Tick

theorem TrailBook.add_of_accepted {percent absolute : Option Decimal} {offset : TrailOffset}
    {quantity : Decimal} (accepted : TrailOffset.ofParameters percent absolute = .ok offset)
    (positive : Decimal.zero < quantity) (book : TrailBook) (now : Instant) (symbol : String)
    (side : Side) (linkedOrder : Option OrderId) :
    book.add now symbol side percent absolute quantity linkedOrder =
      let id := trailId symbol side now offset book.nextNumber
      .ok ({ trails := book.trails.insert id
               (.create now id symbol side offset quantity linkedOrder),
             nextNumber := book.nextNumber + 1 }, id) := by
  unfold add
  rw [accepted]
  simp only [requirePositive, positive, if_true]
  rfl

/-- Two trails on a venue that has a price for both.  The stop of the first would be above all
decimals, so the tick stops there: the second does not see its price and neither is counted. -/
theorem overflow_ends_tick :
    let most : Decimal := ⟨false, 79228162514264337593543950335, 0, by decide, by decide⟩
    let hundredth : Decimal := ⟨false, 1, 2, by decide, by decide⟩
    let hundred : Decimal := ⟨false, 100, 0, by decide, by decide⟩
    let core := PaperCore.create (PaperCore.numberedId "order") .default
    let world := PaperCore.seedPrices [("AAA", hundred), ("BTC", hundred)] core.state.world
    ∃ first second,
      TrailBook.empty.add ⟨0, 0⟩ "AAA.PAPER" .sell none (some most) .one none = .ok first ∧
      first.1.add ⟨0, 0⟩ "BTC.PAPER" .buy (some hundredth) none .one none = .ok second ∧
      let result := tickOnce core.directory core.broker ⟨1, 0⟩ second.1 ⟨.empty, world⟩
      second.1.size = 2 ∧ result.failure? = some .additionOverflow ∧ result.summary = .empty ∧
        (result.book.get? first.2).map Trail.reference = some (some hundred) ∧
        (usablePrice? core.directory "BTC.PAPER" result.state.world).1 = some hundred ∧
        (result.book.get? second.2).map Trail.reference = some none := by
  intro most hundredth hundred core world
  have accepted : TrailOffset.ofParameters none (some most) = .ok (.absolute most) := by
    decide +kernel
  have alsoAccepted : TrailOffset.ofParameters (some hundredth) none =
      .ok (.percent hundredth) := by
    decide +kernel
  refine ⟨_, _, TrailBook.add_of_accepted accepted (by decide) .empty _ _ _ _,
    TrailBook.add_of_accepted alsoAccepted (by decide) _ _ _ _ _, ?_⟩
  exact ⟨by decide +kernel, by decide +kernel, by decide +kernel,
    by decide +kernel, by decide +kernel, by decide +kernel⟩

end OrderKeeper
