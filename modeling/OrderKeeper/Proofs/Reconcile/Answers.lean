import OrderKeeper.Reconcile.Pass

/-!
Contract: a pass as the answers that it meets and their application.

Owns: the answers that the venues of a directory give one after the other, the ledger and
the visits that answers lead to, and the summary of visits, also of those that change
nothing.

Does not own: what an answer does to the ledger.
-/

set_option autoImplicit false

namespace OrderKeeper

variable {World : Type}

/-- What a venue answers when a pass asks for its open orders. -/
abbrev ListingAnswer := Except VenueFault (List ListedOrder)

namespace VenueDirectory

/-- The answer of one venue; a venue that cannot be asked counts as one without listings. -/
def answerOf (directory : VenueDirectory World) (venue : String) (world : World) :
    ListingAnswer × World :=
  match directory.gatewayFor venue .listOpenOrders with
  | .error _ => (.error (.unsupported .listOpenOrders), world)
  | .ok gateway => gateway.listOpenOrders world

/-- The answers that venues give one after the other, and the world after them. -/
def answersOf (directory : VenueDirectory World) :
    List String → World → List (String × ListingAnswer) × World
  | [], world => ([], world)
  | venue :: rest, world =>
      let (answer, next) := directory.answerOf venue world
      let (others, last) := directory.answersOf rest next
      ((venue, answer) :: others, last)

/-- The answers that a pass meets. -/
def answers (directory : VenueDirectory World) (world : World) : List (String × ListingAnswer) :=
  (directory.answersOf directory.keys world).1

theorem answersOf_venues (directory : VenueDirectory World) (venues : List String) (world : World) :
    (directory.answersOf venues world).1.map Prod.fst = venues := by
  induction venues generalizing world with
  | nil => rfl
  | cons venue rest inductionHypothesis =>
      exact congrArg (venue :: ·) (inductionHypothesis (directory.answerOf venue world).2)

end VenueDirectory

/-- Answers applied one after the other, and what the pass met at each venue. -/
def applyAnswers (policy : AbsencePolicy) (now : Instant) :
    List (String × ListingAnswer) → Ledger → Ledger × List (String × VenueVisit)
  | [], ledger => (ledger, [])
  | (venue, answer) :: rest, ledger =>
      let (next, visit) := applyListing policy now venue answer ledger
      let (last, visits) := applyAnswers policy now rest next
      (last, (venue, visit) :: visits)

def ReconcileSummary.addAll (summary : ReconcileSummary) (visits : List (String × VenueVisit)) :
    ReconcileSummary :=
  visits.foldl (fun summary visit => summary.add visit.1 visit.2) summary

theorem visitVenue_eq (directory : VenueDirectory World) (policy : AbsencePolicy) (now : Instant)
    (venue : String) (state : State World) :
    visitVenue directory policy now venue state =
      let (answer, world) := directory.answerOf venue state.world
      let (ledger, visit) := applyListing policy now venue answer state.ledger
      ({ ledger, world }, visit) := by
  unfold visitVenue VenueDirectory.answerOf
  cases directory.gatewayFor venue .listOpenOrders with
  | error _ => rfl
  | ok gateway => rfl

theorem foldl_visitVenue (directory : VenueDirectory World) (policy : AbsencePolicy) (now : Instant)
    (venues : List String) (state : State World) (summary : ReconcileSummary) :
    venues.foldl
        (fun (state, summary) venue =>
          let (state, visit) := visitVenue directory policy now venue state
          (state, summary.add venue visit))
        (state, summary) =
      let (answers, world) := directory.answersOf venues state.world
      let (ledger, visits) := applyAnswers policy now answers state.ledger
      ({ ledger, world }, summary.addAll visits) := by
  induction venues generalizing state summary with
  | nil => rfl
  | cons venue rest inductionHypothesis =>
      rw [List.foldl_cons]
      refine (inductionHypothesis (visitVenue directory policy now venue state).1
        (summary.add venue (visitVenue directory policy now venue state).2)).trans ?_
      rw [visitVenue_eq]
      rfl

/-- A pass applies the answers that it meets. -/
theorem reconcileAll_eq (directory : VenueDirectory World) (policy : AbsencePolicy) (now : Instant)
    (state : State World) :
    (reconcileAll directory policy now state).1.ledger =
        (applyAnswers policy now (directory.answers state.world) state.ledger).1 ∧
      (reconcileAll directory policy now state).2 =
        ReconcileSummary.empty.addAll
          (applyAnswers policy now (directory.answers state.world) state.ledger).2 := by
  unfold reconcileAll
  have folded := foldl_visitVenue directory policy now directory.keys state .empty
  exact ⟨congrArg (fun result => result.1.ledger) folded, congrArg Prod.snd folded⟩

/-! ## Quiet visits -/

/-- The visit of a venue whose listing finds nothing to close or to import. -/
def VenueVisit.quiet : VenueVisit → VenueVisit
  | .skipped => .skipped
  | .failed fault => .failed fault
  | .checked delta => .checked { delta with imported := 0, closed := 0 }

theorem ReconcileSummary.addAll_quiet (summary : ReconcileSummary)
    (visits : List (String × VenueVisit)) :
    ReconcileSummary.addAll { summary with imported := 0, closed := 0 }
        (visits.map (Prod.map id VenueVisit.quiet)) =
      { summary.addAll visits with imported := 0, closed := 0 } := by
  induction visits generalizing summary with
  | nil => rfl
  | cons visit rest inductionHypothesis =>
      refine Eq.trans ?_ (inductionHypothesis (summary.add visit.1 visit.2))
      cases visit with
      | mk venue met => cases met <;> rfl

end OrderKeeper
