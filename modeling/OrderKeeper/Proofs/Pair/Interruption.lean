import OrderKeeper.Proofs.Pair.CancelLog
import OrderKeeper.Proofs.Reconcile.Answers

/-!
Contract: a pass over the pairs while listings arrive.

Owns: the steps of the pass between which it gives way to others, the record of what it and
the listings did, and both kinds of pass as runs of such steps.

Does not own: what becomes of an order in such a run.

A pass over the pairs waits for the answer to each cancel.  Meanwhile a reconciliation pass may
ask for listings or apply them, so an answer may be applied long after the venue gave it.
-/

set_option autoImplicit false

namespace OrderKeeper

variable {World : Type}

/-! ## Steps -/

/-- What was done to the ledger. -/
inductive WatchMark where
  /-- A reconciliation pass applied the answer of a venue. -/
  | listed (policy : AbsencePolicy) (venue : String) (answer : ListingAnswer)
  /-- The pass over the pairs left a group of another size alone. -/
  | ignored
  | settled (pair : BrokenPair) (outcome : CancelOutcome)
deriving DecidableEq

def PairSummary.note (summary : PairSummary) : WatchMark → PairSummary
  | .listed _ _ _ => summary
  | .ignored => { summary with ignoredGroups := summary.ignoredGroups + 1 }
  | .settled _ outcome => summary.addOutcome outcome

/-- A pass over the pairs that is under way. -/
structure WatchScene (World : Type) where
  state : State World
  /-- The groups that the pass has not come to, as they stood at its start. -/
  todo : List (List Order)
  /-- The cancel whose answer is on its way. -/
  awaited : Option (BrokenPair × CancelAnswer)
  marks : List WatchMark

inductive WatchEvent (World : Type) where
  /-- The pass goes on to where it gives way next. -/
  | proceed (now : Instant)
  /-- A reconciliation pass gets the answer of a venue, which may be older than the ledger. -/
  | listing (now : Instant) (policy : AbsencePolicy) (venue : String) (answer : ListingAnswer)
  /-- The world changes. -/
  | elsewhere (world : World)

namespace WatchScene

/-- A pass that is about to look at the first group. -/
def starting (state : State World) : WatchScene World where
  state := state
  todo := state.ledger.groupIds.map state.ledger.groupMembers
  awaited := none
  marks := []

def summary (scene : WatchScene World) : PairSummary :=
  scene.marks.foldl PairSummary.note .empty

/-- Deals with the answer that has arrived. -/
def settle (scene : WatchScene World) (now : Instant) (pair : BrokenPair)
    (answer : CancelAnswer) : WatchScene World :=
  let (ledger, outcome) := settleCancel now pair answer scene.state.ledger
  { scene with
    state := { scene.state with ledger }
    awaited := none
    marks := scene.marks ++ [.settled pair outcome] }

/-- Asks for the cancel that a broken pair calls for. -/
def ask (scene : WatchScene World) (directory : VenueDirectory World) (pair : BrokenPair) :
    WatchScene World :=
  match directory.gatewayFor (pair.sibling.venue?.getD "") .cancel with
  | .error _ => { scene with marks := scene.marks ++ [.settled pair .unsupported] }
  | .ok gateway =>
      let (answer, world) := requestCancel gateway pair.sibling scene.state.world
      { scene with state := { scene.state with world }, awaited := some (pair, answer) }

def proceed (scene : WatchScene World) (directory : VenueDirectory World) (now : Instant) :
    WatchScene World :=
  match scene.awaited, scene.todo with
  | some (pair, answer), _ => scene.settle now pair answer
  | none, [] => scene
  | none, members :: todo =>
      match groupState members with
      | .settled => { scene with todo }
      | .notAPair => { scene with todo, marks := scene.marks ++ [.ignored] }
      | .broken pair => { scene with todo }.ask directory pair

/-- Applies the answer of a venue of the directory. -/
def applyAnswer (scene : WatchScene World) (directory : VenueDirectory World) (now : Instant)
    (policy : AbsencePolicy) (venue : String) (answer : ListingAnswer) : WatchScene World :=
  if venue ∈ directory.keys then
    { scene with
      state.ledger := (applyListing policy now venue answer scene.state.ledger).1
      marks := scene.marks ++ [.listed policy venue answer] }
  else scene

def step (directory : VenueDirectory World) (scene : WatchScene World) :
    WatchEvent World → WatchScene World
  | .proceed now => scene.proceed directory now
  | .listing now policy venue answer => scene.applyAnswer directory now policy venue answer
  | .elsewhere world => { scene with state := { scene.state with world } }

def run (directory : VenueDirectory World) (scene : WatchScene World)
    (events : List (WatchEvent World)) : WatchScene World :=
  events.foldl (step directory) scene

end WatchScene

/-! ## Whole passes -/

/-- A pass over some groups that nobody interrupts is a run of its own steps. -/
theorem watchGroups_eq_run (directory : VenueDirectory World) (now : Instant)
    (groups : List (List Order)) (state : State World) (marks : List WatchMark) :
    ∃ count, ∃ last : WatchScene World,
      WatchScene.run directory ⟨state, groups, none, marks⟩
        (List.replicate count (.proceed now)) = last ∧
      last.todo = [] ∧ last.awaited = none ∧
      watchGroups directory now groups (state, marks.foldl PairSummary.note .empty) =
        (last.state, last.summary) := by
  induction groups generalizing state marks with
  | nil => exact ⟨0, ⟨state, [], none, marks⟩, rfl, rfl, rfl, rfl⟩
  | cons members rest inductionHypothesis =>
      have noted : ∀ mark, (marks ++ [mark]).foldl PairSummary.note .empty =
          (marks.foldl PairSummary.note .empty).note mark := by
        intro mark
        rw [List.foldl_append]
        rfl
      unfold watchGroups
      cases called : groupState members with
      | settled =>
          obtain ⟨count, last, isRun, ends⟩ := inductionHypothesis state marks
          refine ⟨count + 1, last, ?_, ends⟩
          rw [List.replicate_succ, ← isRun]
          simp [WatchScene.run, WatchScene.step, WatchScene.proceed, called]
      | notAPair =>
          obtain ⟨count, last, isRun, noTodo, noAwaited, passed⟩ :=
            inductionHypothesis state (marks ++ [.ignored])
          rw [noted] at passed
          refine ⟨count + 1, last, ?_, noTodo, noAwaited, passed⟩
          rw [List.replicate_succ, ← isRun]
          simp [WatchScene.run, WatchScene.step, WatchScene.proceed, called]
      | broken pair =>
          dsimp only
          unfold cancelSibling
          cases found : directory.gatewayFor (pair.sibling.venue?.getD "") .cancel with
          | error fault =>
              obtain ⟨count, last, isRun, noTodo, noAwaited, passed⟩ :=
                inductionHypothesis state (marks ++ [.settled pair .unsupported])
              rw [noted] at passed
              refine ⟨count + 1, last, ?_, noTodo, noAwaited, passed⟩
              rw [List.replicate_succ, ← isRun]
              simp [WatchScene.run, WatchScene.step, WatchScene.proceed, WatchScene.ask, called,
                found]
          | ok gateway =>
              -- The pass gives way once, between the request and the answer.
              let asked := requestCancel gateway pair.sibling state.world
              let settled := settleCancel now pair asked.1 state.ledger
              obtain ⟨count, last, isRun, noTodo, noAwaited, passed⟩ :=
                inductionHypothesis ⟨settled.1, asked.2⟩ (marks ++ [.settled pair settled.2])
              rw [noted] at passed
              refine ⟨count + 2, last, ?_, noTodo, noAwaited, passed⟩
              rw [List.replicate_succ, List.replicate_succ, ← isRun]
              simp [WatchScene.run, WatchScene.step, WatchScene.proceed, WatchScene.ask,
                WatchScene.settle, called, found, asked, settled]

/-- A pass over the pairs that nobody interrupts is a run of its own steps. -/
theorem watchOnce_eq_run (directory : VenueDirectory World) (now : Instant)
    (state : State World) :
    ∃ count, ∃ last : WatchScene World,
      (WatchScene.starting state).run directory (List.replicate count (.proceed now)) = last ∧
      last.todo = [] ∧ last.awaited = none ∧
      watchOnce directory now state = (last.state, last.summary) :=
  watchGroups_eq_run directory now _ state []

/-- The arrival of answers of venues of the directory is their application. -/
theorem run_listings (directory : VenueDirectory World) (policy : AbsencePolicy) (now : Instant)
    {answers : List (String × ListingAnswer)}
    (areKeys : ∀ answered ∈ answers, answered.1 ∈ directory.keys) (scene : WatchScene World) :
    scene.run directory
        (answers.map fun answered => .listing now policy answered.1 answered.2) =
      { scene with
        state.ledger := (applyAnswers policy now answers scene.state.ledger).1
        marks := scene.marks ++
          answers.map fun answered => .listed policy answered.1 answered.2 } := by
  induction answers generalizing scene with
  | nil => simp [WatchScene.run, applyAnswers]
  | cons answered rest inductionHypothesis =>
      have isKey := areKeys answered List.mem_cons_self
      have restKeys : ∀ other ∈ rest, other.1 ∈ directory.keys :=
        fun other member => areKeys other (List.mem_cons_of_mem answered member)
      rw [List.map_cons]
      refine (inductionHypothesis restKeys
        (scene.applyAnswer directory now policy answered.1 answered.2)).trans ?_
      simp [WatchScene.applyAnswer, isKey, applyAnswers]

/-- A reconciliation pass that comes in between is a run of arrivals. -/
theorem reconcileAll_eq_run (directory : VenueDirectory World) (policy : AbsencePolicy)
    (now : Instant) (scene : WatchScene World) :
    let answered := directory.answersOf directory.keys scene.state.world
    scene.run directory
        (answered.1.map (fun answer => .listing now policy answer.1 answer.2) ++
          [.elsewhere answered.2]) =
      { scene with
        state := (reconcileAll directory policy now scene.state).1
        marks := scene.marks ++
          answered.1.map fun answer => .listed policy answer.1 answer.2 } := by
  intro answered
  have areKeys : ∀ answer ∈ answered.1, answer.1 ∈ directory.keys := by
    intro answer member
    rw [← directory.answersOf_venues directory.keys scene.state.world]
    exact List.mem_map_of_mem member
  have passed : (reconcileAll directory policy now scene.state).1 =
      { ledger := (applyAnswers policy now answered.1 scene.state.ledger).1
        world := answered.2 } :=
    congrArg Prod.fst (foldl_visitVenue directory policy now directory.keys scene.state .empty)
  rw [WatchScene.run, List.foldl_append]
  have arrived := run_listings directory policy now areKeys scene
  unfold WatchScene.run at arrived
  rw [arrived, passed]
  rfl

end OrderKeeper
