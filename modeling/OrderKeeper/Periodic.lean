/-!
Contract: a pass at regular intervals until told to stop.

Owns: the times at which passes are due, the signal that ends the loop, the loop itself
with the record of its passes, and the text for a pass that breaks down.

The loop looks up only between passes.  When a pass is due and the signal has changed at
once, either may come first.  That is a draw, so every run takes the choice of each turn as an
argument.
-/

set_option autoImplicit false

namespace OrderKeeper.Periodic

/-- Lateness up to which a pass keeps its place on the grid of intervals. -/
abbrev tolerance : Nat := 5

/-- When the next pass is due after one that was due at `deadline` and began at `now`. -/
def nextDeadline (interval deadline now : Nat) : Nat :=
  if now ≤ deadline + tolerance then deadline + interval else now + interval

/-! ## Signal -/

/-- What is told to the loop: a value at first, further values at times that never go
back, and no more from some time on.  The value `true` means stop. -/
structure StopSignal where
  initial : Bool
  sends : List (Nat × Bool)
  droppedAt : Option Nat
deriving DecidableEq, Repr

namespace StopSignal

/-- The number of values sent up to a time. -/
def sentBy (signal : StopSignal) (now : Nat) : Nat :=
  (signal.sends.filter fun send => send.1 ≤ now).length

/-- The last value sent up to a time. -/
def valueAt (signal : StopSignal) (now : Nat) : Bool :=
  ((signal.sends.filter fun send => send.1 ≤ now).getLast?.map Prod.snd).getD signal.initial

def isDropped (signal : StopSignal) (now : Nat) : Bool :=
  match signal.droppedAt with
  | some time => time ≤ now
  | none => false

/-- Whether there is anything new at a time for one who has seen some values. -/
def hasNews (signal : StopSignal) (seen now : Nat) : Bool :=
  seen < signal.sentBy now || signal.isDropped now

/-- The first time after `now` at which something is told. -/
def nextTime? (signal : StopSignal) (now : Nat) : Option Nat :=
  (signal.sends.map Prod.fst ++ signal.droppedAt.toList).filter (now < ·) |>.min?

/-- The last time at which something is told. -/
def lastTime (signal : StopSignal) : Nat :=
  (signal.sends.map Prod.fst ++ signal.droppedAt.toList).foldl max 0

end StopSignal

/-! ## Passes -/

/-- How long each pass takes and whether it breaks down at its end. -/
structure Workload where
  duration : Nat → Nat
  breaks : Nat → Bool

structure PassRun where
  index : Nat
  start : Nat
  finish : Nat
  broken : Bool
deriving DecidableEq, Repr

/-- What a pass that breaks down throws. -/
inductive Payload where
  /-- A text of the program itself. -/
  | literal (text : String)
  /-- A text that the pass has put together. -/
  | composed (text : String)
  | other
deriving DecidableEq, Repr

/-- What the log says of a payload. -/
def Payload.message : Payload → String
  | .literal text => text
  | .composed text => text
  | .other => "Unknown panic"

/-! ## Loop -/

structure Plan where
  interval : Nat
  signal : StopSignal
  work : Workload

structure LoopState where
  now : Nat
  deadline : Nat
  /-- Values of the signal that the loop has seen. -/
  seen : Nat
  /-- The passes so far, in order. -/
  passes : List PassRun
  exited : Bool
deriving DecidableEq, Repr

/-- The loop does not begin when it is told to stop from the outset, or has no interval. -/
def start (plan : Plan) : LoopState where
  now := 0
  deadline := 0
  seen := 0
  passes := []
  exited := plan.signal.initial || plan.interval == 0

/-- Runs the pass that is due to its end. -/
def runPass (plan : Plan) (state : LoopState) : LoopState :=
  let index := state.passes.length
  let finish := state.now + plan.work.duration index
  { state with
    now := finish
    deadline := nextDeadline plan.interval state.deadline state.now
    passes := state.passes ++ [⟨index, state.now, finish, plan.work.breaks index⟩] }

/-- Looks at the news: the loop ends when nothing more will be told or it is told to
stop. -/
def readNews (plan : Plan) (state : LoopState) : LoopState :=
  let sent := plan.signal.sentBy state.now
  if state.seen < sent then
    { state with seen := sent, exited := plan.signal.valueAt state.now }
  else { state with exited := true }

/-- Waits for the next pass or the next news, whichever comes first. -/
def wait (plan : Plan) (state : LoopState) : LoopState :=
  match plan.signal.nextTime? state.now with
  | some time => { state with now := min time state.deadline }
  | none => { state with now := state.deadline }

/-- One turn of the loop.  `passFirst` decides when a pass is due and there is news. -/
def turn (plan : Plan) (passFirst : Bool) (state : LoopState) : LoopState :=
  if state.exited then state
  else
    let due := state.deadline ≤ state.now
    let news := plan.signal.hasNews state.seen state.now
    if due ∧ (passFirst ∨ !news) then runPass plan state
    else if news then readNews plan state
    else wait plan state

/-- The state after some turns, with the choice of each. -/
def run (plan : Plan) (choice : Nat → Bool) : Nat → LoopState
  | 0 => start plan
  | turns + 1 => turn plan (choice turns) (run plan choice turns)

/-- Turns that suffice for everything the signal brings about: each deadline up to the last
news takes a wait and a pass, each news a wait and a look. -/
def enoughTurns (plan : Plan) : Nat :=
  2 * (plan.signal.lastTime + plan.signal.sends.length) + 8

/-- Takes turns with the choices from `index` on, at most `turns`, until the loop ends. -/
def runOut (plan : Plan) (choice : Nat → Bool) : Nat → Nat → LoopState → LoopState
  | 0, _, state => state
  | turns + 1, index, state =>
      if state.exited then state
      else runOut plan choice turns (index + 1) (turn plan (choice index) state)

/-- The loop as far as the signal decides it, with the choice of each turn. -/
def outcome (plan : Plan) (choice : Nat → Bool) : LoopState :=
  runOut plan choice (enoughTurns plan) 0 (start plan)

end OrderKeeper.Periodic
