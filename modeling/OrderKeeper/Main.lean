import OrderKeeper.CommandLine.Invocation
import OrderKeeper.Paper.Core
import Std.Time.DateTime.Timestamp

/-!
Contract: the program on the command line.

Owns: reading the settings file, the clock and the source of random words, and the loop
that keeps a run going.  Everything that is decided is decided elsewhere.
-/

set_option autoImplicit false

namespace OrderKeeper

def currentInstant : IO Instant := do
  let time ← Std.Time.Timestamp.now
  return .ofMilliseconds time.toMillisecondsSinceUnixEpoch.val

def randomWord : IO UInt64 := do
  let bytes ← IO.getRandomBytes 8
  return bytes.foldl (fun word byte => word * 256 + byte.toUInt64) 0

/-- Seconds between two moves of the prices, in milliseconds. -/
def feedInterval : Nat := 1000

/-- Keeps a run going until the process is interrupted. -/
partial def keepRunning (walkStep : Binary64) (clock : Nat) (core : Core PaperMarket) :
    IO Unit := do
  let word ← randomWord
  let words := fun index : Nat => word * 6364136223846793005 ^ (index + 1) + 1442695040888963407
  let now ← currentInstant
  let core := PaperCore.advance walkStep words now (clock + 1) core
  IO.sleep feedInterval.toUInt32
  keepRunning walkStep (clock + feedInterval) core

def readSettings (path : Option String) : IO (Except SettingsError Settings) := do
  match path with
  | none => return .ok .default
  | some path =>
      try
        return Settings.parse (← IO.FS.readFile path)
      catch _ =>
        return .error .unreadable

def carryOut (command : CommandLine.Command) (settings : Settings) : IO Unit := do
  match command with
  | .singlePass =>
      IO.print (PaperCore.singlePassOutput settings (← currentInstant))
  | .run seeds walkStep =>
      let origin := toString (← randomWord)
      let core := PaperCore.create (PaperCore.numberedId origin) settings
      let prices := seeds.map fun seed => (seed.symbol, seed.price)
      let state := core.state
      let world := PaperCore.seedPrices prices state.world
      let core := { core with state := { state with world } }
      keepRunning walkStep 0 (core.start 0 (some fun _ => .accepted))

end OrderKeeper

open OrderKeeper in
def main (arguments : List String) : IO UInt32 := do
  match CommandLine.parse arguments with
  | .error .help =>
      IO.print CommandLine.usage
      return 0
  | .error .version =>
      IO.println ("order-keeper " ++ HealthReport.version)
      return 0
  | .error .helpForEmptyLine =>
      IO.eprint CommandLine.usage
      return 2
  | .error cause =>
      IO.eprintln ("error: " ++ cause.message)
      return 2
  | .ok invocation =>
      match ← readSettings invocation.settingsPath with
      | .error cause =>
          IO.eprintln ("Error: " ++ cause.message)
          return 1
      | .ok settings =>
          carryOut invocation.command settings
          return 0
