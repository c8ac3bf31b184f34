import BoardLink.CommandLine.Path
import BoardLink.CommandLine.Run
import BoardLink.Link.Memory

/-!
# The program

The effects of the program: files, the device, the clock and the terminal. What is read from the
device is handed to the engine, and what the engine writes to its link is handed to the device.
-/

namespace BoardLink.CommandLine

def ioError (e : IO.Error) : IoError :=
  match e with
  | .noFileOrDirectory _ code details => .system .notFound code.toNat details
  | .permissionDenied _ code details => .system .permissionDenied code.toNat details
  | .inappropriateType _ code details => .system .other code.toNat details
  | .invalidArgument _ code details => .system .invalidInput code.toNat details
  | .resourceExhausted _ code details => .system .other code.toNat details
  | .otherError code details => .system .other code.toNat details
  | _ => .ofKind .other

/-- An action whose error is a value. -/
def attempt {α : Type} (act : IO α) : IO (Except IoError α) := do
  match ← act.toBaseIO with
  | .ok a => return .ok a
  | .error e => return .error (ioError e)

def readSize : USize := 4096

/-- The longest time, in milliseconds, between two looks at the device. -/
def pause : Nat := 5

def lost (e : LinkError) : Failure := { context := "serial link lost", causes := [e.message] }

/-- A failure of drivers that fill slots without end. -/
def restless : Failure := { context := "drivers go on filling slots" }

/-- An engine with a link in memory and with no driver to load, so that the enumerator is alone. -/
abbrev Daemon := Engine MemoryLink Empty

/-- Hands over to the device what the engine wrote, and forgets what was told to users. -/
def flushDaemon (device : IO.FS.Handle) (e : Daemon) : IO Daemon := do
  let t := e.host.transmitter
  let (bytes, link) := t.link.takeOutgoing
  unless bytes.isEmpty do
    device.write ⟨bytes.toArray⟩
    device.flush
  let outbox := e.host.outbox.drain.2
  return { e with
    dumps := []
    host := { e.host with outbox, journal := [], transmitter := { t with link, dumps := [] } } }

/-- Puts bytes of the device into the link. No bytes mean that the device hung up. -/
def arrive (e : Daemon) (bytes : Bytes) : Daemon :=
  let t := e.host.transmitter
  let link := if bytes.isEmpty then { t.link with hungUp := true } else t.link.push bytes
  { e with host := { e.host with transmitter := { t with link } } }

partial def serveLoop (device : IO.FS.Handle) (reading : Task (Except IO.Error ByteArray))
    (e : Daemon) : IO (Except Failure Unit) := do
  let e ← flushDaemon device e
  let now ← IO.monoMsNow
  if ← IO.hasFinished reading then
    match reading.get with
    | .error err => return .error (lost (.io (ioError err)))
    | .ok bytes =>
      match (arrive e bytes.data.toList).pollLink now with
      | none => return .error restless
      | some (.error err, _) => return .error (lost err)
      | some (.ok _, e) => serveLoop device (← IO.asTask (device.read readSize)) e
  else
    match e.pollTimers now with
    | none => return .error restless
    | some (_, e) =>
      IO.sleep (UInt32.ofNat (min pause ((e.timeUntilNext now).getD pause)))
      serveLoop device reading e

def serveDevice (c : Config) (device : IO.FS.Handle) : IO (Except Failure Unit) := do
  let e : Daemon := .create c.options {} {}
  match e.start (← IO.monoMsNow) with
  | none => return .error restless
  | some (.error err, _) => return .error { context := err.message }
  | some (.ok (), e) => serveLoop device (← IO.asTask (device.read readSize)) e

/-- An action on a path that is fit to be looked up. -/
def attemptAt {α : Type} (path : String) (act : IO α) : IO (Except IoError α) :=
  match Path.check path with
  | .error e => return .error e
  | .ok () => attempt act

def decode (bytes : ByteArray) : Except IoError String :=
  match String.fromUTF8? bytes with
  | some text => .ok text
  | none => .error (.refused .invalidData "stream did not contain valid UTF-8")

def ioSystem : System IO IO.FS.Handle where
  read path := do
    return (← attemptAt path do (← IO.FS.Handle.mk path .read).readBinToEnd).bind decode
  write path text := attemptAt path (IO.FS.writeFile path text)
  connect path := attemptAt path (IO.FS.Handle.mk path .readWrite)
  serve c device := serveDevice c device

end BoardLink.CommandLine

def main (args : List String) : IO UInt32 := do
  let out ← BoardLink.CommandLine.run BoardLink.CommandLine.ioSystem args
  IO.print out.output
  IO.eprint out.errors
  return UInt32.ofNat out.code
