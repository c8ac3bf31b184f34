import BoardLink.Engine

/-!
# Configurations

How a daemon is set up: the device, the sizes of buffers and tables, the time an answer may take, and
which drivers are assigned to which slots. Every setting has a default.
-/

namespace BoardLink

/-- A driver assigned to a slot, whatever the board asks for. -/
structure Overload where
  slot : Nat
  driver : String
  deriving DecidableEq, Repr

structure Config where
  serialPort : String := "/dev/ttyUSB0"
  bufferSize : Nat := 4000
  maxSlots : Nat := 32
  maxResources : Nat := 10
  maxTimers : Nat := 50
  ackTimeout : Nat := 100
  logLevel : String := "info"
  tracePackets : Bool := false
  overloads : List Overload := []
  deriving DecidableEq, Repr

namespace Config

/-- The driver assigned to a slot, the first if there are several. -/
def overloadFor (c : Config) (slot : Nat) : Option String :=
  (c.overloads.find? fun o => o.slot = slot).map Overload.driver

/-- The numbers for an engine. Of several assignments for a slot the last counts. -/
def options (c : Config) : EngineOptions where
  bufferSize := c.bufferSize
  maxSlots := c.maxSlots
  maxResources := c.maxResources
  maxTimers := c.maxTimers
  ackTimeout := c.ackTimeout
  tracePackets := c.tracePackets
  overloads := .ofList (c.overloads.map fun o => (o.slot, o.driver))

/-! ### Checks -/

/-- Checks assignments one after the other, given the slots before them. -/
def checkOverloads (maxSlots : Nat) : (seen : List Nat) → List Overload → Except String Unit
  | _, [] => .ok ()
  | seen, o :: rest =>
    if o.slot = 0 then .error "slot 0 is reserved for the enumerator"
    -- a pool may have more places than there are slot numbers; only its size is looked at
    else if maxSlots ≤ o.slot then
      .error s!"overload slot {o.slot} is outside the pool of {maxSlots} slots"
    else if o.driver.isEmpty then .error s!"overload for slot {o.slot} names no driver"
    else if o.slot ∈ seen then .error s!"slot {o.slot} is overloaded more than once"
    else checkOverloads maxSlots (o.slot :: seen) rest

/-- What is wrong with a configuration, the first of all faults. -/
def check (c : Config) : Except String Unit :=
  if c.serialPort.isEmpty then .error "serial_port must not be empty"
  else if c.bufferSize < Frame.maxEncoded then
    let largest := Frame.maxEncoded
    .error (s!"rx_buffer_size {c.bufferSize} is smaller than the largest encoded frame " ++
      s!"({largest})")
  else if c.maxSlots = 0 then .error "max_slots must be > 0"
  else if c.maxResources = 0 then .error "max_resources must be > 0"
  else if c.maxTimers = 0 then .error "max_timers must be > 0"
  else if c.ackTimeout = 0 then .error "ack_timeout_ms must be > 0"
  else checkOverloads c.maxSlots [] c.overloads

/-- Checks a configuration. -/
def validate (c : Config) : Except ConfigError Unit := c.check.mapError ConfigError.invalid

end Config

end BoardLink
