import BoardLink.Catalog
import BoardLink.Driver.Program

/-!
# The enumerator

Core 0 of every board answers a read of one register with the driver numbers of all sixteen cores.
The enumerator lives in slot 0, asks for that table at the start and loads one driver per core that
has a number, into slots 1, 2, … in the order of the cores. A static assignment for a slot takes the
place of the driver that the catalog names. Assignments that the table does not reach, or all of
them if the board never answers, are loaded without a core.
-/

namespace BoardLink.Enumerator

variable {P : Type}

def name : String := "enumerator"

/-- The register with the table of driver numbers. -/
def tableRegister : UInt8 := 0x40

def tableLength : Nat := 2 * coreCount

def tableResource : String := "drivlist"

def tableIndex : Nat := 0

/-- The token of the timer that waits for the table. -/
def ackToken : Nat := 0

def ofOverloads (overloads : Overloads) : Enumerator := { overloads }

/-- Asks the board for the table. A request that cannot be sent is as good as one without answer. -/
def requestTable (e : Enumerator) : Program P Enumerator := do
  let _ ← Program.perform (.sendTo CoreId.zero (.read CoreId.zero tableRegister (UInt8.ofNat tableLength)))
  match e.ackTimer with
  -- the timer of an earlier request guards this one as well
  | some _ => return e
  | none =>
    let view ← Program.perform .view
    match ← Program.perform (.addTimer .oneShot view.ackTimeout ackToken) with
    | .ok id => return { e with ackTimer := some id }
    | .error _ => return e

def cancelAck (e : Enumerator) : Program P Enumerator :=
  match e.ackTimer with
  | none => return e
  | some id => do
    let _ ← Program.perform (.cancelTimer id)
    return { e with ackTimer := none }

/-- Installs drivers without a core; those that cannot be installed are left out. -/
def loadAll : Overloads → Program P Unit
  | [] => return ()
  | (slot, driver) :: rest => do
    let _ ← Program.perform (.installDriver (.ofNat slot) driver none)
    loadAll rest

def loadRemaining (e : Enumerator) : Program P Enumerator := do
  loadAll e.overloads
  return { e with overloads := [] }

def recordIds : List (CoreId × UInt16) → Program P Unit
  | [] => return ()
  | (core, id) :: rest => do
    let _ ← Program.perform (.registry (.setDriverId core id))
    recordIds rest

/-- The driver for a slot: the one assigned to it, else the one of that number in the catalog. -/
def driverFor (overloads : Overloads) (slot : Nat) (id : UInt16) : Option String :=
  overloads.get? slot <|> (Catalog.byId id).map Peripheral.name

/-- Loads a driver for each core that has a driver number, from slot `slot` on while there are
slots. A number without a name uses up a slot number all the same. -/
def loadCores (maxSlots : Nat) (overloads : Overloads) (slot : Nat) :
    List (CoreId × UInt16) → Program P Overloads
  | [] => return overloads
  | (core, id) :: rest => do
    if id = 0 then loadCores maxSlots overloads slot rest
    -- the cores are taken in order, so no later one finds a slot either
    else if maxSlots ≤ slot then return overloads
    else
      match driverFor overloads slot id with
      | none => loadCores maxSlots overloads (slot + 1) rest
      | some driver =>
        let _ ← Program.perform (.installDriver (.ofNat slot) driver (some core))
        loadCores maxSlots (overloads.erase slot) (slot + 1) rest

def enumerate (e : Enumerator) (table : Bytes) : Program P Enumerator := do
  let ids := CoreId.all.zip table.words
  recordIds ids
  let view ← Program.perform .view
  let overloads ← loadCores view.registry.maxSlots e.overloads 1 ids
  loadRemaining { e with enumerated := true, overloads }

/-- The table as users see it: sixteen hexadecimal numbers of four digits on one line. -/
def renderTable (ids : List UInt16) : String :=
  " ".intercalate (ids.map fun id => hexNat 4 id.toNat) ++ "\n"

/-! ### Calls -/

/-- Names the slot, adds the resource, takes core 0 and asks for the table. -/
def init (e : Enumerator) : Program P (Except Error Unit × Enumerator) := do
  match ← Program.perform (.setIdentity name "The table of driver IDs for this FPGA image") with
  | .error err => return (.error (.registry err), e)
  | .ok () =>
    match ← Program.perform (.addResource { name := tableResource, flags := 0x01 }) with
    | .error err => return (.error (.registry err), e)
    | .ok _ =>
      match ← Program.perform (.bindCore CoreId.zero) with
      | .error err => return (.error (.registry err), e)
      | .ok () => return (.ok (), ← e.requestTable)

/-- A packet of core 0. Any acknowledged write ends the wait, and so does the table, which is put to
use the first time that it is complete. -/
def packet (e : Enumerator) (p : Packet) : Program P Enumerator := do
  if p.header.operation = .write then e.cancelAck
  else if p.header.isUnsolicited ∨ p.header.register ≠ tableRegister ∨
      p.header.count.toNat ≠ tableLength then return e
  else
    -- the wait ends with a table of any length, even one that is not put to use
    let e ← e.cancelAck
    if p.readData.length ≠ tableLength ∨ e.enumerated then return e
    else e.enumerate p.readData

/-- A user's request: the table can be read. -/
def request (e : Enumerator) (resource : Nat) (r : Request) :
    Program P (Except Error Outcome × Enumerator) := do
  if resource = tableIndex ∧ r = .get then
    let view ← Program.perform .view
    return (.ok (.reply (renderTable view.registry.driverIds)), e)
  else return (.error (.registry (.notWritable tableResource)), e)

def timer (e : Enumerator) (token : Nat) : Program P Enumerator :=
  if token = ackToken then loadRemaining { e with ackTimer := none } else return e

def respond (e : Enumerator) : (c : Callback) → Program P (c.Result × Enumerator)
  | .init => e.init
  | .packet p => do return ((), ← e.packet p)
  | .request resource _ r => e.request resource r
  | .timer token => do return ((), ← e.timer token)

end BoardLink.Enumerator

namespace BoardLink.Occupant

variable {P : Type} [Driver P]

def respond : Occupant P → (c : Callback) → Program P (c.Result × Occupant P)
  | .enumerator e, c => do
    let (result, e) ← e.respond c
    return (result, .enumerator e)
  | .loaded driver, c => do
    let (result, driver) ← Driver.respond driver c
    return (result, .loaded driver)

end BoardLink.Occupant
