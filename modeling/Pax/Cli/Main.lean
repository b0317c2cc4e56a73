import Pax.Cli.Gatt
import Pax.Pairing.Reported
import Pax.Pairing.Spoofing
import Pax.Transfer.Session
import Pax.Transport.ScanReport

/-!
# The command line

`main` of `pax-cli/src/main.rs`: open a backend, set the local address if one is given, run the
subcommand, and print what came of it. The workflows are those of the libraries, on the calls of the
chosen backend; what else is called is the file system and the two output streams.

`main` is a program over these calls (`MainCall`). What the build decides (which backends there are,
how a character is made lower case) is in `Env`. The errors are the texts that are printed to the
standard error, and the exit code is whether there was one.

* `mainOps`, `ofLink` and `ofGatt` bring the workflows of the libraries to the calls of `main`.
* `bail` and `withAddress` are the `?` on an operation and on the text of an address.
* `run` is the `match` on the subcommand, and `gate` what comes before it.
-/

namespace Pax
namespace Cli

open Program (Returns)

inductive Backend where
  | mock
  | bluez
  | btleplug
  deriving DecidableEq, Repr

inductive Command where
  | scan
  | pair (addr : String)
  | pairMany (addrs : List String)
  | pairAll
  | accept (window : UInt64)
  | send (addr file : String)
  | gatt (op : GattOp)
  | spoof (addr : String)
  | doctor

/-- What `main` calls: the backend, the file system, and the output streams. -/
inductive MainCall where
  /-- Open a backend on real hardware. -/
  | openBackend (choice : Backend)
  | adapter
  | setLocalAddress (addr : BdAddr)
  | discover (filter : DiscoveryFilter)
  | pair (target : DeviceId)
  | acceptPairings (options : InboundPairing)
  | connect (target : DeviceId)
  | disconnect (conn : Connection)
  | pushFile (conn : Connection) (file : OutboundFile)
  | gattRead (conn : Connection) (service characteristic : Uuid)
  | gattWrite (conn : Connection) (service characteristic : Uuid) (data : List UInt8)
    (withResponse : Bool)
  | gattSubscribe (conn : Connection) (service characteristic : Uuid)
  | next
  | readFile (path : String)
  /-- The diagnostics report on what was recorded. -/
  | report
  | stdout (text : String)
  | stderr (text : String)

def MainCall.Reply : MainCall → Type
  | .openBackend _ => Except TransportError Capabilities
  | .adapter => Except TransportError BdAddr
  | .setLocalAddress _ => Except TransportError Unit
  | .discover _ => Except TransportError (List DeviceDetails)
  | .pair _ => Except TransportError PairingOutcome
  | .acceptPairings _ => Except TransportError (List DeviceId)
  | .connect _ => Except TransportError Connection
  | .disconnect _ => Except TransportError Unit
  | .pushFile .. => Except TransportError TransferReceipt
  | .gattRead .. => Except TransportError (List UInt8)
  | .gattWrite .. => Except TransportError Unit
  | .gattSubscribe .. => Except TransportError Unit
  | .next => Option (Uuid × List UInt8)
  | .readFile _ => Except String (List UInt8)
  | .report => String
  | .stdout _ => Unit
  | .stderr _ => Unit

abbrev mainCalls : Interface := { Call := MainCall, Reply := MainCall.Reply }

/-- A run of the command line, with the outermost text of its error. `none` is a panic. -/
abbrev Main := Program mainCalls (Option (Except String Unit))

def call (c : MainCall) : Program mainCalls c.Reply := Program.call (I := mainCalls) c

/-- What the build and the libraries around `main` bring along: the backends that there are, and
the functions on text. -/
structure Env where
  /-- The backends that were compiled in. -/
  bluez : Bool
  btleplug : Bool
  /-- `str::to_lowercase` -/
  toLowercase : String → String
  /-- The throughput of a transfer, without its fraction. -/
  throughput : TransferReceipt → String
  /-- Which of the pairings in progress goes on, in each round. -/
  picks : ℕ → List ℕ

/-! ### The libraries on these calls -/

/-- The operations of the pairing workflows, as calls of `main`. -/
def mainOps (capabilities : Capabilities) : Pairing.WorkflowOps mainCalls where
  capabilities
  setLocalAddress addr := call (.setLocalAddress addr)
  pair target := call (.pair target)
  discover filter := do
    let found ← call (.discover filter)
    return found.map (List.map DeviceDetails.toDeviceInfo)
  connect target := call (.connect target)

/-- The operations of an upload, as calls of `main`. -/
def ofLink : LinkOp → MainCall
  | .connect target => .connect target
  | .disconnect conn => .disconnect conn
  | .pushFile conn file => .pushFile conn file

def linkReply : (c : LinkOp) → (ofLink c).Reply → c.op.Result
  | .connect _, r => r
  | .disconnect _, r => r
  | .pushFile .., r => r

/-- What the gatt command calls, as calls of `main`; its lines go to the standard output. -/
def ofGatt : GattCall → MainCall
  | .connect target => .connect target
  | .gattRead conn service characteristic => .gattRead conn service characteristic
  | .gattWrite conn service characteristic data withResponse =>
    .gattWrite conn service characteristic data withResponse
  | .gattSubscribe conn service characteristic => .gattSubscribe conn service characteristic
  | .next => .next
  | .println line => .stdout (line ++ "\n")
  | .disconnect conn => .disconnect conn

def gattReply : (c : GattCall) → (ofGatt c).Reply → c.Reply
  | .connect _, r => r
  | .gattRead .., r => r
  | .gattWrite .., r => r
  | .gattSubscribe .., r => r
  | .next, r => r
  | .println _, r => r
  | .disconnect _, r => r

/-- `DiscoveryFilter::new`: every device passes. -/
def anyDevice : DiscoveryFilter :=
  { transport := none, nameContains := none, minRssi := none, limit := none }

/-- `PairOptions::default`: two retries, and the address as it is. -/
def defaultPair : PairOptions := { retries := 2, spoofLocal := none }

/-- `BatchPairOptions::default`: as many at once as the backend allows, in two rounds. -/
def defaultBatch : BatchPairOptions :=
  { concurrency := none, rounds := 2, perDevice := defaultPair }

/-- `UploadOptions::default`: one retry, and the link is closed afterwards. -/
def defaultUpload : UploadOptions := { retries := 1, disconnectAfter := true }

/-- The scan report, under an optional local identity, which is set first. -/
def dumpInRangeAs (env : Env) (capabilities : Capabilities) (spoof : Option BdAddr)
    (filter : DiscoveryFilter) : Program mainCalls (Except TransportError String) := do
  match ← Pairing.applySpoof (mainOps capabilities).toPairingOps spoof with
  | .error e => return .error e
  | .ok () =>
    match ← call (.discover filter) with
    | .error e => return .error e
    | .ok devices => return .ok (scanReport env.toLowercase devices)

def dumpInRange (env : Env) (capabilities : Capabilities) (filter : DiscoveryFilter) :
    Program mainCalls (Except TransportError String) :=
  dumpInRangeAs env capabilities none filter

/-! ### The subcommands -/

def println' (line : String) : Program mainCalls Unit := call (.stdout (line ++ "\n"))

/-- `?` on a result: go on with the value, or return the text of the error. -/
def bail {α : Type} (operation : Program mainCalls (Except TransportError α)) (body : α → Main) :
    Main := do
  match ← operation with
  | .error e => return some (.error e.display)
  | .ok a => body a

/-- `addr.parse().context("invalid address")?`, and what is done with the address. -/
def withAddress (addr : String) (body : DeviceId → Main) : Main :=
  match DeviceId.fromStr addr with
  | .error _ => return some (.error "invalid address")
  | .ok id => body id

/-- A list of addresses, all of them or none. -/
def parseIds : List String → Except String (List DeviceId)
  | [] => .ok []
  | a :: addrs =>
    match DeviceId.fromStr a with
    | .error _ => .error "invalid address"
    | .ok id => (parseIds addrs).map (id :: ·)

def printLines : List String → Main
  | [] => return some (.ok ())
  | line :: lines => do
    println' line
    printLines lines

/-- The line that is printed for an item of a batch. -/
def itemLine (item : PairItem) : String :=
  let status := match item.outcome with
    | .ok _ => "paired"
    | .error e => "failed (" ++ e.display ++ ")"
  "  " ++ item.id.display ++ " -> " ++ status ++ " (" ++ item.attempts.repr ++ " attempt(s))"

def printItems (items : List PairItem) : Main := printLines (items.map itemLine)

/-- `Path::file_name`: the last part of the path, unless it goes up. -/
def fileName (path : String) : Option String :=
  match ((path.toList.splitOn '/').filter fun part => part ≠ [] ∧ part ≠ ['.']).getLast? with
  | none => none
  | some part => if part = ['.', '.'] then none else some (String.ofList part)

/-- Parse an address and set it, if the backend can do that. -/
def spoofLocal (capabilities : Capabilities) (addr : String) :
    Program mainCalls (Except String Unit) :=
  match BdAddr.fromStr addr with
  | .error _ => return .error "invalid spoof address"
  | .ok addr =>
    if ¬ capabilities.canSpoofAddress then
      return .error ("the `" ++ capabilities.kind.name ++
        "` backend cannot spoof a local address — use --backend bluez (Linux) or --backend mock")
    else do
      match ← call (.setLocalAddress addr) with
      | .error _ => return .error ("setting local address to " ++ addr.display)
      | .ok () => return .ok ()

def acceptBanner (window : UInt64) : String :=
  "Discoverable + pairable for " ++ window.toNat.repr ++ "s — pair devices to this adapter now…"

def run (env : Env) (capabilities : Capabilities) : Command → Main
  | .scan =>
    bail (dumpInRange env capabilities anyDevice) fun report => do
      call (.stdout report)
      return some (.ok ())
  | .pair addr =>
    withAddress addr fun id =>
      bail (Pairing.pairDevice (mainOps capabilities).toPairingOps id defaultPair) fun report =>
        printLines
          ["paired " ++ id.display ++ " in " ++ report.attempts.repr ++ " attempt(s)"]
  | .pairMany addrs =>
    match parseIds addrs with
    | .error e => return some (.error e)
    | .ok ids => do
      match ← Pairing.pairDevices (mainOps capabilities).toPairingOps env.picks ids
          defaultBatch with
      | none => return none
      | some items => printItems items
  | .pairAll => do
    match ← Pairing.pairDiscovered (mainOps capabilities) env.picks anyDevice defaultBatch with
    | none => return none
    | some (.error e) => return some (.error e.display)
    | some (.ok items) => printItems items
  | .accept window => do
    println' (acceptBanner window)
    let options : InboundPairing :=
      { window := Duration.fromSecs window.toNat, maxDevices := none }
    bail (call (.acceptPairings options)) fun bonded =>
      printLines (("bonded " ++ bonded.length.repr ++ " device(s):") ::
        bonded.map fun id => "  " ++ id.display)
  | .send addr file =>
    withAddress addr fun id => do
      match ← call (.readFile file) with
      | .error _ => return some (.error ("reading " ++ file))
      | .ok bytes =>
        let name := (fileName file).getD "file.bin"
        bail ((Upload.uploadFile id { name, mimeType := none, bytes } defaultUpload).translate
            ofLink linkReply) fun receipt =>
          printLines ["sent " ++ receipt.objectName ++ " (" ++ receipt.bytes.toNat.repr ++
            " bytes) at " ++ env.throughput receipt ++ " B/s"]
  | .gatt op => (gatt op).translate ofGatt gattReply
  | .spoof addr => do
    match ← spoofLocal capabilities addr with
    | .error e => return some (.error e)
    | .ok () =>
      bail (call .adapter) fun address =>
        printLines ["local adapter address set to " ++ address.display]
  | .doctor => do
    -- the scan is there for its events
    let _ ← dumpInRange env capabilities anyDevice
    let report ← call .report
    printLines [report]

/-! ### The start -/

/-- What the mock backend can do. -/
def mockCapabilities : Capabilities :=
  { kind := .mock, maxConcurrentPairings := 2 ^ 64 - 1, canSpoofAddress := true }

/-- Open the backend that was chosen, unless it was not compiled in. -/
def openBackend (env : Env) (choice : Backend) :
    Program mainCalls (Except String Capabilities) :=
  match choice with
  | .mock => return .ok mockCapabilities
  | .bluez =>
    if env.bluez then do
      let opened ← call (.openBackend .bluez)
      return opened.mapError TransportError.display
    else return .error "this build has no `bluez` backend — rebuild with `--features bluez`"
  | .btleplug =>
    if env.btleplug then do
      let opened ← call (.openBackend .btleplug)
      return opened.mapError TransportError.display
    else return .error "this build has no `btleplug` backend — rebuild with `--features btleplug`"

end Cli
end Pax
