import Pax.Framework.Retry
import Pax.Transport.Backend

/-!
# The upload workflow

`pax-transfer/src/upload.rs`: connect, push one or many files, each with retries, and disconnect.
The push of a file is retried if it failed with `TransferFailed`, and with no other error. What
disconnecting comes to is ignored.
-/

namespace Pax

/-- Tunables for an upload: how often a push is retried, and whether to disconnect afterwards. -/
structure UploadOptions where
  retries : UInt32
  disconnectAfter : Bool
  deriving DecidableEq, Repr

/-- A failed push is only retried if the transfer aborted. -/
def isFinalPush : TransportError → Bool
  | .transferFailed _ _ => false
  | _ => true

/-- What a push without attempts would return; there is always one, so that it is never seen. -/
def noAttemptsMade : TransportError := .transferFailed 0 "no attempts made"

section Upload

variable {σ : Type} (backend : BluetoothBackend σ)

/-- Push one file, retrying a transfer that aborts. -/
def pushWithRetries (conn : Connection) (file : OutboundFile) (retries : UInt32) :
    EStateM TransportError σ TransferReceipt := do
  let (receipt, _) ← Retry.retryFrom (backend.pushFile conn file) isFinalPush 0
    (saturatingSucc retries) noAttemptsMade
  return receipt

/-- Disconnect after a transfer, if that is asked for. The transfer's result stands. -/
def thenDisconnect {α : Type} (conn : Connection) (options : UploadOptions)
    (transfer : EStateM TransportError σ α) : EStateM TransportError σ α := fun s =>
  -- after a failure as well; only the state of the disconnect is kept
  let (result, s) := Outcome.split (transfer.run s)
  Outcome.ofExcept result
    (if options.disconnectAfter then (Outcome.split ((backend.disconnect conn).run s)).2 else s)

/-- Push a single file to a device: connect, push with retries, and disconnect. -/
def uploadFile (target : DeviceId) (file : OutboundFile) (options : UploadOptions) :
    EStateM TransportError σ TransferReceipt := do
  let conn ← backend.connect target
  thenDisconnect backend conn options (pushWithRetries backend conn file options.retries)

/-- The loop over the files, with the receipts so far; the first failure ends it. -/
def pushAll (conn : Connection) (retries : UInt32) :
    List OutboundFile → (receipts : List TransferReceipt) →
      EStateM TransportError σ (List TransferReceipt)
  | [], receipts => return receipts
  | file :: files, receipts => do
    -- the receipts of the files before a failure are dropped with it
    let receipt ← pushWithRetries backend conn file retries
    pushAll conn retries files (receipts ++ [receipt])

/-- Push several files over one connection, in order, up to the first that fails. -/
def uploadFiles (target : DeviceId) (files : List OutboundFile) (options : UploadOptions) :
    EStateM TransportError σ (List TransferReceipt) := do
  let conn ← backend.connect target
  thenDisconnect backend conn options (pushAll backend conn options.retries files [])

/-- Push bytes under a name, as a file with these contents. -/
def uploadBytes (target : DeviceId) (name : String) (bytes : List UInt8) (options : UploadOptions) :
    EStateM TransportError σ TransferReceipt :=
  uploadFile backend target { name, mimeType := none, bytes } options

variable {backend}

/-- The result of a push with retries is that of the retry loop, without the count of attempts. -/
theorem run_pushWithRetries (conn : Connection) (file : OutboundFile) (retries : UInt32) (s : σ) :
    Outcome.split ((pushWithRetries backend conn file retries).run s)
      = ((Outcome.split ((Retry.retryFrom (backend.pushFile conn file) isFinalPush 0
            (saturatingSucc retries) noAttemptsMade).run s)).1.map Prod.fst,
          (Outcome.split ((Retry.retryFrom (backend.pushFile conn file) isFinalPush 0
            (saturatingSucc retries) noAttemptsMade).run s)).2) := by
  rw [pushWithRetries, EStateM.run_bind]
  cases (Retry.retryFrom (backend.pushFile conn file) isFinalPush 0 (saturatingSucc retries)
    noAttemptsMade).run s <;> rfl

/-- Disconnecting leaves the result of the transfer alone, and may only change the state. -/
theorem run_thenDisconnect {α : Type} (conn : Connection) (options : UploadOptions)
    (transfer : EStateM TransportError σ α) (s : σ) :
    Outcome.split ((thenDisconnect backend conn options transfer).run s)
      = ((Outcome.split (transfer.run s)).1,
          if options.disconnectAfter then
            (Outcome.split ((backend.disconnect conn).run (Outcome.split (transfer.run s)).2)).2
          else (Outcome.split (transfer.run s)).2) := by
  unfold thenDisconnect EStateM.run
  rw [Outcome.split_ofExcept]

end Upload

end Pax
