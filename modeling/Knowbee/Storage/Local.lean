import Knowbee.Lib.RecordStore
import Knowbee.Rust

/-!
# The local storage file

`atomic_local_storage.rs`: the storage behind every repository is one file, an
envelope with a revision, the entries in hexadecimal and a digest over both.
Writers hold the lock file; a write replaces the file by renaming a temporary
one, and is reported once the directory is synced.  Readers take no lock.

Clients are the repositories and operators at work on the file.  A machine steps
them one file operation at a time; whether that operation succeeds, when a
process ends and what a loss of power leaves of renames that are not synced is
up to the events.
-/

namespace Knowbee

namespace AtomicLocalStorage

def localStorageSchemaVersion : Nat := 1

inductive LocalStorageBuildError where
  | invalidLimit | unsafePath | tooLarge | unsupportedVersion | corrupt | unavailable

structure LocalStorageEnvelope where
  (schemaVersion revision : Nat)
  entries : List String
  digest : String
  deriving DecidableEq

/-- The JSON form of envelopes, with the probe of their schema version. -/
abbrev EnvelopeCodec (Raw : Type) : Type :=
  ProbedCodec LocalStorageEnvelope Raw Nat LocalStorageEnvelope.schemaVersion

abbrev Entry : Type := List UInt8

def hexDigit (value : Nat) : Char :=
  if value < 10 then Char.ofNat (48 + value) else Char.ofNat (87 + value)

def hexValue (digit : Char) : Nat :=
  if digit.toNat ≤ 57 then digit.toNat - 48
  else if digit.toNat ≤ 70 then digit.toNat - 55
  else digit.toNat - 87

def encodeHex (bytes : Entry) : String :=
  String.ofList (bytes.flatMap fun byte => [hexDigit (byte.toNat / 16), hexDigit (byte.toNat % 16)])

/-- The loop of `decode_hex` over pairs of digits. -/
def decodeHexPairs : List Char → Option Entry
  | [] => some []
  | [_] => none
  | high :: low :: rest =>
    if isAsciiHexdigit high && isAsciiHexdigit low then
      (decodeHexPairs rest).map (UInt8.ofNat (hexValue high * 16 + hexValue low) :: ·)
    else none

def decodeHex (value : String) : Option Entry := decodeHexPairs value.toList

def envelopeDigest (sha256 : Sha256) (revision : Nat) (entries : List String) : String :=
  sha256.prefixed (entries.foldl
    (fun bytes entry => bytes ++ toBeBytes entry.utf8ByteSize ++ entry.toUTF8)
    (toBeBytes revision))

section Codec

variable {Raw : Type} (codec : EnvelopeCodec Raw) (sha256 : Sha256)

def validateEnvelopeBytes (maxFileBytes : Nat) (bytes : Raw) :
    Except LocalStorageBuildError (Nat × List Entry) :=
  if maxFileBytes < codec.length bytes then .error .tooLarge
  else
    match codec.probe bytes with
    | none => .error .corrupt
    | some version =>
      if version ≠ localStorageSchemaVersion then .error .unsupportedVersion
      else
        match codec.parse bytes with
        | none => .error .corrupt
        | some envelope =>
          if envelope.revision = 0 ∨
              envelope.digest ≠ envelopeDigest sha256 envelope.revision envelope.entries then
            .error .corrupt
          else
            match envelope.entries.mapM decodeHex with
            | none => .error .corrupt
            | some entries => .ok (envelope.revision, entries)

def encodeEnvelope (revision : Nat) (entries : List Entry) : Except LocalStorageBuildError Raw :=
  let entries := entries.map encodeHex
  match codec.print {
      schemaVersion := localStorageSchemaVersion
      revision
      entries
      digest := envelopeDigest sha256 revision entries } with
  | none => .error .unavailable
  | some bytes => .ok bytes

/-- `read_envelope` of a file that can be opened, if it is there. -/
def readEnvelope (maxFileBytes : Nat) (file : Option Raw) :
    Except LocalStorageBuildError (Option (Nat × List Entry)) :=
  match file with
  | none => .ok none
  | some bytes => (validateEnvelopeBytes codec sha256 maxFileBytes bytes).map some

end Codec

/-- What a client read or wrote: the revision with its entries, `none` for a
file that is missing, and how often a rollback or a loss of power had changed
the file by then. -/
structure Sighting where
  (epoch revision : Nat)
  entries : Option (List Entry)
  deriving DecidableEq

inductive Call where
  | compareAndSwap (expected : Nat) (entries : List Entry)
  | createBackup (name : String)
  | rollbackFromBackup (name : String)
  deriving DecidableEq

/-- How far a client got with its operation.  A swap that has renamed keeps in
mind what it replaced. -/
inductive Phase (Raw : Type) where
  | idle
  | locked (call : Call)
  | swapReady (expected : Nat) (entries : List Entry) (encoded : Raw)
  | swapRenamed (expected : Nat) (entries : List Entry) (replaced : Nat × Option (List Entry))
  | backupReady (name : String) (bytes : Raw)
  | rollbackReady (backup : Raw)
  | rollbackRenamed
  deriving DecidableEq

structure Client (Raw : Type) where
  phase : Phase Raw
  seen : List Sighting

inductive LocalStorageBackupResult where
  | created | missing | alreadyExists | unavailable
  deriving DecidableEq

inductive LocalStorageRollbackResult where
  | restored | invalidBackup | unavailable
  deriving DecidableEq

inductive Seen where
  | nothing
  | read (result : CasStore.Read Entry)
  | swapped (result : CasStore.Write)
  | backedUp (result : LocalStorageBackupResult)
  | rolledBack (result : LocalStorageRollbackResult)
  deriving DecidableEq

/-- The file and the states it may be found in after a loss of power, the
backups, the holder of the lock, and how often a rollback or a loss of power
changed the file. -/
structure State (Raw : Type) where
  file : Option Raw
  recoverable : List (Option Raw)
  backups : String → Option Raw
  lock : Option Nat
  epoch : Nat
  clients : Nat → Client Raw

inductive Event where
  | read (client : Nat) (readable : Bool)
  | call (client : Nat) (call : Call)
  | proceed (client : Nat) (succeeds : Bool)
  | crash (client : Nat)
  | powerLoss (left : Nat)

namespace State

variable {Raw : Type}

def fresh (file : Option Raw) (backups : String → Option Raw) : State Raw where
  file := file
  recoverable := [file]
  backups := backups
  lock := none
  epoch := 0
  clients := fun _ => ⟨.idle, []⟩

def setPhase (state : State Raw) (client : Nat) (phase : Phase Raw) : State Raw :=
  { state with
    clients := Function.update state.clients client { state.clients client with phase := phase } }

def see (state : State Raw) (client revision : Nat) (entries : Option (List Entry)) : State Raw :=
  let sighting : Sighting := ⟨state.epoch, revision, entries⟩
  { state with
    clients := Function.update state.clients client
      { state.clients client with seen := sighting :: (state.clients client).seen } }

/-- The client gives the lock back and is done. -/
def release (state : State Raw) (client : Nat) : State Raw :=
  { state.setPhase client .idle with lock := none }

/-- A rename puts these bytes in the place of the file. -/
def rename (state : State Raw) (bytes : Raw) : State Raw :=
  { state with file := some bytes, recoverable := state.recoverable ++ [some bytes] }

/-- The file becomes an older one, if it is not that one already. -/
def putBack [DecidableEq Raw] (state : State Raw) (file : Option Raw) : State Raw :=
  { state with
    file := file
    epoch := if file = state.file then state.epoch else state.epoch + 1 }

/-- The directory is synced: only the file as it is can be found again. -/
def sync (state : State Raw) : State Raw := { state with recoverable := [state.file] }

end State

section Step

variable {Raw : Type} [DecidableEq Raw] (codec : EnvelopeCodec Raw) (sha256 : Sha256)
  (maxFileBytes : Nat)

variable (state : State Raw)

/-- What a readable file holds; a file that is missing has the revision 0. -/
def stored : Option (Nat × Option (List Entry)) :=
  match readEnvelope codec sha256 maxFileBytes state.file with
  | .error _ => none
  | .ok none => some (0, none)
  | .ok (some (revision, entries)) => some (revision, some entries)

def read (state : State Raw) (client : Nat) (readable : Bool) : State Raw × Seen :=
  match stored codec sha256 maxFileBytes state, readable with
  | some (revision, none), true => (state.see client revision none, .read (.missing revision))
  | some (revision, some entries), true =>
    (state.see client revision (some entries), .read (.records revision entries))
  | _, _ => (state, .read .unavailable)

/-- The start of an operation: a swap checks the size of its entries, then every
operation waits for the lock. -/
def start (client : Nat) (call : Call) : State Raw × Seen :=
  match call with
  | .compareAndSwap expected entries =>
    if maxFileBytes / 2 < (entries.map List.length).sum then (state, .swapped .unavailable)
    else if state.lock.isSome then (state, .nothing)
    else
      ({ state.setPhase client (.locked (.compareAndSwap expected entries)) with
        lock := some client }, .nothing)
  | .createBackup _ | .rollbackFromBackup _ =>
    if state.lock.isSome then (state, .nothing)
    else ({ state.setPhase client (.locked call) with lock := some client }, .nothing)

/-- The swap under the lock, up to the temporary file. -/
def checkSwap (client expected : Nat) (entries : List Entry) (succeeds : Bool) : State Raw × Seen :=
  match stored codec sha256 maxFileBytes state, succeeds with
  | some (revision, _), true =>
    if revision ≠ expected then (state.release client, .swapped .conflict)
    else if u64Max < expected + 1 then (state.release client, .swapped .unavailable)
    else
      match encodeEnvelope codec sha256 (expected + 1) entries with
      | .error _ => (state.release client, .swapped .unavailable)
      | .ok encoded =>
        if maxFileBytes < codec.length encoded then (state.release client, .swapped .unavailable)
        else (state.setPhase client (.swapReady expected entries encoded), .nothing)
  | _, _ => (state.release client, .swapped .unavailable)

/-- `create_backup` under the lock, up to the temporary file. -/
def checkBackup (client : Nat) (name : String) (succeeds : Bool) : State Raw × Seen :=
  if (state.backups name).isSome then (state.release client, .backedUp .alreadyExists)
  else
    match state.file, succeeds with
    | none, true => (state.release client, .backedUp .missing)
    | some bytes, true =>
      match validateEnvelopeBytes codec sha256 maxFileBytes bytes with
      | .error _ => (state.release client, .backedUp .unavailable)
      | .ok _ => (state.setPhase client (.backupReady name bytes), .nothing)
    | _, false => (state.release client, .backedUp .unavailable)

/-- `rollback_from_backup` under the lock, up to the temporary file. -/
def checkRollback (client : Nat) (name : String) (succeeds : Bool) : State Raw × Seen :=
  match state.backups name, succeeds with
  | some backup, true =>
    match validateEnvelopeBytes codec sha256 maxFileBytes backup with
    | .error _ => (state.release client, .rolledBack .invalidBackup)
    | .ok _ => (state.setPhase client (.rollbackReady backup), .nothing)
  | _, _ => (state.release client, .rolledBack .invalidBackup)

def proceed (client : Nat) (succeeds : Bool) : State Raw × Seen :=
  match (state.clients client).phase with
  | .idle => (state, .nothing)
  | .locked (.compareAndSwap expected entries) =>
    checkSwap codec sha256 maxFileBytes state client expected entries succeeds
  | .locked (.createBackup name) => checkBackup codec sha256 maxFileBytes state client name succeeds
  | .locked (.rollbackFromBackup name) =>
    checkRollback codec sha256 maxFileBytes state client name succeeds
  | .swapReady expected entries encoded =>
    if succeeds then
      let replaced := (stored codec sha256 maxFileBytes state).getD (0, none)
      ((state.rename encoded).setPhase client (.swapRenamed expected entries replaced), .nothing)
    else (state.release client, .swapped .unavailable)
  | .swapRenamed expected entries _ =>
    if succeeds then
      ((state.sync.see client (expected + 1) (some entries)).release client,
        .swapped (.written (expected + 1)))
    else (state.release client, .swapped .unavailable)
  | .backupReady name bytes =>
    if succeeds then
      (({ state with backups := Function.update state.backups name (some bytes) } :
        State Raw).release client, .backedUp .created)
    else (state.release client, .backedUp .unavailable)
  | .rollbackReady backup =>
    if succeeds then
      (({ state.putBack (some backup) with
        recoverable := state.recoverable ++ [some backup] } : State Raw).setPhase client
          .rollbackRenamed, .nothing)
    else (state.release client, .rolledBack .unavailable)
  | .rollbackRenamed =>
    if succeeds then (state.sync.release client, .rolledBack .restored)
    else (state.release client, .rolledBack .unavailable)

/-- The process of a client ends, and with it what it knows and its lock. -/
def crash (client : Nat) : State Raw :=
  { state with
    lock := if state.lock = some client then none else state.lock
    clients := Function.update state.clients client ⟨.idle, []⟩ }

/-- All processes end, and the file is found in one of its recoverable
states. -/
def powerLoss (left : Nat) : State Raw :=
  let file := (state.recoverable[left]?).getD state.file
  { state.putBack file with
    recoverable := [file]
    lock := none
    clients := fun _ => ⟨.idle, []⟩ }

def step (event : Event) : State Raw × Seen :=
  match event with
  | .read client readable =>
    match (state.clients client).phase with
    | .idle => read codec sha256 maxFileBytes state client readable
    | _ => (state, .nothing)
  | .call client call =>
    match (state.clients client).phase with
    | .idle => start maxFileBytes state client call
    | _ => (state, .nothing)
  | .proceed client succeeds => proceed codec sha256 maxFileBytes state client succeeds
  | .crash client => (crash state client, .nothing)
  | .powerLoss left => (powerLoss state left, .nothing)

abbrev run : State Raw → List Event → State Raw := Machine.run (step codec sha256 maxFileBytes)

end Step

end AtomicLocalStorage

end Knowbee
