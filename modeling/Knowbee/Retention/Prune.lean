import Knowbee.Retention.CompletedRecords
import Knowbee.Retention.ResponseArchive

/-!
# Linked retention

`durable_retention.rs`: completed records that have expired are removed, oldest first, each with
its archived response once no other record refers to it.  What is left of the removal limit goes
to archived responses that no record refers to, unless the effect of some reservation is unknown.
-/

namespace Knowbee

open CasStore DurableRecordRepository

structure DurableRetentionPolicy where
  nowMs : Int
  (minimumCompletedToRetain maxRemovals : Nat)

structure RetentionCounts where
  (receiptsRemoved responsesRemoved orphanResponsesRemoved : Nat)
  deriving DecidableEq

inductive DurableRetentionResult where
  | completed (counts : RetentionCounts)
  | unavailable (counts : RetentionCounts)
  deriving DecidableEq

def DurableRetentionResult.counts : DurableRetentionResult → RetentionCounts
  | completed counts => counts
  | unavailable counts => counts

/-- The two repositories before their storages. -/
structure RetentionStores (Raw : Type) where
  recordStorage : Storage Raw
  records : Cache DurableCompletedRecords
  responseStorage : Storage ByteArray
  responses : Cache ArchiveRecords
  fates : List Fate

namespace LinkedDurableRetention

variable {Raw Value Attempt : Type}

section Steps

variable (codec : DurableRecordCodec Raw) (json : ResponseJson Value Attempt)

/-- `records.remove_terminal_exact`. -/
def removeRecord (stores : RetentionStores Raw) (key : CompletedRequestKey)
    (responseReference : String) : RetentionStores Raw × RetentionRecordRemoveResult :=
  match (removeTerminalExact key responseReference
      stores.records.records).execute (encode codec)
      (stores.fates.headD .unavailable) stores.recordStorage stores.records with
  | (recordStorage, records, result) =>
    ({ stores with recordStorage, records, fates := stores.fates.tail }, result)

/-- `responses.remove_exact`. -/
def removeResponse (stores : RetentionStores Raw) (responseReference : String) :
    RetentionStores Raw × RetentionResponseRemoveResult :=
  match (ResponseArchiveRepository.removeExact responseReference
      stores.responses.records).execute (ResponseArchiveRepository.encode json)
      (stores.fates.headD .unavailable) stores.responseStorage stores.responses with
  | (responseStorage, responses, result) =>
    ({ stores with responseStorage, responses, fates := stores.fates.tail }, result)

end Steps

def referencedResponses (records : DurableCompletedRecords) : List String :=
  (retentionRecords records).map RetentionRecord.responseReference

def oldestFirst (left right : RetentionRecord) : Bool :=
  left.finalizedAtMs < right.finalizedAtMs ||
    (left.finalizedAtMs == right.finalizedAtMs &&
      left.key.storageKey ≤ right.key.storageKey)

def candidates (policy : DurableRetentionPolicy) (snapshot : List RetentionRecord) :
    List RetentionRecord :=
  let removableCount := snapshot.length - policy.minimumCompletedToRetain
  (((snapshot.mergeSort oldestFirst).filter fun record => record.expiresAt ≤ policy.nowMs).take
    removableCount).take policy.maxRemovals

/-- The loop over the candidates, which ends early with the counts so far. -/
def removeCandidates (codec : DurableRecordCodec Raw) (json : ResponseJson Value Attempt) :
    List RetentionRecord → RetentionCounts → RetentionStores Raw →
      RetentionStores Raw × Except RetentionCounts RetentionCounts
  | [], counts, stores => (stores, .ok counts)
  | candidate :: rest, counts, stores =>
    match removeRecord codec stores candidate.key candidate.responseReference with
    | (stores, .removed) =>
      let counts := { counts with receiptsRemoved := counts.receiptsRemoved + 1 }
      if candidate.responseReference ∈ referencedResponses stores.records.records then
        removeCandidates codec json rest counts stores
      else
        match removeResponse json stores candidate.responseReference with
        | (stores, .removed) =>
          removeCandidates codec json rest
            { counts with responsesRemoved := counts.responsesRemoved + 1 } stores
        | (stores, .missing) => removeCandidates codec json rest counts stores
        | (stores, .unavailable) => (stores, .error counts)
    | (stores, _) => (stores, .error counts)

/-- The loop over archived responses that no record refers to. -/
def removeOrphans (json : ResponseJson Value Attempt) :
    List String → RetentionCounts → RetentionStores Raw →
      RetentionStores Raw × DurableRetentionResult
  | [], counts, stores => (stores, .completed counts)
  | orphan :: rest, counts, stores =>
    match removeResponse json stores orphan with
    | (stores, .removed) =>
      removeOrphans json rest
        { counts with orphanResponsesRemoved := counts.orphanResponsesRemoved + 1 } stores
    | (stores, .missing) => removeOrphans json rest counts stores
    | (stores, .unavailable) => (stores, .unavailable counts)

def prune (codec : DurableRecordCodec Raw) (json : ResponseJson Value Attempt)
    (policy : DurableRetentionPolicy) (stores : RetentionStores Raw) :
    RetentionStores Raw × DurableRetentionResult :=
  let snapshot := retentionRecords stores.records.records
  match removeCandidates codec json (candidates policy snapshot) ⟨0, 0, 0⟩ stores with
  | (stores, .error counts) => (stores, .unavailable counts)
  | (stores, .ok counts) =>
    if counts.receiptsRemoved < policy.maxRemovals ∧
        hasUnknownReservations stores.records.records = false then
      let referenced := referencedResponses stores.records.records
      let archiveReferences := stores.responses.records.responses.entries.map Prod.fst
      removeOrphans json
        ((archiveReferences.filter fun reference => reference ∉ referenced).take
          (policy.maxRemovals - counts.receiptsRemoved)) counts stores
    else (stores, .completed counts)

end LinkedDurableRetention

end Knowbee
