import Knowbee.Artifact.AssemblerRuns
import Knowbee.Artifact.Consumer

/-!
# Frames from one language to the other

The node accepts references with upper case digits and any clock value; its
consumer in TypeScript does not.  So the frames of a transfer are read, and put
together to the bytes they were cut from, exactly when the reference is in lower
case and the expiry is a safe integer (`frames_agree_iff`).
-/

namespace Knowbee

open List ArtifactChunkHeader ArtifactChunk

/-- Digests are printed in lower case, as by `format!("{:x}")` and
`digest("hex")`. -/
def LowerCase (sha256 : Sha256) : Prop :=
  ∀ bytes, ((sha256 bytes).text.toList.all fun c =>
    (97 ≤ c.toNat && c.toNat ≤ 102) || (48 ≤ c.toNat && c.toNat ≤ 57)) = true

/-- What `serde_json` prints is read back by both sides; where only the expiry of a header
may be no safe integer, `JSON.parse` rounds one that is none to another. -/
structure ReadsBack (json : ArtifactChunkHeaderJson) (parse : JsonParse) : Prop where
  rust {header : ArtifactChunkHeader} {text : List UInt8} :
    json.toVec header = some text → json.fromSlice text = some header
  typescript {header : ArtifactChunkHeader} {text : List UInt8} :
    json.toVec header = some text → header.validate = .ok () → header.totalSize ≤ 2 ^ 53 - 1 →
      ∃ expiresAtMs, (header.expiresAtMs ≤ 2 ^ 53 - 1 → expiresAtMs = header.expiresAtMs) ∧
        (2 ^ 53 - 1 < header.expiresAtMs → 2 ^ 53 - 1 < expiresAtMs) ∧
        parse text = some (.record { header with expiresAtMs }.toJson)

def Portable (binding : ArtifactBinding) : Prop :=
  isCaptureReference binding.artifactRef = true ∧ binding.expiresAtMs ≤ 2 ^ 53 - 1

instance (binding : ArtifactBinding) : Decidable (Portable binding) :=
  inferInstanceAs (Decidable (_ ∧ _))

lemma utf8Len_of_lower {digits : List Char} (lower : (digits.all fun c =>
    (97 ≤ c.toNat && c.toNat ≤ 102) || (48 ≤ c.toNat && c.toNat ≤ 57)) = true) :
    utf8Len digits = digits.length := by
  induction digits with
  | nil => rfl
  | cons first rest ih =>
    simp only [all_cons, Bool.and_eq_true] at lower
    obtain ⟨here, later⟩ := lower
    have one : first.utf8Size = 1 := by
      simp only [Bool.or_eq_true, Bool.and_eq_true, decide_eq_true_eq, Char.toNat] at here
      have small : first.val ≤ 0x7f := by
        rw [UInt32.le_iff_toNat_le]
        simp only [UInt32.reduceToNat]
        omega
      exact Char.utf8Size_eq_one_iff.mpr small
    have more := ih later
    simp only [utf8Len, map_cons, sum_cons, length_cons, one] at more ⊢
    omega

lemma isHashReference_digest {sha256 : Sha256} (lower : LowerCase sha256)
    (bytes : List UInt8) : isHashReference (digest sha256 bytes) = true := by
  have digits := lower ⟨bytes.toArray⟩
  have length : (sha256 ⟨bytes.toArray⟩).text.toList.length = 64 := by
    rw [← utf8Len_of_lower digits, (sha256 _).size]
  have starts : "sha256:".toList.isPrefixOf
      ("sha256:".toList ++ (sha256 ⟨bytes.toArray⟩).text.toList) = true :=
    isPrefixOf_iff_prefix.mpr (prefix_append _ _)
  simp [isHashReference, digest, Sha256.prefixed, String.toList_append, length, digits, Bool.and_self]

lemma isConsumerIdentity_of_bounded {value : String} (bounded : isBoundedIdentity value = true) :
    isConsumerIdentity value = true := by
  simp only [isBoundedIdentity, isBoundedNonBlank, Bool.and_eq_true, Bool.not_eq_true',
    decide_eq_true_eq] at bounded
  obtain ⟨filled, size⟩ := bounded
  simp only [isConsumerIdentity, Bool.and_eq_true, Bool.not_eq_true', decide_eq_true_eq]
  refine ⟨?_, size⟩
  by_contra empty
  have none : value = "" := String.isEmpty_iff.mp (by simpa using empty)
  rw [none] at filled
  exact absurd filled (by decide)

lemma decodeHeader_beyond {header : ArtifactChunkHeader} (bytes : List UInt8)
    (beyond : 2 ^ 53 - 1 < header.expiresAtMs) : decodeHeader header.toJson bytes = none := by
  have late : safePositive header.expiresAtMs = false := by
    simp only [safePositive, isSafeInteger, Bool.and_eq_false_iff, decide_eq_false_iff_not]
    omega
  change (if _ then none else some _) = none
  rw [if_pos]
  simp only [late, Bool.not_false, true_or, or_true]

/-- A valid header of a size the consumer can count is read back, if its
reference and its expiry are portable. -/
lemma decodeHeader_toJson {header : ArtifactChunkHeader} {bytes : List UInt8}
    (valid : header.validate = .ok ()) (small : header.totalSize ≤ 2 ^ 53 - 1)
    (payload : isHashReference header.payloadDigest = true)
    (full : isHashReference header.fullDigest = true) (size : bytes.length = header.chunkSize) :
    decodeHeader header.toJson bytes =
      if isCaptureReference header.artifactRef = true ∧ header.expiresAtMs ≤ 2 ^ 53 - 1
      then some header else none := by
  obtain ⟨version, ⟨transfer, -, requester, request, -, -⟩, index, most, positive, bounded, fits,
    expires⟩ := validate_ok valid
  have transfer := isConsumerIdentity_of_bounded transfer
  have requester := isConsumerIdentity_of_bounded requester
  have request := isConsumerIdentity_of_bounded request
  simp only [maxChunkCount] at most
  simp only [maxChunkPayloadBytes] at bounded
  simp only [artifactChunkSchemaVersion] at version
  by_cases safe : header.expiresAtMs ≤ 2 ^ 53 - 1
  · by_cases reference : isCaptureReference header.artifactRef = true
    · rw [if_pos ⟨reference, safe⟩]
      change (if _ then none else some header) = _
      rw [if_neg]
      simp only [transfer, requester, request, payload, full, reference, safePositive,
        isSafeInteger, Bool.not_true, Bool.false_eq_true, Bool.not_eq_true', Bool.and_eq_false_iff,
        decide_eq_false_iff_not, false_or]
      omega
    · have upper : isCaptureReference header.artifactRef = false := by simpa using reference
      rw [if_neg fun portable => reference portable.1]
      change (if _ then none else some header) = _
      rw [if_pos]
      simp only [upper, Bool.not_false, true_or, or_true]
  · rw [if_neg fun portable => safe portable.2, decodeHeader_beyond bytes (by omega)]

lemma u32FromBeBytes_toBeBytes {value : Nat} (word : value < 2 ^ 32) :
    u32FromBeBytes (u32ToBeBytes value) = value := by
  simp only [u32FromBeBytes, u32ToBeBytes, foldl_cons, foldl_nil, UInt8.toNat_ofNat']
  omega

variable {chunk : ArtifactChunk}

lemma encodeArtifactChunkFrame_ok {json : ArtifactChunkHeaderJson} {frame : List UInt8}
    (encoded : encodeArtifactChunkFrame json chunk = .ok frame) :
    chunk.header.validate = .ok () ∧ chunk.payload.length = chunk.header.chunkSize ∧
      ∃ text, json.toVec chunk.header = some text ∧ 0 < text.length ∧ text.length ≤ 65536 ∧
        frame = artifactChunkFrameMagic ++ u32ToBeBytes text.length ++ text ++ chunk.payload := by
  unfold encodeArtifactChunkFrame at encoded
  cases valid : chunk.header.validate with
  | error reason => simp [valid, bind, Except.bind] at encoded
  | ok =>
    simp only [valid, bind, Except.bind] at encoded
    split_ifs at encoded with size
    cases printed : json.toVec chunk.header with
    | none => simp [printed] at encoded
    | some text =>
      simp only [printed] at encoded
      split_ifs at encoded with length
      cases encoded
      simp only [not_or, not_not, not_lt] at size length
      refine ⟨rfl, size.1, text, rfl, ?_, length.2, rfl⟩
      exact length_pos_iff.mpr (by simpa using length.1)

abbrev frameOf (text payload : List UInt8) : List UInt8 :=
  artifactChunkFrameMagic ++ u32ToBeBytes text.length ++ text ++ payload

lemma frameOf_parts (text payload : List UInt8) (bounded : text.length ≤ 65536) :
    (frameOf text payload).length = 8 + text.length + payload.length ∧
      (frameOf text payload).take 4 = artifactChunkFrameMagic ∧
      u32FromBeBytes (((frameOf text payload).drop 4).take 4) = text.length ∧
      ((frameOf text payload).drop 8).take text.length = text ∧
      (frameOf text payload).drop (8 + text.length) = payload := by
  have rest : (frameOf text payload).drop 8 = text ++ payload := rfl
  refine ⟨?_, rfl, u32FromBeBytes_toBeBytes (by omega), ?_, ?_⟩
  · simp only [frameOf, length_append, artifactChunkFrameMagic, u32ToBeBytes,
      length_cons, length_nil]
  · rw [rest, take_left]
  · rw [← drop_drop, rest, drop_left]

lemma encodeArtifactChunkFrame_of {json : ArtifactChunkHeaderJson} {sha256 : Sha256}
    {text : List UInt8} (checked : chunk.Checked sha256)
    (prints : json.toVec chunk.header = some text)
    (length : 0 < text.length ∧ text.length ≤ 65536) :
    encodeArtifactChunkFrame json chunk = .ok (frameOf text chunk.payload) := by
  obtain ⟨-, valid, size, -⟩ := fromUntrusted_ok checked
  obtain ⟨-, -, -, -, -, most, -, -⟩ := validate_ok valid
  have fits : ¬(chunk.payload.length ≠ chunk.header.chunkSize ∨
      maxChunkPayloadBytes < chunk.payload.length) := by omega
  have printed : ¬(text.isEmpty ∨ maxChunkHeaderBytes < text.length) := by
    rw [isEmpty_iff_length_eq_zero]
    simp only [maxChunkHeaderBytes]
    omega
  simp only [encodeArtifactChunkFrame, valid, bind, Except.bind, if_neg fits, prints,
    if_neg printed]
  rfl

lemma decodeArtifactChunkFrame_encode {json : ArtifactChunkHeaderJson} {sha256 : Sha256}
    {frame : List UInt8}
    (reads : ∀ text, json.toVec chunk.header = some text → json.fromSlice text = some chunk.header)
    (checked : chunk.Checked sha256) (encoded : encodeArtifactChunkFrame json chunk = .ok frame) :
    decodeArtifactChunkFrame json sha256 frame = .ok chunk := by
  obtain ⟨valid, size, text, printed, filled, bounded, rfl⟩ := encodeArtifactChunkFrame_ok encoded
  obtain ⟨-, -, -, -, positive, most, -, -⟩ := validate_ok valid
  obtain ⟨length, magic, word, header, payload⟩ := frameOf_parts text chunk.payload bounded
  have carries : ¬(chunk.payload.isEmpty ∨ maxChunkPayloadBytes < chunk.payload.length) := by
    rw [isEmpty_iff_length_eq_zero]
    omega
  unfold decodeArtifactChunkFrame
  rw [if_neg (by rw [length, magic]; simp; omega)]
  simp only [word, header, payload, length, maxChunkHeaderBytes]
  rw [if_neg (by omega), if_neg (by omega), if_neg carries]
  simp only [reads _ printed]
  exact checked

lemma decodeFrame_frame (parse : JsonParse) {text payload : List UInt8}
    (filled : 0 < text.length) (bounded : text.length ≤ 65536) (carries : 0 < payload.length) :
    decodeFrame parse (frameOf text payload) =
      match parse text with
      | some (.record fields) =>
        if !exact fields artifactChunkHeaderKeys then none
        else (decodeHeader fields payload).map fun header => (header, payload)
      | _ => none := by
  obtain ⟨length, magic, word, header, behind⟩ := frameOf_parts text payload bounded
  have ascii : asciiText artifactChunkFrameMagic = artifactChunkFrameMagic := rfl
  unfold decodeFrame
  rw [if_neg (by rw [length, magic, ascii]; simp; omega)]
  simp only [word, header, behind, length]
  refine (if_neg (by omega)).trans ?_
  cases parse text with
  | none => rfl
  | some value => cases value <;> rfl

section Decode

variable {sha256 : Sha256} {json : ArtifactChunkHeaderJson} {parse : JsonParse}
  {lifecycle : ArtifactLifecycle} {bytes : List UInt8} {config : ArtifactChunkConfig}
  {transferId : String} {count index : Nat} {chunks : List ArtifactChunk} {frame : List UInt8}

/-- The frame of a built chunk is read back exactly if its artifact is
portable. -/
lemma decodeFrame_built (lower : LowerCase sha256) (reads : ReadsBack json parse)
    (built : BuiltChunks sha256 lifecycle bytes config transferId count chunks)
    {chunk : ArtifactChunk} (member : chunk ∈ chunks)
    (encoded : encodeArtifactChunkFrame json chunk = .ok frame) :
    decodeFrame parse frame =
      if Portable lifecycle.binding then some (chunk.header, chunk.payload) else none := by
  obtain ⟨valid, size, text, printed, filled, bounded, rfl⟩ := encodeArtifactChunkFrame_ok encoded
  obtain ⟨-, same⟩ := built.mem_iff.mp member
  obtain ⟨-, -, -, -, positive, -, -, -⟩ := validate_ok valid
  have total : chunk.header.totalSize = lifecycle.binding.totalSize := by rw [same]; rfl
  have reference : chunk.header.artifactRef = lifecycle.binding.artifactRef := by rw [same]; rfl
  have expires : chunk.header.expiresAtMs = lifecycle.binding.expiresAtMs := by rw [same]; rfl
  have small : chunk.header.totalSize ≤ 2 ^ 53 - 1 := by
    have largest := lifecycle.binding.totalSize_le
    simp only [maxArtifactBytes] at largest
    omega
  have payload : isHashReference chunk.header.payloadDigest = true := by
    rw [same]
    exact isHashReference_digest lower _
  have full : isHashReference chunk.header.fullDigest = true := by
    have named : chunk.header.fullDigest = lifecycle.binding.fullDigest := by rw [same]; rfl
    rw [named, ← built.full]
    exact isHashReference_digest lower _
  have known (header : ArtifactChunkHeader) :
      exact header.toJson artifactChunkHeaderKeys = true := by
    simp [exact, toJson, artifactChunkHeaderKeys]
  obtain ⟨read, same_read, beyond, parsed⟩ := reads.typescript printed valid small
  rw [decodeFrame_frame parse filled bounded (by omega), parsed]
  simp only [known, Bool.not_true, Bool.false_eq_true, if_false]
  by_cases safe : chunk.header.expiresAtMs ≤ 2 ^ 53 - 1
  · rw [same_read safe, decodeHeader_toJson valid small payload full size, reference, expires]
    by_cases portable : Portable lifecycle.binding
    · rw [if_pos portable]
      exact congrArg (Option.map fun header => (header, chunk.payload)) (if_pos portable)
    · rw [if_neg portable]
      exact congrArg (Option.map fun header => (header, chunk.payload)) (if_neg portable)
  · rw [decodeHeader_beyond _ (beyond (by omega)),
      if_neg fun portable => safe (expires.trans_le portable.2)]
    rfl

end Decode

namespace YeonjangMqttV2ArtifactAssembler

def inputOf (binding : ArtifactBinding) (transferId : String) : ArtifactAssemblerInput where
  transferId := transferId
  __ := binding

section Gathering

variable {sha256 : Sha256} {parse : JsonParse} {lifecycle : ArtifactLifecycle}
  {bytes : List UInt8} {config : ArtifactChunkConfig} {transferId : String} {count index : Nat}
  {chunks : List ArtifactChunk} {assembler : YeonjangMqttV2ArtifactAssembler}
  {seen : Finset Nat} {frame : List UInt8} {nowMs laterMs : Int}

/-- What is kept of the chunk of an index. -/
abbrev piece (config : ArtifactChunkConfig) (bytes : List UInt8) (index : Nat) :
    Nat × List UInt8 :=
  (index * config.payloadBytes, chunkAt config.payloadBytes bytes index)

/-- The assembler goes on, and has gathered the chunks of these indices. -/
structure Gathering (config : ArtifactChunkConfig) (bytes : List UInt8) (count : Nat)
    (seen : Finset Nat) (assembler : YeonjangMqttV2ArtifactAssembler) : Prop where
  running : assembler.terminal = false
  expected : ∀ number, assembler.expectedCount = some number → number = count
  below : seen ⊆ Finset.range count
  holds : Gather.Holds (piece config bytes) seen assembler.chunks

lemma create_gathering (config : ArtifactChunkConfig) (bytes : List UInt8) (count : Nat) :
    Gathering config bytes count ∅ create :=
  ⟨rfl, nofun, Finset.empty_subset _, Gather.holds_empty _⟩

lemma orderedParts_eq (built : BuiltChunks sha256 lifecycle bytes config transferId count chunks)
    (left : Nat) :
    ∀ index, index + left = count →
      orderedParts ((List.range' index left).map fun index => (index, piece config bytes index))
        index (bytes.take (index * config.payloadBytes)).length
        (bytes.take (index * config.payloadBytes)) = some bytes := by
  obtain ⟨beyond, within⟩ := built.covers
  induction left with
  | zero =>
    rintro index rfl
    exact congrArg some (take_of_length_le beyond)
  | succ left ih =>
    intro index split
    have offset : (bytes.take (index * config.payloadBytes)).length =
        index * config.payloadBytes := by
      rw [length_take]
      exact Nat.min_eq_left (within index (by omega))
    have next := ih (index + 1) (by omega)
    rw [← take_chunkAt, length_append] at next
    simp only [range'_succ, map_cons, orderedParts, piece, offset, ne_eq,
      not_true_eq_false, or_self, if_false]
    rw [offset] at next
    exact next

lemma Gathering.accept (built : BuiltChunks sha256 lifecycle bytes config transferId count chunks)
    (gathering : Gathering config bytes count seen assembler) (below : index < count)
    (decoded : decodeFrame parse frame =
      some ((builtChunk sha256 lifecycle.binding transferId count config.payloadBytes bytes
        index).header, chunkAt config.payloadBytes bytes index))
    (inTime : nowMs < lifecycle.binding.expiresAtMs)
    (later : laterMs < lifecycle.binding.expiresAtMs) :
    ((insert index seen).card ≠ count → Gathering config bytes count (insert index seen)
      (assembler.accept parse sha256 (inputOf lifecycle.binding transferId) frame nowMs
        laterMs).1) ∧
      (assembler.accept parse sha256 (inputOf lifecycle.binding transferId) frame nowMs
        laterMs).2 = if (insert index seen).card = count then .complete bytes else .pending := by
  have time : ¬((inputOf lifecycle.binding transferId).expiresAtMs ≤ nowMs ∨
      lifecycle.binding.expiresAtMs ≤ laterMs) := by
    simp only [inputOf]
    omega
  have known : assembler.expectedCount.getD count = count := by
    cases told : assembler.expectedCount with
    | none => rfl
    | some number => exact gathering.expected number told
  have unchanged : (assembler.chunks.get? index).any (fun previous =>
      previous.1 ≠ index * config.payloadBytes ||
        previous.2 ≠ chunkAt config.payloadBytes bytes index) = false := by
    rw [gathering.holds index]
    by_cases member : index ∈ seen
    · simp [member]
    · simp [member]
  have holds := gathering.holds.insert index
  have size := holds.size
  have fits : insert index seen ⊆ Finset.range count :=
    Finset.insert_subset (Finset.mem_range.mpr below) gathering.below
  unfold YeonjangMqttV2ArtifactAssembler.accept
  simp only [gathering.running, Bool.false_eq_true, if_false, decoded, builtChunk, if_neg time]
  simp only [inputOf, ne_eq, not_true_eq_false, or_self, if_false, known, unchanged, size,
    Bool.false_eq_true]
  by_cases last : (insert index seen).card = count
  · have all := Gather.seen_eq_range fits last
    rw [all] at holds
    have ordered := orderedParts_eq built count 0 (Nat.zero_add count)
    rw [Nat.zero_mul, take_zero, ← range_eq_range'] at ordered
    simp only [last, not_true_eq_false, if_false, if_true, false_implies, true_and]
    simp only [complete, holds.entries, length_nil] at ordered ⊢
    simp only [ordered, built.size, built.full, ne_eq, not_true_eq_false, or_self, if_false]
  · simp only [last, not_false_eq_true, if_true, if_false, and_true, true_implies]
    refine ⟨rfl, fun number told => ?_, fits, holds⟩
    exact (Option.some.inj told).symm

abbrev Framed (json : ArtifactChunkHeaderJson) (chunks : List ArtifactChunk)
    (frames : List (List UInt8)) : Prop :=
  List.Forall₂ (fun chunk frame => encodeArtifactChunkFrame json chunk = .ok frame) chunks frames

/-- Delivered in time and in any order, the frames are taken until the last of
them gives the bytes. -/
def Assembles (parse : JsonParse) (sha256 : Sha256) (input : ArtifactAssemblerInput)
    (bytes : List UInt8) (frames : List (List UInt8)) : Prop :=
  ∀ (deliveries : List FrameDelivery) (delivery : FrameDelivery),
    (∀ one ∈ delivery :: deliveries, one.frame ∈ frames ∧ one.nowMs < input.expiresAtMs ∧
      one.laterMs < input.expiresAtMs) →
    (∃ frame ∈ frames, frame ∉ deliveries.map FrameDelivery.frame) →
    ((create.run parse sha256 input deliveries).accept parse sha256 input delivery.frame
        delivery.nowMs delivery.laterMs).2 =
      if ∀ frame ∈ frames, frame ∈ (delivery :: deliveries).map FrameDelivery.frame
      then .complete bytes else .pending

variable {json : ArtifactChunkHeaderJson} {frames : List (List UInt8)}

lemma framed_mem (built : BuiltChunks sha256 lifecycle bytes config transferId count chunks)
    (framed : Framed json chunks frames) :
    (∀ frame ∈ frames, ∃ index < count, encodeArtifactChunkFrame json (builtChunk sha256
      lifecycle.binding transferId count config.payloadBytes bytes index) = .ok frame) ∧
    ∀ index < count, ∃ frame ∈ frames, encodeArtifactChunkFrame json (builtChunk sha256
      lifecycle.binding transferId count config.payloadBytes bytes index) = .ok frame := by
  have pairs := forall₂_iff_get.mp framed
  obtain ⟨lengths, each⟩ := pairs
  rw [built.length] at lengths
  have encoded index (below : index < count) within :
      encodeArtifactChunkFrame json (builtChunk sha256 lifecycle.binding transferId count
        config.payloadBytes bytes index) = .ok (frames.get ⟨index, within⟩) := by
    have one := each index (by rw [built.length]; exact below) within
    simpa [built.each] using one
  constructor
  · intro frame member
    obtain ⟨⟨index, within⟩, rfl⟩ := mem_iff_get.mp member
    exact ⟨index, lengths ▸ within, encoded index (lengths ▸ within) within⟩
  · intro index below
    exact ⟨_, get_mem _ _, encoded index below (lengths ▸ below)⟩

def frameIndex (parse : JsonParse) (frame : List UInt8) : Nat :=
  (decodeFrame parse frame).elim 0 fun decoded => decoded.1.index

def indices (parse : JsonParse) (deliveries : List FrameDelivery) : Finset Nat :=
  (deliveries.map fun delivery => frameIndex parse delivery.frame).toFinset

/-- The frames of the chunks, each read with its own index. -/
structure Readable (parse : JsonParse) (sha256 : Sha256) (binding : ArtifactBinding)
    (transferId : String) (count : Nat) (config : ArtifactChunkConfig) (bytes : List UInt8)
    (frames : List (List UInt8)) : Prop where
  below {frame : List UInt8} : frame ∈ frames → frameIndex parse frame < count
  decoded {frame : List UInt8} : frame ∈ frames → decodeFrame parse frame =
    some ((builtChunk sha256 binding transferId count config.payloadBytes bytes
      (frameIndex parse frame)).header,
      chunkAt config.payloadBytes bytes (frameIndex parse frame))
  unique {frame other : List UInt8} : frame ∈ frames → other ∈ frames →
    frameIndex parse frame = frameIndex parse other → frame = other
  reached {index : Nat} : index < count → ∃ frame ∈ frames, frameIndex parse frame = index

lemma readable (lower : LowerCase sha256) (reads : ReadsBack json parse)
    (portable : Portable lifecycle.binding)
    (built : BuiltChunks sha256 lifecycle bytes config transferId count chunks)
    (framed : Framed json chunks frames) :
    Readable parse sha256 lifecycle.binding transferId count config bytes frames := by
  obtain ⟨each, reached⟩ := framed_mem built framed
  have read {index : Nat} {frame : List UInt8} (below : index < count)
      (encoded : encodeArtifactChunkFrame json (builtChunk sha256 lifecycle.binding transferId
        count config.payloadBytes bytes index) = .ok frame) :
      frameIndex parse frame = index ∧ decodeFrame parse frame =
        some ((builtChunk sha256 lifecycle.binding transferId count config.payloadBytes bytes
          index).header, chunkAt config.payloadBytes bytes index) := by
    have member : builtChunk sha256 lifecycle.binding transferId count config.payloadBytes bytes
        index ∈ chunks := built.mem_iff.mpr ⟨below, rfl⟩
    have decoded := decodeFrame_built lower reads built member encoded
    rw [if_pos portable] at decoded
    exact ⟨by rw [frameIndex, decoded]; rfl, decoded⟩
  refine ⟨?_, ?_, ?_, ?_⟩
  · intro frame member
    obtain ⟨index, below, encoded⟩ := each frame member
    rw [(read below encoded).1]
    exact below
  · intro frame member
    obtain ⟨index, below, encoded⟩ := each frame member
    obtain ⟨named, decoded⟩ := read below encoded
    rw [named]
    exact decoded
  · intro frame other member other_member same
    obtain ⟨index, below, encoded⟩ := each frame member
    obtain ⟨index', below', encoded'⟩ := each other other_member
    rw [(read below encoded).1, (read below' encoded').1] at same
    subst same
    exact Except.ok.inj (encoded.symm.trans encoded')
  · intro index below
    obtain ⟨frame, member, encoded⟩ := reached index below
    exact ⟨frame, member, (read below encoded).1⟩

abbrev InTime (binding : ArtifactBinding) (frames : List (List UInt8))
    (delivery : FrameDelivery) : Prop :=
  delivery.frame ∈ frames ∧ delivery.nowMs < binding.expiresAtMs ∧
    delivery.laterMs < binding.expiresAtMs

variable {deliveries : List FrameDelivery}

section

variable (reads : Readable parse sha256 lifecycle.binding transferId count config bytes frames)
  (all : ∀ one ∈ deliveries, InTime lifecycle.binding frames one)

include reads all

lemma Readable.indices_subset : indices parse deliveries ⊆ Finset.range count := by
  intro index member
  obtain ⟨delivery, delivered, rfl⟩ := mem_map.mp (mem_toFinset.mp member)
  exact Finset.mem_range.mpr (reads.below (all delivery delivered).1)

lemma Readable.all_delivered_iff :
    (indices parse deliveries).card = count ↔
      ∀ frame ∈ frames, frame ∈ deliveries.map FrameDelivery.frame := by
  constructor
  · intro card frame member
    have range := Gather.seen_eq_range (reads.indices_subset all) card
    have seen : frameIndex parse frame ∈ indices parse deliveries := by
      rw [range]
      exact Finset.mem_range.mpr (reads.below member)
    obtain ⟨delivery, delivered, same⟩ := mem_map.mp (mem_toFinset.mp seen)
    exact mem_map.mpr
      ⟨delivery, delivered, reads.unique (all delivery delivered).1 member same⟩
  · intro delivered
    have range : indices parse deliveries = Finset.range count := by
      refine Finset.Subset.antisymm (reads.indices_subset all) fun index member => ?_
      obtain ⟨frame, there, rfl⟩ := reads.reached (Finset.mem_range.mp member)
      obtain ⟨delivery, here, rfl⟩ := mem_map.mp (delivered frame there)
      exact mem_toFinset.mpr (mem_map.mpr ⟨delivery, here, rfl⟩)
    rw [range, Finset.card_range]

end

lemma Gathering.run (built : BuiltChunks sha256 lifecycle bytes config transferId count chunks)
    (reads : Readable parse sha256 lifecycle.binding transferId count config bytes frames)
    (gathering : Gathering config bytes count seen assembler)
    (all : ∀ one ∈ deliveries, InTime lifecycle.binding frames one)
    (fewer : (seen ∪ indices parse deliveries).card < count) :
    Gathering config bytes count (seen ∪ indices parse deliveries)
      (assembler.run parse sha256 (inputOf lifecycle.binding transferId) deliveries) := by
  induction deliveries generalizing assembler seen with
  | nil =>
    simp only [indices, map_nil, toFinset_nil, Finset.union_empty]
    exact gathering
  | cons delivery rest ih =>
    obtain ⟨member, inTime, later⟩ := all delivery mem_cons_self
    have joined : seen ∪ indices parse (delivery :: rest) =
        insert (frameIndex parse delivery.frame) seen ∪ indices parse rest := by
      simp [indices, map_cons, toFinset_cons, Finset.union_insert, Finset.insert_union]
    rw [joined] at fewer ⊢
    have part : (insert (frameIndex parse delivery.frame) seen).card ≤
        (insert (frameIndex parse delivery.frame) seen ∪ indices parse rest).card :=
      Finset.card_le_card Finset.subset_union_left
    have next := (gathering.accept built (reads.below member) (reads.decoded member) inTime
      later).1 (by omega)
    exact ih next (fun one after => all one (mem_cons_of_mem _ after)) fewer

lemma assembles (lower : LowerCase sha256) (reads : ReadsBack json parse)
    (portable : Portable lifecycle.binding)
    (built : BuiltChunks sha256 lifecycle bytes config transferId count chunks)
    (framed : Framed json chunks frames) :
    Assembles parse sha256 (inputOf lifecycle.binding transferId) bytes frames := by
  have reads := readable lower reads portable built framed
  intro deliveries delivery all ⟨frame, there, missing⟩
  have earlier : ∀ one ∈ deliveries, InTime lifecycle.binding frames one :=
    fun one member => all one (mem_cons_of_mem _ member)
  obtain ⟨member, inTime, later⟩ := all delivery mem_cons_self
  have part := Finset.card_le_card (reads.indices_subset earlier)
  rw [Finset.card_range] at part
  have fewer : (indices parse deliveries).card < count := by
    refine lt_of_le_of_ne part fun card => missing ?_
    exact (reads.all_delivered_iff earlier).mp card frame there
  have gathering := (create_gathering config bytes count).run built reads earlier
    (by rw [Finset.empty_union]; exact fewer)
  rw [Finset.empty_union] at gathering
  have answer := (gathering.accept built (reads.below member) (reads.decoded member) inTime
    later).2
  have joined : insert (frameIndex parse delivery.frame) (indices parse deliveries) =
      indices parse (delivery :: deliveries) := by
    simp [indices, map_cons, toFinset_cons]
  rw [answer, joined]
  by_cases last : (indices parse (delivery :: deliveries)).card = count
  · rw [if_pos last, if_pos ((reads.all_delivered_iff all).mp last)]
  · rw [if_neg last, if_neg fun delivered => last ((reads.all_delivered_iff all).mpr delivered)]

end Gathering

end YeonjangMqttV2ArtifactAssembler

open YeonjangMqttV2ArtifactAssembler

/-- The frames of a transfer are read back, and assemble to its bytes, exactly if
its artifact is portable. -/
theorem frames_agree_iff (sha256 : Sha256) (json : ArtifactChunkHeaderJson) (parse : JsonParse)
    (lower : LowerCase sha256) (reads : ReadsBack json parse) (lifecycle : ArtifactLifecycle)
    (bytes : List UInt8) (nowMs : Int) (config : ArtifactChunkConfig)
    (chunks : List ArtifactChunk)
    (ok : buildArtifactChunks sha256 lifecycle bytes nowMs config = .ok chunks) :
    (∀ chunk ∈ chunks, ∀ frame, encodeArtifactChunkFrame json chunk = .ok frame →
      (decodeFrame parse frame = some (chunk.header, chunk.payload) ↔
        Portable lifecycle.binding)) ∧
    ∀ transferId startedAtMs, lifecycle.state = .fetching transferId chunks.length startedAtMs →
      ∀ frames, Framed json chunks frames →
        (Assembles parse sha256 (inputOf lifecycle.binding transferId) bytes frames ↔
          Portable lifecycle.binding) := by
  obtain ⟨-, transferId, count, built⟩ := buildArtifactChunks_built ok
  obtain ⟨startedAtMs, fetching⟩ := built.fetching
  refine ⟨fun chunk member frame encoded => ?_, fun transferId' startedAtMs' fetching' => ?_⟩
  · rw [decodeFrame_built lower reads built member encoded]
    by_cases portable : Portable lifecycle.binding <;> simp [portable]
  · cases fetching.symm.trans fetching'
    intro frames framed
    refine ⟨fun assembled => ?_, fun portable => assembles lower reads portable built framed⟩
    by_contra refused
    -- The first frame that is delivered is refused already.
    obtain ⟨-, positive, -⟩ := ArtifactChunkConfig.chunkCount_ok built.counted
    obtain ⟨frame, there, encoded⟩ := (framed_mem built framed).2 0 positive
    have member : builtChunk sha256 lifecycle.binding transferId chunks.length
        config.payloadBytes bytes 0 ∈ chunks := built.mem_iff.mpr ⟨positive, rfl⟩
    have decoded := decodeFrame_built lower reads built member encoded
    rw [if_neg refused] at decoded
    have valid := (fromUntrusted_ok (built.checked_index positive)).2.1
    have living : 0 < lifecycle.binding.expiresAtMs := (validate_ok valid).2.2.2.2.2.2.2
    have answer := assembled [] ⟨frame, 0, 0⟩ (by simpa using ⟨there, living⟩)
      ⟨frame, there, not_mem_nil⟩
    simp only [Machine.run, YeonjangMqttV2ArtifactAssembler.accept, create, Bool.false_eq_true,
      if_false, decoded, fail] at answer
    split_ifs at answer

section Sample

open DurableArtifactLifecycleRepository (sampleBinding)
open ArtifactTransferUseCase (sampleSha256 sampleBytes)

/-- The JSON text of a header whose strings need no escapes. -/
def headerText (header : ArtifactChunkHeader) : List UInt8 :=
  let member (entry : String × JsonField) : String :=
    "\"" ++ entry.1 ++ "\":" ++ match entry.2 with
      | .integer value => toString value
      | .string value => "\"" ++ value ++ "\""
      | .other => "null"
  ("\x7b" ++ ",".intercalate (header.toJson.map member) ++ "\x7d").toUTF8.data.toList

variable {headers : List ArtifactChunkHeader} {header : ArtifactChunkHeader}

def jsonOf (headers : List ArtifactChunkHeader) : ArtifactChunkHeaderJson where
  toVec header := if header ∈ headers then some (headerText header) else none
  fromSlice text := headers.find? (headerText · = text)

def parseOf (headers : List ArtifactChunkHeader) : JsonParse := fun text =>
  (headers.find? (headerText · = text)).map fun header => .record header.toJson

lemma jsonOf_reads (apart : (headers.map headerText).Nodup) (member : header ∈ headers) :
    headers.find? (headerText · = headerText header) = some header := by
  obtain ⟨other, found⟩ : ∃ other, headers.find? (headerText · = headerText header) = some other :=
    Option.isSome_iff_exists.mp (find?_isSome.mpr ⟨header, member, decide_eq_true rfl⟩)
  have same : headerText other = headerText header := of_decide_eq_true (find?_some found :)
  rw [found, inj_on_of_nodup_map apart (mem_of_find?_eq_some found) member same]

lemma readsBack_of (apart : (headers.map headerText).Nodup) :
    ReadsBack (jsonOf headers) (parseOf headers) := by
  refine ⟨fun {header text} printed => ?_, fun {header text} printed _ _ =>
    ⟨header.expiresAtMs, fun _ => rfl, id, ?_⟩⟩
  all_goals
    simp only [jsonOf, Option.ite_none_right_eq_some, Option.some.injEq] at printed
    obtain ⟨member, rfl⟩ := printed
  · exact jsonOf_reads apart member
  · exact congrArg (Option.map fun header : ArtifactChunkHeader => JsonValue.record header.toJson)
      (jsonOf_reads apart member)

lemma sampleSha256_lower : LowerCase sampleSha256 := by
  intro _
  simp only [sampleSha256]
  decide

def sampleFetch (binding : ArtifactBinding) (count : Nat) : ArtifactLifecycle :=
  ⟨binding, 1, .fetching "transfer-1" count 1000000, .pending⟩

/-- SHA-256 where it is needed, on the bytes of the sample and their two parts. -/
def pairSha256 : Sha256 := fun bytes =>
  if bytes.size = 40 then
    ⟨"8ff61c57f132a331dd4d1a059a89cac33e6ca369dbbd16e62d4a6589522ad1a3", by decide, by decide⟩
  else if bytes.size = 27 then
    ⟨"46f74e5a7c59f6f84c55599f4efc46bf6a200a9fb5281e66cbce0ead61f59a45", by decide, by decide⟩
  else sampleSha256 bytes

def pairChunks : List ArtifactChunk :=
  [0, 1].map (builtChunk pairSha256 sampleBinding "transfer-1" 2 40 sampleBytes)

lemma pairSha256_lower : LowerCase pairSha256 := by
  intro bytes
  unfold pairSha256
  split_ifs
  · decide
  · decide
  · exact sampleSha256_lower bytes

lemma sampleFetch_built {sha256 : Sha256} {binding : ArtifactBinding} {count : Nat}
    {config : ArtifactChunkConfig} (made : (sampleFetch binding count).Made)
    (living : 1000002 < binding.expiresAtMs)
    (whole : sampleBytes.length = binding.totalSize ∧
      digest sha256 sampleBytes = binding.fullDigest)
    (counted : config.chunkCount binding.totalSize = .ok count) :
    ∃ chunks, buildArtifactChunks sha256 (sampleFetch binding count) sampleBytes 1000002 config =
        .ok chunks ∧
      BuiltChunks sha256 (sampleFetch binding count) sampleBytes config "transfer-1" count
        chunks := by
  obtain ⟨chunks, ok⟩ := (buildArtifactChunks_iff made).mpr
    ⟨⟨by decide, living⟩, whole.1, whole.2, "transfer-1", count, 1000000, rfl, counted⟩
  obtain ⟨-, transferId, number, built⟩ := buildArtifactChunks_built ok
  obtain ⟨startedAtMs, fetching⟩ := built.fetching
  cases fetching
  exact ⟨chunks, ok, built⟩

lemma encode_listed {sha256 : Sha256} {headers : List ArtifactChunkHeader} {chunk : ArtifactChunk}
    (member : chunk.header ∈ headers) (checked : chunk.Checked sha256)
    (length : 0 < (headerText chunk.header).length ∧ (headerText chunk.header).length ≤ 65536) :
    encodeArtifactChunkFrame (jsonOf headers) chunk =
      .ok (frameOf (headerText chunk.header) chunk.payload) :=
  encodeArtifactChunkFrame_of checked (if_pos member) length

/-- The frames of two chunks, however often and in whatever order they are delivered. -/
theorem frames_agree_iff_sample :
    Assembles (parseOf (pairChunks.map (·.header))) pairSha256
      (inputOf sampleBinding "transfer-1") sampleBytes
      (pairChunks.map fun chunk => frameOf (headerText chunk.header) chunk.payload) := by
  have made : (sampleFetch sampleBinding 2).Made := .restored (by decide :
    ArtifactLifecycle.restore sampleBinding 1 (.fetching "transfer-1" 2 1000000) .pending = .ok _)
  have counted : (⟨40, by decide⟩ : ArtifactChunkConfig).chunkCount sampleBinding.totalSize =
      .ok 2 := rfl
  obtain ⟨chunks, ok, built⟩ := @sampleFetch_built pairSha256 _ _ _ made (by decide)
    (by decide +kernel) counted
  obtain rfl : chunks = pairChunks := built.each
  have lengths : ∀ chunk ∈ pairChunks, 0 < (headerText chunk.header).length ∧
      (headerText chunk.header).length ≤ 65536 := by
    decide +kernel
  have framed : Framed (jsonOf (pairChunks.map (·.header))) pairChunks
      (pairChunks.map fun chunk => frameOf (headerText chunk.header) chunk.payload) :=
    forall₂_map_right_iff.mpr (forall₂_same.mpr fun chunk member =>
      encode_listed (mem_map_of_mem member) (built.checked chunk member) (lengths chunk member))
  have agree := frames_agree_iff pairSha256 (jsonOf _) (parseOf (pairChunks.map (·.header)))
    pairSha256_lower (readsBack_of (by decide +kernel)) _ _ _ _ _ ok
  exact (agree.2 "transfer-1" 1000000 rfl _ framed).mpr (by decide)

def sampleChunk (binding : ArtifactBinding) : ArtifactChunk :=
  builtChunk sampleSha256 binding "transfer-1" 1 1024 sampleBytes 0

/-- The reference of the sample in upper case. -/
def upperBinding : ArtifactBinding :=
  { sampleBinding with
    artifactRef := "capture:" ++ String.ofList (List.replicate 64 'A')
    valid := by decide }

set_option maxRecDepth 4000 in
/-- A frame that the node builds, writes and reads again, and that its consumer
refuses for the upper case digits of the reference. -/
theorem upper_case_refused : ∃ json parse chunk frame,
    LowerCase sampleSha256 ∧ ReadsBack json parse ∧ (sampleFetch upperBinding 1).Made ∧
      buildArtifactChunks sampleSha256 (sampleFetch upperBinding 1) sampleBytes 1000002
        ⟨1024, by decide⟩ = .ok [chunk] ∧
      encodeArtifactChunkFrame json chunk = .ok frame ∧
      decodeArtifactChunkFrame json sampleSha256 frame = .ok chunk ∧
      decodeFrame parse frame = none := by
  have made : (sampleFetch upperBinding 1).Made := .restored (by decide :
    ArtifactLifecycle.restore upperBinding 1 (.fetching "transfer-1" 1 1000000) .pending = .ok _)
  have counted : (⟨1024, by decide⟩ : ArtifactChunkConfig).chunkCount upperBinding.totalSize =
      .ok 1 := rfl
  obtain ⟨chunks, ok, built⟩ := @sampleFetch_built sampleSha256 _ _ _ made (by decide)
    (by decide +kernel) counted
  obtain rfl : chunks = [sampleChunk upperBinding] := built.each
  have member := mem_singleton_self (sampleChunk upperBinding)
  have checked := built.checked _ member
  have reads : ReadsBack (jsonOf [(sampleChunk upperBinding).header]) (parseOf _) :=
    readsBack_of (nodup_singleton _)
  have encoded := encode_listed (mem_singleton_self (sampleChunk upperBinding).header) checked
    (by decide +kernel)
  have refused := decodeFrame_built sampleSha256_lower reads built member encoded
  rw [if_neg (by decide)] at refused
  exact ⟨_, _, sampleChunk upperBinding, _, sampleSha256_lower, reads, made, ok, encoded,
    decodeArtifactChunkFrame_encode (fun _ printed => reads.rust printed) checked encoded, refused⟩

variable (header : ArtifactChunkHeader)

def ArtifactChunkHeader.stringBytes : Nat :=
  header.transferId.utf8ByteSize + header.artifactRef.utf8ByteSize +
    header.ownerRequesterId.utf8ByteSize + header.ownerRequestId.utf8ByteSize +
    header.payloadDigest.utf8ByteSize + header.fullDigest.utf8ByteSize

/-- `serde_json` on one header: a text without blanks, with at most six bytes for
a byte of a string, that is read back. -/
def ArtifactChunkHeaderJson.Prints (json : ArtifactChunkHeaderJson)
    (header : ArtifactChunkHeader) : Prop :=
  ∃ text, json.toVec header = some text ∧ json.fromSlice text = some header ∧
    0 < text.length ∧ text.length ≤ 305 + 6 * header.stringBytes

lemma utf8ByteSize_of_isPrefixedHex {value start : String}
    (hex : isPrefixedHex value start = true) : value.utf8ByteSize = start.utf8ByteSize + 64 := by
  unfold isPrefixedHex at hex
  split at hex
  next digest stripped =>
    simp only [Bool.and_eq_true, beq_iff_eq, utf8Len] at hex
    simp [utf8ByteSize_eq, utf8Len, stripPrefix_eq_some.mp stripped, map_append, sum_append, hex.1]
  next => cases hex

/-- The strings of a valid header stay far below the limit of a frame's header. -/
lemma ArtifactChunkHeader.stringBytes_le {header : ArtifactChunkHeader}
    (valid : header.validate = .ok ()) : header.stringBytes ≤ 982 := by
  obtain ⟨-, ⟨transfer, ref, requester, request, payload, full⟩, -⟩ := validate_ok valid
  have ref := utf8ByteSize_of_isPrefixedHex ref
  have payload := utf8ByteSize_of_isPrefixedHex payload
  have full := utf8ByteSize_of_isPrefixedHex full
  have capture : "capture:".utf8ByteSize = 8 := by decide
  have sha : "sha256:".utf8ByteSize = 7 := by decide
  simp only [isBoundedIdentity, isBoundedNonBlank, Bool.and_eq_true, decide_eq_true_eq]
    at transfer requester request
  unfold stringBytes
  omega

/-- Every chunk that passes its checks is framed and read back, and whatever is
read from bytes has passed them. -/
theorem frame_codec (json : ArtifactChunkHeaderJson) (sha256 : Sha256) :
    (∀ header payload chunk, fromUntrusted sha256 header payload = .ok chunk →
      json.Prints chunk.header → ∃ frame, encodeArtifactChunkFrame json chunk = .ok frame ∧
        decodeArtifactChunkFrame json sha256 frame = .ok chunk) ∧
    ∀ frame, (∃ reason, decodeArtifactChunkFrame json sha256 frame = .error reason) ∨
      ∃ chunk, decodeArtifactChunkFrame json sha256 frame = .ok chunk ∧
        chunk.header.validate = .ok () ∧ chunk.payload.length = chunk.header.chunkSize ∧
        digest sha256 chunk.payload = chunk.header.payloadDigest ∧
        chunk.header.offset + chunk.header.chunkSize ≤ chunk.header.totalSize := by
  refine ⟨fun header payload chunk passed prints => ?_, fun frame => ?_⟩
  · have checked := checked_of_fromUntrusted passed
    have valid := (fromUntrusted_ok checked).2.1
    have strings := stringBytes_le valid
    obtain ⟨text, printed, read, filled, bounded⟩ := prints
    have encoded := encodeArtifactChunkFrame_of checked printed ⟨filled, by omega⟩
    refine ⟨_, encoded, decodeArtifactChunkFrame_encode (fun other same => ?_) checked encoded⟩
    cases printed.symm.trans same
    exact read
  · cases decoded : decodeArtifactChunkFrame json sha256 frame with
    | error reason => exact .inl ⟨reason, rfl⟩
    | ok chunk =>
      obtain ⟨header, passed⟩ : ∃ header payload,
          fromUntrusted sha256 header payload = .ok chunk := by
        unfold decodeArtifactChunkFrame at decoded
        simp only at decoded
        split_ifs at decoded
        split at decoded
        · cases decoded
        · exact ⟨_, _, decoded⟩
      obtain ⟨payload, passed⟩ := passed
      obtain ⟨rfl, valid, size, named⟩ := fromUntrusted_ok passed
      exact .inr ⟨_, rfl, valid, size, named, (validate_ok valid).2.2.2.2.2.2.1⟩

set_option maxRecDepth 4000 in
/-- The chunk of the sample, there and back. -/
theorem frame_codec_sample : ∃ frame,
    encodeArtifactChunkFrame (jsonOf [(sampleChunk sampleBinding).header])
      (sampleChunk sampleBinding) = .ok frame ∧
    decodeArtifactChunkFrame (jsonOf [(sampleChunk sampleBinding).header]) sampleSha256 frame =
      .ok (sampleChunk sampleBinding) := by
  have checked : (sampleChunk sampleBinding).Checked sampleSha256 := rfl
  exact (frame_codec (jsonOf [(sampleChunk sampleBinding).header]) sampleSha256).1 _ _ _ checked
    ⟨headerText (sampleChunk sampleBinding).header, by simp [jsonOf],
      jsonOf_reads (nodup_singleton _) mem_cons_self, by decide +kernel, by decide +kernel⟩

end Sample

end Knowbee
