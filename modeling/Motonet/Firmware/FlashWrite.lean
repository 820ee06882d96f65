import Motonet.Firmware.BootMetadata
import Motonet.Firmware.Encrypted

/-!
# Downloading an image into the inactive slot

The download of an encrypted image: HTTP exchange with redirects, the chunk loop, verification and
activation.  The server, the TLS workspace and the failures of single operations come from an
environment.  `u32` arithmetic and slicing are checked: `Halt.panic` is the outcome where the code
would overflow or slice out of bounds.
-/

namespace Motonet
namespace Firmware

open ByteString OtaCore

def flashSectorSize : ℕ := 4096
def tlsWorkspaceWaitAttempts : ℕ := 250
def espImagePrefixLen : ℕ := 64
def flashReadbackLen : ℕ := 4096

/-- Why an image was not installed. -/
inductive OtaFlashWriteError
  | partition (error : PartitionError)
  | flash (error : FlashStorageError)
  | httpConnect
  | httpStatus (status : ℕ)
  | redirectWithoutLocation
  | redirectLocationTooLong
  | redirectRejected
  | tooManyRedirects
  | missingContentLength
  | contentLengthMismatch
  | chunkedRejected
  | readFailed
  | sizeMismatch
  | shaMismatch
  | invalidImagePrefix (error : EspImagePrefixError)
  | flashVerifyFailed
  | imageTooLargeForSlot (imageSize slotSize : ℕ)
  | invalidNoncePrefix
  | hmacMismatch
  | aesError (error : AesError)
  | headerTooShort
  | headerInvalidMagic
  | headerInvalidVersion
  | headerInvalidReserved
  | chunkTruncated
  | outOfMemory
  | manifestCanonical (error : ManifestError)
  deriving DecidableEq, Repr

/-- How a run stops early. -/
inductive Halt
  | err (error : OtaFlashWriteError)
  | panic
  deriving DecidableEq, Repr

def OtaFlashWriteError.ofHeader : OtaHeaderError → OtaFlashWriteError
  | .tooShort => .headerTooShort
  | .invalidMagic => .headerInvalidMagic
  | .invalidVersion => .headerInvalidVersion
  | .reservedNonZero => .headerInvalidReserved

/-! ## Checked arithmetic -/

def checkedAdd (a b : ℕ) : Except Halt ℕ :=
  if a + b < 2 ^ 32 then pure (a + b) else throw .panic

def checkedSub (a b : ℕ) : Except Halt ℕ :=
  if b ≤ a then pure (a - b) else throw .panic

def checkedMul (a b : ℕ) : Except Halt ℕ :=
  if a * b < 2 ^ 32 then pure (a * b) else throw .panic

/-! ## Reading the body -/

/-- One answer of `fill_buf`, as far as it is not consumed yet. -/
inductive Fill
  | slice (bytes : List UInt8)
  | failed
  | timedOut
  deriving DecidableEq, Repr

/-- The answers that a reader will give; after them the stream is at its end. -/
abbrev Reader := List Fill

/-- The loop of `read_exact` for a number of missing bytes. -/
def readExactLoop (missing : ℕ) : Reader → Except OtaFlashWriteError (List UInt8) × Reader
  | [] => if missing = 0 then (.ok [], []) else (.error .readFailed, [])
  | fill :: fills =>
      if missing = 0 then (.ok [], fill :: fills)
      else
        match fill with
        | .failed | .timedOut => (.error .readFailed, fills)
        | .slice available =>
            if available.isEmpty then (.error .readFailed, fills)
            else if missing < available.length then
              (.ok (available.take missing), .slice (available.drop missing) :: fills)
            else
              match readExactLoop (missing - available.length) fills with
              | (.ok rest, reader) => (.ok (available ++ rest), reader)
              | (.error error, reader) => (.error error, reader)

/-- Read exactly `len` bytes. -/
def readExact (len : ℕ) : Fallible OtaFlashWriteError Reader (List UInt8) :=
  ExceptT.mk fun reader => readExactLoop len reader

/-- A program on the reader. -/
def onReader {α : Type} (program : Fallible OtaFlashWriteError Reader α) :
    Fallible Halt (Device × Reader) α :=
  Fallible.zoom Prod.snd (fun state reader => (state.1, reader))
    (Fallible.mapError Halt.err program)

/-- A program on the device. -/
def onDevice {α : Type} (program : Fallible Halt Device α) : Fallible Halt (Device × Reader) α :=
  Fallible.zoom Prod.fst (fun state device => (device, state.2)) program

/-- A flash operation. -/
def flashOperation {α : Type} (program : Fallible FlashStorageError Device α) :
    Fallible Halt Device α :=
  Fallible.mapError (fun error => Halt.err (.flash error)) program

/-- A boot metadata operation. -/
def partitionOperation {α : Type} (program : Fallible PartitionError Device α) :
    Fallible Halt Device α :=
  Fallible.mapError (fun error => Halt.err (.partition error)) program

/-! ## The encrypted body -/

/-- Which operations of one download fail. -/
structure FlashFaults where
  openMetadata : Option PartitionError
  firstNextPartition : Option PartitionError
  erase : Option FlashFailure
  /-- The write of a chunk. -/
  write : ℕ → Option FlashFailure
  secondNextPartition : Option PartitionError
  readback : Option FlashStorageError
  activate : Option PartitionError
  setState : Option PartitionError

/-- No operation fails. -/
def FlashFaults.none : FlashFaults :=
  ⟨.none, .none, .none, fun _ => .none, .none, .none, .none, .none⟩

/-- What the chunks of an image are decrypted and authenticated with. -/
structure BodyKeys where
  noncePrefix : List.Vector UInt8 12
  hmacKey : Digest
  aesKey : Digest
  manifestDigest : Digest

/-- The arguments of `process_encrypted_body` besides the reader. -/
structure BodyArgs extends BodyKeys where
  slot : Slot
  imageSize : UInt32

/-- The local variables of the chunk loop; a hasher is the bytes that it has absorbed. -/
structure BodyProgress where
  firstBytes : List UInt8
  prefixValidated : Bool
  totalPlaintext : ℕ
  flashOffset : ℕ
  shaHasher : List UInt8
  readbackHasher : List UInt8
  readbackLen : ℕ
  deriving DecidableEq, Repr

/-- The local variables before the first chunk. -/
def BodyProgress.initial : BodyProgress where
  firstBytes := []
  prefixValidated := false
  totalPlaintext := 0
  flashOffset := 0
  shaHasher := []
  readbackHasher := []
  readbackLen := 0

/-- Output of the encrypted download and processing phase. -/
structure EncryptedResult where
  totalPlaintext : ℕ
  digest : Digest
  readbackLen : ℕ
  readbackDigest : Digest
  deriving DecidableEq

/-- Collect the image prefix and check it as soon as it has eight bytes. -/
def checkImagePrefix (progress : BodyProgress) (plaintext : List UInt8) :
    Except Halt BodyProgress :=
  if progress.prefixValidated then pure progress
  else
    let copy := min plaintext.length (espImagePrefixLen - progress.firstBytes.length)
    let firstBytes := progress.firstBytes ++ plaintext.take copy
    if 8 ≤ firstBytes.length then
      match validateEspImagePrefix firstBytes with
      | .ok () => pure { progress with firstBytes := firstBytes, prefixValidated := true }
      | .error error => throw (.err (.invalidImagePrefix error))
    else pure { progress with firstBytes := firstBytes }

/-- The length that a chunk must declare. -/
def expectedChunkLen (imageSize chunkIndex : ℕ) : Except Halt ℕ := do
  let last ← checkedSub (numChunks imageSize) 1
  if chunkIndex = last then
    let start ← checkedMul chunkIndex encChunkSize
    checkedSub imageSize start
  else pure encChunkSize

section Body

variable (crypto : CryptoPrimitives) (faults : FlashFaults) (args : BodyArgs)

/-- One iteration of the chunk loop. -/
def processChunk (progress : BodyProgress) (chunkIndex : ℕ) :
    Fallible Halt (Device × Reader) BodyProgress := do
  let lenBuf ← onReader (readExact 4)
  let ciphertextLen := ofBigEndian lenBuf
  let expectedLen ← Fallible.lift (expectedChunkLen args.imageSize.toNat chunkIndex)
  Fallible.ensure (ciphertextLen = expectedLen) (.err .chunkTruncated)
  -- The ciphertext buffer holds one full chunk.
  Fallible.ensure (ciphertextLen ≤ encChunkSize) .panic
  let ct ← onReader (readExact ciphertextLen)
  let tagBuf ← onReader (readExact hmacTagSize)
  Fallible.ensure
    (verifyChunkHmac crypto args.hmacKey args.manifestDigest chunkIndex progress.flashOffset
      ciphertextLen ct tagBuf = true) (.err .hmacMismatch)
  let plaintext ← Fallible.lift
    ((aesCtrCryptInPlace crypto args.aesKey args.noncePrefix chunkIndex ct).mapError
      fun error => Halt.err (.aesError error))
  let progress ← Fallible.lift (checkImagePrefix progress plaintext)
  onDevice (flashOperation
    (writeRegion args.slot progress.flashOffset plaintext (faults.write chunkIndex)))
  let copy := min plaintext.length (flashReadbackLen - progress.readbackLen)
  let flashOffset ← Fallible.lift (checkedAdd progress.flashOffset ciphertextLen)
  let totalPlaintext ← Fallible.lift (checkedAdd progress.totalPlaintext ciphertextLen)
  return { progress with
    totalPlaintext := totalPlaintext
    flashOffset := flashOffset
    shaHasher := progress.shaHasher ++ plaintext
    readbackHasher := progress.readbackHasher ++ plaintext.take copy
    readbackLen := progress.readbackLen + copy }

/-- Validate the header, then verify, decrypt and write the chunks one by one. -/
def processEncryptedBody : Fallible Halt (Device × Reader) EncryptedResult := do
  let header ← onReader (readExact otaV2HeaderSize)
  Fallible.lift ((validateOtaHeader header).mapError fun error => Halt.err (.ofHeader error))
  let progress ← (List.range (numChunks args.imageSize.toNat)).foldlM
    (processChunk crypto faults args) BodyProgress.initial
  return {
    totalPlaintext := progress.totalPlaintext
    digest := crypto.sha256 progress.shaHasher
    readbackLen := progress.readbackLen
    readbackDigest := crypto.sha256 progress.readbackHasher }

end Body

/-! ## The HTTP exchange -/

/-- What the code reads of an HTTP response. -/
structure Response where
  status : ℕ
  headers : List (String × List UInt8)
  contentLength : Option ℕ
  /-- The transfer encodings contain `chunked`. -/
  chunked : Bool
  body : Reader

/-- Outcome of one request. -/
inductive Exchange
  | requestFailed
  | sendFailed
  | response (response : Response)

/-- What a download meets: the server, the TLS workspace, the slots and the failing operations. -/
structure Environment where
  faults : FlashFaults
  slotSize : Slot → UInt32
  /-- Whether the TLS workspace is free, by request and attempt. -/
  tlsFree : ℕ → ℕ → Bool
  /-- The server's answer, by request and URL. -/
  server : ℕ → String → Exchange

/-- `str::eq_ignore_ascii_case`. -/
def eqIgnoreAsciiCase (left right : String) : Bool :=
  left.toList.map Char.toLower = right.toList.map Char.toLower

/-- `str::starts_with`. -/
def startsWith (text start : String) : Bool :=
  start.toList.isPrefixOf text.toList

/-- `char::is_ascii_whitespace`. -/
def isAsciiWhitespace (char : Char) : Bool :=
  char = ' ' || char = '\t' || char = '\n' || char = '\x0c' || char = '\r'

/-- `str::trim_matches` on ASCII whitespace. -/
def trimAsciiWhitespace (text : String) : String :=
  String.ofList (((text.toList.dropWhile isAsciiWhitespace).reverse.dropWhile
    isAsciiWhitespace).reverse)

/-- Push a text into an empty `heapless::String` for redirect URLs. -/
def boundedUrl (text : String) : Except Halt String :=
  if text.utf8ByteSize ≤ maxRedirectUrlLen then pure text
  else throw (.err .redirectLocationTooLong)

/-- The status codes of redirections. -/
def isRedirection (status : ℕ) : Bool :=
  300 ≤ status && status ≤ 399

/-- The location header of a redirect. -/
def redirectLocation (response : Response) : Except Halt String :=
  match response.headers.find? fun header => eqIgnoreAsciiCase header.1 "location" with
  | none => throw (.err .redirectWithoutLocation)
  | some (_, value) =>
      match String.fromUTF8? ⟨value.toArray⟩ with
      | none => throw (.err .redirectRejected)
      | some location => boundedUrl (trimAsciiWhitespace location)

/-- Only a plain response of the expected length is processed. -/
def validateResponseMetadata (response : Response) (expectedSize : ℕ) : Except Halt Unit :=
  if response.status ≠ 200 then throw (.err (.httpStatus response.status))
  else
    match response.contentLength with
    | none => throw (.err .missingContentLength)
    | some contentLength =>
        if contentLength ≠ expectedSize then throw (.err .contentLengthMismatch)
        else if response.chunked then throw (.err .chunkedRejected)
        else pure ()

/-- Wait for the TLS workspace, for a bounded number of attempts. -/
def acquireOtaTlsWorkspace (free : ℕ → Bool) : Except Halt Unit :=
  if (List.range tlsWorkspaceWaitAttempts).any free then pure ()
  else throw (.err .outOfMemory)

/-- Only HTTPS needs the TLS workspace. -/
def acquireForUrl (url : String) (free : ℕ → Bool) : Except Halt Unit :=
  if startsWith url "https://" then acquireOtaTlsWorkspace free else pure ()

/-- Send a request and wait for the response. -/
def request (env : Environment) (redirects : ℕ) (url : String) : Except Halt Response :=
  match env.server redirects url with
  | .requestFailed | .sendFailed => throw (.err .httpConnect)
  | .response response => pure response

section Fetch

variable (crypto : CryptoPrimitives) (env : Environment) (args : BodyArgs) (downloadSize : ℕ)

/-- The request loop with a number of redirects left, of `MAX_REDIRECTS` at the start. -/
def fetchLoop : ℕ → String → Fallible Halt Device EncryptedResult
  | redirectsLeft, currentUrl => do
      let redirects := maxRedirects - redirectsLeft
      Fallible.lift (acquireForUrl currentUrl (env.tlsFree redirects))
      let response ← Fallible.lift (request env redirects currentUrl)
      if isRedirection response.status then
        let nextUrl ← Fallible.lift (redirectLocation response)
        match redirectsLeft with
        | 0 => throw (.err .tooManyRedirects)
        | redirectsLeft + 1 =>
            Fallible.ensure
              (startsWith nextUrl "https://" = true ∧ validateOtaUrlPolicy nextUrl = .ok ())
              (.err .redirectRejected)
            fetchLoop redirectsLeft nextUrl
      else
        Fallible.lift (validateResponseMetadata response downloadSize)
        Fallible.extend response.body (processEncryptedBody crypto env.faults args)

/-- Fetch the image, following redirects, and process it chunk by chunk. -/
def fetchAndProcessEncrypted (url : String) : Fallible Halt Device EncryptedResult := do
  let currentUrl ← Fallible.lift (boundedUrl url)
  fetchLoop crypto env args downloadSize maxRedirects currentUrl

end Fetch

/-! ## Verification and activation -/

/-- Erase room for the image in the inactive slot, leaving its last sector alone. -/
def prepareInactiveSlot (slot : Slot) (slotSize imageBytes : ℕ) (fault : Option FlashFailure) :
    Fallible Halt Device Unit := do
  Fallible.update fun device => ((), device.log (.prepare slot imageBytes))
  let maxWritable := slotSize - flashSectorSize
  Fallible.ensure (imageBytes ≤ maxWritable) (.err (.imageTooLargeForSlot imageBytes slotSize))
  let sectors := (imageBytes + flashSectorSize - 1) / flashSectorSize
  let aligned ← Fallible.lift (checkedMul sectors flashSectorSize)
  flashOperation (eraseRegion slot aligned fault)

/-- Lower-case hexadecimal text of a digest. -/
def sha256Hex (digest : Digest) : String :=
  String.ofList (digest.toList.flatMap fun byte =>
    [Nat.digitChar (byte.toNat / 16), Nat.digitChar (byte.toNat % 16)])

/-- Compare size and hash of the image with the manifest. -/
def postVerify (result : EncryptedResult) (manifest : OtaManifest) : Except Halt Unit :=
  if result.totalPlaintext ≠ manifest.imageSize.toNat then throw (.err .sizeMismatch)
  else if !eqIgnoreAsciiCase (sha256Hex result.digest) manifest.imageSha256 then
    throw (.err .shaMismatch)
  else pure ()

/-- Read the start of the image back from flash and compare its hash. -/
def verifyFlashReadback (crypto : CryptoPrimitives) (slot : Slot) (result : EncryptedResult)
    (fault : Option FlashStorageError) : Fallible Halt Device Unit := do
  Fallible.ensure (result.readbackLen ≤ flashReadbackLen) .panic
  let readback ← flashOperation (readRegion slot 0 result.readbackLen fault)
  Fallible.ensure (crypto.sha256 readback = result.readbackDigest) (.err .flashVerifyFailed)

section Download

variable (crypto : CryptoPrimitives) (serde : SerdeJson) (env : Environment)
  (masterKey : Digest) (manifest : OtaManifest)

/-- Derive the keys, parse the nonce prefix and hash the canonical manifest. -/
def downloadKeys : Except Halt BodyKeys := do
  let (aesKey, hmacKey) := deriveSubkeys crypto masterKey manifest.enc.keyId.toNat
  let noncePrefix ← (parseNoncePrefix manifest.enc.noncePrefix).mapError
    fun _ => Halt.err .invalidNoncePrefix
  let canonical ← (canonicalUnsignedJson serde manifest).mapError
    fun error => Halt.err (.manifestCanonical error)
  return {
    noncePrefix := noncePrefix
    hmacKey := hmacKey
    aesKey := aesKey
    manifestDigest := computeManifestDigest crypto canonical }

/-- Download the image of a manifest into the inactive slot and verify it: everything up to the
activation of the slot. -/
def downloadAndVerify : Fallible Halt Device Unit := do
  let keys ← Fallible.lift (downloadKeys crypto serde masterKey manifest)
  partitionOperation (OtaBootMetadata.new env.faults.openMetadata)
  let slot ← partitionOperation (OtaBootMetadata.inactivePartition env.faults.firstNextPartition)
  prepareInactiveSlot slot (env.slotSize slot).toNat manifest.imageSize.toNat env.faults.erase
  let streamResult ← fetchAndProcessEncrypted crypto env
    { keys with slot := slot, imageSize := manifest.imageSize }
    manifest.downloadSize.toNat manifest.url
  Fallible.lift (postVerify streamResult manifest)
  let readbackSlot ← partitionOperation
    (OtaBootMetadata.inactivePartition env.faults.secondNextPartition)
  verifyFlashReadback crypto readbackSlot streamResult env.faults.readback

/-- Download the image of a manifest into the inactive slot and activate the slot. -/
def downloadAndWriteToFlash : Fallible Halt Device Unit := do
  downloadAndVerify crypto serde env masterKey manifest
  partitionOperation (OtaBootMetadata.activateNextPartition env.faults.activate)
  partitionOperation (OtaBootMetadata.markCurrentAppNew env.faults.setState)

end Download

end Firmware
end Motonet
