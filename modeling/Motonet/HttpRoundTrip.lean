import Motonet.Firmware.HttpDownload
import Motonet.RoundTrip

/-!
# What the packer writes, the device downloads

A server answers the first request with a head and then with the container that the packer wrote.
The bytes may arrive in any pieces, over TLS or not, and the connection may end in any place.
-/

namespace Motonet

open OtaCore Firmware Fallible
open Http (HeadParser HttpConnection ParsedHead headIn)

/-- A server announces a number of bytes and sends a body, in pieces of its own. -/
structure Sends (network : Network) (url : String) (downloadSize : ℕ) (body : List UInt8)
    (connection : HttpConnection) (head : List UInt8) (parsed : ParsedHead)
    (response : Http.Response) : Prop where
  connected : network.connect 0 url = some connection
  sent : connection.contents.bytes = head ++ body
  whole : network.parse head = .ok (.complete head.length parsed)
  fits : head.length ≤ httpHeaderBufSize
  known : Http.Response.ofHead .get httpHeaderBufSize httpHeaderBufSize_pos parsed [] = .ok response
  status : response.status = 200
  announced : response.contentLength = some downloadSize
  plain : .chunked ∉ response.transferEncoding

namespace Sends

variable {network : Network} {url : String} {downloadSize : ℕ} {body : List UInt8}
  {connection : HttpConnection} {head : List UInt8} {parsed : ParsedHead}
  {response : Http.Response}

theorem headIn_eq (sends : Sends network url downloadSize body connection head parsed response)
    (incremental : network.parse.Incremental) :
    headIn network.parse httpHeaderBufSize connection.contents.bytes =
      some (head.length, parsed) := by
  have found := incremental.headIn_of_complete sends.whole (httpHeaderBufSize - head.length) body
  rwa [Nat.add_sub_cancel' sends.fits, ← sends.sent] at found

/-- Such a server sends no more than it has announced. -/
theorem framed (sends : Sends network url downloadSize body connection head parsed response)
    (incremental : network.parse.Incremental) (short : body.length ≤ downloadSize) :
    Http.Response.Framed network.parse .get httpHeaderBufSize_pos connection.contents := by
  intro length otherHead otherResponse contentLength otherFound known declared
  obtain ⟨rfl, rfl⟩ := Prod.mk.inj
    (Option.some.inj ((sends.headIn_eq incremental).symm.trans otherFound))
  obtain rfl := Except.ok.inj (sends.known.symm.trans known)
  obtain rfl := Option.some.inj (sends.announced.symm.trans declared)
  rwa [ByteReader.Contents.drop, sends.sent, List.drop_left]

/-- The body that such a server serves. -/
theorem serves (sends : Sends network url downloadSize body connection head parsed response)
    (incremental : network.parse.Incremental) (short : body.length ≤ downloadSize)
    (acquired : acquireForUrl url (network.tlsFree 0) = .ok ()) :
    Serves network.environment downloadSize maxRedirects url [.slice body] := by
  have found := sends.headIn_eq incremental
  have rest : (connection.contents.drop head.length).bytes = body := by
    rw [ByteReader.Contents.drop, sends.sent, List.drop_left]
  have framed : ∀ other, network.connect 0 url = some other →
      Http.Response.Framed network.parse .get httpHeaderBufSize_pos other.contents := by
    intro other connected
    obtain rfl := Option.some.inj (sends.connected.symm.trans connected)
    exact sends.framed incremental short
  have hint : response.readerHint = .fixedLength downloadSize := by
    rw [Http.Response.readerHint, Http.Response.method_of_ofHead sends.known, sends.announced]
    rfl
  have contents : Http.Response.ofContents network.parse .get httpHeaderBufSize_pos
      connection.contents = some (response,
        Http.fixedLength downloadSize (connection.contents.drop head.length)) := by
    rw [Http.Response.ofContents, found]
    dsimp only
    rw [sends.known]
    dsimp only
    rw [hint]
    rfl
  have bytes : (Http.fixedLength downloadSize (connection.contents.drop head.length)).bytes =
      body := by
    rw [Http.fixedLength_bytes, rest, List.take_of_length_le short]
  have served : network.environment.server 0 url =
      .response (viewResponse response [.slice body]) := by
    rw [server_environment incremental framed, answerOf, sends.connected, Option.bind_some,
      contents]
    dsimp only
    rw [bytes]
  have requested : request network.environment 0 url =
      .ok (viewResponse response [.slice body]) := by
    rw [request, served]
    rfl
  have direct : isRedirection (viewResponse response [.slice body]).status = false := by
    rw [viewResponse, sends.status]
    rfl
  have valid : validateResponseMetadata (viewResponse response [.slice body]) downloadSize =
      .ok () := by
    simp only [validateResponseMetadata, viewResponse, sends.status, sends.announced, sends.plain,
      UInt16.reduceToNat, ne_eq, not_true_eq_false, if_false, decide_false, Bool.false_eq_true]
    rfl
  have body_eq : [.slice body] = (viewResponse response [.slice body]).body := rfl
  rw [body_eq]
  exact .body acquired requested direct valid

end Sends

/-- Over any connection, and in whatever pieces, the container that the packer wrote is installed if
it arrives whole; a download that is cut off anywhere in it fails, and only the slot has changed. -/
theorem packed_image_over_http (crypto : CryptoPrimitives) (network : Network)
    (inputs : Packer.Inputs) (nonce : List.Vector UInt8 12) (imageSize : UInt32) (slot : Slot)
    (device : Device) (url : String) {connection : HttpConnection} {head body : List UInt8}
    {parsed : ParsedHead} {response : Http.Response}
    (incremental : network.parse.Incremental) (url_fits : url.utf8ByteSize ≤ maxRedirectUrlLen)
    (acquired : acquireForUrl url (network.tlsFree 0) = .ok ())
    (sends : Sends network url (Packer.container crypto inputs).length body connection head parsed
      response)
    (arrived : body <+: Packer.container crypto inputs) (key_fits : inputs.otaKeyId < 2 ^ 32)
    (size : inputs.plaintext.length = imageSize.toNat)
    (parsed_nonce : parseNoncePrefix inputs.noncePrefix = .ok nonce)
    (prefix_ok : PlausiblePrefix inputs.plaintext)
    (no_fault : ∀ index, network.faults.write index = none) :
    (body = Packer.container crypto inputs ∧
      ∃ after, exec (fetchFrom crypto network
          (Packer.deviceArgs crypto inputs nonce slot imageSize)
          (Packer.container crypto inputs).length url) device =
            (.ok (.of crypto inputs.plaintext), after) ∧
        Installed slot inputs.plaintext (numChunks inputs.plaintext.length) device after) ∨
    (body ≠ Packer.container crypto inputs ∧
      ∃ error after, exec (fetchFrom crypto network
          (Packer.deviceArgs crypto inputs nonce slot imageSize)
          (Packer.container crypto inputs).length url) device = (.error (.err error), after) ∧
        Confined slot device after) := by
  have bounded : boundedUrl url = .ok url := if_pos url_fits
  have serves := sends.serves incremental arrived.length_le acquired
  have stream : available [.slice body] = body := by
    cases empty : body.isEmpty with
    | true =>
        rw [List.isEmpty_iff.mp empty]
        rfl
    | false =>
        rw [available, empty]
        exact List.append_nil body
  have outcome := @fetchAndProcessEncrypted_triple crypto network.environment
    (Packer.deviceArgs crypto inputs nonce slot imageSize) (Packer.container crypto inputs).length
    url device device rfl
  rw [fetchFrom_eq]
  rcases executed : exec (fetchAndProcessEncrypted crypto network.environment
      (Packer.deviceArgs crypto inputs nonce slot imageSize)
      (Packer.container crypto inputs).length url) device with ⟨halt | result, after⟩ <;>
    rw [executed] at outcome
  · obtain ⟨confined, ⟨error, rfl⟩, refused⟩ := outcome
    refine .inr ⟨fun whole => ?_, error, after, rfl, confined⟩
    have stream_eq : available [.slice body] = Packer.container crypto inputs ++ [] := by
      rw [stream, whole, List.append_nil]
    exact refused _ _ _ bounded serves
      (delivers_of_container key_fits size parsed_nonce prefix_ok no_fault stream_eq)
  · obtain ⟨-, reader, image, rest, other_serves, delivers, installed, result_eq⟩ := outcome
    obtain rfl := serves.unique other_serves
    have body_eq : body = image.container ++ rest := stream.symm.trans delivers.stream_eq
    have container_eq : Packer.container crypto inputs =
        (sealImage crypto (Packer.deviceKeys crypto inputs nonce) inputs.plaintext
          size).container :=
      Packer.container_eq key_fits size parsed_nonce
    -- What has arrived starts with a sealed image, and so does the container.
    have image_eq : image = sealImage crypto (Packer.deviceKeys crypto inputs nonce)
        inputs.plaintext size := by
      obtain ⟨missing, container⟩ := arrived
      have same : image.container ++ (rest ++ missing) =
          (sealImage crypto (Packer.deviceKeys crypto inputs nonce) inputs.plaintext
            size).container ++ [] := by
        rw [List.append_nil, ← container_eq, ← container, body_eq, List.append_assoc]
      exact SealedImage.eq_of_container_append same
    rw [image_eq, plaintext_sealImage] at installed result_eq
    rw [image_eq, ← container_eq] at body_eq
    have length := arrived.length_le
    rw [body_eq, List.length_append] at length
    have nothing : rest = [] := List.eq_nil_of_length_eq_zero (by omega)
    rw [nothing, List.append_nil] at body_eq
    exact .inl ⟨body_eq, after, by rw [result_eq], size ▸ installed⟩

/-! ## A small download -/

/-- A parser that knows one head. -/
def parserOf (head : List UInt8) (parsed : ParsedHead) : HeadParser := fun bytes =>
  if head <+: bytes then .ok (.complete head.length parsed)
  else if bytes <+: head then .ok .incomplete
  else .error ()

theorem parserOf_self (head : List UInt8) (parsed : ParsedHead) :
    parserOf head parsed head = .ok (.complete head.length parsed) :=
  if_pos (List.prefix_refl head)

theorem incremental_parserOf {head : List UInt8} (nonempty : head ≠ []) (parsed : ParsedHead) :
    (parserOf head parsed).Incremental where
  length_pos := by
    intro bytes length other complete
    unfold parserOf at complete
    split_ifs at complete <;> cases complete
    exact List.length_pos_of_ne_nil nonempty
  length_le := by
    intro bytes length other complete
    unfold parserOf at complete
    split_ifs at complete with front <;> cases complete
    exact front.length_le
  complete_append := by
    intro bytes length other more complete
    unfold parserOf at complete ⊢
    split_ifs at complete with front
    · rw [if_pos (front.trans (List.prefix_append _ _))]
      exact complete
    · cases complete
  error_append := by
    intro bytes more wrong
    unfold parserOf at wrong ⊢
    split_ifs at wrong with front back
    have longer : ¬ head <+: bytes ++ more := by
      intro front'
      rcases List.prefix_or_prefix_of_prefix front' (List.prefix_append bytes more) with h | h
      · exact front h
      · exact back h
    rw [if_neg longer, if_neg fun short => back ((List.prefix_append _ _).trans short)]

def smallUrl : String := "http://192.168.1.10:8000/firmware.bin"

/-- The head in front of the small container. -/
def smallHead : List UInt8 := asBytes "HTTP/1.1 200 OK\r\nContent-Length: 61\r\n\r\n"

def smallParsed : ParsedHead := ⟨200, [("Content-Length", asBytes "61")]⟩

/-- The small container arrives in two pieces, the first one with the head. -/
def smallConnection : HttpConnection where
  segments :=
    [⟨smallHead ++ (Packer.container sampleCrypto sampleInputs).take 5, by decide +kernel⟩,
      ⟨(Packer.container sampleCrypto sampleInputs).drop 5, by decide +kernel⟩]
  ending := .ok ()
  buffered := true

def smallNetwork : Network where
  faults := .none
  slotSize _ := 0x1c0000
  tlsFree _ _ := true
  parse := parserOf smallHead smallParsed
  connect _ _ := some smallConnection

/-- The response that is read from the small head. -/
def smallResponse : Http.Response where
  method := .get
  status := 200
  contentLength := some 61
  transferEncoding := []
  headers := smallParsed.headers
  rawBodyRead := []
  capacity := httpHeaderBufSize
  room := httpHeaderBufSize_pos

theorem sends_smallNetwork : Sends smallNetwork smallUrl
    (Packer.container sampleCrypto sampleInputs).length
    (Packer.container sampleCrypto sampleInputs) smallConnection smallHead smallParsed
    smallResponse where
  connected := rfl
  sent := by simp [smallConnection, HttpConnection.contents]
  whole := parserOf_self smallHead smallParsed
  fits := by decide +kernel
  known := rfl
  status := rfl
  announced := by decide +kernel
  plain := by decide

theorem packed_image_over_http_small :
    ∃ after, exec (fetchFrom sampleCrypto smallNetwork
        (Packer.deviceArgs sampleCrypto sampleInputs sampleNonce .ota1 9)
        (Packer.container sampleCrypto sampleInputs).length
        smallUrl) sampleDevice =
          (.ok (.of sampleCrypto sampleInputs.plaintext), after) ∧
      Installed .ota1 sampleInputs.plaintext 1 sampleDevice after := by
  have incremental : smallNetwork.parse.Incremental :=
    incremental_parserOf (by decide +kernel) smallParsed
  have acquired : acquireForUrl smallUrl (smallNetwork.tlsFree 0) =
      .ok () := by decide +kernel
  obtain ⟨-, fetched⟩ | ⟨cut, -⟩ := packed_image_over_http sampleCrypto smallNetwork sampleInputs
    sampleNonce 9 .ota1 sampleDevice smallUrl incremental (by decide +kernel) acquired
    sends_smallNetwork (List.prefix_refl _) (by decide) rfl parseNoncePrefix_sample
    (fun _ => by decide +kernel) fun _ => rfl
  · exact fetched
  · exact absurd rfl cut

/-! ## The same bytes in other pieces -/

/-- A download depends on what the servers send and not on how it arrives, through all redirects. -/
theorem fetchFrom_congr (crypto : CryptoPrimitives) {left right : Network}
    (same : SameContents left right) (incremental : left.parse.Incremental)
    (framed : left.Framed) (args : BodyArgs) (downloadSize : ℕ) (url : String) (device : Device) :
    exec (fetchFrom crypto left args downloadSize url) device =
      exec (fetchFrom crypto right args downloadSize url) device := by
  rw [fetchFrom_eq, fetchFrom_eq, same.environment_eq incremental framed]

/-- The small container arrives in one piece, without TLS. -/
def directConnection : HttpConnection where
  segments := [⟨smallHead ++ Packer.container sampleCrypto sampleInputs, by decide +kernel⟩]
  ending := .ok ()
  buffered := false

def directNetwork : Network := { smallNetwork with connect := fun _ _ => some directConnection }

theorem sameContents_directNetwork : SameContents smallNetwork directNetwork where
  faults := rfl
  slotSize := rfl
  tlsFree := rfl
  parse := rfl
  connect _ _ := by
    simp [smallNetwork, directNetwork, smallConnection, directConnection, HttpConnection.contents]

theorem fetchFrom_congr_directNetwork :
    exec (fetchFrom sampleCrypto smallNetwork
        (Packer.deviceArgs sampleCrypto sampleInputs sampleNonce .ota1 9) 61 smallUrl)
        sampleDevice =
      exec (fetchFrom sampleCrypto directNetwork
        (Packer.deviceArgs sampleCrypto sampleInputs sampleNonce .ota1 9) 61 smallUrl)
        sampleDevice := by
  have incremental : smallNetwork.parse.Incremental :=
    incremental_parserOf (by decide +kernel) smallParsed
  have framed : smallNetwork.Framed := by
    intro redirects url connection connected
    obtain rfl := Option.some.inj connected
    exact sends_smallNetwork.framed incremental le_rfl
  exact fetchFrom_congr sampleCrypto sameContents_directNetwork incremental framed _ _ _ _

end Motonet
