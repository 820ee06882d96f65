import Motonet.Firmware.EncryptedBody

/-!
# What a download does to the device

The exchange with the server is described by a relation; a download then succeeds exactly if the
server delivers a sealed image with the hash of the manifest and no operation fails.  In every other
outcome the device is described just as exactly: nothing outside the inactive slot has changed until
the activation, which is two separate operations.
-/

namespace Motonet
namespace Firmware

open ByteString OtaCore Chunked Fallible

/-! ## The exchange -/

/-- Following redirects from a URL, with a number of redirects left, ends with a response whose
body is processed. -/
inductive Serves (env : Environment) (downloadSize : ℕ) : ℕ → String → Reader → Prop
  | body {redirectsLeft : ℕ} {url : String} {response : Response} :
      acquireForUrl url (env.tlsFree (maxRedirects - redirectsLeft)) = .ok () →
      request env (maxRedirects - redirectsLeft) url = .ok response →
      isRedirection response.status = false →
      validateResponseMetadata response downloadSize = .ok () →
      Serves env downloadSize redirectsLeft url response.body
  | redirect {redirectsLeft : ℕ} {url nextUrl : String} {response : Response} {body : Reader} :
      acquireForUrl url (env.tlsFree (maxRedirects - (redirectsLeft + 1))) = .ok () →
      request env (maxRedirects - (redirectsLeft + 1)) url = .ok response →
      isRedirection response.status = true →
      redirectLocation response = .ok nextUrl →
      startsWith nextUrl "https://" = true → validateOtaUrlPolicy nextUrl = .ok () →
      Serves env downloadSize redirectsLeft nextUrl body →
      Serves env downloadSize (redirectsLeft + 1) url body

section Errors

/-- A computation stops with an error and not with a panic. -/
def StopsWithErr {α : Type} (computation : Except Halt α) : Prop :=
  ∀ halt, computation = .error halt → ∃ error, halt = .err error

theorem stopsWithErr_ok {α : Type} (value : α) : StopsWithErr (.ok value) := nofun

theorem stopsWithErr_err {α : Type} (error : OtaFlashWriteError) :
    StopsWithErr (.error (.err error) : Except Halt α) := by
  intro halt stopped
  cases stopped
  exact ⟨error, rfl⟩

theorem stopsWithErr_acquireForUrl (url : String) (free : ℕ → Bool) :
    StopsWithErr (acquireForUrl url free) := by
  unfold acquireForUrl acquireOtaTlsWorkspace
  split
  · split
    · exact stopsWithErr_ok _
    · exact stopsWithErr_err _
  · exact stopsWithErr_ok _

theorem stopsWithErr_request (env : Environment) (redirects : ℕ) (url : String) :
    StopsWithErr (request env redirects url) := by
  unfold request
  split
  · exact stopsWithErr_err _
  · exact stopsWithErr_err _
  · exact stopsWithErr_ok _

theorem stopsWithErr_boundedUrl (text : String) : StopsWithErr (boundedUrl text) := by
  unfold boundedUrl
  split
  · exact stopsWithErr_ok _
  · exact stopsWithErr_err _

theorem stopsWithErr_redirectLocation (response : Response) :
    StopsWithErr (redirectLocation response) := by
  unfold redirectLocation
  split
  · exact stopsWithErr_err _
  · split
    · exact stopsWithErr_err _
    · exact stopsWithErr_boundedUrl _

theorem stopsWithErr_validateResponseMetadata (response : Response) (expectedSize : ℕ) :
    StopsWithErr (validateResponseMetadata response expectedSize) := by
  unfold validateResponseMetadata
  split
  · exact stopsWithErr_err _
  · split
    · exact stopsWithErr_err _
    · split
      · exact stopsWithErr_err _
      · split
        · exact stopsWithErr_err _
        · exact stopsWithErr_ok _

theorem stopsWithErr_postVerify (result : EncryptedResult) (manifest : OtaManifest) :
    StopsWithErr (postVerify result manifest) := by
  unfold postVerify
  split
  · exact stopsWithErr_err _
  · split
    · exact stopsWithErr_err _
    · exact stopsWithErr_ok _

end Errors

section Fetch

variable {crypto : CryptoPrimitives} {env : Environment} {args : BodyArgs} {downloadSize : ℕ}

/-- How a body comes to be served. -/
theorem Serves.cases_response {redirectsLeft : ℕ} {url : String} {body : Reader}
    (serves : Serves env downloadSize redirectsLeft url body) :
    ∃ response, acquireForUrl url (env.tlsFree (maxRedirects - redirectsLeft)) = .ok () ∧
      request env (maxRedirects - redirectsLeft) url = .ok response ∧
      ((isRedirection response.status = false ∧
          validateResponseMetadata response downloadSize = .ok () ∧ body = response.body) ∨
        ∃ fewer nextUrl, redirectsLeft = fewer + 1 ∧ isRedirection response.status = true ∧
          redirectLocation response = .ok nextUrl ∧
          (startsWith nextUrl "https://" = true ∧ validateOtaUrlPolicy nextUrl = .ok ()) ∧
          Serves env downloadSize fewer nextUrl body) := by
  cases serves with
  | body acquired requested direct valid =>
      exact ⟨_, acquired, requested, .inl ⟨direct, valid, rfl⟩⟩
  | redirect acquired requested redirection located https policy next =>
      exact ⟨_, acquired, requested,
        .inr ⟨_, _, rfl, redirection, located, ⟨https, policy⟩, next⟩⟩

/-- What the request loop does from a URL, with a number of redirects left. -/
def FetchSpec (crypto : CryptoPrimitives) (env : Environment) (args : BodyArgs)
    (downloadSize redirectsLeft : ℕ) (url : String) (device : Device) : Prop :=
  Triple (· = device) (fetchLoop crypto env args downloadSize redirectsLeft url)
    (fun result after => ∃ (body : Reader)
        (image : SealedImage crypto args.toBodyKeys args.imageSize.toNat) (rest : List UInt8),
      Serves env downloadSize redirectsLeft url body ∧
      Delivers crypto env.faults args (available body) image rest ∧
      Installed args.slot image.plaintext (numChunks args.imageSize.toNat) device after ∧
      result = .of crypto image.plaintext)
    (fun halt after => Confined args.slot device after ∧ (∃ error, halt = .err error) ∧
      ∀ body image rest, Serves env downloadSize redirectsLeft url body →
        ¬ Delivers crypto env.faults args (available body) image rest)

private theorem fetchLoop_step {redirectsLeft : ℕ} {url : String} {device : Device}
    (next : ∀ fewer nextUrl, redirectsLeft = fewer + 1 →
      FetchSpec crypto env args downloadSize fewer nextUrl device) :
    FetchSpec crypto env args downloadSize redirectsLeft url device := by
  unfold FetchSpec fetchLoop
  refine Triple.lift_bind (fun halt failed state here => ?_) fun _ acquired => ?_
  · refine ⟨here ▸ .refl _ _, stopsWithErr_acquireForUrl _ _ _ failed, ?_⟩
    intro body image rest serves
    obtain ⟨_, acquired, -⟩ := serves.cases_response
    rw [acquired] at failed
    cases failed
  refine Triple.lift_bind (fun halt failed state here => ?_) fun response requested => ?_
  · refine ⟨here ▸ .refl _ _, stopsWithErr_request _ _ _ _ failed, ?_⟩
    intro body image rest serves
    obtain ⟨_, -, requested, -⟩ := serves.cases_response
    rw [requested] at failed
    cases failed
  cases redirection : isRedirection response.status with
  | false =>
      simp only [Bool.false_eq_true, if_false]
      refine Triple.lift_bind (fun halt failed state here => ?_) fun _ valid => ?_
      · refine ⟨here ▸ .refl _ _, stopsWithErr_validateResponseMetadata _ _ _ failed, ?_⟩
        intro body image rest serves
        obtain ⟨_, -, same, served⟩ := serves.cases_response
        obtain rfl := Except.ok.inj (requested.symm.trans same)
        rcases served with ⟨-, valid, -⟩ | ⟨_, _, -, redirected, -⟩
        · rw [valid] at failed
          cases failed
        · rw [redirection] at redirected
          cases redirected
      refine Triple.extend ?_
      refine (processEncryptedBody_triple crypto env.faults args device
        (available response.body)).consequence ?_ ?_ ?_
      · rintro state ⟨rfl, body_eq⟩
        exact ⟨rfl, congrArg available body_eq⟩
      · rintro result state ⟨image, delivers, installed, rfl⟩
        exact ⟨response.body, image, _, .body acquired requested redirection valid, delivers,
          installed, rfl⟩
      · rintro halt state ⟨confined, error, refused⟩
        refine ⟨confined, error, fun body image rest serves delivers => ?_⟩
        obtain ⟨_, -, same, served⟩ := serves.cases_response
        obtain rfl := Except.ok.inj (requested.symm.trans same)
        rcases served with ⟨-, -, rfl⟩ | ⟨_, _, -, redirected, -⟩
        · exact refused image rest delivers
        · rw [redirection] at redirected
          cases redirected
  | true =>
      simp only [if_true]
      refine Triple.lift_bind (fun halt failed state here => ?_) fun nextUrl located => ?_
      · refine ⟨here ▸ .refl _ _, stopsWithErr_redirectLocation _ _ failed, ?_⟩
        intro body image rest serves
        obtain ⟨_, -, same, served⟩ := serves.cases_response
        obtain rfl := Except.ok.inj (requested.symm.trans same)
        rcases served with ⟨direct, -⟩ | ⟨_, _, -, -, located, -⟩
        · rw [redirection] at direct
          cases direct
        · rw [located] at failed
          cases failed
      have followed : ∀ {body : Reader}, Serves env downloadSize redirectsLeft url body →
          ∃ fewer, redirectsLeft = fewer + 1 ∧
            (startsWith nextUrl "https://" = true ∧ validateOtaUrlPolicy nextUrl = .ok ()) ∧
            Serves env downloadSize fewer nextUrl body := by
        intro body serves
        obtain ⟨_, -, same, served⟩ := serves.cases_response
        obtain rfl := Except.ok.inj (requested.symm.trans same)
        rcases served with ⟨direct, -⟩ | ⟨fewer, _, count, -, also_located, policy, rest⟩
        · rw [redirection] at direct
          cases direct
        · obtain rfl := Except.ok.inj (located.symm.trans also_located)
          exact ⟨fewer, count, policy, rest⟩
      cases redirectsLeft with
      | zero =>
          refine Triple.throw _ fun state here => ⟨here ▸ .refl _ _, ⟨_, rfl⟩, ?_⟩
          intro body image rest serves
          obtain ⟨_, count, -⟩ := followed serves
          cases count
      | succ redirectsLeft =>
          refine Triple.ensure_bind (fun rejected state here => ?_) fun policy => ?_
          · refine ⟨here ▸ .refl _ _, ⟨_, rfl⟩, fun body image rest serves => ?_⟩
            obtain ⟨_, -, policy, -⟩ := followed serves
            exact absurd policy rejected
          refine (next redirectsLeft nextUrl rfl).consequence (fun _ => id) ?_ ?_
          · rintro result after ⟨body, image, rest, serves, delivered⟩
            exact ⟨body, image, rest, .redirect acquired requested redirection located policy.1
              policy.2 serves, delivered⟩
          · rintro halt after ⟨confined, error, refused⟩
            refine ⟨confined, error, fun body image rest serves => ?_⟩
            obtain ⟨fewer, count, -, later⟩ := followed serves
            cases count
            exact refused body image rest later

/-- The request loop succeeds exactly if the server delivers a sealed image. -/
theorem fetchLoop_triple (redirectsLeft : ℕ) (url : String) (device : Device) :
    FetchSpec crypto env args downloadSize redirectsLeft url device := by
  induction redirectsLeft generalizing url with
  | zero => exact fetchLoop_step nofun
  | succ redirectsLeft ih =>
      refine fetchLoop_step fun fewer nextUrl same => ?_
      cases same
      exact ih nextUrl

/-- The fetch succeeds exactly if the server delivers a sealed image from the manifest's URL. -/
theorem fetchAndProcessEncrypted_triple (url : String) (device : Device) :
    Triple (· = device) (fetchAndProcessEncrypted crypto env args downloadSize url)
      (fun result after => boundedUrl url = .ok url ∧ ∃ (body : Reader)
          (image : SealedImage crypto args.toBodyKeys args.imageSize.toNat) (rest : List UInt8),
        Serves env downloadSize maxRedirects url body ∧
        Delivers crypto env.faults args (available body) image rest ∧
        Installed args.slot image.plaintext (numChunks args.imageSize.toNat) device after ∧
        result = .of crypto image.plaintext)
      (fun halt after => Confined args.slot device after ∧ (∃ error, halt = .err error) ∧
        ∀ body image rest, boundedUrl url = .ok url →
          Serves env downloadSize maxRedirects url body →
            ¬ Delivers crypto env.faults args (available body) image rest) := by
  refine Triple.lift_bind (fun halt failed state here => ?_) fun current bounded => ?_
  · refine ⟨here ▸ .refl _ _, stopsWithErr_boundedUrl _ _ failed, fun body image rest fits => ?_⟩
    rw [fits] at failed
    cases failed
  obtain rfl : url = current := by
    unfold boundedUrl at bounded
    split at bounded
    · exact Except.ok.inj bounded
    · cases bounded
  refine (fetchLoop_triple maxRedirects url device).consequence (fun _ => id) ?_ ?_
  · exact fun result after outcome => ⟨bounded, outcome⟩
  · rintro halt after ⟨confined, error, refused⟩
    exact ⟨confined, error, fun body image rest _ => refused body image rest⟩

/-- The served body is determined by the server. -/
theorem Serves.unique {redirectsLeft : ℕ} {url : String} {left right : Reader}
    (left_serves : Serves env downloadSize redirectsLeft url left)
    (right_serves : Serves env downloadSize redirectsLeft url right) : left = right := by
  induction redirectsLeft generalizing url with
  | zero =>
      obtain ⟨_, -, first, first_served⟩ := left_serves.cases_response
      obtain ⟨_, -, second, second_served⟩ := right_serves.cases_response
      obtain rfl := Except.ok.inj (first.symm.trans second)
      rcases first_served with ⟨-, -, rfl⟩ | ⟨_, _, count, -⟩
      · rcases second_served with ⟨-, -, rfl⟩ | ⟨_, _, count, -⟩
        · rfl
        · cases count
      · cases count
  | succ redirectsLeft ih =>
      obtain ⟨_, -, first, first_served⟩ := left_serves.cases_response
      obtain ⟨_, -, second, second_served⟩ := right_serves.cases_response
      obtain rfl := Except.ok.inj (first.symm.trans second)
      rcases first_served with ⟨direct, -, rfl⟩ | ⟨_, _, count, redirected, located, -, next⟩
      · rcases second_served with ⟨-, -, rfl⟩ | ⟨_, _, -, redirected, -⟩
        · rfl
        · rw [direct] at redirected
          cases redirected
      · rcases second_served with ⟨direct, -⟩ | ⟨_, _, other_count, -, other_located, -, other_next⟩
        · rw [direct] at redirected
          cases redirected
        · cases count
          cases other_count
          obtain rfl := Except.ok.inj (located.symm.trans other_located)
          exact ih next other_next

/-- The delivered image is determined by the stream. -/
theorem Delivers.unique {faults : FlashFaults} {stream leftRest rightRest : List UInt8}
    {left right : SealedImage crypto args.toBodyKeys args.imageSize.toNat}
    (left_delivers : Delivers crypto faults args stream left leftRest)
    (right_delivers : Delivers crypto faults args stream right rightRest) : left = right :=
  SealedImage.eq_of_container_append
    (left_delivers.stream_eq.symm.trans right_delivers.stream_eq)

end Fetch

/-! ## Operations on the device -/

section Operations

variable {α : Type} {device : Device} {returned : α → Device → Prop}
  {failed : Halt → Device → Prop}

theorem new_bind {fault : Option PartitionError} {next : Unit → Fallible Halt Device α}
    (faulty : ∀ error, fault = some error → failed (.err (.partition error)) device)
    (opened : fault = none → Triple (· = device) (next ()) returned failed) :
    Triple (· = device) (partitionOperation (OtaBootMetadata.new fault) >>= next) returned
      failed := by
  rintro _ rfl
  cases fault with
  | none => exact opened rfl _ rfl
  | some error => exact faulty error rfl

theorem inactivePartition_bind {fault : Option PartitionError}
    {next : Slot → Fallible Halt Device α}
    (faulty : ∀ error, fault = some error → failed (.err (.partition error)) device)
    (found : fault = none → Triple (· = device) (next device.selected.next) returned failed) :
    Triple (· = device) (partitionOperation (OtaBootMetadata.inactivePartition fault) >>= next)
      returned failed := by
  rintro _ rfl
  cases fault with
  | none => exact found rfl _ rfl
  | some error => exact faulty error rfl

/-- The device after room for an image has been erased. -/
def Device.prepared (slot : Slot) (imageBytes : ℕ) (device : Device) : Device :=
  let aligned := (imageBytes + flashSectorSize - 1) / flashSectorSize * flashSectorSize
  ((device.log (.prepare slot imageBytes)).log (.erase slot aligned)).setRange slot 0 aligned
    fun _ => 0xff

/-- The slot is prepared exactly if the image leaves the last sector free and the erase succeeds;
the rounding to sectors cannot overflow. -/
theorem prepareInactiveSlot_triple (slot : Slot) (slotSize : UInt32) (imageBytes : ℕ)
    (fault : Option FlashFailure) (device : Device) :
    Triple (· = device) (prepareInactiveSlot slot slotSize.toNat imageBytes fault)
      (fun _ after => (imageBytes ≤ slotSize.toNat - flashSectorSize ∧ fault = none) ∧
        after = device.prepared slot imageBytes)
      (fun halt after => Confined slot device after ∧ (∃ error, halt = .err error) ∧
        ¬ (imageBytes ≤ slotSize.toNat - flashSectorSize ∧ fault = none)) := by
  have logged : Confined slot device (device.log (.prepare slot imageBytes)) :=
    .log (by exact rfl) device
  have entered : Triple (· = device)
      (Fallible.update fun device : Device => ((), device.log (.prepare slot imageBytes)) :
        Fallible Halt Device Unit)
      (fun _ after => after = device.log (.prepare slot imageBytes))
      (fun halt after => Confined slot device after ∧ (∃ error, halt = .err error) ∧
        ¬ (imageBytes ≤ slotSize.toNat - flashSectorSize ∧ fault = none)) :=
    .update _ fun state here => here ▸ rfl
  refine Triple.bind entered fun _ => Triple.ensure_bind ?_ fun fits => ?_
  · rintro too_large _ rfl
    exact ⟨logged, ⟨_, rfl⟩, fun both => too_large both.1⟩
  have slot_bound := slotSize.toNat_lt
  have no_overflow : checkedMul ((imageBytes + flashSectorSize - 1) / flashSectorSize)
      flashSectorSize = .ok ((imageBytes + flashSectorSize - 1) / flashSectorSize *
        flashSectorSize) := by
    refine if_pos ?_
    simp only [flashSectorSize] at fits ⊢
    omega
  simp only [no_overflow]
  refine Triple.lift_ok_bind ?_
  rintro _ rfl
  rw [flashOperation, exec_mapError, exec_eraseRegion]
  cases fault with
  | none => exact ⟨⟨fits, rfl⟩, rfl⟩
  | some failure =>
      refine ⟨?_, ⟨_, rfl⟩, fun both => Option.some_ne_none _ both.2⟩
      exact (logged.trans (.log (by exact rfl) _)).trans (.setRange _ _ _ _)

/-- Reading back what was installed succeeds unless the read is made to fail. -/
theorem verifyFlashReadback_triple {crypto : CryptoPrimitives} {slot : Slot} {text : List UInt8}
    (content : device.readRange slot 0 text.length = text) (fault : Option FlashStorageError) :
    Triple (· = device) (verifyFlashReadback crypto slot (.of crypto text) fault)
      (fun _ after => fault = none ∧ after = device)
      (fun halt after => after = device ∧ (∃ error, halt = .err error) ∧ fault ≠ none) := by
  have bound : (EncryptedResult.of crypto text).readbackLen ≤ flashReadbackLen := min_le_left _ _
  have read : device.readRange slot 0 (min flashReadbackLen text.length) =
      text.take flashReadbackLen := by
    rw [← device.take_readRange slot 0 (min_le_right _ _), content, List.take_eq_take_iff]
    omega
  refine Triple.ensure_bind (fun exceeds => absurd bound exceeds) fun _ => ?_
  rintro current rfl
  rw [exec_bind]
  cases fault with
  | some error => exact ⟨rfl, ⟨_, rfl⟩, nofun⟩
  | none =>
      have executed : exec (flashOperation (readRegion slot 0
          (EncryptedResult.of crypto text).readbackLen none)) current =
          (.ok (text.take flashReadbackLen), current) := by
        rw [← read]
        rfl
      rw [executed]
      simp only [Fallible.ensure, EncryptedResult.of, if_true, exec_pure, and_self]

end Operations

/-! ## Installable manifests -/

section Download

variable (crypto : CryptoPrimitives) (serde : SerdeJson) (env : Environment)
  (masterKey : Digest) (manifest : OtaManifest)

/-- The arguments with which the body of a manifest's download is processed. -/
def bodyArgs (keys : BodyKeys) (slot : Slot) (manifest : OtaManifest) : BodyArgs :=
  { keys with slot := slot, imageSize := manifest.imageSize }

/-- The server delivers a sealed image for a manifest, the image has the manifest's size and hash,
and no operation up to the activation fails. -/
structure Verified (slot : Slot) (keys : BodyKeys) (body : Reader)
    (image : SealedImage crypto keys manifest.imageSize.toNat) (rest : List UInt8) : Prop where
  keys_eq : downloadKeys crypto serde masterKey manifest = .ok keys
  opened : env.faults.openMetadata = none
  found : env.faults.firstNextPartition = none
  prepared : manifest.imageSize.toNat ≤ (env.slotSize slot).toNat - flashSectorSize ∧
    env.faults.erase = none
  url_eq : boundedUrl manifest.url = .ok manifest.url
  serves : Serves env manifest.downloadSize.toNat maxRedirects manifest.url body
  delivers : Delivers crypto env.faults (bodyArgs keys slot manifest) (available body) image rest
  sha : eqIgnoreAsciiCase (sha256Hex (crypto.sha256 image.plaintext)) manifest.imageSha256 = true
  found_again : env.faults.secondNextPartition = none
  read : env.faults.readback = none

/-- A manifest whose image can be downloaded and verified. -/
def Installable (slot : Slot) : Prop :=
  ∃ keys body image rest, Verified crypto serde env masterKey manifest slot keys body image rest

/-- A text has been downloaded into a slot. -/
structure Downloaded (slot : Slot) (text : List UInt8) (before after : Device) : Prop where
  confined : Confined slot before after
  content : after.readRange slot 0 text.length = text

/-- The image of a manifest has been verified and downloaded into the inactive slot. -/
def Installs (before downloaded : Device) : Prop :=
  ∃ keys body image rest,
    Verified crypto serde env masterKey manifest before.selected.next keys body image rest ∧
    Downloaded before.selected.next image.plaintext before downloaded

theorem postVerify_of {crypto : CryptoPrimitives} {manifest : OtaManifest} {text : List UInt8}
    (length : text.length = manifest.imageSize.toNat) :
    postVerify (.of crypto text) manifest =
      if eqIgnoreAsciiCase (sha256Hex (crypto.sha256 text)) manifest.imageSha256 = true then .ok ()
      else .error (.err .shaMismatch) := by
  have size : ¬ (EncryptedResult.of crypto text).totalPlaintext ≠ manifest.imageSize.toNat :=
    not_not.mpr length
  have digest : (EncryptedResult.of crypto text).digest = crypto.sha256 text := rfl
  rw [postVerify, if_neg size, digest]
  cases eqIgnoreAsciiCase (sha256Hex (crypto.sha256 text)) manifest.imageSha256 <;> rfl

theorem stopsWithErr_downloadKeys :
    StopsWithErr (downloadKeys crypto serde masterKey manifest) := by
  unfold downloadKeys
  cases parseNoncePrefix manifest.enc.noncePrefix with
  | error error => exact stopsWithErr_err _
  | ok noncePrefix =>
      cases canonicalUnsignedJson serde manifest with
      | error error => exact stopsWithErr_err _
      | ok canonical => exact stopsWithErr_ok _

variable {crypto} {serde} {env} {masterKey} {manifest}

/-- The image is downloaded and verified exactly if the manifest is installable. -/
theorem downloadAndVerify_triple (device : Device) :
    Triple (· = device) (downloadAndVerify crypto serde env masterKey manifest)
      (fun _ after => Installs crypto serde env masterKey manifest device after)
      (fun halt after => Confined device.selected.next device after ∧
        (∃ error, halt = .err error) ∧
        ¬ Installable crypto serde env masterKey manifest device.selected.next) := by
  unfold downloadAndVerify
  refine Triple.lift_bind (fun halt failed state here => ?_) fun keys keys_eq => ?_
  · refine ⟨here ▸ .refl _ _, stopsWithErr_downloadKeys _ _ _ _ _ failed, ?_⟩
    rintro ⟨keys, body, image, rest, verified⟩
    rw [verified.keys_eq] at failed
    cases failed
  refine new_bind (fun error fault => ?_) fun opened => ?_
  · refine ⟨.refl _ _, ⟨_, rfl⟩, ?_⟩
    rintro ⟨keys, body, image, rest, verified⟩
    rw [verified.opened] at fault
    cases fault
  refine inactivePartition_bind (fun error fault => ?_) fun found => ?_
  · refine ⟨.refl _ _, ⟨_, rfl⟩, ?_⟩
    rintro ⟨keys, body, image, rest, verified⟩
    rw [verified.found] at fault
    cases fault
  refine Triple.bind ((prepareInactiveSlot_triple _ _ _ _ device).consequence (fun _ => id)
    (fun _ _ => id) ?_) fun _ => Triple.of_each ?_
  · rintro halt after ⟨confined, error, refused⟩
    refine ⟨confined, error, ?_⟩
    rintro ⟨keys, body, image, rest, verified⟩
    exact refused verified.prepared
  rintro cleared ⟨prepared, rfl⟩
  have cleared : Confined device.selected.next device
      (device.prepared device.selected.next manifest.imageSize.toNat) :=
    ((Confined.log (by exact rfl) device).trans (.log (by exact rfl) _)).trans (.setRange _ _ _ _)
  refine Triple.bind ((fetchAndProcessEncrypted_triple _ _).consequence (fun _ => id)
    (fun _ _ => id) ?_) fun result => Triple.of_each ?_
  · rintro halt after ⟨confined, error, refused⟩
    refine ⟨cleared.trans confined, error, ?_⟩
    rintro ⟨others, body, image, rest, verified⟩
    obtain rfl := Except.ok.inj (keys_eq.symm.trans verified.keys_eq)
    exact refused body image rest verified.url_eq verified.serves verified.delivers
  rintro after ⟨url_eq, body, image, rest, serves, delivers, installed, rfl⟩
  have confined := cleared.trans installed.confined
  have only : ∀ {others otherBody otherRest}
      {other : SealedImage crypto others manifest.imageSize.toNat},
      Verified crypto serde env masterKey manifest device.selected.next others otherBody other
        otherRest → other.plaintext = image.plaintext := by
    intro others otherBody otherRest other verified
    obtain rfl := Except.ok.inj (keys_eq.symm.trans verified.keys_eq)
    obtain rfl := serves.unique verified.serves
    rw [delivers.unique verified.delivers]
  refine Triple.lift_bind (fun halt failed state here => ?_) fun _ accepted => ?_
  · refine ⟨here ▸ confined, stopsWithErr_postVerify _ _ _ failed, ?_⟩
    rintro ⟨others, otherBody, other, otherRest, verified⟩
    have sha := verified.sha
    rw [only verified] at sha
    rw [postVerify_of (image.length_plaintext), if_pos sha] at failed
    cases failed
  have sha : eqIgnoreAsciiCase (sha256Hex (crypto.sha256 image.plaintext))
      manifest.imageSha256 = true := by
    by_contra different
    rw [postVerify_of (image.length_plaintext), if_neg different] at accepted
    cases accepted
  refine inactivePartition_bind (fun error fault => ?_) fun found_again => ?_
  · refine ⟨confined, ⟨_, rfl⟩, ?_⟩
    rintro ⟨_, _, _, _, verified⟩
    rw [verified.found_again] at fault
    cases fault
  have same_slot : after.selected.next = device.selected.next := by rw [confined.selected]
  rw [same_slot]
  refine (verifyFlashReadback_triple installed.content _).consequence (fun _ => id) ?_ ?_
  · rintro _ _ ⟨read, rfl⟩
    exact ⟨keys, body, image, rest, ⟨keys_eq, opened, found, prepared, url_eq, serves, delivers,
      sha, found_again, read⟩, confined, installed.content⟩
  · rintro halt _ ⟨rfl, error, faulty⟩
    refine ⟨confined, error, ?_⟩
    rintro ⟨_, _, _, _, verified⟩
    exact faulty verified.read

/-- If the server cannot be reached, the download fails with the inactive slot erased. -/
theorem exec_downloadAndWriteToFlash_unreachable {keys : BodyKeys} (device : Device)
    (keys_eq : downloadKeys crypto serde masterKey manifest = .ok keys)
    (opened : env.faults.openMetadata = none) (found : env.faults.firstNextPartition = none)
    (fits : manifest.imageSize.toNat ≤ (env.slotSize device.selected.next).toNat - flashSectorSize)
    (erased : env.faults.erase = none) (url_eq : boundedUrl manifest.url = .ok manifest.url)
    (acquired : acquireForUrl manifest.url (env.tlsFree 0) = .ok ())
    (unreachable : request env 0 manifest.url = .error (.err .httpConnect)) :
    exec (downloadAndWriteToFlash crypto serde env masterKey manifest) device =
      (.error (.err .httpConnect),
        device.prepared device.selected.next manifest.imageSize.toNat) := by
  have fetch_fails : ∀ args, fetchAndProcessEncrypted crypto env args manifest.downloadSize.toNat
      manifest.url = Fallible.lift (.error (.err .httpConnect)) := by
    intro args
    rw [fetchAndProcessEncrypted, url_eq]
    change fetchLoop crypto env args manifest.downloadSize.toNat maxRedirects manifest.url = _
    unfold fetchLoop
    simp only [Nat.sub_self, acquired, unreachable]
    rfl
  have verified : Triple (· = device) (downloadAndVerify crypto serde env masterKey manifest)
      (fun _ _ => False) (fun halt after => halt = .err .httpConnect ∧
        after = device.prepared device.selected.next manifest.imageSize.toNat) := by
    rw [downloadAndVerify, keys_eq, opened, found, erased]
    refine Triple.lift_ok_bind (new_bind nofun fun _ => inactivePartition_bind nofun fun _ => ?_)
    refine Triple.bind ((prepareInactiveSlot_triple _ _ _ _ device).consequence (fun _ => id)
      (fun _ _ => And.right) fun _ _ refused => absurd ⟨fits, rfl⟩ refused.2.2) fun _ => ?_
    rw [fetch_fails]
    exact Triple.lift_bind (fun halt failed state here => ⟨(Except.error.inj failed).symm, here⟩)
      nofun
  rw [downloadAndWriteToFlash, exec_bind]
  rcases executed : exec (downloadAndVerify crypto serde env masterKey manifest) device with
    ⟨halt | _, after⟩
  · obtain ⟨rfl, rfl⟩ := verified.of_error rfl executed
    rfl
  · exact (verified.of_ok rfl executed).elim

/-! ## Activation -/

/-- The device while a slot is activated. -/
def Device.activating (device : Device) : Device :=
  device.log (.activate device.selected.next)

/-- The device while the activated slot is marked. -/
def Device.marking (device : Device) : Device :=
  device.activating.selectNext.log (.setState device.selected.next .new)

/-- How a download ends. -/
inductive Outcome (crypto : CryptoPrimitives) (serde : SerdeJson) (env : Environment)
    (masterKey : Digest) (manifest : OtaManifest) (device : Device) :
    Except Halt Unit × Device → Prop
  /-- Not everything before the activation succeeds. -/
  | refused (error : OtaFlashWriteError) (after : Device) :
      ¬ Installable crypto serde env masterKey manifest device.selected.next →
      Confined device.selected.next device after →
      Outcome crypto serde env masterKey manifest device (.error (.err error), after)
  /-- The activation fails. -/
  | notActivated (error : OtaFlashWriteError) (downloaded : Device) :
      Installs crypto serde env masterKey manifest device downloaded →
      env.faults.activate ≠ none →
      Outcome crypto serde env masterKey manifest device
        (.error (.err error), downloaded.activating)
  /-- The slot is activated, and marking it fails. -/
  | notMarked (error : OtaFlashWriteError) (downloaded : Device) :
      Installs crypto serde env masterKey manifest device downloaded →
      env.faults.activate = none → env.faults.setState ≠ none →
      Outcome crypto serde env masterKey manifest device (.error (.err error), downloaded.marking)
  /-- The slot is activated and marked. -/
  | installed (downloaded : Device) :
      Installs crypto serde env masterKey manifest device downloaded →
      env.faults.activate = none → env.faults.setState = none →
      Outcome crypto serde env masterKey manifest device
        (.ok (), downloaded.marking.setState .new)

/-- A download either leaves everything outside the inactive slot alone, or reaches the activation
with the image in the slot; it returns if both operations of the activation succeed. -/
theorem downloadAndWriteToFlash_outcome (device : Device) :
    Outcome crypto serde env masterKey manifest device
      (exec (downloadAndWriteToFlash crypto serde env masterKey manifest) device) := by
  rw [downloadAndWriteToFlash, exec_bind]
  rcases executed : exec (downloadAndVerify crypto serde env masterKey manifest) device with
    ⟨halt | _, downloaded⟩
  · obtain ⟨confined, ⟨error, rfl⟩, refused⟩ :=
      (downloadAndVerify_triple device).of_error rfl executed
    exact .refused error downloaded refused confined
  have verified := (downloadAndVerify_triple device).of_ok rfl executed
  cases activate : env.faults.activate with
  | some error =>
      exact .notActivated (.partition error) downloaded verified (by simp [activate])
  | none =>
      cases setState : env.faults.setState with
      | some error =>
          exact .notMarked (.partition error) downloaded verified activate (by simp [setState])
      | none => exact .installed downloaded verified activate setState

end Download

end Firmware
end Motonet
