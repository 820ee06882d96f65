import Motonet.Foundation.Sha256
import Motonet.Tls.Handshake

/-!
# The data of the application

An open connection shows what it decrypts, record by record.  Whatever arrives, and whichever
records are refused, what is shown are the data of one record for each nonce that has been used up,
in the order of the nonces.
-/

namespace Motonet
namespace Tls

open ByteReader Fallible Http

/-- `TlsConnection`, for its reader: what is decrypted and not yet consumed, and whether the
connection is open. -/
structure TlsConnection (σ : Type) where
  transport : σ
  keySchedule : KeySchedule
  decrypted : List UInt8
  opened : Bool
  deriving DecidableEq

/-- What is done with a connection: a turn of the loop of `read_buffered`, or bytes that are shown
are taken. -/
inductive DataAction
  | fill
  | take (count : ℕ)

/-- A panic is the end of a connection, and so is a failure of the transport. -/
def TlsHalt.isFinal : TlsHalt → Bool
  | .panic => true
  | .err .ioError => true
  | .err (.io _) => true
  | .err _ => false

section Reading

variable {σ : Type} [Read ErrorKind σ] (suite : CipherSuite) (capacity : ℕ)

/-- `DecryptedReadHandler::handle`; a connection that has been closed is found out by its error. -/
def handleDecrypted (_ : KeySchedule) (record : ServerRecord) (decrypted : List UInt8) :
    Except TlsHalt (List UInt8) :=
  match record with
  | .applicationData _ data => return data
  | .alert alert =>
      if alert.description = .closeNotify then throw (.err .connectionClosed)
      else throw (.err .internalError)
  | .changeCipherSpec => throw (.err .internalError)
  | .handshake .newSessionTicket => return decrypted
  | .handshake _ => throw .panic

/-- A record for the connection. -/
def TlsConnection.nextRecord : Fallible TlsHalt (TlsConnection σ) ServerRecord :=
  zoom (fun connection => (connection.transport, connection.keySchedule))
    (fun connection state =>
      { connection with transport := state.1, keySchedule := state.2 })
    (readServerRecord capacity)

/-- `read_application_data`. -/
def readApplicationData : Fallible TlsHalt (TlsConnection σ) Unit := do
  let record ← TlsConnection.nextRecord capacity
  let connection ← update fun connection => (connection, connection)
  match decryptRecord suite handleDecrypted record
    (connection.keySchedule, connection.decrypted) with
  | .ok (keySchedule, decrypted) =>
      update fun connection =>
        ((), { connection with keySchedule := keySchedule, decrypted := decrypted })
  | .error halt => do
      update fun connection =>
        ((), { connection with opened := connection.opened && halt != .err .connectionClosed })
      throw halt

/-- A connection and what has been taken from it.  When a record has been refused the connection may
be asked again, and it reads on. -/
def dataSystem (start : TlsConnection σ) :
    TransitionSystem (TlsConnection σ × List UInt8) DataAction where
  initial := (· = (start, []))
  step := fun state action =>
    match action with
    | .fill =>
        if state.1.opened = true ∧ state.1.decrypted = [] then
          match exec (readApplicationData suite capacity) state.1 with
          | (.ok (), connection) => some (connection, state.2)
          | (.error halt, connection) =>
              if halt.isFinal then none else some (connection, state.2)
        else none
    | .take count =>
        some ({ state.1 with decrypted := state.1.decrypted.drop count },
          state.2 ++ state.1.decrypted.take count)

end Reading

/-! ## What is shown -/

/-- A record as it arrived, and as it was decrypted. -/
structure OpenedRecord where
  header : List UInt8
  data : List UInt8
  plaintext : List UInt8

/-- The keys of a direction after a number of records. -/
def KeyScheduleState.advance (count : ℕ) (state : KeyScheduleState) : KeyScheduleState :=
  { state with counter := state.counter + count }

/-- A record is decrypted with the keys of a direction. -/
def OpenedRecord.OpenedBy (suite : CipherSuite) (state : KeyScheduleState) (record : OpenedRecord) :
    Prop :=
  suite.decrypt state.key state.getNonce record.header record.data = some record.plaintext

/-- The data for the application in what a record is decrypted to. -/
def OpenedRecord.applicationData (record : OpenedRecord) : List UInt8 :=
  let appData := stripPadding record.plaintext
  if appData.getLast?.bind ContentType.of = some .applicationData then appData.dropLast else []

/-- What has been taken and what is shown are the data of records that were decrypted since the
start, each under the next nonce. -/
def Delivered {σ : Type} (suite : CipherSuite) (start : KeyScheduleState)
    (state : TlsConnection σ × List UInt8) : Prop :=
  ∃ records : List OpenedRecord,
    state.1.keySchedule.serverState = start.advance records.length ∧
      (∀ (index : ℕ) (record : OpenedRecord), records[index]? = some record →
        record.OpenedBy suite (start.advance index)) ∧
      state.2 ++ state.1.decrypted = records.flatMap OpenedRecord.applicationData

section Delivery

variable {σ : Type} {suite : CipherSuite} {capacity : ℕ}

/-- Messages of a handshake show nothing. -/
theorem handleDecrypted_handshake {keySchedule : KeySchedule} {message : ServerHandshake}
    {before after : List UInt8}
    (returned : handleDecrypted keySchedule (.handshake message) before = .ok after) :
    after = before := by
  cases message with
  | newSessionTicket =>
      cases returned
      rfl
  | _ => cases returned

/-- An alert ends the reading. -/
theorem handleDecrypted_alert {keySchedule : KeySchedule} {alert : Alert}
    {before after : List UInt8} :
    handleDecrypted keySchedule (.alert alert) before ≠ .ok after := by
  intro returned
  unfold handleDecrypted at returned
  dsimp only at returned
  split at returned <;> cases returned

theorem handleContent_handleDecrypted {header plaintext data : List UInt8}
    {before : KeySchedule} {after : KeySchedule × List UInt8}
    (returned : handleContent handleDecrypted header plaintext (before, []) = .ok after) :
    after.1.serverState = before.serverState ∧
      after.2 = OpenedRecord.applicationData ⟨header, data, plaintext⟩ := by
  dsimp only [handleContent] at returned
  cases last : (stripPadding plaintext).getLast? with
  | none =>
      rw [last] at returned
      cases returned
  | some byte =>
      rw [last] at returned
      dsimp only at returned
      cases type : ContentType.of byte with
      | none =>
          rw [type] at returned
          cases returned
      | some contentType =>
          have shown : OpenedRecord.applicationData ⟨header, data, plaintext⟩ =
              if contentType = .applicationData then (stripPadding plaintext).dropLast else [] := by
            simp [OpenedRecord.applicationData, last, type]
          rw [shown]
          rw [type] at returned
          cases contentType with
          | handshake =>
              -- Messages change nothing but the transcript.
              have kept := handleMessages_keeps
                (fun state => state.1.serverState = before.serverState ∧ state.2 = [])
                (fun _ _ _ _ _ held handled =>
                  ⟨held.1, (handleDecrypted_handshake handled).trans held.2⟩)
                ⟨rfl, rfl⟩ returned
              exact kept
          | applicationData =>
              cases returned
              exact ⟨rfl, rfl⟩
          | alert =>
              obtain ⟨alert, -, second⟩ := Except.of_bind_eq_ok returned
              obtain ⟨_, handled, -⟩ := Except.of_bind_eq_ok second
              exact absurd handled handleDecrypted_alert
          | invalid => cases returned
          | changeCipherSpec => cases returned

/-- A record shows nothing and uses no nonce, or it is decrypted under the next one and shows its
data. -/
theorem decryptRecord_handleDecrypted {record : ServerRecord} {before : KeySchedule}
    {after : KeySchedule × List UInt8}
    (returned : decryptRecord suite handleDecrypted record (before, []) = .ok after) :
    (after.1.serverState = before.serverState ∧ after.2 = []) ∨
      ∃ opened : OpenedRecord, opened.OpenedBy suite before.serverState ∧
        after.1.serverState = before.serverState.advance 1 ∧ after.2 = opened.applicationData := by
  cases record with
  | handshake message =>
      obtain ⟨_, handled, last⟩ := Except.of_bind_eq_ok returned
      cases last
      exact .inl ⟨rfl, handleDecrypted_handshake handled⟩
  | changeCipherSpec =>
      obtain ⟨_, handled, -⟩ := Except.of_bind_eq_ok returned
      cases handled
  | alert alert =>
      obtain ⟨_, handled, -⟩ := Except.of_bind_eq_ok returned
      exact absurd handled handleDecrypted_alert
  | applicationData header data =>
      dsimp only [decryptRecord] at returned
      split at returned
      · cases returned
      · rename_i plaintext decrypts
        obtain ⟨⟨keySchedule, shown⟩, handled, second⟩ := Except.of_bind_eq_ok returned
        obtain ⟨serverState, counted, last⟩ := Except.of_bind_eq_ok second
        cases last
        obtain ⟨same, data_shown⟩ := handleContent_handleDecrypted handled
        refine .inr ⟨⟨header, data, plaintext⟩, decrypts, ?_, data_shown⟩
        unfold KeyScheduleState.incrementCounter at counted
        split at counted
        · cases counted
          dsimp only at same ⊢
          rw [same]
          rfl
        · cases counted

variable [Read ErrorKind σ]

/-- Reading a record changes neither the keys nor what is shown. -/
theorem TlsConnection.preserves_nextRecord : Preserves
    (fun connection : TlsConnection σ =>
      (connection.keySchedule.serverState, connection.decrypted, connection.opened))
    (TlsConnection.nextRecord capacity) := by
  have inner : Preserves (fun state : σ × KeySchedule => state.2.serverState)
      (readServerRecord capacity) := by
    refine .bind (fun state => rfl) fun record => .bind (fun state => rfl) fun state =>
      .bind ?_ fun decoded state => rfl
    cases (ServerRecord.decode record state.2.transcript).mapError TlsHalt.err with
    | error halt => exact fun _ => rfl
    | ok value => exact fun _ => rfl
  intro connection
  exact congrArg (fun serverState => (serverState, connection.decrypted, connection.opened))
    (inner (connection.transport, connection.keySchedule))

/-- What a turn does to a connection that shows nothing, whether or not it fails. -/
theorem readApplicationData_cases {before after : TlsConnection σ} {result : Except TlsHalt Unit}
    (nothing : before.decrypted = [])
    (executed : exec (readApplicationData suite capacity) before = (result, after)) :
    (after.keySchedule.serverState = before.keySchedule.serverState ∧ after.decrypted = []) ∨
      ∃ opened : OpenedRecord, opened.OpenedBy suite before.keySchedule.serverState ∧
        after.keySchedule.serverState = before.keySchedule.serverState.advance 1 ∧
        after.decrypted = opened.applicationData := by
  rw [readApplicationData, exec_bind] at executed
  rcases received : exec (TlsConnection.nextRecord capacity) before with ⟨outcome, middle⟩
  have same := TlsConnection.preserves_nextRecord.view_eq received
  obtain ⟨state_same, decrypted_same, -⟩ : middle.keySchedule.serverState = _ ∧
      middle.decrypted = _ ∧ middle.opened = _ := by simpa only [Prod.mk.injEq] using same
  rw [received] at executed
  cases outcome with
  | error halt =>
      cases executed
      exact .inl ⟨state_same, decrypted_same.trans nothing⟩
  | ok record =>
      dsimp only at executed
      rw [exec_bind, exec_update] at executed
      dsimp only at executed
      rw [decrypted_same, nothing] at executed
      cases decrypted : decryptRecord suite handleDecrypted record (middle.keySchedule, []) with
      | error halt =>
          rw [decrypted] at executed
          cases executed
          exact .inl ⟨state_same, decrypted_same.trans nothing⟩
      | ok value =>
          rw [decrypted] at executed
          cases executed
          rw [← state_same]
          exact decryptRecord_handleDecrypted decrypted

/-- A step keeps what has been delivered in order. -/
theorem Delivered.step {first : TlsConnection σ} {start : KeyScheduleState}
    {before after : TlsConnection σ × List UInt8} {action : DataAction}
    (delivered : Delivered suite start before)
    (taken : (dataSystem suite capacity first).step before action = some after) :
    Delivered suite start after := by
  obtain ⟨records, counted, opened, shown⟩ := delivered
  cases action with
  | take count =>
      cases taken
      refine ⟨records, counted, opened, ?_⟩
      rw [← shown, List.append_assoc, List.take_append_drop]
  | fill =>
      dsimp only [dataSystem] at taken
      split at taken
      · rename_i ready
        rcases executed : exec (readApplicationData suite capacity) before.1 with ⟨result, finish⟩
        have outcome : after = (finish, before.2) := by
          rw [executed] at taken
          cases result with
          | ok =>
              cases taken
              rfl
          | error halt =>
              dsimp only at taken
              split at taken
              · cases taken
              · cases taken
                rfl
        subst outcome
        rcases readApplicationData_cases ready.2 executed with
          ⟨state_same, nothing⟩ | ⟨record, opens, advanced, data_shown⟩
        · refine ⟨records, state_same.trans counted, opened, ?_⟩
          rw [← shown, nothing, ready.2]
        · refine ⟨records ++ [record], ?_, ?_, ?_⟩
          · rw [advanced, counted, List.length_append]
            simp only [KeyScheduleState.advance, List.length_singleton, Nat.add_assoc]
          · intro index other member
            rw [List.getElem?_append] at member
            split at member
            · exact opened index other member
            · rename_i beyond
              rw [List.getElem?_singleton] at member
              split at member
              · rename_i at_end
                cases member
                obtain rfl : index = records.length := by omega
                rw [← counted]
                exact opens
              · cases member
          · rw [List.flatMap_append, ← shown, ready.2, List.append_nil, data_shown]
            simp
      · cases taken

/-- Whatever the server and the network send, whichever records are refused and however often the
connection is asked again: what the application has taken, with what it is shown, are the data of
one record for each nonce that has been used up, in the order of the nonces, and each of these
records was decrypted under its nonce. -/
theorem delivered_in_order {start : TlsConnection σ} (fresh : start.decrypted = [])
    {state : TlsConnection σ × List UInt8}
    (reachable : (dataSystem suite capacity start).Reachable state) :
    ∃ records : List OpenedRecord,
      state.1.keySchedule.serverState = start.keySchedule.serverState.advance records.length ∧
        (∀ (index : ℕ) (record : OpenedRecord), records[index]? = some record →
          record.OpenedBy suite (start.keySchedule.serverState.advance index)) ∧
        state.2 ++ state.1.decrypted = records.flatMap OpenedRecord.applicationData := by
  refine reachable.invariant (Delivered suite start.keySchedule.serverState) ?_ ?_
  · rintro _ rfl
    refine ⟨[], rfl, fun _ _ impossible => (by cases impossible), ?_⟩
    rw [fresh]
    rfl
  · intro before action after delivered taken
    exact delivered.step taken

end Delivery

/-! ## A small run -/

/-- A record with the data `hi`, encrypted with the key of zeros under the first nonce. -/
def firstRecord : List UInt8 :=
  [0x6b, 0xe1, 0xcd, 0xce, 0xf3, 0x06, 0x72, 0x7b, 0x0a, 0xf7, 0x70, 0x97, 0x4c, 0xdc, 0x9d, 0xc5,
    0x1c, 0x5c, 0x37, 0xc7]

/-- A record with the data `yo`, encrypted under the second nonce. -/
def secondRecord : List UInt8 :=
  [0x17, 0x6e, 0xce, 0x30, 0xcf, 0x2e, 0xdc, 0x08, 0x15, 0xf0, 0x3c, 0x6f, 0x86, 0xab, 0xdd, 0x6d,
    0xb1, 0x84, 0x21, 0x8b]

/-- A suite that can decrypt these records. -/
def twoRecordSuite : CipherSuite where
  pki :=
    { fromDer := fun _ => none
      readTlv := fun _ => none
      certificateTlvBytes := fun _ => none
      p256 := ⟨fun _ => false, fun _ => false, fun _ _ _ => false⟩
      p384 := ⟨fun _ => false, fun _ => false, fun _ _ _ => false⟩
      sha256 := Sha256.hash }
  decrypt := fun key nonce header ciphertext =>
    if key = List.replicate 16 0 ∧ header = [23, 3, 3, 0, 20] then
      if nonce = List.replicate 12 0 ∧ ciphertext = firstRecord then some [0x68, 0x69, 23, 0]
      else if nonce = List.replicate 11 0 ++ [1] ∧ ciphertext = secondRecord then
        some [0x79, 0x6f, 23, 0]
      else none
    else none
  diffieHellman := fun _ _ => none

/-- Between the two records the first one is replayed. -/
def replayedConnection : TlsConnection HttpConnection where
  transport :=
    ⟨[⟨[23, 3, 3], by decide⟩, ⟨[0, 20] ++ firstRecord ++ [23, 3, 3, 0, 20], by decide⟩,
      ⟨firstRecord ++ [23, 3, 3, 0, 20] ++ secondRecord, by decide⟩], .ok (), false⟩
  keySchedule := .new
  decrypted := []
  opened := true

/-- The replay has used up no nonce, and one byte of the second record is still shown. -/
def afterReplay : TlsConnection HttpConnection where
  transport := ⟨[], .ok (), false⟩
  keySchedule := { KeySchedule.new with serverState := KeyScheduleState.new.advance 2 }
  decrypted := [0x6f]
  opened := true

theorem reachable_afterReplay :
    (dataSystem twoRecordSuite 16640 replayedConnection).Reachable
      (afterReplay, [0x68, 0x69, 0x79]) :=
  ⟨_, [.fill, .take 2, .fill, .fill, .take 1], rfl,
    TransitionSystem.path_of_run rfl fun _ _ _ => trivial⟩

theorem delivered_in_order_afterReplay :
    ∃ records : List OpenedRecord,
      afterReplay.keySchedule.serverState = KeyScheduleState.new.advance records.length ∧
        (∀ (index : ℕ) (record : OpenedRecord), records[index]? = some record →
          record.OpenedBy twoRecordSuite (KeyScheduleState.new.advance index)) ∧
        [0x68, 0x69, 0x79] ++ afterReplay.decrypted =
          records.flatMap OpenedRecord.applicationData :=
  delivered_in_order rfl reachable_afterReplay

end Tls
end Motonet
