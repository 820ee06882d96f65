import Motonet.Firmware.FlashWrite
import Motonet.Foundation.Mailbox

/-!
# The state that the OTA tasks share

The device with its watches, channels and tasks, and the broker as far as the OTA command topic is
concerned.  A task is the await point at which it is suspended, with the local variables that it
still uses; between two await points a task runs without interruption.
-/

namespace Motonet
namespace Tasks

open OtaCore Firmware

def otaCommandChannelDepth : ℕ := 1
def mqttCommandChannelDepth : ℕ := 16

/-! ## Messages -/

/-- A message on its way to the device; the number tells messages apart. -/
structure Publish where
  topic : String
  payload : List UInt8
  retain : Bool
  id : ℕ
  deriving DecidableEq, Repr

/-- A manifest on its way to the OTA task, with the number of the message that it came in. -/
structure OtaCommand where
  bytes : List UInt8
  id : ℕ
  deriving DecidableEq, Repr

/-- Health signal from the MQTT task, observed by the OTA confirmation gate. -/
inductive MqttHealth
  | disconnected
  | heartbeatPublished
  deriving DecidableEq, Repr

/-- Readings are told apart by numbers. -/
abbrev RadioReading := ℕ

/-- Commands to the MQTT task. -/
inductive AppCommand
  | applySettings
  | publishTelemetry (reading : RadioReading)
  | otaConfirmed
  deriving DecidableEq, Repr

/-- A message that the broker keeps for new subscriptions. -/
structure Retained where
  payload : List UInt8
  id : ℕ
  deriving DecidableEq, Repr

/-- The broker as far as the OTA command topic is concerned: the retained message, and the messages
that it has sent to the device in the current session. -/
structure Broker where
  retained : Option Retained
  subscribed : Bool
  inbox : List Publish
  /-- Number of messages published so far. -/
  published : ℕ
  deriving DecidableEq, Repr

namespace Broker

variable (topic : String) (broker : Broker)

/-- A message is published on the topic: subscribers receive it as a live message, and a retained
message replaces or clears the kept one. -/
def publish (payload : List UInt8) (retain : Bool) : Broker where
  retained :=
    if retain then (if payload.isEmpty then none else some ⟨payload, broker.published⟩)
    else broker.retained
  subscribed := broker.subscribed
  inbox :=
    if broker.subscribed then broker.inbox ++ [⟨topic, payload, false, broker.published⟩]
    else broker.inbox
  published := broker.published + 1

/-- The device subscribes and is sent the retained message. -/
def subscribe : Broker where
  retained := broker.retained
  subscribed := true
  inbox := broker.inbox ++
    broker.retained.toList.map fun kept => ⟨topic, kept.payload, true, kept.id⟩
  published := broker.published

/-- The connection ends; the session is not kept. -/
def disconnect : Broker :=
  { broker with subscribed := false, inbox := [] }

end Broker

/-! ## Tasks -/

/-- Where `ota_task` is suspended. -/
inductive OtaTask
  | receiving
  /-- In `wait_for_mqtt_stand_down`. -/
  | standingDown (manifest : OtaManifest)
  | lockingFlash (manifest : OtaManifest)
  /-- In `download_and_write_to_flash`, with the flash lock held. -/
  | downloading (manifest : OtaManifest)

/-- Where `ota_confirm_task` is suspended, and how it has returned. -/
inductive OtaConfirmTask
  | notStarted
  | lockingForCheck
  | warmingUp
  | awaitingHealth
  | awaitingUptime
  | lockingForMark
  | sendingConfirmed
  | alreadyConfirmed
  | confirmed
  | notMarked
  deriving DecidableEq, Repr

/-- Where `mqtt_task` is suspended.  A state of the OTA watch that a call was given is kept. -/
inductive MqttTask
  | notStarted
  | standingDown
  | workspaceBackoff
  /-- Connecting, up to the subscription to the OTA command topic. -/
  | connecting (otaState : OtaState)
  | awaitingSuback (otaState : OtaState)
  | forwardingEarly (command : OtaCommand)
  | clearingEarly (otaState : OtaState)
  | setupBackoff
  /-- At the head of the connected loop. -/
  | connected
  | forwarding (command : OtaCommand)
  | clearing
  | publishing (reading : RadioReading) (otaState : OtaState)
  | publishingConfirmed
  | pinging
  | sessionBackoff
  deriving DecidableEq, Repr

/-! ## The system -/

/-- What the tasks are built and linked with. -/
structure Config where
  crypto : CryptoPrimitives
  serde : SerdeJson
  otaManifestVerifier : SignatureVerifier
  otaEncryptionMasterKey : Digest
  otaEncryptionKeyId : UInt32
  otaTopic : String
  mqttUseTls : Bool

/-- The device, its tasks and the broker.  Three fields exist for the statements only: the slot that
the running image was booted from, whether the image was booted unconfirmed and has not been marked
valid since, and the numbers of the messages whose manifests were handed to the OTA task. -/
structure System where
  device : Device
  running : Slot
  unconfirmed : Bool
  handedOver : List ℕ
  otaState : Watch OtaState
  mqttHealth : Watch MqttHealth
  otaCommands : List OtaCommand
  mqttCommands : List AppCommand
  broker : Broker
  otaTask : OtaTask
  confirmTask : OtaConfirmTask
  mqttTask : MqttTask
  /-- Local to `mqtt_task`. -/
  deferredReading : Option RadioReading
  /-- What `mqtt_task` has seen of the OTA state. -/
  otaStateSeen : ℕ
  /-- What `ota_confirm_task` has seen of the MQTT health. -/
  mqttHealthSeen : ℕ

/-- The boot loader: an image that boots for the first time awaits confirmation, and one that has
not been confirmed since is rolled back. -/
def bootLoader (device : Device) : Device :=
  match device.imageState device.selected with
  | .new => device.setState .pendingVerify
  | .pendingVerify => (device.setState .aborted).selectNext
  | _ => device

namespace System

/-- The system after `spawn_tasks`, before any task was polled.  The journal starts anew. -/
def booted (device : Device) (broker : Broker) (handedOver : List ℕ) : System where
  device := { device with journal := [] }
  running := device.selected
  unconfirmed := (device.imageState device.selected).awaitsConfirmation
  handedOver := handedOver
  otaState := Watch.empty.send .inactive
  mqttHealth := Watch.empty
  otaCommands := []
  mqttCommands := []
  broker := broker.disconnect
  otaTask := .receiving
  confirmTask := .notStarted
  mqttTask := .notStarted
  deferredReading := none
  otaStateSeen := 0
  mqttHealthSeen := 0

/-- Reset the chip with a given state of the flash. -/
def reset (system : System) (device : Device) : System :=
  booted (bootLoader device) system.broker system.handedOver

/-- The flash lock is free while no download holds it. -/
def flashFree (system : System) : Bool :=
  match system.otaTask with
  | .downloading _ => false
  | _ => true

/-- `try_get` of `mqtt_task` on the OTA state, for a value that is there. -/
def currentOtaState (system : System) : OtaState :=
  system.otaState.value.getD .inactive

end System

end Tasks
end Motonet
