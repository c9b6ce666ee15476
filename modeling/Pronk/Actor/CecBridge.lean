import Pronk.Media.Types

/-!
# From HDMI-CEC messages to device control

The bridge presents a network display as a TV at logical address 0 and an audio
system at address 5. The only state is the generic key that is held down.
-/
namespace Pronk.Actor
open Media

def LOGICAL_ADDRESS_TV : UInt8 := 0
def LOGICAL_ADDRESS_AUDIO_SYSTEM : UInt8 := 5
def LOGICAL_ADDRESS_BROADCAST : UInt8 := 15

def OPCODE_FEATURE_ABORT : UInt8 := 0x00
def OPCODE_IMAGE_VIEW_ON : UInt8 := 0x04
def OPCODE_TEXT_VIEW_ON : UInt8 := 0x0d
def OPCODE_STANDBY : UInt8 := 0x36
def OPCODE_USER_CONTROL_PRESSED : UInt8 := 0x44
def OPCODE_USER_CONTROL_RELEASED : UInt8 := 0x45
def OPCODE_SET_AUDIO_VOLUME_LEVEL : UInt8 := 0x73
def OPCODE_ACTIVE_SOURCE : UInt8 := 0x82
def OPCODE_INACTIVE_SOURCE : UInt8 := 0x9d

def ABORT_UNRECOGNIZED_OPCODE : UInt8 := 0x00
def ABORT_INVALID_OPERAND : UInt8 := 0x03

def UI_POWER : UInt8 := 0x40
def UI_VOLUME_UP : UInt8 := 0x41
def UI_VOLUME_DOWN : UInt8 := 0x42
def UI_MUTE : UInt8 := 0x43
def UI_POWER_TOGGLE : UInt8 := 0x6b
def UI_POWER_OFF : UInt8 := 0x6c
def UI_POWER_ON : UInt8 := 0x6d

def RELATIVE_VOLUME_STEP_PERCENT : Int32 := 5

/-- What a message asks of the actor. -/
inductive CecBridgeAction where
  | Acknowledge
  | NotAcknowledged
  | Reply (message : List UInt8)
  | Control (operation : DeviceControlOperation)

/-- The key that is held down after an action. -/
def CecBridgeAction.held (held : Option String) : CecBridgeAction → Option String
  | .Control ⟨.KeyDown, code, _⟩ => code
  | .Control ⟨.KeyUp, _, _⟩ => none
  | _ => held

/-- The key that the remote control holds down. -/
structure CecBridge where
  pressedKey : Option String := none
  deriving DecidableEq

namespace CecBridge

def isRemoteAddress (address : UInt8) : Bool :=
  address = LOGICAL_ADDRESS_TV || address = LOGICAL_ADDRESS_AUDIO_SYSTEM

def abortOrAcknowledge (initiator destination opcode reason : UInt8) : CecBridgeAction :=
  if destination = LOGICAL_ADDRESS_BROADCAST ∨ initiator = LOGICAL_ADDRESS_BROADCAST then
    .Acknowledge
  else .Reply [(destination <<< 4) ||| initiator, OPCODE_FEATURE_ABORT, opcode, reason]

/-- `format!("{code:02x}")`. -/
def hexByte (code : UInt8) : String :=
  String.ofList [Nat.digitChar (code.toNat / 16), Nat.digitChar (code.toNat % 16)]

def userControlPressed (code : UInt8) (bridge : CecBridge) : CecBridgeAction × CecBridge :=
  let control (operation : DeviceControlOperation) := (.Control operation, bridge)
  if code = UI_VOLUME_UP then
    control (.valued .Volume "relative" RELATIVE_VOLUME_STEP_PERCENT)
  else if code = UI_VOLUME_DOWN then
    control (.valued .Volume "relative" (-RELATIVE_VOLUME_STEP_PERCENT))
  else if code = UI_MUTE then control (.coded .Mute "toggle")
  else if code = UI_POWER ∨ code = UI_POWER_TOGGLE then control (.coded .Power "toggle")
  else if code = UI_POWER_OFF then control (.simple .Standby)
  else if code = UI_POWER_ON then control (.coded .Power "on")
  else
    let key := "cec-ui-" ++ hexByte code
    (.Control (.coded .KeyDown key), { bridge with pressedKey := some key })

def userControlReleased (bridge : CecBridge) : CecBridgeAction × CecBridge :=
  match bridge.pressedKey with
  | some code => (.Control (.coded .KeyUp code), { bridge with pressedKey := none })
  | none => (.Acknowledge, bridge)

/-- The opcodes that the bridge gives a meaning to. -/
def isKnownOpcode (opcode : UInt8) : Bool :=
  [OPCODE_IMAGE_VIEW_ON, OPCODE_TEXT_VIEW_ON, OPCODE_ACTIVE_SOURCE, OPCODE_INACTIVE_SOURCE,
    OPCODE_STANDBY, OPCODE_USER_CONTROL_PRESSED, OPCODE_USER_CONTROL_RELEASED,
    OPCODE_SET_AUDIO_VOLUME_LEVEL].contains opcode

/-- The opcode match of `translate`, by the number of operands that an arm asks for. -/
def translateOpcode (initiator destination opcode : UInt8) (operands : List UInt8)
    (bridge : CecBridge) : CecBridgeAction × CecBridge :=
  let control (operation : DeviceControlOperation) := (.Control operation, bridge)
  let remote := isRemoteAddress destination
  match operands with
  | [] =>
    if (opcode = OPCODE_IMAGE_VIEW_ON ∨ opcode = OPCODE_TEXT_VIEW_ON) ∧
        destination = LOGICAL_ADDRESS_TV then control (.simple .Activate)
    else if opcode = OPCODE_STANDBY then control (.simple .Standby)
    else if opcode = OPCODE_USER_CONTROL_RELEASED ∧ remote then bridge.userControlReleased
    else refuse
  | [operand] =>
    if opcode = OPCODE_USER_CONTROL_PRESSED ∧ remote then bridge.userControlPressed operand
    else if opcode = OPCODE_SET_AUDIO_VOLUME_LEVEL ∧ remote ∧ operand ≤ 100 then
      control (.valued .Volume "absolute" (Int32.ofNat operand.toNat))
    else refuse
  | [_, _] =>
    if opcode = OPCODE_ACTIVE_SOURCE ∧ destination = LOGICAL_ADDRESS_BROADCAST then
      control (.simple .Activate)
    else if opcode = OPCODE_INACTIVE_SOURCE ∧ destination = LOGICAL_ADDRESS_BROADCAST then
      control (.simple .Deactivate)
    else refuse
  | _ => refuse
where
  refuse : CecBridgeAction × CecBridge :=
    (abortOrAcknowledge initiator destination opcode
      (if isKnownOpcode opcode then ABORT_INVALID_OPERAND else ABORT_UNRECOGNIZED_OPCODE), bridge)

/-- The answer to one CEC message. -/
def translate (message : List UInt8) (bridge : CecBridge) : CecBridgeAction × CecBridge :=
  match message with
  | [] => (.NotAcknowledged, bridge)
  | header :: rest =>
    let initiator := header >>> 4
    let destination := header &&& 0x0f
    if message.length > 16 then (.NotAcknowledged, bridge)
    else
      match rest with
      | [] =>
        if initiator = destination ∧ isRemoteAddress destination then (.Acknowledge, bridge)
        else (.NotAcknowledged, bridge)
      | opcode :: operands =>
        if ¬ isRemoteAddress destination ∧ destination ≠ LOGICAL_ADDRESS_BROADCAST then
          (.NotAcknowledged, bridge)
        else bridge.translateOpcode initiator destination opcode operands

/-- The actions for one message after the other. -/
def translateAll (bridge : CecBridge) : List (List UInt8) → List CecBridgeAction
  | [] => []
  | message :: rest =>
    (bridge.translate message).1 :: translateAll (bridge.translate message).2 rest

/-- Only the held key is released. -/
def Frees (held : Option String) (action : CecBridgeAction) : Prop :=
  ∀ code value, action = .Control ⟨.KeyUp, code, value⟩ → code = held ∧ held ≠ none

/-- Every key-up names the key that is held at that point. -/
def FreesHeld (held : Option String) : List CecBridgeAction → Prop
  | [] => True
  | action :: rest => Frees held action ∧ FreesHeld (action.held held) rest

/-- The bridge remembers the key that is held. -/
def Remembers (held : Option String) (result : CecBridgeAction × CecBridge) : Prop :=
  result.2.pressedKey = result.1.held held ∧ Frees held result.1

lemma translate_remembers (bridge : CecBridge) (message : List UInt8) :
    Remembers bridge.pressedKey (bridge.translate message) := by
  unfold translate translateOpcode userControlPressed userControlReleased translateOpcode.refuse
    abortOrAcknowledge
  dsimp only
  repeat' split
  all_goals
    refine ⟨rfl, fun _ _ haction => ?_⟩
    cases haction
  -- what is left is the release of a key
  simp [*]

/-- A key that is released was pressed last, and it was not released since. -/
theorem translateAll_freesHeld (bridge : CecBridge) (messages : List (List UInt8)) :
    FreesHeld bridge.pressedKey (bridge.translateAll messages) := by
  induction messages generalizing bridge with
  | nil => trivial
  | cons message rest ih =>
    obtain ⟨hheld, hfrees⟩ := bridge.translate_remembers message
    exact ⟨hfrees, hheld ▸ ih _⟩

end CecBridge

end Pronk.Actor
