import Pronk.Capture.Tracker

/-!
# Events of a grant holder

Decoded records of the holder's event stream. A read returns a batch of them or
the error that ended the stream.
-/
namespace Pronk.Capture
open CastKms

structure GrantRevokedEvent where
  grantId : UInt32
  status : Int32
  timestampNs : UInt64
  deriving DecidableEq

/-- A message that the kernel wants to be sent. -/
structure CecTransmitEvent where
  transportId : UInt32
  (transportGeneration stateGeneration cookie : UInt64)
  (connectorId outputIndex : UInt32)
  attempts : UInt8
  signalFreeTime : UInt32
  messageLength : UInt8
  messageBuffer : Vector UInt8 16
  deriving DecidableEq

/-- The part of the buffer that holds the message. -/
def CecTransmitEvent.message (event : CecTransmitEvent) : List UInt8 :=
  event.messageBuffer.toList.take event.messageLength.toNat

structure UnknownEvent where
  (eventType length : UInt32)
  deriving DecidableEq

/-- The events of the grant holder. -/
inductive CastKmsEvent where
  | CaptureFrame (frame : CaptureFrameEvent)
  | CecTransmit (event : CecTransmitEvent)
  | GrantState (event : GrantStateEvent)
  | GrantRevoked (event : GrantRevokedEvent)
  | Unknown (event : UnknownEvent)
  deriving DecidableEq

def CastKmsEvent.frame? : CastKmsEvent → Option CaptureFrameEvent
  | .CaptureFrame frame => some frame
  | _ => none

def CastKmsEvent.revoked? : CastKmsEvent → Option GrantRevokedEvent
  | .GrantRevoked event => some event
  | _ => none

def CastKmsEvent.transmit? : CastKmsEvent → Option CecTransmitEvent
  | .CecTransmit event => some event
  | _ => none

inductive EventDecodeError where
  | InputTooLarge (actual maximum : ℕ)
  | LengthTooSmall (eventType length : UInt32)
  | LengthTooLarge (eventType length : UInt32) (maximum : ℕ)
  | KnownEventTooShort (eventType actual : UInt32) (minimum : ℕ)
  | NonZeroReserved (eventType value : UInt32)
  | UnknownGrantState (state : UInt32)
  | InvalidCecTransmit (field : String)
  | Truncated (buffered : ℕ) (expected : Option ℕ)
  deriving DecidableEq

inductive EventReadError where
  | Wait (errno : Errno)
  | Read (errno : Errno)
  | Decode (error : EventDecodeError)
  | StreamClosed
  | ForeignGrant (expected actual : UInt32)
  | ForeignConnector (expected actual : UInt32)
  | TooManyEvents (maximum : ℕ)
  | CaptureProtocol (error : CaptureProtocolError)
  deriving DecidableEq

end Pronk.Capture
