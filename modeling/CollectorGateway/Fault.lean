import CollectorGateway.Address

/-!
What can go wrong between the gateway and its two neighbours. A `Fault` is the
cause; `Fault.message` is the only place where causes are put into words.
-/

namespace CollectorGateway

inductive StreamFault where
  | unfinishedFrame
  /-- An octet sequence that no text contains: its length and where it starts. -/
  | notText (length start : Nat)
  /-- Text that breaks off inside a character starting here. -/
  | brokenOff (start : Nat)
  | writeZero
  deriving DecidableEq, Repr

def StreamFault.message : StreamFault → String
  | .unfinishedFrame => "bytes remaining on stream"
  | .notText length start => s!"invalid utf-8 sequence of {length} bytes from index {start}"
  | .brokenOff start => s!"incomplete utf-8 byte sequence from index {start}"
  | .writeZero => "failed to write whole buffer"

inductive Fault where
  | unknownCode (kind : String) (code : Nat)
  | truncated (what : String) (needed remaining : Nat)
  | frameTooLarge (size max : Nat)
  | frameLength (expected actual : Nat)
  | unknownAddressMode (mode : UInt8)
  | deviceNotFound (address : Address)
  | networkUnknown
  | missingTarget
  | stream (cause : StreamFault)
  | notConnected
  | linkBusy
  | linkNotConnecting
  | linkNotUp
  | closed
  deriving DecidableEq, Repr

def Fault.message : Fault → String
  | .unknownCode kind code => s!"unknown {kind} discriminant: {Hex.text code}"
  | .truncated what needed remaining =>
      s!"truncated {what}: needed {needed} bytes, {remaining} remaining"
  | .frameTooLarge size max => s!"frame too large: {size} bytes (max {max})"
  | .frameLength expected actual => s!"invalid frame length: expected {expected}, got {actual}"
  | .unknownAddressMode mode => s!"unknown address mode: {mode.toNat}"
  | .deviceNotFound address => s!"device not found: {address.text}"
  | .networkUnknown => "network information not yet known"
  | .missingTarget => "invalid request: missing target address"
  | .stream cause => s!"connection error: {cause.message}"
  | .notConnected => "not connected"
  | .linkBusy => "invalid link transition: cannot connect: link is connecting or connected"
  | .linkNotConnecting =>
      "invalid link transition: cannot complete connect: not in Connecting state"
  | .linkNotUp => "invalid link transition: cannot lose link: not connecting or connected"
  | .closed => "channel closed"

end CollectorGateway
