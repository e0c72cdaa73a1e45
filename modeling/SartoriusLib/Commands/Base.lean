import SartoriusLib.Protocol.Sbi.Parser
import SartoriusLib.Protocol.Xbpi.Framing

/-!
# Command specifications

A command carries at most one variant for each protocol. A variant encodes a request and decodes a reply;
either may raise.
-/

namespace SartoriusLib

/-- The session state that encoders and decoders see. -/
structure CommandContext where
  protocol : ProtocolKind
  srcSbn : Int := 0x01
  dstSbn : Int := 0x09
  family : BalanceFamily := .unknown
  deriving DecidableEq, Repr

structure XbpiVariant (Req Resp : Type) where
  opcode : Int
  encode : CommandContext → Req → Except Exc Bytes
  decode : Xbpi.XbpiFrame → CommandContext → Except Exc Resp

structure SbiVariant (Req Resp : Type) where
  token : Bytes
  /-- How many reply lines the variant expects. -/
  expectLines : Int := 1
  encode : CommandContext → Req → Except Exc Bytes
  decode : Sbi.SbiReply → CommandContext → Except Exc Resp

structure Command (Req Resp : Type) where
  name : String
  xbpi : Option (XbpiVariant Req Resp) := none
  sbi : Option (SbiVariant Req Resp) := none
  familyHints : List BalanceFamily := []
  capabilityHints : Capability := []
  safety : SafetyTier := .readOnly
  /-- The request selects a sub-resource, and some firmwares answer a bad selector with 0x04. -/
  parameterized : Bool := false

end SartoriusLib
