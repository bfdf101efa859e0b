import Actr.Library.Text
import Actr.Protocol.ActrId

/-! # The payload that a manufacturer signs to register a package -/

namespace Actr.Protocol
open Library

def manufacturerRegisterDomain : String := "ACTR-MANUFACTURER-REGISTER-V1"

structure ManufacturerRegisterPayload where
  realmId : Nat
  actrType : ActrType
  target : String
  manifestSha256Hex : String
  manufacturerAuthSignedAt : UInt64
  manufacturerAuthNonce : List UInt8
  deriving DecidableEq, Repr

def buildManufacturerRegisterPayload (input : ManufacturerRegisterPayload) : String :=
  manufacturerRegisterDomain ++ "\nauth_mode=package" ++
    "\nrealm=" ++ toString input.realmId ++
    "\nactr_type=" ++ input.actrType.toStringRepr ++
    "\ntarget=" ++ input.target ++
    "\nmanifest_sha256=" ++ input.manifestSha256Hex ++
    "\nmanufacturer_auth_signed_at=" ++ toString input.manufacturerAuthSignedAt.toNat ++
    "\nmanufacturer_auth_nonce=" ++ Text.hexEncode input.manufacturerAuthNonce

end Actr.Protocol
