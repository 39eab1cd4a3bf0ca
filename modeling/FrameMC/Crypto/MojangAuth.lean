import FrameMC.Protocol.Uuid

/-!
# Profiles and the server hash

`src/crypto/mojang_auth.rs` but for the request to the session server. SHA-1
and the MD5 behind version-3 UUIDs are parameters.
-/

namespace FrameMC

structure ProfileProperty where
  name : String
  value : String
  signature : Option String
  deriving DecidableEq

structure PlayerProfile where
  id : Uuid
  name : String
  properties : List ProfileProperty
  deriving DecidableEq

/-- `trim_start_matches('0')`, and `0` for what is all zeros. -/
def trimmedHex (hash : List UInt8) : String :=
  let trimmed := (hexDigits hash).dropWhile (· == '0')
  if trimmed.isEmpty then "0" else String.ofList trimmed

/-- Invert the bits and add one, from the last byte to the first. -/
def twosComplement (hash : List UInt8) : List UInt8 :=
  (hash.foldr (fun byte (acc : List UInt8 × Bool) =>
    let inverted := ~~~byte
    if acc.2 then ((inverted + 1) :: acc.1, inverted == 0xFF) else (inverted :: acc.1, false)) ([], true)).1

def mojangSha1Digest (sha1 : List UInt8 → { hash : List UInt8 // hash.length = 20 }) (serverId : String)
    (sharedSecret publicKeyDer : List UInt8) : String :=
  let hash := (sha1 (asBytes serverId ++ sharedSecret ++ publicKeyDer)).val
  if hash.headD 0 &&& 0x80 ≠ 0 then "-" ++ trimmedHex (twosComplement hash) else trimmedHex hash

def defaultMojangSessionServer : String := "https://sessionserver.mojang.com/session/minecraft/hasJoined"

/-- `newV3` is `Uuid::new_v3` in the OID namespace. -/
def offlineProfile (newV3 : List UInt8 → Uuid) (username : String) : PlayerProfile :=
  ⟨newV3 (asBytes ("OfflinePlayer:" ++ username)), username, []⟩

end FrameMC
