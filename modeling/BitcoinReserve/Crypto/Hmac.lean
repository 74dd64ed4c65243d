import BitcoinReserve.Crypto.Sha256

/-!
# Keyed hashing with SHA-256
-/
namespace BitcoinReserve.Hmac

/-- Keys longer than a block are hashed first; shorter ones are filled up with zeros. -/
def blockKey (key : Bytes) : Bytes :=
  let key := if key.length > 64 then sha256 key else key
  key ++ Bytes.zeros (64 - key.length)

def sha256 (key message : Bytes) : Bytes :=
  let k := blockKey key
  BitcoinReserve.sha256 (k.map (· ^^^ 0x5c) ++
    BitcoinReserve.sha256 (k.map (· ^^^ 0x36) ++ message))

@[simp] theorem length_sha256 (key message : Bytes) : (sha256 key message).length = 32 :=
  BitcoinReserve.length_sha256 _

end BitcoinReserve.Hmac
