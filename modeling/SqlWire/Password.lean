import SqlWire.Message.Greeting
import SqlWire.Sha1
/-!
# Proof of the password

The answer of the native password plugin to a nonce, and the check that a server makes of it. The
server keeps only the hash of the hash of the password.
-/
namespace SqlWire.Password

def stored (password : Bytes) : Bytes := Sha1.digest (Sha1.digest password)

/-- The proof of a password for the first octets of `message`; an empty password needs none. -/
def scramble (password message : Bytes) : Bytes :=
  if password.isEmpty then []
  else Bytes.xor (Sha1.digest (message.take Greeting.nonceLength ++ stored password))
    (Sha1.digest password)

/-- The server's check of a proof, from what it keeps of the password. -/
def Accepts (kept nonce proof : Bytes) : Prop :=
  Sha1.digest (Bytes.xor proof (Sha1.digest (nonce ++ kept))) = kept

end SqlWire.Password
