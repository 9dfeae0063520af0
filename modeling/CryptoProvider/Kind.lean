import CryptoProvider.Bytes

/-! The algorithm families that can be asked for, and the labels they go by. -/

set_option autoImplicit false

namespace CryptoProvider

inductive CipherKind where
  | unknown
  /-- AES with keys of 128, 192 or 256 bits. -/
  | aes
  | des
  /-- Triple DES with two or three keys. -/
  | tripleDes
  deriving DecidableEq, Repr

inductive SchemeKind where
  | unknown
  | rsa
  | dsa
  | dh
  | ecdh
  | ecdsa
  | gost
  | eddsa
  deriving DecidableEq, Repr

inductive HashKind where
  | unknown
  | md5
  | sha1
  | sha224
  | sha256
  | sha384
  | sha512
  /-- The digest of the alternate suite. -/
  | gost
  deriving DecidableEq, Repr

inductive MacKind where
  | unknown
  | hmacMd5
  | hmacSha1
  | hmacSha224
  | hmacSha256
  | hmacSha384
  | hmacSha512
  | hmacGost
  /-- CMAC over single or triple DES. -/
  | cmacDes
  | cmacAes
  deriving DecidableEq, Repr

inductive GeneratorKind where
  | unknown
  | standard
  deriving DecidableEq, Repr

instance : Inhabited GeneratorKind := ⟨.standard⟩

inductive CipherMode where
  | ecb
  | cbc
  | ctr
  deriving DecidableEq, Repr

namespace CipherKind

def label : CipherKind → String
  | unknown => "Unknown"
  | aes => "AES"
  | des => "DES"
  | tripleDes => "3DES"

end CipherKind

namespace SchemeKind

def label : SchemeKind → String
  | unknown => "Unknown"
  | rsa => "RSA"
  | dsa => "DSA"
  | dh => "DH"
  | ecdh => "ECDH"
  | ecdsa => "ECDSA"
  | gost => "GOST"
  | eddsa => "EDDSA"

end SchemeKind

namespace HashKind

def label : HashKind → String
  | unknown => "Unknown"
  | md5 => "MD5"
  | sha1 => "SHA1"
  | sha224 => "SHA224"
  | sha256 => "SHA256"
  | sha384 => "SHA384"
  | sha512 => "SHA512"
  | gost => "GOST"

end HashKind

namespace MacKind

def label : MacKind → String
  | unknown => "Unknown"
  | hmacMd5 => "HMAC-MD5"
  | hmacSha1 => "HMAC-SHA1"
  | hmacSha224 => "HMAC-SHA224"
  | hmacSha256 => "HMAC-SHA256"
  | hmacSha384 => "HMAC-SHA384"
  | hmacSha512 => "HMAC-SHA512"
  | hmacGost => "HMAC-GOST"
  | cmacDes => "CMAC-DES"
  | cmacAes => "CMAC-AES"

def hash? : MacKind → Option HashKind
  | hmacMd5 => some .md5
  | hmacSha1 => some .sha1
  | hmacSha224 => some .sha224
  | hmacSha256 => some .sha256
  | hmacSha384 => some .sha384
  | hmacSha512 => some .sha512
  | hmacGost => some .gost
  | unknown | cmacDes | cmacAes => none

end MacKind

namespace GeneratorKind

def label : GeneratorKind → String
  | unknown => "Unknown"
  | standard => "Default"

end GeneratorKind

namespace CipherMode

def label : CipherMode → String
  | ecb => "Ecb"
  | cbc => "Cbc"
  | ctr => "Ctr"

end CipherMode

end CryptoProvider
