import TrustOnboard.Memory.Text
import TrustOnboard.Se.Applet
import TrustOnboard.Se.Crypto
import TrustOnboard.Se.P11

/-
  Certificates and keys of a secure element for mbedTLS, the
  C build of `mbedtls_se.c`.

  The two applets share one interface.  Each function selects
  the one it needs and is to leave it again.

  Key definitions include:
    * `Mbedtls`
    * `Uninitialised`
    * `seReadEf`
    * `seP11ReadObject`
    * `rsaAltDecrypt`
    * `rsaAltSign`
    * `x509CrtParseSe`
    * `pkParseSe`
    * `Call`
-/

------------------------------------------------------------
-- What Is Not In This File
------------------------------------------------------------

namespace TrustOnboard

namespace Se

/-
  The functions of mbedTLS that are called.  They parse what
  they are given, and do not talk to the secure element.
-/
structure Mbedtls where
  x509CrtParse : Bytes → Int
  pkParseKey : Bytes → Int
  pkSetupRsaAlt : KeyPair → Int

/-
  What the variables hold that the functions read without
  having set them on every path.
-/
structure Uninitialised where
  ret : Int
  size : Int
  p11Size : Nat
  efSize : Nat
  dataLen : Nat
  kids : Nat → UInt8
  keyPair : Option KeyPair

/- `mias_key_t`. -/
structure MiasKey where
  pin : Bytes
  kp : KeyPair

/- The errors of `mbedtls_se.h`, and one of `md.h`. -/
def errMiasSelect : Int := -0x5280
def errMiasVerifyPin : Int := -0x5300
def errMiasIo : Int := -0x5380
def errMiasReadObject : Int := -0x5400
def errEfVerifyPin : Int := -0x5480
def errEfInvalidName : Int := -0x5500
def errEfReadObject : Int := -0x5580
def errBadKeyName : Int := -0x5600
def errMdFeatureUnavailable : Int := -0x5080

/- The beginnings of the names of keys. -/
def efScheme : Bytes := ascii "SE://EF/"
def miasScheme : Bytes := ascii "SE://MIAS/"
def p11Scheme : Bytes := ascii "SE://MIAS_P11/"

/- A string whose length goes through a `uint16_t`. -/
def shortened (s : Bytes) : Bytes :=
  s.take (s.length % 2 ^ 16)

/- The value of a hexadecimal digit, 0 for anything else. -/
def hexDigit (c : UInt8) : UInt8 :=
  if 48 ≤ c ∧ c ≤ 57 then c - 48
  else if 97 ≤ c ∧ c ≤ 102 then c - 87
  else if 65 ≤ c ∧ c ≤ 70 then c - 55
  else 0

/- `hex_string_2_bytes_array` on an even number of digits. -/
def hexStringToBytes : Bytes → Bytes
  | a :: b :: rest =>
      ((hexDigit a <<< 4) ||| hexDigit b) ::
        hexStringToBytes rest
  | _ => []

/- The number of a container, from its digits. -/
def containerIdOf (path : Bytes) : UInt8 :=
  path.foldl (fun cid c => cid * 10 + (c - 48)) 0

end Se

end TrustOnboard

------------------------------------------------------------
-- Reading Objects
------------------------------------------------------------

namespace TrustOnboard

namespace Se

variable {K : Type}

/- What a reader returns: the result, and the size. -/
abbrev ReadResult : Type := Int × Int

/- `mbedtls_se_read_ef`, behind a selection. -/
def readEfSelected
    (port : Port K)
    (fuel : Nat)
    (efname pin : Bytes)
    (v : Uninitialised) : Code K ReadResult := do
  let verified ← MF.verifyPin port fuel (shortened pin)
  if verified then do
    let r ← readEF port fuel efname v.dataLen
    if r.1 then
      pure (0, (r.2 : Int))
    else
      pure (errEfReadObject, -1)
  else
    pure (errEfVerifyPin, -1)

/- `mbedtls_se_read_ef`. -/
def seReadEf
    (port : Port K)
    (fuel : Nat)
    (efname pin : Bytes)
    (v : Uninitialised) : Code K ReadResult := do
  let selected ← Applet.select port fuel .mf false
  let r ←
    if selected then
      readEfSelected port fuel efname pin v
    else
      pure (v.ret, -1)
  let _ ← Applet.deselect port fuel .mf
  pure r

/- `mbedtls_se_read_object`. -/
def seReadObject
    (port : Port K)
    (fuel : Nat)
    (path pin : Bytes)
    (v : Uninitialised) : Code K ReadResult := do
  if path.length % 2 = 1 then
    pure (errEfInvalidName, v.size)
  else
    seReadEf port fuel (hexStringToBytes (shortened path))
      pin v

/- `mbedtls_se_p11_read_object`, behind a selection. -/
def p11ReadSelected
    (port : Port K)
    (fuel : Nat)
    (label pin : Bytes)
    (v : Uninitialised) : Code K ReadResult := do
  let verified ← MIAS.verifyPin port fuel (shortened pin)
  if verified then do
    let r ←
      p11GetObjectByLabel port fuel (shortened label)
        v.p11Size
    if r.1 then
      pure (0, (r.2 : Int))
    else
      pure (errMiasReadObject, v.size)
  else
    pure (errMiasReadObject, v.size)

/-
  `mbedtls_se_p11_read_object`.  It selects the MIAS applet
  and deselects the other one.
-/
def seP11ReadObject
    (port : Port K)
    (fuel : Nat)
    (label pin : Bytes)
    (v : Uninitialised) : Code K ReadResult := do
  let selected ← Applet.select port fuel .mias false
  let r ←
    if selected then
      p11ReadSelected port fuel label pin v
    else
      pure (v.ret, v.size)
  let _ ← Applet.deselect port fuel .mf
  pure r

/- Give the object that was read to a parser. -/
def parseObject
    (parse : Bytes → Int)
    (r : ReadResult) : Code K Int := do
  if r.1 = 0 then do
    let block ← Prog.read (fun s => s.block)
    pure (parse (block.load 0 r.2.toNat))
  else
    pure r.1

end Se

end TrustOnboard

------------------------------------------------------------
-- Private Keys
------------------------------------------------------------

namespace TrustOnboard

namespace Se

variable {K : Type}

/- Something done with the MIAS applet, its PIN verified. -/
def withPin
    (port : Port K)
    (fuel : Nat)
    (pin : Bytes)
    (code : Code K Bool) : Code K Int := do
  let verified ← MIAS.verifyPin port fuel (shortened pin)
  if verified then do
    let ok ← code
    if ok then
      pure 0
    else
      pure errMiasIo
  else
    pure errMiasVerifyPin

/- The frame of the two callbacks. -/
def withMias
    (port : Port K)
    (fuel : Nat)
    (pin : Bytes)
    (code : Code K Bool) : Code K Int := do
  let selected ← Applet.select port fuel .mias false
  let r ←
    if selected then
      withPin port fuel pin code
    else
      pure errMiasSelect
  let _ ← Applet.deselect port fuel .mias
  pure r

/- `decryptInit` and `decryptFinal`. -/
def decryptWithKey
    (port : Port K)
    (fuel : Nat)
    (kid : UInt8)
    (data : Bytes) : Code K Bool := do
  let ok ← mseSetBeforeDecrypt port fuel 0x1A kid
  if ok then do
    let plain ← psoDecipher port fuel data
    pure plain.isSome
  else
    pure false

/- `signInit` and `signFinal`. -/
def signWithKey
    (port : Port K)
    (fuel : Nat)
    (algorithm kid : UInt8)
    (hash : Buffer) : Code K Bool := do
  let ok ← mseSetBeforeSignature port fuel algorithm kid
  if ok then do
    let r ← signFinal port fuel algorithm hash
    pure r.1
  else
    pure false

/- `mbedtls_mias_pk_rsa_alt_decrypt`. -/
def rsaAltDecrypt
    (port : Port K)
    (fuel : Nat)
    (ctx : MiasKey)
    (input : Buffer) : Code K Int :=
  withMias port fuel ctx.pin
    (decryptWithKey port fuel ctx.kp.kid
      (input.load 0 (ctx.kp.sizeInBits.toNat / 8)))

/- `mbedtls_md_type_t`, as far as it is looked at. -/
inductive MdType where
  | sha1
  | sha224
  | sha256
  | sha384
  | sha512
  | other
  deriving DecidableEq, Repr

/- `ALGO_SHA1_WITH_RSA_PKCS1_PADDING` and the others. -/
def MdType.miasAlg : MdType → Option UInt8
  | .sha1 => some (algoSha1 ||| 0x02)
  | .sha224 => some (algoSha224 ||| 0x02)
  | .sha256 => some (algoSha256 ||| 0x02)
  | .sha384 => some (algoSha384 ||| 0x02)
  | .sha512 => some (algoSha512 ||| 0x02)
  | .other => none

/- `mbedtls_mias_pk_rsa_alt_sign`. -/
def rsaAltSign
    (port : Port K)
    (fuel : Nat)
    (ctx : MiasKey)
    (mdAlg : MdType)
    (hash : Buffer) : Code K Int :=
  match mdAlg.miasAlg with
  | some algorithm =>
      withMias port fuel ctx.pin
        (signWithKey port fuel algorithm ctx.kp.kid hash)
  | none => pure errMdFeatureUnavailable

end Se

end TrustOnboard

------------------------------------------------------------
-- Certificates And Keys
------------------------------------------------------------

namespace TrustOnboard

namespace Se

variable {K : Type}

/- The branch of `mbedtls_x509_crt_parse_se` for MIAS. -/
def miasCertificate
    (lib : Mbedtls)
    (port : Port K)
    (fuel : Nat)
    (cid : UInt8)
    (v : Uninitialised) : Code K Int := do
  let selected ← Applet.select port fuel .mias false
  let ret ←
    if selected then do
      let r ←
        getCertificateByContainerId port fuel v.kids cid
          v.efSize (v.size.toNat % 2 ^ 16)
      if r.1 then do
        let block ← Prog.read (fun s => s.block)
        pure (lib.x509CrtParse (block.load 0 r.2))
      else
        pure errBadKeyName
    else
      pure errBadKeyName
  let _ ← Applet.deselect port fuel .mias
  pure ret

/- `mbedtls_x509_crt_parse_se`. -/
def x509CrtParseSe
    (lib : Mbedtls)
    (port : Port K)
    (fuel : Nat)
    (path pin : Bytes)
    (v : Uninitialised) : Code K Int := do
  if efScheme.isPrefixOf path then do
    let r ←
      seReadObject port fuel (path.drop efScheme.length) pin v
    parseObject lib.x509CrtParse r
  else if p11Scheme.isPrefixOf path then do
    let r ←
      seP11ReadObject port fuel (path.drop p11Scheme.length)
        pin v
    parseObject lib.x509CrtParse r
  else if miasScheme.isPrefixOf path then
    miasCertificate lib port fuel
      (containerIdOf (path.drop miasScheme.length)) v
  else
    pure errBadKeyName

/- The branch of `mbedtls_pk_parse_se` for MIAS. -/
def miasKey
    (lib : Mbedtls)
    (port : Port K)
    (fuel : Nat)
    (cid : UInt8)
    (v : Uninitialised) : Code K Int := do
  let selected ← Applet.select port fuel .mias false
  let kp ←
    if selected then
      getKeyPairByContainerId port fuel v.kids cid
    else
      pure v.keyPair
  let _ ← Applet.deselect port fuel .mias
  match kp with
  | some kp => pure (lib.pkSetupRsaAlt kp)
  | none => pure errBadKeyName

/- `mbedtls_pk_parse_se`. -/
def pkParseSe
    (lib : Mbedtls)
    (port : Port K)
    (fuel : Nat)
    (path pin : Bytes)
    (v : Uninitialised) : Code K Int := do
  if efScheme.isPrefixOf path then do
    let r ←
      seReadObject port fuel (path.drop efScheme.length) pin v
    parseObject lib.pkParseKey r
  else if p11Scheme.isPrefixOf path then do
    let r ←
      seP11ReadObject port fuel (path.drop p11Scheme.length)
        pin v
    parseObject lib.pkParseKey r
  else if miasScheme.isPrefixOf path then
    miasKey lib port fuel
      (containerIdOf (path.drop miasScheme.length)) v
  else
    pure errBadKeyName

/- A call of mbedTLS or of the application. -/
inductive Call where
  | x509CrtParse (path pin : Bytes)
  | pkParse (path pin : Bytes)
  | rsaAltDecrypt (ctx : MiasKey) (input : Buffer)
  | rsaAltSign (ctx : MiasKey) (mdAlg : MdType)
      (hash : Buffer)

/- What a call runs. -/
def Call.code
    (call : Call)
    (lib : Mbedtls)
    (port : Port K)
    (v : Uninitialised)
    (fuel : Nat) : Code K Int :=
  match call with
  | .x509CrtParse path pin =>
      x509CrtParseSe lib port fuel path pin v
  | .pkParse path pin => pkParseSe lib port fuel path pin v
  | .rsaAltDecrypt ctx input =>
      Se.rsaAltDecrypt port fuel ctx input
  | .rsaAltSign ctx mdAlg hash =>
      Se.rsaAltSign port fuel ctx mdAlg hash

end Se

end TrustOnboard
