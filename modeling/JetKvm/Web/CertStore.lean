import JetKvm.Library.Outcome
import JetKvm.Library.Procedure
import Mathlib.Data.List.Basic
import Mathlib.Tactic.Common

/-!
# Certificates that are kept

A certificate of the user is validated, kept in memory, and saved in two files, from which it is
loaded when the device starts. The writer of the key chooses an encoding by the type of the key,
and the reader knows three of them. A key of the type Ed25519 is written as its bytes alone, which
is not one of the three, so that its certificate is gone with the next start. A PEM text is taken
to be what it encodes.
-/

namespace JetKvm.WebSecure

/-- A block of a PEM text. -/
structure Block where
  type : String
  bytes : List UInt8
deriving DecidableEq

/-- A PEM text, as the blocks that are found in it. -/
abbrev Pem :=
  List Block

/-- `crypto.PrivateKey`. A key of the type Ed25519 is its seed and its public key. -/
inductive PrivateKey (RSA ECDSA : Type) where
  | rsa (k : RSA)
  | ecdsa (k : ECDSA)
  | ed25519 (k : List UInt8)
deriving DecidableEq

/-- `tls.Certificate`: the chain, the key, and the first certificate of the chain after parsing. -/
structure Certificate (RSA ECDSA Leaf : Type) where
  certificate : List (List UInt8)
  privateKey : PrivateKey RSA ECDSA
  leaf : Option Leaf
deriving DecidableEq

/-- What is used of `crypto/x509`, and whether `crypto/tls` keeps the parsed certificate. -/
structure X509 (RSA ECDSA Leaf : Type) where
  marshalPKCS1PrivateKey : RSA → List UInt8
  marshalECPrivateKey : ECDSA → Except String (List UInt8)
  parsePKCS1PrivateKey : List UInt8 → Option RSA
  /-- The key may also be of a type that `tls` does not know. -/
  parsePKCS8PrivateKey : List UInt8 → Option (Option (PrivateKey RSA ECDSA))
  parseECPrivateKey : List UInt8 → Option ECDSA
  parseCertificate : List UInt8 → Except String Leaf
  /-- Whether the key in the certificate is the public key of the private key. -/
  publicKeyOf : Leaf → PrivateKey RSA ECDSA → Bool
  /-- A fault is a panic. -/
  verifyHostname : Leaf → String → Outcome Unit
  keepsLeaf : Bool

variable {RSA ECDSA Leaf : Type} (x509 : X509 RSA ECDSA Leaf)

/-- The parsers are the inverses of the encoders, each of which has an encoding of its own, and a
key that has been parsed can be encoded. An Ed25519 key is shorter in PKCS #8 than it is itself. -/
structure X509.Lawful : Prop where
  pkcs1 : ∀ k, x509.parsePKCS1PrivateKey (x509.marshalPKCS1PrivateKey k) = some k
  sec1 : ∀ k der, x509.marshalECPrivateKey k = .ok der →
    x509.parsePKCS1PrivateKey der = none ∧ x509.parsePKCS8PrivateKey der = none ∧
      x509.parseECPrivateKey der = some k
  parsed : ∀ k der,
    x509.parseECPrivateKey der = some k ∨ x509.parsePKCS8PrivateKey der = some (some (.ecdsa k)) →
    ∃ der', x509.marshalECPrivateKey k = .ok der'
  ed25519 : ∀ k, x509.parsePKCS8PrivateKey k ≠ some (some (.ed25519 k))

namespace X509

/-! ### Reading a pair of texts -/

/-- The key is tried in PKCS #1, in PKCS #8 and in SEC 1. -/
def parsePrivateKey (der : List UInt8) : Except String (PrivateKey RSA ECDSA) :=
  match x509.parsePKCS1PrivateKey der with
  | some k => .ok (.rsa k)
  | none =>
      match x509.parsePKCS8PrivateKey der with
      | some (some k) => .ok k
      | some none => .error "tls: found unknown private key type in PKCS#8 wrapping"
      | none =>
          match x509.parseECPrivateKey der with
          | some k => .ok (.ecdsa k)
          | none => .error "tls: failed to parse private key"

/-- The type of a block with a key. -/
def isKeyType (type : String) : Bool :=
  type = "PRIVATE KEY" ∨ " PRIVATE KEY".toList <:+ type.toList

/-- `tls.X509KeyPair`. -/
def X509KeyPair (certPEM keyPEM : Pem) : Except String (Certificate RSA ECDSA Leaf) :=
  let certificate := (certPEM.filter (·.type = "CERTIFICATE")).map (·.bytes)
  match certificate.head?, keyPEM.find? fun block => isKeyType block.type with
  | none, _ => .error "tls: failed to find any PEM data in certificate input"
  | some _, none => .error "tls: failed to find any PEM data in key input"
  | some der, some keyBlock => do
      let x509Cert ← x509.parseCertificate der
      let privateKey ← x509.parsePrivateKey keyBlock.bytes
      if x509.publicKeyOf x509Cert privateKey then
        .ok { certificate, privateKey, leaf := if x509.keepsLeaf then some x509Cert else none }
      else .error "tls: private key does not match public key"

end X509

/-! ### The store -/

/-- The certificates in memory, and the files. -/
structure CertStore (RSA ECDSA Leaf : Type) where
  certificates : String → Option (Certificate RSA ECDSA Leaf)
  storePath : String
  files : String → Option Pem

/-- How writing a file goes, and what is found in it if it fails. -/
inductive Write where
  | succeeds
  | fails (left : Option Pem)
deriving DecidableEq

/-- How saving goes: the error of `ensureStorePath`, and the two files. -/
structure Disk where
  storePath : Option String
  key : Write
  crt : Write

/-- Everything is written. -/
def Disk.Succeeds (disk : Disk) : Prop :=
  disk.storePath = none ∧ disk.key = .succeeds ∧ disk.crt = .succeeds

/-- The files after one has been written. -/
def withSecretFile (files : String → Option Pem) (filename : String) (content : Pem)
    (write : Write) : String → Option Pem :=
  match write with
  | .succeeds => Function.update files filename (some content)
  | .fails left => Function.update files filename left

/-- The block of the key, by its type. -/
def keyBlock (cert : Certificate RSA ECDSA Leaf) : Except String Block :=
  match cert.privateKey with
  | .rsa k => .ok ⟨"RSA PRIVATE KEY", x509.marshalPKCS1PrivateKey k⟩
  | .ecdsa k =>
      match x509.marshalECPrivateKey k with
      | .ok b => .ok ⟨"EC PRIVATE KEY", b⟩
      | .error e => .error s!"failed to marshal EC private key: {e}"
  | .ed25519 k => .ok ⟨"ED25519 PRIVATE KEY", k⟩

/-- The blocks of the chain. -/
def certBlocks (cert : Certificate RSA ECDSA Leaf) : Pem :=
  cert.certificate.map fun c => ⟨"CERTIFICATE", c⟩

namespace CertStore

/-- A store that has been made anew, over the files that are there. -/
def new (storePath : String) (files : String → Option Pem) : CertStore RSA ECDSA Leaf :=
  { certificates := fun _ => none, storePath, files }

variable (s : CertStore RSA ECDSA Leaf)

def keyFile (hostname : String) : String :=
  s.storePath ++ ("/" ++ (hostname ++ ".key"))

def crtFile (hostname : String) : String :=
  s.storePath ++ ("/" ++ (hostname ++ ".crt"))

def saveCertificate (hostname : String) (disk : Disk) : CertStore RSA ECDSA Leaf :=
  match s.certificates hostname, disk.storePath with
  | none, _ => s
  | some _, some _ => s
  | some tlsCert, none =>
      match keyBlock x509 tlsCert with
      | .error _ => s
      | .ok block =>
          let files := withSecretFile s.files (s.keyFile hostname) [block] disk.key
          if disk.key = .succeeds then
            { s with
              files := withSecretFile files (s.crtFile hostname) (certBlocks tlsCert) disk.crt }
          else { s with files }

/-- The key of the certificate is loaded with it, or the certificates stay as they are. -/
def loadCertificate (hostname : String) : CertStore RSA ECDSA Leaf :=
  match s.files (s.crtFile hostname), s.files (s.keyFile hostname) with
  | some certPEM, some keyPEM =>
      match x509.X509KeyPair certPEM keyPEM with
      | .ok cert => { s with certificates := Function.update s.certificates hostname (some cert) }
      | .error _ => s
  | _, _ => s

/-- The check of the name. A mismatch is an error unless it is to be ignored. -/
def checkHostname (leaf : Option Leaf) (hostname : String) (ignoreWarning : Bool) : Outcome Unit :=
  match leaf with
  | none => .value ()
  | some leaf =>
      match x509.verifyHostname leaf hostname with
      | .value _ => .value ()
      | .error err =>
          if ignoreWarning then .value ()
          else .error s!"certificate does not match hostname: {err}"
      | .fault => .fault

/-- The two errors that are returned. After a panic of the check both are nil. -/
def ValidateAndSaveCertificate (hostname : String) (cert key : Pem) (ignoreWarning : Bool)
    (disk : Disk) : CertStore RSA ECDSA Leaf × Option String × Option String :=
  match x509.X509KeyPair cert key with
  | .error err => (s, some s!"failed to parse certificate: {err}", none)
  | .ok tlsCert =>
      match checkHostname x509 tlsCert.leaf hostname ignoreWarning with
      | .error warning => (s, none, some warning)
      | .fault => (s, none, none)
      | .value _ =>
          let s := { s with certificates := Function.update s.certificates hostname (some tlsCert) }
          (s.saveCertificate x509 hostname disk, none, none)

/-! ### What is loaded again -/

/-- What a new store loads for the name. -/
def loaded (hostname : String) : Option (Certificate RSA ECDSA Leaf) :=
  ((new s.storePath s.files).loadCertificate x509 hostname).certificates hostname

/-- When the certificate is accepted and the files are written, a new store loads it. -/
def Persists (hostname : String) (cert key : Pem) (ignoreWarning : Bool) (disk : Disk) : Prop :=
  (s.ValidateAndSaveCertificate x509 hostname cert key ignoreWarning disk).2 = (none, none) →
  disk.Succeeds →
  ∃ tlsCert, x509.X509KeyPair cert key = .ok tlsCert ∧
    (s.ValidateAndSaveCertificate x509 hostname cert key ignoreWarning disk).1.loaded x509 hostname =
      some tlsCert

/-- When the files are written, the key is not of the type Ed25519. If the check of the name panics,
nothing is written, and the certificate has to be there already. -/
def Keeps (hostname : String) (cert key : Pem) (ignoreWarning : Bool) (disk : Disk) : Prop :=
  ∀ tlsCert, x509.X509KeyPair cert key = .ok tlsCert → disk.Succeeds →
    match checkHostname x509 tlsCert.leaf hostname ignoreWarning with
    | .value _ => ∀ k, tlsCert.privateKey ≠ .ed25519 k
    | .error _ => True
    | .fault => s.loaded x509 hostname = some tlsCert

end CertStore

/-! ### Keys -/

section

variable {x509} {c : Certificate RSA ECDSA Leaf} {block : Block} {certPEM keyPEM : Pem}

/-- What a pair of texts that is read consists of. -/
theorem X509.X509KeyPair_eq_ok :
  x509.X509KeyPair certPEM keyPEM = .ok c ↔
    c.certificate = (certPEM.filter (·.type = "CERTIFICATE")).map (·.bytes) ∧
    ∃ der ∈ c.certificate.head?, ∃ block ∈ keyPEM.find? fun block => isKeyType block.type,
      ∃ x509Cert, x509.parseCertificate der = .ok x509Cert ∧
        x509.parsePrivateKey block.bytes = .ok c.privateKey ∧
        x509.publicKeyOf x509Cert c.privateKey = true ∧
        c.leaf = if x509.keepsLeaf then some x509Cert else none
  := by
  obtain ⟨certificate, privateKey, leaf⟩ := c
  rw [X509KeyPair]
  constructor
  · intro h
    cases hhead : ((certPEM.filter (·.type = "CERTIFICATE")).map (·.bytes)).head? with
    | none =>
        rw [hhead] at h
        cases h
    | some der =>
        cases hkey : keyPEM.find? fun block => isKeyType block.type with
        | none =>
            rw [hhead, hkey] at h
            cases h
        | some block =>
            rw [hhead, hkey] at h
            obtain ⟨x509Cert, hleaf, h⟩ := bind_eq_ok.mp h
            obtain ⟨k, hprivate, h⟩ := bind_eq_ok.mp h
            split at h
            · next hpublic =>
                obtain ⟨rfl, rfl, rfl⟩ := Certificate.mk.inj (Except.ok.inj h)
                exact ⟨rfl, der, hhead, block, rfl, x509Cert, hleaf, hprivate, hpublic, rfl⟩
            · cases h
  · rintro ⟨rfl, der, hhead, block, hkey, x509Cert, hleaf, hprivate, hpublic, rfl⟩
    dsimp only at hhead hprivate hpublic ⊢
    rw [Option.mem_def.mp hhead, Option.mem_def.mp hkey]
    dsimp only
    apply bind_eq_ok.mpr
    use x509Cert, hleaf
    apply bind_eq_ok.mpr
    use privateKey, hprivate
    rw [if_pos hpublic]

/-- The two files of a certificate are read as the certificate when the key is. -/
theorem X509.X509KeyPair_certBlocks (h : x509.X509KeyPair certPEM keyPEM = .ok c)
    (hblock : X509.isKeyType block.type = true) :
  x509.X509KeyPair (certBlocks c) [block] = .ok c ↔
    x509.parsePrivateKey block.bytes = .ok c.privateKey
  := by
  obtain ⟨-, der, hhead, -, -, x509Cert, hleaf, -, hpublic, hkept⟩ := X509KeyPair_eq_ok.mp h
  have hcertificate :
      c.certificate = ((certBlocks c).filter (·.type = "CERTIFICATE")).map (·.bytes) := by
    have hall : (certBlocks c).filter (·.type = "CERTIFICATE") = certBlocks c := by
      rw [List.filter_eq_self]
      intro b hb
      obtain ⟨_, -, rfl⟩ := List.mem_map.mp hb
      rfl
    rw [hall, certBlocks, List.map_map]
    exact (List.map_id _).symm
  have hfind : ([block].find? fun block => X509.isKeyType block.type) = some block :=
    List.find?_cons_of_pos hblock
  rw [X509KeyPair_eq_ok]
  constructor
  · rintro ⟨-, -, -, found, hfound, -, -, hprivate, -⟩
    rw [hfind] at hfound
    obtain rfl := Option.some.inj hfound
    exact hprivate
  · intro hprivate
    exact ⟨hcertificate, der, hhead, block, hfind, x509Cert, hleaf, hprivate, hpublic, hkept⟩

theorem X509.parsePrivateKey_eq_ok {der : List UInt8} {key : PrivateKey RSA ECDSA} :
  x509.parsePrivateKey der = .ok key ↔
    (∃ k, x509.parsePKCS1PrivateKey der = some k ∧ key = .rsa k) ∨
    x509.parsePKCS1PrivateKey der = none ∧
      (x509.parsePKCS8PrivateKey der = some (some key) ∨
        x509.parsePKCS8PrivateKey der = none ∧
          ∃ k, x509.parseECPrivateKey der = some k ∧ key = .ecdsa k)
  := by
  rw [parsePrivateKey]
  cases x509.parsePKCS1PrivateKey der with
  | some k => simp [eq_comm]
  | none =>
      cases x509.parsePKCS8PrivateKey der with
      | some k => cases k <;> simp
      | none => cases x509.parseECPrivateKey der <;> simp [eq_comm]

/-- A key that has been parsed has a block, from which it is parsed again unless it is of the type
Ed25519. -/
theorem exists_keyBlock (lawful : x509.Lawful) (h : x509.X509KeyPair certPEM keyPEM = .ok c) :
  ∃ block, keyBlock x509 c = .ok block ∧ X509.isKeyType block.type = true ∧
    (x509.parsePrivateKey block.bytes = .ok c.privateKey ↔ ∀ k, c.privateKey ≠ .ed25519 k)
  := by
  obtain ⟨-, -, -, keyDER, -, -, -, hprivate, -⟩ := X509.X509KeyPair_eq_ok.mp h
  rw [keyBlock]
  cases hkey : c.privateKey with
  | rsa k =>
      have htype : X509.isKeyType "RSA PRIVATE KEY" = true := by decide
      use ⟨"RSA PRIVATE KEY", x509.marshalPKCS1PrivateKey k⟩, rfl, htype
      rw [X509.parsePrivateKey, lawful.pkcs1]
      exact iff_of_true rfl fun _ hed => by cases hed
  | ecdsa k =>
      have htype : X509.isKeyType "EC PRIVATE KEY" = true := by decide
      rw [hkey] at hprivate
      obtain ⟨der, hder⟩ : ∃ der, x509.marshalECPrivateKey k = .ok der := by
        apply lawful.parsed k keyDER.bytes
        obtain ⟨_, -, hrsa⟩ | ⟨-, hpkcs8 | ⟨-, _, hec, heq⟩⟩ :=
          X509.parsePrivateKey_eq_ok.mp hprivate
        · cases hrsa
        · exact Or.inr hpkcs8
        · obtain rfl := PrivateKey.ecdsa.inj heq
          exact Or.inl hec
      obtain ⟨hpkcs1, hpkcs8, hec⟩ := lawful.sec1 k der hder
      use ⟨"EC PRIVATE KEY", der⟩
      dsimp only
      rw [hder, X509.parsePrivateKey, hpkcs1, hpkcs8, hec]
      exact ⟨rfl, htype, iff_of_true rfl fun _ hed => by cases hed⟩
  | ed25519 k =>
      have htype : X509.isKeyType "ED25519 PRIVATE KEY" = true := by decide
      use ⟨"ED25519 PRIVATE KEY", k⟩, rfl, htype
      apply iff_of_false
      · intro hparsed
        obtain ⟨_, -, hrsa⟩ | ⟨-, hpkcs8 | ⟨-, _, -, hec⟩⟩ :=
          X509.parsePrivateKey_eq_ok.mp hparsed
        · cases hrsa
        · exact lawful.ed25519 k hpkcs8
        · cases hec
      · exact fun hnot => hnot k rfl

end

/-! ### Files -/

namespace CertStore

variable {x509} {s : CertStore RSA ECDSA Leaf} {hostname : String} {c : Certificate RSA ECDSA Leaf}
  {block : Block} {disk : Disk}

theorem keyFile_ne_crtFile :
  s.keyFile hostname ≠ s.crtFile hostname
  := by
  intro h
  rw [keyFile, crtFile, ← String.toList_inj] at h
  simp only [String.toList_append, List.append_cancel_left_eq] at h
  revert h
  decide

/-- A new store loads a certificate when its two files are read as the certificate. -/
theorem loaded_eq_some :
  s.loaded x509 hostname = some c ↔
    ∃ certPEM keyPEM, s.files (s.crtFile hostname) = some certPEM ∧
      s.files (s.keyFile hostname) = some keyPEM ∧ x509.X509KeyPair certPEM keyPEM = .ok c
  := by
  have hcrt : (new s.storePath s.files : CertStore RSA ECDSA Leaf).crtFile hostname =
      s.crtFile hostname := rfl
  have hkey : (new s.storePath s.files : CertStore RSA ECDSA Leaf).keyFile hostname =
      s.keyFile hostname := rfl
  have hfiles : (new s.storePath s.files : CertStore RSA ECDSA Leaf).files = s.files := rfl
  rw [loaded, loadCertificate, hcrt, hkey, hfiles]
  cases s.files (s.crtFile hostname) with
  | none => exact iff_of_false (fun h => by cases h) fun ⟨_, _, h, _⟩ => by cases h
  | some certPEM =>
      cases s.files (s.keyFile hostname) with
      | none => exact iff_of_false (fun h => by cases h) fun ⟨_, _, _, h, _⟩ => by cases h
      | some keyPEM =>
          dsimp only
          constructor
          · intro h
            cases hpair : x509.X509KeyPair certPEM keyPEM with
            | error err =>
                rw [hpair] at h
                cases h
            | ok cert =>
                rw [hpair] at h
                dsimp only at h
                rw [Function.update_self] at h
                obtain rfl := Option.some.inj h
                exact ⟨certPEM, keyPEM, rfl, rfl, hpair⟩
          · rintro ⟨_, _, hcertPEM, hkeyPEM, hpair⟩
            obtain rfl := Option.some.inj hcertPEM
            obtain rfl := Option.some.inj hkeyPEM
            rw [hpair]
            exact Function.update_self ..

/-- What is loaded after the files have been written is what is read from them. -/
theorem loaded_saveCertificate (hc : s.certificates hostname = some c)
    (hblock : keyBlock x509 c = .ok block) (hdisk : disk.Succeeds) :
  (s.saveCertificate x509 hostname disk).loaded x509 hostname = some c ↔
    x509.X509KeyPair (certBlocks c) [block] = .ok c
  := by
  obtain ⟨hpath, hkey, hcrt⟩ := hdisk
  obtain ⟨files, hafter, hcrtPEM, hkeyPEM⟩ : ∃ files,
      s.saveCertificate x509 hostname disk = { s with files } ∧
      files (s.crtFile hostname) = some (certBlocks c) ∧
      files (s.keyFile hostname) = some [block] := by
    rw [saveCertificate, hc, hpath]
    dsimp only
    rw [hblock]
    dsimp only
    rw [if_pos hkey, hkey, hcrt]
    refine ⟨_, rfl, Function.update_self .., ?_⟩
    rw [withSecretFile, Function.update_of_ne keyFile_ne_crtFile]
    exact Function.update_self ..
  rw [hafter, loaded_eq_some]
  constructor
  · rintro ⟨_, _, hcertPEM, hpem, hpair⟩
    obtain rfl := Option.some.inj (hcrtPEM.symm.trans hcertPEM)
    obtain rfl := Option.some.inj (hkeyPEM.symm.trans hpem)
    exact hpair
  · exact fun hpair => ⟨_, _, hcrtPEM, hkeyPEM, hpair⟩

/-- A certificate that is accepted is loaded again exactly when it is kept. -/
theorem persists_iff (lawful : x509.Lawful) (s : CertStore RSA ECDSA Leaf) (hostname : String)
    (cert key : Pem) (ignoreWarning : Bool) (disk : Disk) :
  s.Persists x509 hostname cert key ignoreWarning disk ↔
    s.Keeps x509 hostname cert key ignoreWarning disk
  := by
  rw [Persists, Keeps, ValidateAndSaveCertificate]
  cases hpair : x509.X509KeyPair cert key with
  | error err =>
      apply iff_of_true
      · intro haccepted
        cases haccepted
      · intro _ hok
        cases hok
  | ok tlsCert =>
      dsimp only
      cases hcheck : checkHostname x509 tlsCert.leaf hostname ignoreWarning with
      | error warning =>
          apply iff_of_true
          · intro haccepted
            cases haccepted
          · intro c hc _
            obtain rfl := Except.ok.inj hc
            rw [hcheck]
            trivial
      | fault =>
          constructor
          · intro h c hc hdisk
            obtain rfl := Except.ok.inj hc
            obtain ⟨c, hc, hloaded⟩ := h rfl hdisk
            obtain rfl := Except.ok.inj hc
            rw [hcheck]
            exact hloaded
          · intro h _ hdisk
            have hloaded := h tlsCert rfl hdisk
            rw [hcheck] at hloaded
            exact ⟨tlsCert, rfl, hloaded⟩
      | value _ =>
          obtain ⟨block, hblock, htype, hkey⟩ := exists_keyBlock lawful hpair
          have hloaded : disk.Succeeds →
              ((({ s with
                    certificates := Function.update s.certificates hostname (some tlsCert) } :
                  CertStore RSA ECDSA Leaf).saveCertificate x509 hostname disk).loaded x509 hostname =
                some tlsCert ↔ ∀ k, tlsCert.privateKey ≠ .ed25519 k) := by
            intro hdisk
            rw [loaded_saveCertificate (Function.update_self ..) hblock hdisk,
              X509.X509KeyPair_certBlocks hpair htype, hkey]
          constructor
          · intro h c hc hdisk
            obtain rfl := Except.ok.inj hc
            obtain ⟨c, hc, hsaved⟩ := h rfl hdisk
            obtain rfl := Except.ok.inj hc
            rw [hcheck]
            exact (hloaded hdisk).mp hsaved
          · intro h _ hdisk
            have hother := h tlsCert rfl hdisk
            rw [hcheck] at hother
            exact ⟨tlsCert, rfl, (hloaded hdisk).mpr hother⟩

end CertStore

/-! ### A key of the type Ed25519 and one on the curve P-256 -/

/-- The certificate `fixtureEd25519Certificate`. -/
def ed25519Certificate : List UInt8 :=
  [0x30, 0x82, 0x01, 0x40, 0x30, 0x81, 0xf3, 0xa0, 0x03, 0x02, 0x01, 0x02, 0x02, 0x14, 0x1d, 0x07,
   0x8a, 0x81, 0xe9, 0xd5, 0x74, 0xfe, 0xed, 0x65, 0xc2, 0x12, 0x68, 0x7d, 0x08, 0x24, 0x9a, 0x38,
   0xd5, 0xd7, 0x30, 0x05, 0x06, 0x03, 0x2b, 0x65, 0x70, 0x30, 0x2f, 0x31, 0x0b, 0x30, 0x09, 0x06,
   0x03, 0x55, 0x04, 0x06, 0x13, 0x02, 0x44, 0x45, 0x31, 0x20, 0x30, 0x1e, 0x06, 0x03, 0x55, 0x04,
   0x03, 0x0c, 0x17, 0x65, 0x64, 0x32, 0x35, 0x35, 0x31, 0x39, 0x2d, 0x74, 0x65, 0x73, 0x74, 0x2e,
   0x6a, 0x65, 0x74, 0x6b, 0x76, 0x6d, 0x2e, 0x63, 0x6f, 0x6d, 0x30, 0x1e, 0x17, 0x0d, 0x32, 0x35,
   0x30, 0x35, 0x32, 0x33, 0x31, 0x32, 0x35, 0x39, 0x32, 0x37, 0x5a, 0x17, 0x0d, 0x32, 0x37, 0x30,
   0x34, 0x32, 0x33, 0x31, 0x32, 0x35, 0x39, 0x32, 0x37, 0x5a, 0x30, 0x2f, 0x31, 0x0b, 0x30, 0x09,
   0x06, 0x03, 0x55, 0x04, 0x06, 0x13, 0x02, 0x44, 0x45, 0x31, 0x20, 0x30, 0x1e, 0x06, 0x03, 0x55,
   0x04, 0x03, 0x0c, 0x17, 0x65, 0x64, 0x32, 0x35, 0x35, 0x31, 0x39, 0x2d, 0x74, 0x65, 0x73, 0x74,
   0x2e, 0x6a, 0x65, 0x74, 0x6b, 0x76, 0x6d, 0x2e, 0x63, 0x6f, 0x6d, 0x30, 0x2a, 0x30, 0x05, 0x06,
   0x03, 0x2b, 0x65, 0x70, 0x03, 0x21, 0x00, 0xf6, 0xd2, 0xf2, 0xa2, 0xe9, 0x49, 0x9f, 0xb1, 0x2f,
   0x6d, 0xff, 0x24, 0xb8, 0x3d, 0x59, 0x19, 0xd0, 0x34, 0xf7, 0x6e, 0xfb, 0xde, 0x90, 0x91, 0x8c,
   0x51, 0x03, 0x2a, 0x95, 0xc7, 0xa2, 0x7c, 0xa3, 0x21, 0x30, 0x1f, 0x30, 0x1d, 0x06, 0x03, 0x55,
   0x1d, 0x0e, 0x04, 0x16, 0x04, 0x14, 0x64, 0x9a, 0xb5, 0x4c, 0x7e, 0xc2, 0xd8, 0xe7, 0xb8, 0xb2,
   0xaf, 0xfd, 0x0f, 0x38, 0xfd, 0x12, 0xe1, 0x0c, 0x42, 0x00, 0x30, 0x05, 0x06, 0x03, 0x2b, 0x65,
   0x70, 0x03, 0x41, 0x00, 0x5f, 0x4d, 0x1b, 0xea, 0x6a, 0xf2, 0xc7, 0x0d, 0x84, 0x22, 0x29, 0x04,
   0xe0, 0x6c, 0x6a, 0x1d, 0xf9, 0x89, 0xfe, 0x7c, 0x8a, 0xb6, 0x94, 0x4e, 0x7c, 0xe3, 0xed, 0x54,
   0x0b, 0x8c, 0x21, 0xf6, 0x97, 0x88, 0x24, 0x31, 0x68, 0x70, 0xb0, 0x44, 0x01, 0x84, 0xd0, 0xa4,
   0x43, 0x0a, 0xc5, 0xae, 0x2c, 0xd0, 0x02, 0x11, 0xc4, 0x3f, 0x9a, 0xed, 0xa0, 0x92, 0xe6, 0x8c,
   0xf4, 0x7b, 0xfd, 0x08]

/-- The seed of `fixtureEd25519PrivateKey`. -/
def ed25519Seed : List UInt8 :=
  [0xa5, 0x74, 0xf3, 0x15, 0x2c, 0x2d, 0x11, 0xc1, 0x7c, 0xc5, 0xea, 0x67, 0x0c, 0x55, 0x47, 0x32,
   0x1b, 0x56, 0x23, 0xa9, 0xf0, 0x6e, 0xda, 0x40, 0x68, 0xcf, 0xbe, 0x84, 0x45, 0x8e, 0xe8, 0xc1]

/-- Its public key. -/
def ed25519PublicKey : List UInt8 :=
  [0xf6, 0xd2, 0xf2, 0xa2, 0xe9, 0x49, 0x9f, 0xb1, 0x2f, 0x6d, 0xff, 0x24, 0xb8, 0x3d, 0x59, 0x19,
   0xd0, 0x34, 0xf7, 0x6e, 0xfb, 0xde, 0x90, 0x91, 0x8c, 0x51, 0x03, 0x2a, 0x95, 0xc7, 0xa2, 0x7c]

/-- The key in PKCS #8. -/
def ed25519PrivateKey : List UInt8 :=
  [0x30, 0x2e, 0x02, 0x01, 0x00, 0x30, 0x05, 0x06, 0x03, 0x2b, 0x65, 0x70, 0x04, 0x22, 0x04, 0x20] ++
    ed25519Seed

/-- What is known of these texts. -/
def fixtureX509 : X509 Empty Empty Unit where
  marshalPKCS1PrivateKey := Empty.elim
  marshalECPrivateKey := Empty.elim
  parsePKCS1PrivateKey _ := none
  parsePKCS8PrivateKey der :=
    if der = ed25519PrivateKey then some (some (.ed25519 (ed25519Seed ++ ed25519PublicKey)))
    else none
  parseECPrivateKey _ := none
  parseCertificate der :=
    if der = ed25519Certificate then .ok () else .error "x509: malformed certificate"
  publicKeyOf _ key := key = .ed25519 (ed25519Seed ++ ed25519PublicKey)
  verifyHostname _ _ :=
    .error "x509: certificate relies on legacy Common Name field, use SANs instead"
  keepsLeaf := true

/-- Everything is written. -/
def goodDisk : Disk :=
  { storePath := none, key := .succeeds, crt := .succeeds }

/-- The texts of the fixtures, which are given to a store that is empty. -/
def saveEd25519 : CertStore Empty Empty Unit × Option String × Option String :=
  (CertStore.new "/userdata/jetkvm/tls" fun _ => none).ValidateAndSaveCertificate fixtureX509
    "ed25519-test.jetkvm.com" [⟨"CERTIFICATE", ed25519Certificate⟩]
    [⟨"PRIVATE KEY", ed25519PrivateKey⟩] true goodDisk

/-- The certificate is accepted, and nothing is loaded after it has been saved. -/
theorem not_persists_ed25519 :
  saveEd25519.2 = (none, none) ∧
  saveEd25519.1.loaded fixtureX509 "ed25519-test.jetkvm.com" = none ∧
  ¬ (CertStore.new "/userdata/jetkvm/tls" fun _ => none).Persists fixtureX509
      "ed25519-test.jetkvm.com" [⟨"CERTIFICATE", ed25519Certificate⟩]
      [⟨"PRIVATE KEY", ed25519PrivateKey⟩] true goodDisk
  := by
  have haccepted : saveEd25519.2 = (none, none) := by decide +kernel
  have hloaded : saveEd25519.1.loaded fixtureX509 "ed25519-test.jetkvm.com" = none := by
    decide +kernel
  use haccepted, hloaded
  rw [CertStore.Persists, ← saveEd25519]
  intro hpersists
  obtain ⟨c, -, hsaved⟩ := hpersists haccepted ⟨rfl, rfl, rfl⟩
  rw [hloaded] at hsaved
  cases hsaved

/-- A certificate for a key on the curve P-256. -/
def p256Certificate : List UInt8 :=
  [0x30, 0x82, 0x01, 0x13, 0x30, 0x81, 0xb9, 0x02, 0x14, 0x54, 0xa4, 0x77, 0x8c, 0x6d, 0xc2, 0xaf,
   0x92, 0x71, 0x84, 0x23, 0x3a, 0x1b, 0xa4, 0xae, 0xd9, 0x96, 0x67, 0xa6, 0x72, 0x30, 0x0a, 0x06,
   0x08, 0x2a, 0x86, 0x48, 0xce, 0x3d, 0x04, 0x03, 0x02, 0x30, 0x0c, 0x31, 0x0a, 0x30, 0x08, 0x06,
   0x03, 0x55, 0x04, 0x03, 0x0c, 0x01, 0x61, 0x30, 0x1e, 0x17, 0x0d, 0x32, 0x36, 0x31, 0x31, 0x31,
   0x39, 0x31, 0x35, 0x33, 0x32, 0x30, 0x34, 0x5a, 0x17, 0x0d, 0x32, 0x36, 0x31, 0x31, 0x32, 0x30,
   0x31, 0x35, 0x33, 0x32, 0x30, 0x34, 0x5a, 0x30, 0x0c, 0x31, 0x0a, 0x30, 0x08, 0x06, 0x03, 0x55,
   0x04, 0x03, 0x0c, 0x01, 0x61, 0x30, 0x59, 0x30, 0x13, 0x06, 0x07, 0x2a, 0x86, 0x48, 0xce, 0x3d,
   0x02, 0x01, 0x06, 0x08, 0x2a, 0x86, 0x48, 0xce, 0x3d, 0x03, 0x01, 0x07, 0x03, 0x42, 0x00, 0x04,
   0x0c, 0xbe, 0x26, 0xfd, 0xc2, 0xee, 0xc8, 0x17, 0x54, 0xa3, 0x7c, 0xc7, 0xe2, 0xff, 0x52, 0x6c,
   0xb5, 0xa0, 0x4c, 0x18, 0xc2, 0xd8, 0x24, 0x06, 0xed, 0xc8, 0x40, 0xd3, 0x77, 0x2d, 0x95, 0xb8,
   0xec, 0x99, 0xdd, 0x3d, 0x63, 0x44, 0x27, 0x72, 0xb2, 0xec, 0xa9, 0xe0, 0xdd, 0x0e, 0x27, 0x3f,
   0x57, 0x49, 0xef, 0x03, 0x0f, 0x2f, 0x35, 0x6b, 0x96, 0x39, 0x03, 0xf6, 0x61, 0x11, 0xdf, 0xb8,
   0x30, 0x0a, 0x06, 0x08, 0x2a, 0x86, 0x48, 0xce, 0x3d, 0x04, 0x03, 0x02, 0x03, 0x49, 0x00, 0x30,
   0x46, 0x02, 0x21, 0x00, 0x82, 0x93, 0x73, 0x6b, 0x45, 0x15, 0xe0, 0x7c, 0xb2, 0xe9, 0x84, 0xfc,
   0x9f, 0xff, 0x48, 0x78, 0xaf, 0x61, 0x21, 0x6a, 0x55, 0xe3, 0x6e, 0x2a, 0x8f, 0xcc, 0x60, 0xa2,
   0x93, 0x50, 0x26, 0x59, 0x02, 0x21, 0x00, 0xbf, 0x69, 0x48, 0xe0, 0x2d, 0xb9, 0x8d, 0xea, 0x57,
   0x42, 0xd8, 0x6e, 0xe7, 0x63, 0x47, 0x09, 0x4b, 0x20, 0xea, 0xc0, 0x6c, 0x64, 0xdf, 0x9e, 0x2e,
   0xb6, 0xfc, 0xd4, 0xbe, 0xd9, 0x52, 0x40]

/-- The key in SEC 1. -/
def p256PrivateKey : List UInt8 :=
  [0x30, 0x77, 0x02, 0x01, 0x01, 0x04, 0x20, 0xe2, 0x90, 0xe0, 0x4d, 0x31, 0x96, 0xcb, 0x6e, 0xbf,
   0x87, 0x82, 0xd9, 0xed, 0x81, 0xa3, 0x19, 0xce, 0x23, 0x7b, 0x59, 0x1d, 0x20, 0xe9, 0x9f, 0x8f,
   0x60, 0x1c, 0x1e, 0xd3, 0xad, 0x79, 0xa3, 0xa0, 0x0a, 0x06, 0x08, 0x2a, 0x86, 0x48, 0xce, 0x3d,
   0x03, 0x01, 0x07, 0xa1, 0x44, 0x03, 0x42, 0x00, 0x04, 0x0c, 0xbe, 0x26, 0xfd, 0xc2, 0xee, 0xc8,
   0x17, 0x54, 0xa3, 0x7c, 0xc7, 0xe2, 0xff, 0x52, 0x6c, 0xb5, 0xa0, 0x4c, 0x18, 0xc2, 0xd8, 0x24,
   0x06, 0xed, 0xc8, 0x40, 0xd3, 0x77, 0x2d, 0x95, 0xb8, 0xec, 0x99, 0xdd, 0x3d, 0x63, 0x44, 0x27,
   0x72, 0xb2, 0xec, 0xa9, 0xe0, 0xdd, 0x0e, 0x27, 0x3f, 0x57, 0x49, 0xef, 0x03, 0x0f, 0x2f, 0x35,
   0x6b, 0x96, 0x39, 0x03, 0xf6, 0x61, 0x11, 0xdf, 0xb8]

/-- What is known of these two, with nothing but the one key. -/
def p256X509 : X509 Empty Unit Unit where
  marshalPKCS1PrivateKey := Empty.elim
  marshalECPrivateKey _ := .ok p256PrivateKey
  parsePKCS1PrivateKey _ := none
  parsePKCS8PrivateKey _ := none
  parseECPrivateKey der := if der = p256PrivateKey then some () else none
  parseCertificate der :=
    if der = p256Certificate then .ok () else .error "x509: malformed certificate"
  publicKeyOf _ key := key = .ecdsa ()
  verifyHostname _ _ :=
    .error "x509: certificate relies on legacy Common Name field, use SANs instead"
  keepsLeaf := true

theorem lawful_p256X509 : p256X509.Lawful
  where
    pkcs1 k := k.elim
    sec1 _ der hder := by
      obtain rfl := Except.ok.inj hder
      use rfl, rfl
      dsimp only [p256X509]
      rw [if_pos rfl]
    parsed _ _ _ := ⟨p256PrivateKey, rfl⟩
    ed25519 _ h := by cases h

/-- The certificate with the key on the curve is loaded again. -/
theorem persists_p256 :
  (CertStore.new "/userdata/jetkvm/tls" fun _ => none : CertStore Empty Unit Unit).Persists p256X509
    "user-defined" [⟨"CERTIFICATE", p256Certificate⟩] [⟨"EC PRIVATE KEY", p256PrivateKey⟩] true
    goodDisk
  := by
  apply (CertStore.persists_iff lawful_p256X509 _ _ _ _ _ _).mpr
  intro c hc _
  have hpair : p256X509.X509KeyPair [⟨"CERTIFICATE", p256Certificate⟩]
      [⟨"EC PRIVATE KEY", p256PrivateKey⟩] = .ok ⟨[p256Certificate], .ecdsa (), some ()⟩ := by
    decide +kernel
  obtain rfl := Except.ok.inj (hpair.symm.trans hc)
  exact fun _ hed => by cases hed

end JetKvm.WebSecure
