import MeshStar.Identity
import MeshStar.Platform

/-!
# Noise primitives and the XX handshake

A cipher state holds an optional key and a nonce counter, a symmetric state chains
hashes and keys, and the handshake state machine runs the three XX messages. Every
method is a state transformer whose state survives an error, because the source
mutates the receiver before it can fail. The identity payload binds the Noise static
key to the Ed25519 key it is the image of; no method returns a remote identity that
has not passed that check.

The one-way X pattern seals and opens an envelope without interaction.
-/

namespace MeshStar

open List

variable [Primitives]

def protocolNameXX : Bytes := ascii "Noise_XX_25519_ChaChaPoly_SHA256"
def protocolNameX : Bytes := ascii "Noise_X_25519_ChaChaPoly_SHA256"

/-- Key and nonce counter. -/
structure CipherState where
  key : Option Bytes32
  nonce : Nat

namespace CipherState

def empty : CipherState := ⟨none, 0⟩

def withKey (key : Bytes32) : CipherState := ⟨some key, 0⟩

/-- The twelve nonce bytes: four zero bytes and the little-endian counter. -/
def nonceBytes (nonce : Nat) : Bytes := [0, 0, 0, 0] ++ (BigEndian.encode 8 nonce).reverse

/-- Encrypt with an explicit nonce; the tag follows the ciphertext. -/
def encryptN (key : Bytes32) (nonce : Nat) (associated plaintext : Bytes) : Bytes :=
  let sealed := Primitives.aeadEncrypt key (nonceBytes nonce) associated plaintext
  sealed.1 ++ sealed.2.val

/-- Decrypt with an explicit nonce. -/
def decryptN (key : Bytes32) (nonce : Nat) (associated ciphertext : Bytes) : Except Error Bytes :=
  if ciphertext.length < tagLen then .error .truncated
  else
    let body := ciphertext.take (ciphertext.length - tagLen)
    let tag := FixedBytes.ofSlice 16 (ciphertext.drop (ciphertext.length - tagLen))
    match Primitives.aeadDecrypt key (nonceBytes nonce) associated body tag with
    | some plaintext => .ok plaintext
    | none => .error .authFailed

/-- The documented round trip of the external AEAD: what was sealed under a key, nonce
and associated data opens to the same plaintext. -/
def AeadRoundTrip : Prop :=
  ∀ (key : Bytes32) (nonce associated plaintext : Bytes),
    Primitives.aeadDecrypt key nonce associated
      (Primitives.aeadEncrypt key nonce associated plaintext).1
      (Primitives.aeadEncrypt key nonce associated plaintext).2 = some plaintext

/-- Explicit-nonce decryption inverts explicit-nonce encryption. -/
theorem decryptN_encryptN (roundTrip : AeadRoundTrip) (key : Bytes32) (nonce : Nat)
    (associated plaintext : Bytes) :
    decryptN key nonce associated (encryptN key nonce associated plaintext) = .ok plaintext := by
  have opened := roundTrip key (nonceBytes nonce) associated plaintext
  revert opened
  unfold decryptN encryptN
  generalize Primitives.aeadEncrypt key (nonceBytes nonce) associated plaintext = sealed
  intro opened
  obtain ⟨body, tag⟩ := sealed
  have tagLength : tag.val.length = 16 := tag.property
  have bodyLength : (body ++ tag.val).length - tagLen = body.length := by
    simp [tagLen, tagLength]
  have enough : ¬(body ++ tag.val).length < tagLen := by
    simp only [length_append, tagLength, tagLen]
    omega
  have sameTag : FixedBytes.ofSlice 16 tag.val = tag := by
    apply Subtype.ext
    simp only [FixedBytes.ofSlice]
    rw [take_append_of_le_length (by omega), take_of_length_le (by omega)]
  simp only [enough, ↓reduceIte, bodyLength, take_left, drop_left, sameTag, opened]

/-- Encrypt with the current nonce, then advance it. Without a key the text passes. -/
def encryptWithAd (cipher : CipherState) (associated plaintext : Bytes) : CipherState × Bytes :=
  match cipher.key with
  | none => (cipher, plaintext)
  | some key =>
    ({ cipher with nonce := (cipher.nonce + 1) % 2 ^ 64 },
      encryptN key cipher.nonce associated plaintext)

/-- Decrypt with the current nonce; the nonce advances only on success. -/
def decryptWithAd (cipher : CipherState) (associated ciphertext : Bytes) :
    CipherState × Except Error Bytes :=
  match cipher.key with
  | none => (cipher, .ok ciphertext)
  | some key =>
    match decryptN key cipher.nonce associated ciphertext with
    | .ok plaintext => ({ cipher with nonce := (cipher.nonce + 1) % 2 ^ 64 }, .ok plaintext)
    | .error error => (cipher, .error error)

end CipherState

/-- The two-output Noise key derivation. -/
def hkdf2 (chainingKey : Bytes32) (input : Bytes) : Bytes32 × Bytes32 :=
  let temp := Primitives.hmacSha256 chainingKey.val input
  let first := Primitives.hmacSha256 temp.val [1]
  let second := Primitives.hmacSha256 temp.val (first.val ++ [2])
  (first, second)

/-- Chaining key, transcript hash and the cipher derived from them. -/
structure SymmetricState where
  cipher : CipherState
  chainingKey : Bytes32
  hash : Bytes32

namespace SymmetricState

def new (protocolName : Bytes) : SymmetricState :=
  let hash := if protocolName.length ≤ 32 then FixedBytes.ofSlice 32 protocolName
    else Primitives.sha256 protocolName
  ⟨CipherState.empty, hash, hash⟩

def mixKey (state : SymmetricState) (input : Bytes) : SymmetricState :=
  let derived := hkdf2 state.chainingKey input
  { state with chainingKey := derived.1, cipher := CipherState.withKey derived.2 }

def mixHash (state : SymmetricState) (data : Bytes) : SymmetricState :=
  { state with hash := Primitives.sha256 (state.hash.val ++ data) }

def encryptAndHash (state : SymmetricState) (plaintext : Bytes) : SymmetricState × Bytes :=
  let sealed := state.cipher.encryptWithAd state.hash.val plaintext
  (mixHash { state with cipher := sealed.1 } sealed.2, sealed.2)

def decryptAndHash (state : SymmetricState) (ciphertext : Bytes) :
    SymmetricState × Except Error Bytes :=
  match state.cipher.decryptWithAd state.hash.val ciphertext with
  | (cipher, .ok plaintext) => (mixHash { state with cipher := cipher } ciphertext, .ok plaintext)
  | (cipher, .error error) => ({ state with cipher := cipher }, .error error)

/-- The two transport keys. -/
def split (state : SymmetricState) : Bytes32 × Bytes32 := hkdf2 state.chainingKey []

end SymmetricState

/-- Which side of the handshake a node plays. -/
inductive NoiseRole where
  | initiator
  | responder
  deriving DecidableEq, Repr

/-- Keys of an established session, oriented from one side. -/
structure TransportKeys where
  send : Bytes32
  recv : Bytes32
  handshakeHash : Bytes32

/-- Which message of the XX pattern a buffer contains. -/
inductive HandshakeMessage where
  | one
  | two
  | three
  deriving DecidableEq, Repr

def HandshakeMessage.toU8 : HandshakeMessage → UInt8
  | one => 1
  | two => 2
  | three => 3

def HandshakeMessage.fromU8 (value : UInt8) : Option HandshakeMessage :=
  match value.toNat with
  | 1 => some one
  | 2 => some two
  | 3 => some three
  | _ => none

/-- Diffie-Hellman; a shared secret of low order is rejected. -/
def dh (secret publicKey : Bytes32) : Except Error Bytes32 :=
  let shared := Primitives.x25519 secret publicKey
  if Primitives.wasContributory shared then .ok shared else .error .authFailed

/-- The handshake state machine. -/
structure HandshakeXX where
  role : NoiseRole
  symmetric : SymmetricState
  staticSecret : Bytes32
  staticPublic : Bytes32
  edPublic : Bytes32
  ephemeral : Option Bytes32
  ephemeralPublic : Bytes32
  remoteEphemeral : Option Bytes32
  remoteStatic : Option Bytes32
  step : UInt8
  remote : Option PublicIdentity

/-- A handshake method: it may fail, and keeps the state it had reached when it does. -/
abbrev HandshakeM := ExceptT Error (StateM HandshakeXX)

namespace HandshakeXX

/-- Run a method, returning the reached state beside the result. -/
def run {α : Type} (method : HandshakeM α) (handshake : HandshakeXX) :
    HandshakeXX × Except Error α :=
  let outcome := Id.run (StateT.run (ExceptT.run method) handshake)
  (outcome.2, outcome.1)

/-- Draw an ephemeral key and start the transcript with the prologue. -/
def new (role : NoiseRole) (identity : Identity) (prologue : Bytes) (rng : Rng) :
    Rng × HandshakeXX :=
  let drawn := rng.fill32
  (drawn.1,
    { role := role
      symmetric := (SymmetricState.new protocolNameXX).mixHash prologue
      staticSecret := identity.noiseStaticSecret
      staticPublic := identity.publicIdentity.noiseStaticPublic
      edPublic := identity.publicIdentity.publicKey
      ephemeral := some drawn.2
      ephemeralPublic := Primitives.x25519Public drawn.2
      remoteEphemeral := none
      remoteStatic := none
      step := 0
      remote := none })

/-- Fail with an error or pass a value on. -/
def liftResult {α : Type} (result : Except Error α) : HandshakeM α := ExceptT.mk (pure result)

/-- The value of a field that must be present. -/
def require {α : Type} (value : Option α) : HandshakeM α :=
  match value with
  | some present => pure present
  | none => throw .handshakeState

/-- Fail unless a method is called by its role at its step. -/
def expect (role : NoiseRole) (step : UInt8) : HandshakeM Unit := do
  let handshake ← get
  if handshake.role ≠ role ∨ handshake.step ≠ step then throw .handshakeState

def mixHash (data : Bytes) : HandshakeM Unit :=
  modify (fun handshake => { handshake with symmetric := handshake.symmetric.mixHash data })

/-- Mix a Diffie-Hellman result into the chaining key. -/
def mixDh (secret publicKey : Bytes32) : HandshakeM Unit := do
  let shared ← liftResult (dh secret publicKey)
  modify (fun handshake => { handshake with symmetric := handshake.symmetric.mixKey shared.val })

def encryptAndHash (plaintext : Bytes) : HandshakeM Bytes := do
  let handshake ← get
  let sealed := handshake.symmetric.encryptAndHash plaintext
  set { handshake with symmetric := sealed.1 }
  return sealed.2

def decryptAndHash (ciphertext : Bytes) : HandshakeM Bytes := do
  let handshake ← get
  let opened := handshake.symmetric.decryptAndHash ciphertext
  set { handshake with symmetric := opened.1 }
  liftResult opened.2

/-- The sender's public key followed by extra data. -/
def identityPayload (handshake : HandshakeXX) (extra : Bytes) : Bytes :=
  handshake.edPublic.val ++ extra

/-- Parse an identity payload and check that the claimed key maps to the received
Noise static key. Only then is the remote identity recorded. -/
def verifyIdentityPayload (payload : Bytes) : HandshakeM Bytes := do
  if payload.length < 32 then throw .truncated
  let identity ← liftResult (PublicIdentity.fromBytes (FixedBytes.ofSlice 32 payload))
  let handshake ← get
  let remoteStatic ← require handshake.remoteStatic
  if identity.noiseStaticPublic ≠ remoteStatic then throw .authFailed
  set { handshake with remote := some identity }
  return payload.drop 32

/-- `-> e` -/
def writeMessage1 (payload : Bytes) : HandshakeM Bytes := do
  expect .initiator 0
  let handshake ← get
  mixHash handshake.ephemeralPublic.val
  let sealed ← encryptAndHash payload
  modify (fun state => { state with step := 1 })
  return handshake.ephemeralPublic.val ++ sealed

def readMessage1 (message : Bytes) : HandshakeM Bytes := do
  expect .responder 0
  if message.length < 32 then throw .truncated
  let remoteEphemeral := FixedBytes.ofSlice 32 message
  modify (fun state => { state with remoteEphemeral := some remoteEphemeral })
  mixHash remoteEphemeral.val
  let payload ← decryptAndHash (message.drop 32)
  modify (fun state => { state with step := 1 })
  return payload

/-- `<- e, ee, s, es` -/
def writeMessage2 (extra : Bytes) : HandshakeM Bytes := do
  expect .responder 1
  let handshake ← get
  let remoteEphemeral ← require handshake.remoteEphemeral
  let ephemeral ← require handshake.ephemeral
  mixHash handshake.ephemeralPublic.val
  mixDh ephemeral remoteEphemeral
  let sealedStatic ← encryptAndHash handshake.staticPublic.val
  mixDh handshake.staticSecret remoteEphemeral
  let sealedPayload ← encryptAndHash (handshake.identityPayload extra)
  modify (fun state => { state with step := 2 })
  return handshake.ephemeralPublic.val ++ sealedStatic ++ sealedPayload

def readMessage2 (message : Bytes) : HandshakeM Bytes := do
  expect .initiator 1
  if message.length < 32 + 48 + 16 then throw .truncated
  let handshake ← get
  let ephemeral ← require handshake.ephemeral
  let remoteEphemeral := FixedBytes.ofSlice 32 message
  modify (fun state => { state with remoteEphemeral := some remoteEphemeral })
  mixHash remoteEphemeral.val
  mixDh ephemeral remoteEphemeral
  let staticBytes ← decryptAndHash (slice message 32 80)
  let remoteStatic := FixedBytes.ofSlice 32 staticBytes
  modify (fun state => { state with remoteStatic := some remoteStatic })
  mixDh ephemeral remoteStatic
  let payload ← decryptAndHash (message.drop 80)
  let extra ← verifyIdentityPayload payload
  modify (fun state => { state with step := 2 })
  return extra

/-- `-> s, se` -/
def writeMessage3 (extra : Bytes) : HandshakeM Bytes := do
  expect .initiator 2
  let handshake ← get
  let remoteEphemeral ← require handshake.remoteEphemeral
  let sealedStatic ← encryptAndHash handshake.staticPublic.val
  mixDh handshake.staticSecret remoteEphemeral
  let sealedPayload ← encryptAndHash (handshake.identityPayload extra)
  modify (fun state => { state with step := 3 })
  return sealedStatic ++ sealedPayload

def readMessage3 (message : Bytes) : HandshakeM Bytes := do
  expect .responder 2
  if message.length < 48 + 16 then throw .truncated
  let handshake ← get
  let ephemeral ← require handshake.ephemeral
  let staticBytes ← decryptAndHash (message.take 48)
  let remoteStatic := FixedBytes.ofSlice 32 staticBytes
  modify (fun state => { state with remoteStatic := some remoteStatic })
  mixDh ephemeral remoteStatic
  let payload ← decryptAndHash (message.drop 48)
  let extra ← verifyIdentityPayload payload
  modify (fun state => { state with step := 3 })
  return extra

/-- Split into transport keys, oriented by role. -/
def finish (handshake : HandshakeXX) : Except Error (TransportKeys × PublicIdentity) :=
  if handshake.step ≠ 3 then .error .handshakeState
  else
    let keys := handshake.symmetric.split
    let oriented := match handshake.role with
      | .initiator => keys
      | .responder => (keys.2, keys.1)
    match handshake.remote with
    | none => .error .handshakeState
    | some remote => .ok (⟨oriented.1, oriented.2, handshake.symmetric.hash⟩, remote)

omit [Primitives] in
/-- A sequence runs its second part in the state the first has reached, unless it fails. -/
theorem run_bind {α β : Type} (action : HandshakeM α) (next : α → HandshakeM β)
    (handshake : HandshakeXX) :
    run (action >>= next) handshake =
      match run action handshake with
      | (reached, .ok value) => run (next value) reached
      | (reached, .error error) => (reached, .error error) := by
  simp only [run, bind, ExceptT.bind, ExceptT.run, ExceptT.mk, StateT.run, StateT.bind, Id.run]
  generalize action handshake = outcome
  obtain ⟨result, reached⟩ := outcome
  cases result <;> rfl

/-- An action that never touches one view of the state. -/
def Keeps {α β : Type} (view : HandshakeXX → β) (action : HandshakeM α) : Prop :=
  ∀ handshake, view (run action handshake).1 = view handshake

section Frame

variable {α β γ : Type} {view : HandshakeXX → γ}

section

omit [Primitives]

theorem keeps_bind {action : HandshakeM α} {next : α → HandshakeM β} (first : Keeps view action)
    (later : ∀ value, Keeps view (next value)) : Keeps view (action >>= next) := by
  intro handshake
  have kept := first handshake
  rw [run_bind]
  generalize run action handshake = outcome at kept
  obtain ⟨reached, result⟩ := outcome
  cases result with
  | error _ => exact kept
  | ok value => exact (later value reached).trans kept

theorem keeps_get : Keeps view (get : HandshakeM HandshakeXX) := fun _ => rfl

theorem keeps_pure {value : α} : Keeps view (pure value : HandshakeM α) := fun _ => rfl

theorem keeps_throw {error : Error} : Keeps view (throw error : HandshakeM α) := fun _ => rfl

theorem keeps_liftResult {result : Except Error α} : Keeps view (liftResult result) := fun _ => rfl

theorem keeps_require {value : Option α} : Keeps view (require value) := by
  intro handshake
  cases value <;> rfl

theorem keeps_expect {role : NoiseRole} {step : UInt8} : Keeps view (expect role step) := by
  refine keeps_bind keeps_get ?_
  intro handshake reached
  split <;> rfl

theorem keeps_modify {change : HandshakeXX → HandshakeXX}
    (kept : ∀ handshake, view (change handshake) = view handshake) :
    Keeps view (modify change : HandshakeM Unit) := fun handshake => kept handshake

end

end Frame

/-- A view that does not read the symmetric state is kept by everything that only
advances it. -/
theorem keeps_mixDh {γ : Type} {view : HandshakeXX → γ}
    (blind : ∀ handshake symmetric, view { handshake with symmetric := symmetric } = view handshake)
    {secret publicKey : Bytes32} : Keeps view (mixDh secret publicKey) :=
  keeps_bind keeps_liftResult (fun _ => keeps_modify (fun handshake => blind handshake _))

theorem keeps_encryptAndHash {γ : Type} {view : HandshakeXX → γ}
    (blind : ∀ handshake symmetric, view { handshake with symmetric := symmetric } = view handshake)
    {plaintext : Bytes} : Keeps view (encryptAndHash plaintext) :=
      fun handshake => blind handshake _

/-- Writing the third message keeps the identity that reading the second recorded. -/
theorem keepsRemote_writeMessage3 (extra : Bytes) :
    Keeps HandshakeXX.remote (writeMessage3 extra) := by
  refine keeps_bind keeps_expect (fun _ => ?_)
  refine keeps_bind keeps_get (fun handshake => ?_)
  refine keeps_bind keeps_require (fun remoteEphemeral => ?_)
  refine keeps_bind (keeps_encryptAndHash (fun _ _ => rfl)) (fun sealedStatic => ?_)
  refine keeps_bind (keeps_mixDh (fun _ _ => rfl)) (fun _ => ?_)
  refine keeps_bind (keeps_encryptAndHash (fun _ _ => rfl)) (fun sealedPayload => ?_)
  exact keeps_bind (keeps_modify (fun _ => rfl)) (fun _ => keeps_pure)

theorem writeMessage3_remote {extra m3 : Bytes} {read written : HandshakeXX}
    (wrote : run (writeMessage3 extra) read = (written, .ok m3)) :
      written.remote = read.remote := by
  have kept := keepsRemote_writeMessage3 extra read
  rw [wrote] at kept
  exact kept

/-- A finished handshake returns the remote identity it had recorded. -/
theorem finish_remote {handshake : HandshakeXX} {keys : TransportKeys} {remote : PublicIdentity}
    (finished : handshake.finish = .ok (keys, remote)) : handshake.remote = some remote := by
  unfold finish at finished
  split at finished
  · cases finished
  · cases recorded : handshake.remote with
    | none =>
      rw [recorded] at finished
      cases finished
    | some identity =>
      rw [recorded] at finished
      simp only [Except.ok.injEq, Prod.mk.injEq] at finished
      rw [finished.2]

end HandshakeXX

/-- Seal a payload to a recipient's static key: `-> e, es, s, ss`. -/
def xSeal (sender : Identity) (recipient : PublicIdentity) (prologue payload : Bytes) (rng : Rng) :
    Rng × Except Error Bytes :=
  let drawn := rng.fill32
  (drawn.1, do
    let remoteStatic := recipient.noiseStaticPublic
    let ephemeralPublic := Primitives.x25519Public drawn.2
    let started := (((SymmetricState.new protocolNameX).mixHash prologue).mixHash
      remoteStatic.val).mixHash ephemeralPublic.val
    let shared ← dh drawn.2 remoteStatic
    let sealedStatic := (started.mixKey shared.val).encryptAndHash
      sender.publicIdentity.noiseStaticPublic.val
    let sharedStatic ← dh sender.noiseStaticSecret remoteStatic
    let sealedBody := (sealedStatic.1.mixKey sharedStatic.val).encryptAndHash
      (sender.publicIdentity.publicKey.val ++ payload)
    return ephemeralPublic.val ++ sealedStatic.2 ++ sealedBody.2)

/-- Open a sealed payload, returning the verified sender. -/
def xOpen (recipient : Identity) (prologue message : Bytes) :
    Except Error (PublicIdentity × Bytes) := do
  if message.length < 32 + 48 + 32 + 16 then throw .truncated
  let remoteEphemeral := FixedBytes.ofSlice 32 message
  let started := (((SymmetricState.new protocolNameX).mixHash prologue).mixHash
    recipient.publicIdentity.noiseStaticPublic.val).mixHash remoteEphemeral.val
  let shared ← dh recipient.noiseStaticSecret remoteEphemeral
  let openedStatic := (started.mixKey shared.val).decryptAndHash (slice message 32 80)
  let remoteStatic := FixedBytes.ofSlice 32 (← openedStatic.2)
  let sharedStatic ← dh recipient.noiseStaticSecret remoteStatic
  let openedBody := (openedStatic.1.mixKey sharedStatic.val).decryptAndHash (message.drop 80)
  let body ← openedBody.2
  if body.length < 32 then throw .truncated
  let sender ← PublicIdentity.fromBytes (FixedBytes.ofSlice 32 body)
  if sender.noiseStaticPublic ≠ remoteStatic then throw .authFailed
  return (sender, body.drop 32)

/-- Bytes added by the envelope framing. -/
def envelopeOverhead : Nat := 32 + 48 + 32 + 16

/-- The envelope prologue binds the recipient address and the envelope id. -/
def envelopePrologue (dst : Address) (envelopeId : UInt32) : Bytes :=
  ascii "MeshStar/env/v1" ++ [0] ++ dst.asBytes ++ BigEndian.encode 4 envelopeId.toNat

def sealEnvelope (sender : Identity) (recipient : PublicIdentity) (envelopeId : UInt32)
    (body : Bytes) (rng : Rng) : Rng × Except Error Bytes :=
  xSeal sender recipient (envelopePrologue recipient.address envelopeId) body rng

def openEnvelope (recipient : Identity) (envelopeId : UInt32) (envelope : Bytes) :
    Except Error (PublicIdentity × Bytes) :=
  xOpen recipient (envelopePrologue recipient.address envelopeId) envelope

/-- The nonce of a broadcast: source address and packet id. -/
def groupNonce (src : Address) (packetId : UInt32) : Bytes :=
  src.asBytes ++ BigEndian.encode 4 packetId.toNat

def groupEncrypt (key : Bytes32) (src : Address) (packetId : UInt32)
    (associated plaintext : Bytes) : Bytes :=
  let sealed := Primitives.aeadEncrypt key (groupNonce src packetId) associated plaintext
  sealed.1 ++ sealed.2.val

def groupDecrypt (key : Bytes32) (src : Address) (packetId : UInt32)
    (associated ciphertext : Bytes) : Except Error Bytes :=
  if ciphertext.length < tagLen then .error .truncated
  else
    let body := ciphertext.take (ciphertext.length - tagLen)
    let tag := FixedBytes.ofSlice 16 (ciphertext.drop (ciphertext.length - tagLen))
    match Primitives.aeadDecrypt key (groupNonce src packetId) associated body tag with
    | some plaintext => .ok plaintext
    | none => .error .authFailed

end MeshStar
