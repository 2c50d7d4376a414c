import Mathlib.Data.List.Basic
import MeshStar.Noise
import MeshStar.Replay

/-!
# Transport sessions

A session payload is the epoch byte, a three-byte counter and the AEAD ciphertext
with its tag. The counter is the explicit nonce; the caller's associated data is
extended with the epoch and the same three counter bytes. Encryption refuses to run
at the rekey threshold, which lies below the range of three bytes, hence the counter
on the wire is the nonce itself. Decryption checks the replay window before it
authenticates and records the counter only afterwards.
-/

namespace MeshStar

open List

variable [Primitives]

/-- Bytes added by the transport framing: epoch, counter and tag. -/
def transportOverhead : Nat := 4 + tagLen

/-- Counter value beyond which a rekey is mandatory. -/
def counterRekeyThreshold : Nat := 2 ^ 24 - 4096

/-- Lifetime limits of a session. -/
structure SessionLimits where
  idleTimeoutMs : Nat
  maxAgeMs : Nat
  maxMessages : Nat

def SessionLimits.default : SessionLimits :=
  ⟨4 * 60 * 60 * 1000, 24 * 60 * 60 * 1000, 50000⟩

/-- A live session with one peer. -/
structure Session where
  peer : PublicIdentity
  epoch : UInt8
  sendKey : Bytes32
  recvKey : Bytes32
  sendCtr : Nat
  replay : ReplayWindow
  handshakeHash : Bytes32
  establishedAt : Nat
  lastActivity : Nat
  sent : Nat
  received : Nat
  rekeyInProgress : Bool
  m3 : Option Bytes
  m3Resends : Nat

namespace Session

variable {session after : Session} {now : Nat} {aad plaintext payload : Bytes}

def new (peer : PublicIdentity) (epoch : UInt8) (keys : TransportKeys) (now : Nat) : Session :=
  { peer := peer
    epoch := epoch
    sendKey := keys.send
    recvKey := keys.recv
    sendCtr := 0
    replay := ReplayWindow.new
    handshakeHash := keys.handshakeHash
    establishedAt := now
    lastActivity := now
    sent := 0
    received := 0
    rekeyInProgress := false
    m3 := none
    m3Resends := 0 }

/-- The caller's associated data extended with epoch and counter. -/
def fullAd (aad : Bytes) (epoch : UInt8) (counter : Nat) : Bytes :=
  aad ++ [epoch] ++ BigEndian.encode 3 counter

/-- Encrypt a payload; `aad` is the immutable header. -/
def encrypt (session : Session) (now : Nat) (aad plaintext : Bytes) :
    Session × Except Error Bytes :=
  if session.sendCtr ≥ counterRekeyThreshold then (session, .error .expired)
  else
    let counter := session.sendCtr
    ({ session with
        sendCtr := session.sendCtr + 1
        sent := session.sent + 1
        lastActivity := now },
      .ok ([session.epoch] ++ BigEndian.encode 3 counter ++
        CipherState.encryptN session.sendKey counter (fullAd aad session.epoch counter) plaintext))

/-- The counter carried by a transport payload. -/
def counterOf (payload : Bytes) : Nat := BigEndian.decode (slice payload 1 4)

/-- Decrypt and verify, enforcing replay protection. The window is updated only after
authentication succeeded, so a forged packet cannot poison it. -/
def decrypt (session : Session) (now : Nat) (aad payload : Bytes) :
    Session × Except Error Bytes :=
  if payload.length < transportOverhead then (session, .error .truncated)
  else if byteAt payload 0 ≠ session.epoch then (session, .error .noSession)
  else
    let counter := counterOf payload
    if !session.replay.check counter then (session, .error .replay)
    else
      match CipherState.decryptN session.recvKey counter (fullAd aad session.epoch counter)
          (payload.drop 4) with
      | .error error => (session, .error error)
      | .ok plaintext =>
        ({ session with
            replay := (session.replay.accept counter).1
            received := session.received + 1
            lastActivity := now },
          .ok plaintext)

def isExpired (session : Session) (now : Nat) (limits : SessionLimits) : Bool :=
  now - session.lastActivity > limits.idleTimeoutMs

/-- Whether the age, message count or counter limit is passed. -/
def pastLimits (session : Session) (now : Nat) (limits : SessionLimits) : Bool :=
  now - session.establishedAt > limits.maxAgeMs || session.sent ≥ limits.maxMessages ||
    session.sendCtr ≥ counterRekeyThreshold

/-- Whether a limit is passed and no rekey runs yet. -/
def needsRekey (session : Session) (now : Nat) (limits : SessionLimits) : Bool :=
  !session.rekeyInProgress && session.pastLimits now limits

/-- A successful encryption used the current counter, which was below the threshold;
the session advances its counters and keeps everything else. -/
theorem encrypt_ok (encrypted : session.encrypt now aad plaintext = (after, .ok payload)) :
    session.sendCtr < counterRekeyThreshold ∧ after = { session with
        sendCtr := session.sendCtr + 1
        sent := session.sent + 1
        lastActivity := now } ∧
      payload = [session.epoch] ++ BigEndian.encode 3 session.sendCtr ++
        CipherState.encryptN session.sendKey session.sendCtr
          (fullAd aad session.epoch session.sendCtr) plaintext := by
  unfold encrypt at encrypted
  split at encrypted
  · simp at encrypted
  · rename_i below
    simp only [Prod.mk.injEq, Except.ok.injEq] at encrypted
    exact ⟨by omega, encrypted.1.symm, encrypted.2.symm⟩

/-- Every failed encryption leaves the session as it was. -/
theorem encrypt_error {error : Error}
    (failed : session.encrypt now aad plaintext = (after, .error error)) : after = session := by
  unfold encrypt at failed
  split at failed
  · simp only [Prod.mk.injEq] at failed
    exact failed.1.symm
  · simp at failed

/-- A successful decryption passed the epoch check, the replay check and the AEAD; the
session records the counter and keeps its keys, epoch and send state. -/
theorem decrypt_ok {plaintext : Bytes}
    (decrypted : session.decrypt now aad payload = (after, .ok plaintext)) :
    byteAt payload 0 = session.epoch ∧ session.replay.check (counterOf payload) = true ∧
      CipherState.decryptN session.recvKey (counterOf payload)
        (fullAd aad session.epoch (counterOf payload)) (payload.drop 4) = .ok plaintext ∧
      after = { session with
        replay := (session.replay.accept (counterOf payload)).1
        received := session.received + 1
        lastActivity := now } := by
  unfold decrypt at decrypted
  split at decrypted
  · simp at decrypted
  · split at decrypted
    · simp at decrypted
    · rename_i sameEpoch
      simp only at decrypted
      split at decrypted
      · simp at decrypted
      · rename_i fresh
        split at decrypted
        · simp at decrypted
        · rename_i opened authentic
          simp only [Prod.mk.injEq, Except.ok.injEq] at decrypted
          obtain ⟨sameAfter, samePlaintext⟩ := decrypted
          subst samePlaintext
          exact ⟨by simpa using sameEpoch, by simpa using fresh, authentic, sameAfter.symm⟩

/-- Every failed decryption leaves the session as it was: epoch, keys, window,
counters and activity time. -/
theorem decrypt_error {error : Error}
    (failed : session.decrypt now aad payload = (after, .error error)) : after = session := by
  unfold decrypt at failed
  split at failed
  · simp only [Prod.mk.injEq] at failed
    exact failed.1.symm
  · split at failed
    · simp only [Prod.mk.injEq] at failed
      exact failed.1.symm
    · simp only at failed
      split at failed
      · simp only [Prod.mk.injEq] at failed
        exact failed.1.symm
      · split at failed
        · simp only [Prod.mk.injEq] at failed
          exact failed.1.symm
        · simp at failed

/-- Encryption keeps the peer and the rekey flag. -/
theorem encrypt_keeps (session : Session) (now : Nat) (aad plaintext : Bytes) :
    (session.encrypt now aad plaintext).1.peer = session.peer ∧
      (session.encrypt now aad plaintext).1.rekeyInProgress = session.rekeyInProgress := by
  unfold encrypt
  split <;> exact ⟨rfl, rfl⟩

/-- A transport payload starts with the epoch and holds the counter and the tag. -/
theorem encrypt_framed (encrypted : (session.encrypt now aad plaintext).2 = .ok payload) :
    payload.head? = some session.epoch ∧ transportOverhead ≤ payload.length := by
  obtain ⟨-, -, rfl⟩ := encrypt_ok (Prod.ext rfl encrypted)
  constructor
  · rfl
  · rw [CipherState.encryptN, length_append, length_append, length_append,
      FixedBytes.length_val, BigEndian.encode_length, transportOverhead, tagLen]
    exact Nat.add_le_add_left (Nat.le_add_left _ _) _

/-- The other end of a sending session: the same epoch, the sender's key for receiving, and
a window that has not taken the sender's current counter. -/
structure Mirrors (receiving sending : Session) : Prop where
  epoch : receiving.epoch = sending.epoch
  key : receiving.recvKey = sending.sendKey
  fresh : receiving.replay.check sending.sendCtr = true

/-- What a session encrypted, its mirror decrypts under the same associated data. -/
theorem decrypt_encrypt (roundTrip : CipherState.AeadRoundTrip) {sending receiving : Session}
    {now later : Nat} {aad plaintext payload : Bytes} (mirrors : receiving.Mirrors sending)
    (encrypted : (sending.encrypt now aad plaintext).2 = .ok payload) :
    (receiving.decrypt later aad payload).2 = .ok plaintext := by
  obtain ⟨below, -, framed⟩ := encrypt_ok (Prod.ext rfl encrypted)
  have bounded : sending.sendCtr < 256 ^ 3 := Nat.lt_of_lt_of_le below (by decide)
  have opened := CipherState.decryptN_encryptN roundTrip sending.sendKey sending.sendCtr
    (fullAd aad sending.epoch sending.sendCtr) plaintext
  generalize CipherState.encryptN sending.sendKey sending.sendCtr
    (fullAd aad sending.epoch sending.sendCtr) plaintext = ciphertext at *
  obtain ⟨high, middle, low, digits⟩ := length_eq_three.mp
    (BigEndian.encode_length 3 sending.sendCtr)
  have counter : counterOf payload = sending.sendCtr := by
    rw [← BigEndian.decode_encode_of_lt 3 _ bounded, counterOf, framed, digits]
    rfl
  have leading : byteAt payload 0 = receiving.epoch := by
    rw [framed, mirrors.epoch]
    rfl
  have sealed : payload.drop 4 = ciphertext := by
    rw [framed, digits]
    rfl
  have enough : ¬payload.length < transportOverhead := Nat.not_lt.mpr (encrypt_framed encrypted).2
  simp only [decrypt, if_neg enough, leading, ne_eq, not_true_eq_false, if_false, counter,
    mirrors.fresh, Bool.not_true, Bool.false_eq_true, sealed, mirrors.key, mirrors.epoch, opened]

end Session

end MeshStar
