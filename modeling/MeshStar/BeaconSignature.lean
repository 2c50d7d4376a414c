import MeshStar.Neighbor
import MeshStar.PacketCodec

/-!
# What the signature of a beacon covers

A full beacon is signed over the sender's address, its public key, the sequence number, the
timestamp and the role. Those five are believed only as signed. The rest of the beacon (the
announced interval, the awake window, the mailbox flag, the attached nodes and the zone) is
outside the signature: whatever it says, the beacon is accepted as verified.
-/

namespace MeshStar

open List

variable [Primitives]

/-- A signature is valid for no bytes but the ones that were signed. -/
def ExactSignatures : Prop :=
  ∀ (key other : Bytes32) (message forged : Bytes) (signature : Signature),
    Primitives.ed25519VerifyStrict key message signature = true →
    Primitives.ed25519VerifyStrict other forged signature = true → forged = message

namespace Beacon

omit [Primitives] in
/-- The signed bytes determine the fields they are made of. -/
theorem signedBytes_injective {addr addr' : Address} {publicKey publicKey' : Bytes32}
    {seq seq' : UInt16} {timestamp timestamp' : UInt32} {role role' : Role}
    (same : signedBytes addr publicKey seq timestamp role =
      signedBytes addr' publicKey' seq' timestamp' role') :
    addr = addr' ∧ publicKey = publicKey' ∧ timestamp = timestamp' ∧ seq = seq' ∧ role = role' := by
  unfold signedBytes at same
  obtain ⟨same, roles⟩ := append_inj' same rfl
  obtain ⟨same, times⟩ := append_inj' same (by simp)
  obtain ⟨same, numbers⟩ := append_inj' same (by simp)
  obtain ⟨same, keys⟩ := append_inj' same (publicKey.property.trans publicKey'.property.symm)
  obtain ⟨_, addresses⟩ := append_inj' same (by simp)
  refine ⟨Header.asBytes_injective addresses, Subtype.ext keys, ?_, ?_, ?_⟩
  · exact UInt32.toNat_inj.mp
      (BigEndian.encode_injective 4 _ _ timestamp.toNat_lt timestamp'.toNat_lt times)
  · exact UInt16.toNat_inj.mp (BigEndian.encode_injective 2 _ _ seq.toNat_lt seq'.toNat_lt numbers)
  · revert roles
    cases role <;> cases role' <;> decide

end Beacon

namespace NeighborTable

variable {table : NeighborTable} {now : Nat} {src : Address} {first second : Beacon}
  {full other : FullIdentity} {rxMeta : RxMeta} {me : Option Address} {identity : PublicIdentity}

/-- The identity of a full beacon is verified by its address and over the signed bytes. -/
theorem verifiedIdentity_iff (isFull : first.full = some full) :
    verifiedIdentity src first full = some identity ↔
      PublicIdentity.fromBytes full.publicKey = .ok identity ∧ identity.address = src ∧
      Primitives.ed25519VerifyStrict identity.publicKey (Beacon.signedBytes src full.publicKey
        first.seq full.timestamp first.role) full.signature = true := by
  simp only [verifiedIdentity, Beacon.verifySignature, isFull, PublicIdentity.verify]
  cases PublicIdentity.fromBytes full.publicKey with
  | error _ => simp
  | ok parsed =>
    simp only [Except.ok.injEq, Option.ite_none_right_eq_some, Option.some.injEq]
    constructor
    · rintro ⟨⟨addressed, signed⟩, rfl⟩
      exact ⟨rfl, addressed, by simpa using signed⟩
    · rintro ⟨rfl, addressed, signed⟩
      exact ⟨⟨addressed, if_pos signed⟩, rfl⟩

/-- A beacon is accepted as verified only with a verified identity. -/
theorem observeBeaconAs_verified (isFull : first.full = some full)
    (accepted : (table.observeBeaconAs now src first rxMeta me).2.identityVerified = true) :
    ∃ identity, verifiedIdentity src first full = some identity := by
  simp only [observeBeaconAs, isFull] at accepted
  cases checked : verifiedIdentity src first full with
  | none =>
    rw [checked] at accepted
    cases accepted
  | some identity => exact ⟨identity, rfl⟩

omit [Primitives] in
/-- Of the beacon itself, only the role decides whether its sender is accepted. -/
theorem observeVerified_observation (verified : Option PublicIdentity)
    (same : second.role = first.role) :
    (table.observeVerified now src second rxMeta me verified).2 =
      (table.observeVerified now src first rxMeta me verified).2 := by
  have reserved : table.reserve now src second rxMeta = table.reserve now src first rxMeta := by
    simp only [reserve, same]
  simp only [observeVerified, reserved]
  cases table.reserve now src first rxMeta with
  | none => rfl
  | some room =>
    dsimp only
    split <;> rfl

/-- For a beacon that is accepted as verified, and any other with the same signature: the
other is accepted, by whatever table, only if it comes from the same sender with the same
key, timestamp, sequence number and role; and where the first is accepted, these suffice. -/
theorem verified_fields_signed (exact : ExactSignatures) (table : NeighborTable) (now : Nat)
    (src : Address) (first second : Beacon) (full other : FullIdentity) (rxMeta : RxMeta)
    (me : Option Address) (isFull : first.full = some full) (isOther : second.full = some other)
    (sameSignature : other.signature = full.signature)
    (accepted : (table.observeBeaconAs now src first rxMeta me).2.identityVerified = true) :
    (∀ (elsewhere : NeighborTable) (later : Nat) (sender : Address) (received : RxMeta)
        (receiver : Option Address),
      (elsewhere.observeBeaconAs later sender second received receiver).2.identityVerified = true →
      sender = src ∧ other.publicKey = full.publicKey ∧ other.timestamp = full.timestamp ∧
        second.seq = first.seq ∧ second.role = first.role) ∧
    (other.publicKey = full.publicKey → other.timestamp = full.timestamp →
      second.seq = first.seq → second.role = first.role →
      (table.observeBeaconAs now src second rxMeta me).2.identityVerified = true) := by
  obtain ⟨identity, verified⟩ := observeBeaconAs_verified isFull accepted
  obtain ⟨parsed, addressed, signed⟩ := (verifiedIdentity_iff isFull).mp verified
  constructor
  · intro elsewhere later sender received receiver believed
    obtain ⟨claimed, checked⟩ := observeBeaconAs_verified isOther believed
    obtain ⟨_, _, forged⟩ := (verifiedIdentity_iff isOther).mp checked
    rw [sameSignature] at forged
    exact Beacon.signedBytes_injective (exact _ _ _ _ _ signed forged)
  · intro sameKey sameTime sameSeq sameRole
    have checked : verifiedIdentity src second other = some identity := by
      refine (verifiedIdentity_iff isOther).mpr ⟨?_, addressed, ?_⟩
      · rw [sameKey, parsed]
      · rw [sameKey, sameTime, sameSeq, sameRole, sameSignature, signed]
    simp only [observeBeaconAs, isFull, verified] at accepted
    simp only [observeBeaconAs, isOther, checked]
    rw [observeVerified_observation (some identity) sameRole, accepted]

end NeighborTable

end MeshStar

namespace MeshStar.Unsigned

/-- A suite in which the signature of a beacon spells out the signed bytes. -/
local instance spellingSuite : Primitives :=
  { Transparent.primitives with
    ed25519Sign := fun _ message => FixedBytes.ofSlice 64 (message.drop 18)
    ed25519VerifyStrict := fun _ message signature =>
      decide (message = Beacon.signDomain ++ signature.val.take 47) }

open Transparent

def sender : Identity := identity 1

def honest : Beacon := (Beacon.shortBeacon .leaf 7 2 0).sign sender 100

/-- The same beacon with another interval, another awake window, a mailbox, an attached node
and a zone entry. -/
def altered : Beacon :=
  { honest with
    sleepIntervalS := 9
    awakeWindowMs := 8
    mailboxAvailable := true
    attached := [⟨5⟩]
    zone := [⟨⟨6⟩, 1, 200, 0⟩] }

def table : NeighborTable := NeighborTable.new NeighborConfig.default

def verifies (beacon : Beacon) : Bool :=
  (table.observeBeaconAs 10 sender.address beacon (heardAt 10) none).2.identityVerified

/-- Two beacons that differ in every unsigned field verify under one signature. -/
theorem altered_beacon_verifies :
    altered.full = honest.full ∧ verifies honest = true ∧ verifies altered = true ∧
      altered.sleepIntervalS ≠ honest.sleepIntervalS ∧
      altered.awakeWindowMs ≠ honest.awakeWindowMs ∧
      altered.mailboxAvailable ≠ honest.mailboxAvailable ∧
      altered.attached ≠ honest.attached ∧ altered.zone ≠ honest.zone := by
  decide +kernel

/-- An alteration of the unsigned fields is not noticed. -/
theorem verified_fields_signed_altered :
    (altered.full = honest.full ∧ verifies honest = true) ∧ verifies altered = true := by
  have accepted : verifies honest = true := by decide +kernel
  refine ⟨⟨rfl, accepted⟩, ?_⟩
  have exact : ExactSignatures := by
    intro key other message forged signature signed spelled
    exact (of_decide_eq_true spelled).trans (of_decide_eq_true signed).symm
  exact (NeighborTable.verified_fields_signed exact table 10 sender.address honest altered _ _
    (heardAt 10) none rfl rfl rfl accepted).2 rfl rfl rfl rfl

end MeshStar.Unsigned
