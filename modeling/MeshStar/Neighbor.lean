import MeshStar.Library.Selection
import MeshStar.Packet
import MeshStar.Platform

/-!
# Beacons and the neighbour table

A beacon announces a node to its direct neighbours; a full beacon also carries the
sender's public key and a signature. The table keeps one entry for each neighbour,
smooths the measured link and evicts the worst link when it is full. An identity
enters an entry only when it hashes to the sender's address and its signature
verifies, and a verified identity is never replaced by another key.

Link measurements are single-precision numbers, as in the source; nothing below
depends on their values.
-/

namespace MeshStar

variable [Primitives]

namespace Beacon

def flagFull : UInt8 := 1
def flagZone : UInt8 := 2
def flagAttached : UInt8 := 4
def flagMailbox : UInt8 := 8
def zoneEntryLen : Nat := 11
def fixedLen : Nat := 11
def fullLen : Nat := 32 + 4 + 64
def signDomain : Bytes := ascii "MeshStar/beacon/v1"

end Beacon

namespace ZoneFlags

def leaf : UInt8 := 1
def anchor : UInt8 := 2
def sleeping : UInt8 := 4

end ZoneFlags

/-- One entry of the advertised intra-zone table. -/
structure ZoneEntry where
  addr : Address
  distance : UInt8
  quality : UInt8
  flags : UInt8
  deriving DecidableEq, Repr

/-- Identity part of a full beacon. -/
structure FullIdentity where
  publicKey : Bytes32
  timestamp : UInt32
  signature : Signature
  deriving DecidableEq

/-- A decoded beacon. -/
structure Beacon where
  role : Role
  seq : UInt16
  zoneRadius : UInt8
  neighborCount : UInt8
  batteryPercent : UInt8
  sleepIntervalS : UInt16
  awakeWindowMs : UInt16
  mailboxAvailable : Bool
  full : Option FullIdentity
  attached : List Address
  zone : List ZoneEntry
  deriving DecidableEq

namespace Beacon

def shortBeacon (role : Role) (seq : UInt16) (zoneRadius neighborCount : UInt8) : Beacon :=
  { role := role
    seq := seq
    zoneRadius := zoneRadius
    neighborCount := neighborCount
    batteryPercent := 255
    sleepIntervalS := 0
    awakeWindowMs := 0
    mailboxAvailable := false
    full := none
    attached := []
    zone := [] }

/-- The bytes a beacon signature covers. -/
def signedBytes (addr : Address) (publicKey : Bytes32) (seq : UInt16) (timestamp : UInt32)
    (role : Role) : Bytes :=
  signDomain ++ addr.asBytes ++ publicKey.val ++ BigEndian.encode 2 seq.toNat ++
    BigEndian.encode 4 timestamp.toNat ++ [role.toU8]

/-- Attach identity and signature. -/
def sign (beacon : Beacon) (identity : Identity) (timestamp : UInt32) : Beacon :=
  let publicKey := identity.publicIdentity.publicKey
  let message := signedBytes identity.address publicKey beacon.seq timestamp beacon.role
  { beacon with full := some ⟨publicKey, timestamp, identity.sign message⟩ }

def verifySignature (beacon : Beacon) (src : Address) (identity : PublicIdentity) :
    Except Error Unit :=
  match beacon.full with
  | none => .error .notFound
  | some full =>
    identity.verify (signedBytes src full.publicKey beacon.seq full.timestamp beacon.role)
      full.signature

def encodedLen (beacon : Beacon) : Nat :=
  fixedLen + (if beacon.full.isSome then fullLen else 0) +
    (if beacon.attached.isEmpty then 0 else 1 + 8 * beacon.attached.length) +
    (if beacon.zone.isEmpty then 0 else 1 + zoneEntryLen * beacon.zone.length)

def encode (beacon : Beacon) : Bytes :=
  let flags := (if beacon.full.isSome then flagFull else 0) |||
    (if beacon.zone.isEmpty then 0 else flagZone) |||
    (if beacon.attached.isEmpty then 0 else flagAttached) |||
    (if beacon.mailboxAvailable then flagMailbox else 0)
  let full := match beacon.full with
    | some identity => identity.publicKey.val ++ BigEndian.encode 4 identity.timestamp.toNat ++
        identity.signature.val
    | none => []
  let attached := if beacon.attached.isEmpty then []
    else UInt8.ofNat beacon.attached.length :: beacon.attached.flatMap Address.asBytes
  let zone := if beacon.zone.isEmpty then []
    else UInt8.ofNat beacon.zone.length :: beacon.zone.flatMap (fun entry =>
      entry.addr.asBytes ++ [entry.distance, entry.quality, entry.flags])
  [flags, beacon.role.toU8] ++ BigEndian.encode 2 beacon.seq.toNat ++
    [beacon.zoneRadius, beacon.neighborCount, beacon.batteryPercent] ++
    BigEndian.encode 2 beacon.sleepIntervalS.toNat ++
    BigEndian.encode 2 beacon.awakeWindowMs.toNat ++ full ++ attached ++ zone

/-- Read `count` attached addresses and return the rest. -/
def decodeAttached : Nat → Bytes → Except Error (List Address × Bytes)
  | 0, bytes => .ok ([], bytes)
  | count + 1, bytes => do
    let addr ← Address.fromBytes (bytes.take 8)
    if addr.isNull || addr.isBroadcast then throw .badField
    let (rest, remaining) ← decodeAttached count (bytes.drop 8)
    return (addr :: rest, remaining)

/-- Read `count` zone entries and return the rest. -/
def decodeZone : Nat → Bytes → Except Error (List ZoneEntry × Bytes)
  | 0, bytes => .ok ([], bytes)
  | count + 1, bytes => do
    let addr ← Address.fromBytes (bytes.take 8)
    let distance := byteAt bytes 8
    if addr.isNull || addr.isBroadcast || distance == 0 || distance > 4 then throw .badField
    let (rest, remaining) ← decodeZone count (bytes.drop zoneEntryLen)
    return (⟨addr, distance, byteAt bytes 9, byteAt bytes 10⟩ :: rest, remaining)

/-- Decode a beacon payload; every byte must be accounted for. -/
def decode (bytes : Bytes) : Except Error Beacon := do
  if bytes.length < fixedLen then throw .truncated
  let flags := byteAt bytes 0
  let some role := Role.fromU8 (byteAt bytes 1) | throw .badField
  let zoneRadius := byteAt bytes 4
  if zoneRadius > 4 then throw .badField
  let afterFixed := bytes.drop fixedLen
  let (full, afterFull) ←
    if flags &&& flagFull ≠ 0 then
      if afterFixed.length < fullLen then throw .truncated
      else pure (some (FullIdentity.mk (FixedBytes.ofSlice 32 afterFixed)
        (UInt32.ofNat (BigEndian.decode (slice afterFixed 32 36)))
        (FixedBytes.ofSlice 64 (afterFixed.drop 36))), afterFixed.drop fullLen)
    else pure (none, afterFixed)
  let (attached, afterAttached) ←
    if flags &&& flagAttached ≠ 0 then
      if afterFull.length < 1 then throw .truncated
      else
        let count := (byteAt afterFull 0).toNat
        if afterFull.length < 1 + count * 8 then throw .truncated
        else decodeAttached count (afterFull.drop 1)
    else pure ([], afterFull)
  let (zone, remaining) ←
    if flags &&& flagZone ≠ 0 then
      if afterAttached.length < 1 then throw .truncated
      else
        let count := (byteAt afterAttached 0).toNat
        if afterAttached.length < 1 + count * zoneEntryLen then throw .truncated
        else decodeZone count (afterAttached.drop 1)
    else pure ([], afterAttached)
  if remaining ≠ [] then throw .badField
  return { role := role
           seq := UInt16.ofNat (BigEndian.decode (slice bytes 2 4))
           zoneRadius := zoneRadius
           neighborCount := byteAt bytes 5
           batteryPercent := byteAt bytes 6
           sleepIntervalS := UInt16.ofNat (BigEndian.decode (slice bytes 7 9))
           awakeWindowMs := UInt16.ofNat (BigEndian.decode (slice bytes 9 11))
           mailboxAvailable := flags &&& flagMailbox ≠ 0
           full := full
           attached := attached
           zone := zone }

end Beacon

/-- Neighbour discovery configuration. -/
structure NeighborConfig where
  beaconIntervalMs : Nat
  beaconJitterMs : Nat
  fullBeaconEvery : UInt8
  timeoutIntervals : Nat
  maxNeighbors : Nat
  ewmaAlpha : Float32
  snrFloorDb : Float32

def NeighborConfig.default : NeighborConfig := ⟨120000, 20000, 6, 4, 48, 0.3, -10.0⟩

/-- A directly reachable node. Fields that only diagnostics read are left out. -/
structure Neighbor where
  addr : Address
  role : Role
  identity : Option PublicIdentity
  lastSeen : Nat
  lastBeaconSeq : Option UInt16
  beaconsReceived : Nat
  beaconsExpected : Nat
  snrDb : Float32
  sleepIntervalS : UInt16
  awakeUntil : Option Nat
  attached : List Address
  attachedToMe : Bool
  failures : Nat
  snrFloorDb : Float32
  txAttempts : Nat
  txConfirmed : Nat

namespace Neighbor

def new (addr : Address) (role : Role) (now : Nat) (rxMeta : RxMeta) : Neighbor :=
  { addr := addr
    role := role
    identity := none
    lastSeen := now
    lastBeaconSeq := none
    beaconsReceived := 0
    beaconsExpected := 0
    snrDb := rxMeta.snrDb
    sleepIntervalS := 0
    awakeUntil := none
    attached := []
    attachedToMe := false
    failures := 0
    snrFloorDb := -10.0
    txAttempts := 0
    txConfirmed := 0 }

/-- Restrict a measurement to an interval. -/
def clamp (value low high : Float32) : Float32 :=
  if value < low then low else if value > high then high else value

/-- Beacon delivery ratio with a prior. -/
def deliveryRatio (neighbor : Neighbor) : Float32 :=
  clamp ((Float32.ofNat neighbor.beaconsReceived + 1.0) /
    (Float32.ofNat neighbor.beaconsExpected + 2.0)) 0.05 1.0

def snrMarginDb (neighbor : Neighbor) : Float32 := neighbor.snrDb - neighbor.snrFloorDb

/-- Expected transmission count. -/
def etx (neighbor : Neighbor) : Float32 :=
  (Float32.ofNat neighbor.txAttempts + 4.0) / (Float32.ofNat neighbor.txConfirmed + 4.0)

/-- Link quality from SNR margin, beacon delivery, ETX and recent failures. -/
def linkQuality (neighbor : Neighbor) : UInt8 :=
  let margin := clamp (neighbor.snrMarginDb / 12.0) 0.0 1.0
  let failed := Float32.ofNat neighbor.failures * 0.15
  let fail := 1.0 - (if failed < 0.8 then failed else 0.8)
  let etx := clamp (1.0 / neighbor.etx) 0.1 1.0
  let quality := (0.45 * margin + 0.35 * neighbor.deliveryRatio + 0.2 * etx) * fail
  (clamp quality 0.0 1.0 * 255.0).toUInt8

/-- Count a transmission; the statistics are halved to stay responsive. -/
def recordTxAttempt (neighbor : Neighbor) : Neighbor :=
  let attempts := neighbor.txAttempts + 1
  if attempts > 200 then
    { neighbor with txAttempts := attempts / 2, txConfirmed := neighbor.txConfirmed / 2 }
  else { neighbor with txAttempts := attempts }

def recordTxConfirmed (neighbor : Neighbor) : Neighbor :=
  { neighbor with txConfirmed := min (neighbor.txConfirmed + 1) neighbor.txAttempts }

def isLeaf (neighbor : Neighbor) : Bool := neighbor.role == .leaf

/-- A sleeping-role peer that is not known to be awake right now. -/
def isSleeping (neighbor : Neighbor) (now : Nat) : Bool :=
  neighbor.isLeaf && match neighbor.awakeUntil with
    | some until_ => now > until_
    | none => true

/-- A sleeping-role peer that chose us as its host, or named no host yet. -/
def hostedByUs (neighbor : Neighbor) : Bool :=
  neighbor.isLeaf && (neighbor.attachedToMe || neighbor.attached.isEmpty)

end Neighbor

/-- Result of processing a beacon. -/
structure BeaconObservation where
  isNew : Bool
  identityVerified : Bool
  identityRejected : Bool
  deriving DecidableEq, Repr

/-- Table of direct neighbours. -/
structure NeighborTable where
  cfg : NeighborConfig
  map : OrderedMap Address Neighbor

namespace NeighborTable

def new (cfg : NeighborConfig) : NeighborTable := ⟨cfg, OrderedMap.empty⟩

def size (table : NeighborTable) : Nat := table.map.size

def get (table : NeighborTable) (addr : Address) : Option Neighbor := table.map.get addr

def contains (table : NeighborTable) (addr : Address) : Bool := table.map.contains addr

/-- Rewrite one neighbour, when it is known. -/
def modify (table : NeighborTable) (addr : Address) (change : Neighbor → Neighbor) :
    NeighborTable := { table with map := table.map.modify addr change }

/-- Resolve a 16-bit short id; on collision the best link wins. -/
def resolveShort (table : NeighborTable) (short : UInt16) : Option Neighbor :=
  Selection.lastMaxBy (fun neighbor => neighbor.linkQuality.toNat)
    (table.map.values.filter (fun neighbor => neighbor.addr.short == short))

def timeoutMs (table : NeighborTable) : Nat :=
  (table.cfg.beaconIntervalMs + table.cfg.beaconJitterMs) * table.cfg.timeoutIntervals

/-- The identity of a full beacon, when it hashes to the sender and its signature
verifies. -/
def verifiedIdentity (src : Address) (beacon : Beacon) (full : FullIdentity) :
    Option PublicIdentity :=
  match PublicIdentity.fromBytes full.publicKey with
  | .error _ => none
  | .ok identity =>
    if identity.address = src ∧ beacon.verifySignature src identity = .ok () then some identity
    else none

/-- Make sure a neighbour has an entry, evicting the worst link of a full table when it
is bad enough. `none` when there is no room. -/
def reserve (table : NeighborTable) (now : Nat) (src : Address) (beacon : Beacon)
    (rxMeta : RxMeta) : Option (NeighborTable × Bool) :=
  if table.map.contains src then some (table, false)
  else
    let fresh := { Neighbor.new src beacon.role now rxMeta with
      snrFloorDb := table.cfg.snrFloorDb }
    if table.map.size ≥ table.cfg.maxNeighbors then
      match Selection.firstMinBy (fun neighbor => neighbor.linkQuality.toNat) table.map.values with
      | some worst =>
        if worst.linkQuality < 64 then
          some ({ table with map := (table.map.remove worst.addr).insert src fresh }, true)
        else none
      | none => some ({ table with map := table.map.insert src fresh }, true)
    else some ({ table with map := table.map.insert src fresh }, true)

/-- Beacon delivery statistics after a beacon with this sequence number. -/
def countBeacon (neighbor : Neighbor) (seq : UInt16) : Neighbor :=
  match neighbor.lastBeaconSeq with
  | some previous =>
    let gap := seq - previous
    if gap = 0 then neighbor
    else if gap < 64 then
      { neighbor with
        beaconsExpected := neighbor.beaconsExpected + gap.toNat
        beaconsReceived := neighbor.beaconsReceived + 1 }
    else { neighbor with beaconsExpected := 1, beaconsReceived := 1 }
  | none => { neighbor with beaconsExpected := 1, beaconsReceived := 1 }

/-- What a beacon tells about a known neighbour. -/
def refresh (cfg : NeighborConfig) (now : Nat) (beacon : Beacon) (rxMeta : RxMeta)
    (me : Option Address) (verified : Option PublicIdentity) (neighbor : Neighbor) : Neighbor :=
  let alpha := cfg.ewmaAlpha
  let updated := { neighbor with
    identity := if verified.isSome then verified else neighbor.identity
    role := beacon.role
    lastSeen := now
    snrDb := neighbor.snrDb * (1.0 - alpha) + rxMeta.snrDb * alpha
    sleepIntervalS := beacon.sleepIntervalS
    attached := beacon.attached
    attachedToMe := if beacon.role = .leaf then
      match me with
      | some address => beacon.attached.contains address
      | none => false
      else neighbor.attachedToMe }
  let counted := countBeacon updated beacon.seq
  { counted with
    lastBeaconSeq := some beacon.seq
    awakeUntil := if beacon.role = .leaf then some (now + beacon.awakeWindowMs.toNat)
      else counted.awakeUntil
    failures := counted.failures - 1 }

/-- Process a beacon whose identity part, if any, has been verified. -/
def observeVerified (table : NeighborTable) (now : Nat) (src : Address) (beacon : Beacon)
    (rxMeta : RxMeta) (me : Option Address) (verified : Option PublicIdentity) :
    NeighborTable × BeaconObservation :=
  match table.reserve now src beacon rxMeta with
  | none => (table, ⟨false, verified.isSome, false⟩)
  | some (reserved, isNew) =>
    let known := (reserved.get src).bind Neighbor.identity
    if known.isSome ∧ verified.isSome ∧ known ≠ verified then
      (reserved, ⟨isNew, false, true⟩)
    else
      (reserved.modify src (refresh reserved.cfg now beacon rxMeta me verified),
        ⟨isNew, verified.isSome, false⟩)

/-- Process a beacon. A full identity is verified before the table is touched. -/
def observeBeaconAs (table : NeighborTable) (now : Nat) (src : Address) (beacon : Beacon)
    (rxMeta : RxMeta) (me : Option Address) : NeighborTable × BeaconObservation :=
  match beacon.full with
  | none => table.observeVerified now src beacon rxMeta me none
  | some full =>
    match verifiedIdentity src beacon full with
    | none => (table, ⟨false, false, true⟩)
    | some identity => table.observeVerified now src beacon rxMeta me (some identity)

/-- A verified identity hashes to the sender. -/
theorem verifiedIdentity_address {src : Address} {beacon : Beacon} {full : FullIdentity}
    {identity : PublicIdentity} (verified : verifiedIdentity src beacon full = some identity) :
    identity.address = src := by
  unfold verifiedIdentity at verified
  split at verified
  · cases verified
  · split at verified
    · rename_i checked
      cases verified
      exact checked.1
    · cases verified

section

omit [Primitives]

/-- The delivery statistics leave the identity alone. -/
theorem countBeacon_identity (neighbor : Neighbor) (seq : UInt16) :
    (countBeacon neighbor seq).identity = neighbor.identity := by
  simp only [countBeacon]
  repeat' split
  all_goals rfl

/-- A beacon with a verified identity stores that identity. -/
theorem refresh_identity (cfg : NeighborConfig) (now : Nat) (beacon : Beacon) (rxMeta : RxMeta)
    (me : Option Address) (identity : PublicIdentity) (neighbor : Neighbor) :
    (refresh cfg now beacon rxMeta me (some identity) neighbor).identity = some identity := by
  change (countBeacon _ beacon.seq).identity = some identity
  rw [countBeacon_identity]
  rfl

/-- A sender there is no room for is unknown. -/
theorem get_of_reserve_none {table : NeighborTable} {now : Nat} {src : Address} {beacon : Beacon}
    {rxMeta : RxMeta} (full : table.reserve now src beacon rxMeta = none) :
      table.get src = none := by
  unfold reserve at full
  split at full
  · cases full
  · rename_i unknown
    exact OrderedMap.get_eq_none unknown

end

/-- After a beacon whose identity was verified, the identity known for its sender hashes to
the sender. -/
theorem observeBeaconAs_identity {table : NeighborTable} {now : Nat} {src : Address}
    {beacon : Beacon} {rxMeta : RxMeta} {me : Option Address} {identity : PublicIdentity}
    (verified : (table.observeBeaconAs now src beacon rxMeta me).2.identityVerified = true)
    (known : ((table.observeBeaconAs now src beacon rxMeta me).1.get src).bind Neighbor.identity =
      some identity) : identity.address = src := by
  unfold observeBeaconAs at verified known
  cases full : beacon.full with
  | none =>
    simp only [full, observeVerified] at verified
    repeat' split at verified
    all_goals cases verified
  | some part =>
    cases checked : verifiedIdentity src beacon part with
    | none =>
      simp only [full, checked] at verified
      cases verified
    | some claimed =>
      simp only [full, checked, observeVerified] at verified known
      cases room : table.reserve now src beacon rxMeta with
      | none =>
        simp only [room, get_of_reserve_none room] at known
        cases known
      | some reserved =>
        simp only [room] at verified known
        split at known
        · rename_i impostor
          rw [if_pos impostor] at verified
          cases verified
        · simp only [get, modify, OrderedMap.get_modify_self, Option.bind_map,
            Function.comp_def, refresh_identity] at known
          obtain ⟨_, _, same⟩ := Option.bind_eq_some_iff.mp known
          cases same
          exact verifiedIdentity_address checked

/-- Any packet transmitted by a neighbour refreshes its liveness. -/
def observePacket (table : NeighborTable) (now : Nat) (src : Address) (rxMeta : RxMeta) :
    NeighborTable :=
  let alpha := table.cfg.ewmaAlpha
  table.modify src (fun neighbor =>
    { neighbor with
      lastSeen := now
      snrDb := neighbor.snrDb * (1.0 - alpha) + rxMeta.snrDb * alpha
      awakeUntil := if neighbor.isLeaf then some (now + 2000) else neighbor.awakeUntil })

/-- A delivery through a neighbour failed; the result tells whether the link looks dead. -/
def recordFailure (table : NeighborTable) (nextHop : Address) : NeighborTable × Bool :=
  (table.modify nextHop (fun neighbor =>
    { neighbor with failures := min (neighbor.failures + 1) 255 }),
    match table.get nextHop with
    | some neighbor => min (neighbor.failures + 1) 255 ≥ 4
    | none => false)

def recordSuccess (table : NeighborTable) (nextHop : Address) : NeighborTable :=
  table.modify nextHop (fun neighbor => { neighbor with failures := 0 })

/-- Drop silent neighbours, returning their addresses. -/
def expire (table : NeighborTable) (now : Nat) : NeighborTable × List Address :=
  let timeout := table.timeoutMs
  let dead := (table.map.values.filter (fun neighbor =>
    let announced := neighbor.sleepIntervalS.toNat * 1000
    let limit := if announced > 0 then
        max timeout ((announced + table.cfg.beaconJitterMs) * table.cfg.timeoutIntervals)
      else timeout
    now - neighbor.lastSeen > limit)).map Neighbor.addr
  ({ table with map := dead.foldl (fun map addr => map.remove addr) table.map }, dead)

def bestAnchor (table : NeighborTable) : Option Neighbor :=
  Selection.lastMaxBy (fun neighbor => neighbor.linkQuality.toNat)
    (table.map.values.filter (fun neighbor => neighbor.role == .anchor))

/-- Best relaying neighbour; the always-on role is preferred. -/
def bestRelay (table : NeighborTable) : Option Neighbor :=
  Selection.lastMaxBy
    (fun neighbor => (if neighbor.role = .anchor then 256 else 0) + neighbor.linkQuality.toNat)
    (table.map.values.filter (fun neighbor => neighbor.role.relays))

/-- Score of a host: link quality with a bonus for the always-on role. -/
def hostScore (neighbor : Neighbor) : Nat :=
  neighbor.linkQuality.toNat + if neighbor.role = .anchor then 60 else 0

def bestHost (table : NeighborTable) : Option Neighbor :=
  Selection.lastMaxBy hostScore (table.map.values.filter (fun neighbor => neighbor.role.relays))

/-- Sleeping-role neighbours that chose us as host, or named none yet. -/
def hostedLeaves (table : NeighborTable) : List Neighbor :=
  table.map.values.filter Neighbor.hostedByUs

end NeighborTable

end MeshStar
