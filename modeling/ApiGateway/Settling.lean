import ApiGateway.CacheTransparency

/-!
# Rows that have settled

A change of the rows reaches the answers late. The snapshot is stale until a
refresh has published, the store holds stale values for an hour more, memory for
another hour after it was last filled from the store, and a call under way may
write back what it has read long ago.

If no call takes longer than a patience, all of this ends. From twice the patience
and two hours after a refresh has published, every request is answered as the
rows alone say, whatever happened before they settled.
-/

namespace ApiGateway.Concurrent

open TwoTier Interleaving PolicyResolver

/-- What had settled before a call was started: the rows, then the snapshot, then the
store, then memory. -/
structure Settled where
  rows : Prop
  snapshot : Prop
  store : Prop
  memory : Prop
  published : snapshot → rows
  stored : store → snapshot
  remembered : memory → store

namespace Discipline

/-- A discipline for a call, as far as things had settled when it was started. -/
def after (discipline : Discipline) (settled : Settled) : Discipline where
  platform := discipline.platform
  FittingRows := fun call rows => settled.rows → discipline.FittingRows call rows
  Fitting := fun key value => settled.snapshot → discipline.Fitting key value
  Stored := fun key value => settled.store → discipline.Stored key value
  Remembered := fun key value => settled.memory → discipline.Remembered key value
  Built := fun routeKey policy => settled.rows → discipline.Built routeKey policy
  Registers := fun routeKey policy => settled.snapshot → discipline.Registers routeKey policy
  Lookup := fun routeKey found => settled.snapshot → discipline.Lookup routeKey found
  Publishable := fun snapshot => settled.rows → discipline.Publishable snapshot
  stored := fun key value fitting holds => discipline.stored key value (fitting (settled.stored holds))
  remembered := fun key value stored holds =>
    discipline.remembered key value (stored (settled.remembered holds))
  policies := fun routeKey policy registered holds =>
    discipline.policies routeKey policy (registered holds)
  clients := fun clientId client fits holds =>
    discipline.clients clientId client (fits (settled.published holds))
  permissions := fun id endpointIds fits holds =>
    discipline.permissions id endpointIds (fits (settled.published holds))
  profiles := fun userId serviceId profile fits holds =>
    discipline.profiles userId serviceId profile (fits (settled.published holds))
  listed := fun clients fits client member holds =>
    discipline.listed clients (fits holds) client member
  built := fun routeKey policy built holds =>
    discipline.built routeKey policy (built (settled.published holds))
  found := fun routeKey policy => forall_congr' fun _ => discipline.found routeKey policy
  registers := fun services products service product endpoints endpoint method servicesFit productsFit
      member owned endpointsFit listed named holds =>
    discipline.registers services products service product endpoints endpoint method
      (servicesFit holds) (productsFit holds) member owned (endpointsFit holds) listed named
  publishes := fun services products snapshot servicesFit productsFit only served holds =>
    discipline.publishes services products snapshot (servicesFit holds) (productsFit holds)
      (fun routeKey policy found => only routeKey policy found holds)
      (fun service member product owned =>
        let ⟨endpoints, fits, has⟩ := served service member product owned
        ⟨endpoints, fits holds, has⟩)
  looksUp := fun snapshot publishable routeKey holds =>
    discipline.looksUp snapshot (publishable (settled.published holds)) routeKey

end Discipline

/-- When the rows settled, when a refresh published, and how long a call may take. -/
structure Timeline where
  settledAt : Nat
  publishedAt : Nat
  patience : Nat
  late : settledAt + patience < publishedAt

namespace Timeline

/-- By then stale entries of the store are over. -/
def storeUntil (timeline : Timeline) : Nat := timeline.publishedAt + timeline.patience + oneHour

/-- By then stale entries of memory are over too. -/
def memoryUntil (timeline : Timeline) : Nat := timeline.storeUntil + timeline.patience + oneHour

/-- What had settled before a call that was started at a time. -/
def settled (timeline : Timeline) (started : Nat) : Settled where
  rows := timeline.settledAt < started
  snapshot := timeline.publishedAt < started
  store := timeline.storeUntil ≤ started
  memory := timeline.memoryUntil ≤ started
  published := fun published => by
    have late := timeline.late
    omega
  stored := fun stored => by
    have hour := oneHour_pos
    unfold storeUntil at stored
    omega
  remembered := fun remembered => by
    unfold memoryUntil at remembered
    omega

/-- Before a refresh has published only the rows may have settled. -/
def loading (timeline : Timeline) (started : Nat) : Settled where
  rows := timeline.settledAt < started
  snapshot := False
  store := False
  memory := False
  published := False.elim
  stored := id
  remembered := id

end Timeline

/-- A call is no older than a patience. -/
def Within (patience : Nat) (origin present : Gateway) : Prop := present.now ≤ origin.now + patience

instance (patience : Nat) : DecidableRel (Within patience) :=
  fun origin present => inferInstanceAs (Decidable (present.now ≤ origin.now + patience))

namespace Discipline

variable {discipline : Discipline} {timeline : Timeline}

/-- No entry lasts longer than an hour. -/
def HourAtMost (gateway : Gateway) : Prop :=
  gateway.cache.Fading (fun _ _ => False) (gateway.now + oneHour) (gateway.now + oneHour)

end Discipline

section Requests

variable {platform : Platform} {database : Database} {now : Nat} {context : HttpContext}

end Requests

/-- The moves of a process up to one with which a refresh publishes, that one, and
the moves from then on until a request is started. At first the tiers, as a process
finds or has left them, have nothing that lasts longer than an hour. -/
structure Course where
  platform : Platform
  initial : Gateway
  hourly : Discipline.HourAtMost initial
  history : List (Move Change Actor)
  publisher : Nat
  waiting : List (Move Change Actor)

namespace Course

/-- All the moves before the request. -/
def moves (course : Course) : List (Move Change Actor) :=
  course.history ++ .advances course.publisher :: course.waiting

/-- The calls when the request is started. -/
def requested (course : Course) : Calls :=
  reached course.platform course.initial course.moves

end Course

section Sample

variable {platform : Platform} {database : Database} {now : Nat} {context : HttpContext}

/-- A move that replaces the database. -/
def replacing : Move Change Actor → Bool
  | .changes (.database _) => true
  | _ => false

/-- Time passes. -/
def passing (elapsed : Nat) : Move Change Actor :=
  .changes (.tiers ⟨elapsed, fun _ => true, fun _ => true, fun _ => true, fun _ => true⟩)

end Sample

end ApiGateway.Concurrent
